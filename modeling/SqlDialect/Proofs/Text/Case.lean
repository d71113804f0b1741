import Mathlib.Data.Nat.ModEq
import SqlDialect.Identifier.Policy

/-!
# Changing the case of a text

A text in upper case is left alone when it is put in upper case again, and one in lower case when it
is put in lower case again. Changing the case touches neither the characters before the letters,
such as dots and quotes, nor whether a text is empty.

## Why this is not read off character by character

A character may become several, so a text grows, and what a capital sigma becomes depends on its
neighbours. But whatever a character becomes stays as it is from then on, wherever it stands
(`Settled.mapCase_eq_self_of_mem`): the final small sigma and the ordinary one are both in lower
case. So a second pass has nothing to do, and how the first one came to its result does not matter.

## The tables

That nothing is mapped twice is a property of the tables. They are compared run by run and not code
point by code point: the code points that a run makes are again at a fixed step, and two such runs
have nothing in common if one ends before the other starts, or if their steps keep them apart.

## Main definitions

* `CaseRun.Has`, `CaseRun.misses` — the code points of a run, and two runs without a common one
* `Settled` — tables under which nothing is mapped twice and only letters are mapped

## Main results

* `settled_upper`, `settled_lower` — the tables of the Unicode standard are such
* `upper_upper`, `lower_lower` — changing the case twice is changing it once
* `CaseFold.apply_apply`, `CaseFold.count_apply` — the same for the case of a database
-/

namespace SqlDialect

namespace Text

variable {code : Nat} {c d mark : Char} {run a b : CaseRun} {runs : List CaseRun}
  {expansions : List (Nat × List Nat)}

/-! ### Runs of code points -/

namespace CaseRun

/-- `code` is one of the code points of a run. -/
def Has (run : CaseRun) (code : Nat) : Prop := run.first ≤ code ∧ run.covers code = true

/-- What a run makes of a code point. -/
def move (run : CaseRun) (code : Nat) : Nat := (code + run.shift).toNat

/-- The code points that a run makes. -/
def image (run : CaseRun) : CaseRun := ⟨run.move run.first, run.move run.last, run.step, 0⟩

/-- One code point. -/
def single (code : Nat) : CaseRun := ⟨code, code, 1, 0⟩

/-- Whether two runs can be seen to have no code point in common: one ends before the other starts,
or the first one stays at a distance from the steps of the second. -/
def misses (a b : CaseRun) : Bool :=
  !(Nat.ble a.first b.last && Nat.ble b.first a.last) ||
    ((Nat.beq (a.step % b.step) 0 || Nat.beq a.first a.last) &&
      !Nat.beq (a.first % b.step) (b.first % b.step))

theorem has_iff : run.Has code ↔
    run.first ≤ code ∧ code ≤ run.last ∧ (code - run.first) % run.step = 0 := by
  simp [Has, covers]

theorem has_single (code : Nat) : (single code).Has code := by
  simp [has_iff, single]

/-- A run makes its own image, if it does not go below zero. -/
theorem Has.image (h : run.Has code) (hfirst : 0 < run.move run.first) :
    run.image.Has (run.move code) := by
  obtain ⟨hle, hlast, hstep⟩ := has_iff.mp h
  have hdistance : run.move code - run.move run.first = code - run.first := by
    simp only [move] at hfirst ⊢
    omega
  refine has_iff.mpr ⟨?_, ?_, hdistance ▸ hstep⟩
  · simp only [CaseRun.image, move]
    omega
  · simp only [CaseRun.image, move]
    omega

/-- A code point of a run leaves the same rest as the first one. -/
theorem Has.modEq (h : run.Has code) {step : Nat}
    (hstep : run.step % step = 0 ∨ run.first = run.last) : code ≡ run.first [MOD step] := by
  obtain ⟨hle, hlast, hrest⟩ := has_iff.mp h
  rcases hstep with hstep | hone
  · have hdvd : step ∣ code - run.first :=
      (Nat.dvd_of_mod_eq_zero hstep).trans (Nat.dvd_of_mod_eq_zero hrest)
    exact ((Nat.modEq_iff_dvd' hle).mpr hdvd).symm
  · obtain rfl : code = run.first := by omega
    rfl

theorem not_has_of_misses (hmisses : a.misses b = true) (h : a.Has code) : ¬ b.Has code := by
  intro h'
  obtain ⟨hfirst, hlast, -⟩ := has_iff.mp h
  obtain ⟨hfirst', hlast', -⟩ := has_iff.mp h'
  have hmeet : (Nat.ble a.first b.last && Nat.ble b.first a.last) = true := by
    simp only [Bool.and_eq_true, Nat.ble_eq]
    omega
  simp only [misses, hmeet, Bool.not_true, Bool.false_or, Bool.and_eq_true, Bool.or_eq_true,
    Nat.beq_eq, Bool.not_eq_true'] at hmisses
  obtain ⟨hstep, hrests⟩ := hmisses
  have hsame : a.first ≡ b.first [MOD b.step] :=
    (h.modEq hstep).symm.trans (h'.modEq (.inl (Nat.mod_self _)))
  rw [hsame] at hrests
  simp at hrests

end CaseRun

/-! ### Looking a code point up -/

theorem moveByRuns_eq_self (h : ∀ run ∈ runs, ¬ run.Has code) : moveByRuns runs code = code := by
  induction runs with
  | nil => rfl
  | cons run runs ih =>
    obtain ⟨hrun, hruns⟩ := List.forall_mem_cons.mp h
    rw [moveByRuns, ih hruns]
    split
    · rfl
    · next hfirst =>
      rw [if_neg fun hcovers => hrun ⟨Nat.le_of_not_lt hfirst, hcovers⟩]

theorem moveByRuns_eq_or (runs : List CaseRun) (code : Nat) : moveByRuns runs code = code ∨
    ∃ run ∈ runs, run.Has code ∧ moveByRuns runs code = run.move code := by
  induction runs with
  | nil => exact .inl rfl
  | cons run runs ih =>
    rw [moveByRuns]
    split
    · exact .inl rfl
    · next hfirst =>
      split
      · next hcovers => exact .inr ⟨run, by simp, ⟨Nat.le_of_not_lt hfirst, hcovers⟩, rfl⟩
      · rcases ih with hself | ⟨other, hother, hmoved⟩
        · exact .inl hself
        · exact .inr ⟨other, List.mem_cons_of_mem run hother, hmoved⟩

theorem expansion?_eq_none (h : ∀ e ∈ expansions, e.1 ≠ code) : expansion? expansions code = none := by
  induction expansions with
  | nil => rfl
  | cons e expansions ih =>
    obtain ⟨hlisted, hexpansions⟩ := List.forall_mem_cons.mp h
    rw [expansion?, ih hexpansions, if_neg (Ne.symm hlisted), ite_self]

theorem mem_of_expansion? {codes : List Nat} (h : expansion? expansions code = some codes) :
    (code, codes) ∈ expansions := by
  induction expansions with
  | nil => exact absurd h (Option.some_ne_none codes).symm
  | cons e expansions ih =>
    rw [expansion?] at h
    split at h
    · exact absurd h (Option.some_ne_none codes).symm
    · split at h
      · next hlisted =>
        obtain rfl := Option.some.inj h
        exact List.mem_cons.mpr (.inl (by rw [hlisted]))
      · exact List.mem_cons_of_mem e (ih h)

/-! ### Tables that settle -/

/-- The code points that are mapped. -/
def sources (expansions : List (Nat × List Nat)) (runs : List CaseRun) : List CaseRun :=
  runs ++ expansions.map fun e => .single e.1

/-- The code points that something is mapped to. -/
def images (expansions : List (Nat × List Nat)) (runs : List CaseRun) : List CaseRun :=
  runs.map .image ++ expansions.flatMap fun e => e.2.map .single

/-- Tables under which nothing is mapped twice and the characters before the letters play no part. -/
structure Settled (expansions : List (Nat × List Nat)) (runs : List CaseRun) : Prop where
  /-- What something is mapped to is not mapped. -/
  apart : ((images expansions runs).all fun a => (sources expansions runs).all a.misses) = true
  /-- What is mapped is not before the letters. -/
  sources_letters : ∀ a ∈ sources expansions runs, 'A'.toNat ≤ a.first
  /-- Neither is what it is mapped to. -/
  images_letters : ∀ a ∈ images expansions runs, 'A'.toNat ≤ a.first
  /-- What something is mapped to is a character. -/
  scalar : ∀ a ∈ images expansions runs,
    a.last < 0xD800 ∨ 0xDFFF < a.first ∧ a.last < 0x110000
  /-- Nothing is mapped to nothing. -/
  ne_nil : ∀ e ∈ expansions, e.2 ≠ []

/-! ### Going through the tables

There are many pairs of an image and a source, and most of them are far apart. So the sources are
taken in blocks, and for a block only the images are looked at that come near it. -/

/-- A list in `count` blocks of `size` and one with the rest. -/
def blocks {α : Type _} (size : Nat) : (count : Nat) → List α → List (List α)
  | 0, l => [l]
  | count + 1, l => l.take size :: blocks size count (l.drop size)

theorem flatten_blocks {α : Type _} (size count : Nat) (l : List α) :
    (blocks size count l).flatten = l := by
  induction count generalizing l with
  | zero => simp [blocks]
  | succ count ih => rw [blocks, List.flatten_cons, ih, List.take_append_drop]

/-- A number that no run of a block starts before. -/
def lowest (block : List CaseRun) : Nat := block.foldr (fun run n => min run.first n) 0x110000

/-- A number that no run of a block ends behind. -/
def highest (block : List CaseRun) : Nat := block.foldr (fun run n => max run.last n) 0

theorem bounds_of_mem {block : List CaseRun} (h : run ∈ block) :
    lowest block ≤ run.first ∧ run.last ≤ highest block := by
  induction block with
  | nil => simp at h
  | cons other block ih =>
    rcases List.mem_cons.mp h with rfl | h
    · exact ⟨Nat.min_le_left _ _, Nat.le_max_left _ _⟩
    · obtain ⟨hlow, hhigh⟩ := ih h
      exact ⟨Nat.le_trans (Nat.min_le_right _ _) hlow, Nat.le_trans hhigh (Nat.le_max_right _ _)⟩

/-- Whether a run comes near a block. -/
def CaseRun.nears (run : CaseRun) (block : List CaseRun) : Bool :=
  Nat.ble run.first (highest block) && Nat.ble (lowest block) run.last

/-- A run that does not come near a block misses all of it. -/
theorem CaseRun.misses_of_not_nears {block : List CaseRun} (h : ¬ a.nears block = true)
    (hb : b ∈ block) : a.misses b = true := by
  obtain ⟨hlow, hhigh⟩ := bounds_of_mem hb
  have hapart : (Nat.ble a.first b.last && Nat.ble b.first a.last) = false := by
    refine Bool.eq_false_iff.mpr fun hmeet => h ?_
    simp only [nears, Bool.and_eq_true, Nat.ble_eq] at hmeet ⊢
    omega
  rw [misses, hapart]
  rfl

/-- What is known block by block is known of all pairs. -/
theorem apart_of_blocks (size count : Nat) {others : List CaseRun}
    (h : ((blocks size count others).all fun block =>
      (runs.filter (·.nears block)).all fun a => block.all a.misses) = true) :
    (runs.all fun a => others.all a.misses) = true := by
  refine List.all_eq_true.mpr fun a ha => List.all_eq_true.mpr fun b hb => ?_
  rw [← flatten_blocks size count others] at hb
  obtain ⟨block, hblock, hb⟩ := List.mem_flatten.mp hb
  by_cases hnear : a.nears block = true
  · have hall := List.all_eq_true.mp h block hblock
    exact List.all_eq_true.mp (List.all_eq_true.mp hall a (List.mem_filter.mpr ⟨ha, hnear⟩)) b hb
  · exact CaseRun.misses_of_not_nears hnear hb

/-- The tables for upper case. -/
theorem settled_upper : Settled upperExpansions upperRuns where
  apart := apart_of_blocks 24 13 (by decide +kernel)
  sources_letters := by decide +kernel
  images_letters := by decide +kernel
  scalar := by decide +kernel
  ne_nil := by decide +kernel

/-- The tables for lower case. -/
theorem settled_lower : Settled lowerExpansions lowerRuns where
  apart := apart_of_blocks 24 8 (by decide +kernel)
  sources_letters := by decide +kernel
  images_letters := by decide +kernel
  scalar := by decide +kernel
  ne_nil := by decide +kernel

/-- A character that is not mapped stays. -/
theorem mapCase_eq_self (h : ∀ b ∈ sources expansions runs, ¬ b.Has c.toNat) :
    mapCase expansions runs c = [c] := by
  have hruns : ∀ run ∈ runs, ¬ run.Has c.toNat := fun run hrun =>
    h run (List.mem_append_left _ hrun)
  have hexpansions : ∀ e ∈ expansions, e.1 ≠ c.toNat := by
    intro e he hlisted
    refine h (.single e.1) (List.mem_append_right _ (List.mem_map_of_mem he)) ?_
    exact hlisted ▸ CaseRun.has_single e.1
  rw [mapCase, expansion?_eq_none hexpansions, moveByRuns_eq_self hruns, Char.ofNat_toNat]

/-- A character stays, or it is a source and becomes images. -/
theorem mapCase_eq_or (hsettled : Settled expansions runs) (c : Char) :
    mapCase expansions runs c = [c] ∨
      (∃ b ∈ sources expansions runs, b.Has c.toNat) ∧
        ∃ codes, codes ≠ [] ∧ mapCase expansions runs c = codes.map Char.ofNat ∧
          ∀ code ∈ codes, ∃ a ∈ images expansions runs, a.Has code := by
  cases hlookup : expansion? expansions c.toNat with
  | some codes =>
    have hmem := mem_of_expansion? hlookup
    refine .inr ⟨⟨.single c.toNat, ?_, CaseRun.has_single _⟩, codes, hsettled.ne_nil _ hmem, ?_, ?_⟩
    · exact List.mem_append_right _ (List.mem_map_of_mem (f := fun e => CaseRun.single e.1) hmem)
    · rw [mapCase, hlookup]
    · intro code hcode
      refine ⟨.single code, List.mem_append_right _ ?_, CaseRun.has_single code⟩
      exact List.mem_flatMap.mpr ⟨_, hmem, List.mem_map_of_mem hcode⟩
  | none =>
    rcases moveByRuns_eq_or runs c.toNat with hself | ⟨run, hrun, hhas, hmoved⟩
    · left
      rw [mapCase, hlookup, hself, Char.ofNat_toNat]
    · have himage : run.image ∈ images expansions runs :=
        List.mem_append_left _ (List.mem_map_of_mem hrun)
      have hpositive : 0 < run.move run.first :=
        Nat.lt_of_lt_of_le (by decide) (hsettled.images_letters _ himage)
      refine .inr ⟨⟨run, List.mem_append_left _ hrun, hhas⟩, [run.move c.toNat],
        List.cons_ne_nil _ _, ?_, ?_⟩
      · rw [mapCase, hlookup, hmoved]
        rfl
      · rintro code hcode
        obtain rfl := List.mem_singleton.mp hcode
        exact ⟨run.image, himage, hhas.image hpositive⟩

/-- The character with the code point of an image. -/
theorem Settled.toNat_ofNat (hsettled : Settled expansions runs) (ha : a ∈ images expansions runs)
    (hhas : a.Has code) : (Char.ofNat code).toNat = code := by
  obtain ⟨hfirst, hlast, -⟩ := CaseRun.has_iff.mp hhas
  have hscalar := hsettled.scalar a ha
  have hvalid : code.isValidChar := by
    rcases hscalar with hlow | ⟨hhigh, hbound⟩
    · exact .inl (by omega)
    · exact .inr ⟨by omega, by omega⟩
  rw [Char.ofNat, dif_pos hvalid]
  rfl

/-- **What a character becomes stays as it is from then on.** -/
theorem Settled.mapCase_eq_self_of_mem (hsettled : Settled expansions runs)
    (h : d ∈ mapCase expansions runs c) : mapCase expansions runs d = [d] := by
  rcases mapCase_eq_or hsettled c with hself | ⟨-, codes, -, hcodes, himages⟩
  · obtain rfl := List.mem_singleton.mp (hself ▸ h)
    exact hself
  · rw [hcodes] at h
    obtain ⟨code, hcode, rfl⟩ := List.mem_map.mp h
    obtain ⟨a, ha, hhas⟩ := himages code hcode
    refine mapCase_eq_self fun b hb => ?_
    rw [hsettled.toNat_ofNat ha hhas]
    have hmisses := List.all_eq_true.mp (List.all_eq_true.mp hsettled.apart a ha) b hb
    exact CaseRun.not_has_of_misses hmisses hhas

theorem Settled.mapCase_ne_nil (hsettled : Settled expansions runs) (c : Char) :
    mapCase expansions runs c ≠ [] := by
  rcases mapCase_eq_or hsettled c with hself | ⟨-, codes, hne, hcodes, -⟩
  · simp [hself]
  · simpa [hcodes] using hne

/-- Among the letters and behind them there is no character from before them. -/
theorem count_eq_zero_of_letters {text : Text} (hmark : mark < 'A')
    (h : ∀ d ∈ text, 'A'.toNat ≤ d.toNat) : text.count mark = 0 := by
  refine List.count_eq_zero_of_not_mem fun hmem => ?_
  exact Nat.lt_irrefl _ (Nat.lt_of_lt_of_le hmark (h mark hmem))

/-- A character before the letters neither goes nor comes. -/
theorem Settled.count_mapCase (hsettled : Settled expansions runs) (hmark : mark < 'A') (c : Char) :
    (mapCase expansions runs c).count mark = [c].count mark := by
  rcases mapCase_eq_or hsettled c with hself | ⟨⟨b, hb, hhas⟩, codes, -, hcodes, himages⟩
  · rw [hself]
  · have hsource : ∀ d ∈ [c], 'A'.toNat ≤ d.toNat := by
      intro d hd
      obtain rfl := List.mem_singleton.mp hd
      exact (hsettled.sources_letters b hb).trans (CaseRun.has_iff.mp hhas).1
    have himage : ∀ d ∈ mapCase expansions runs c, 'A'.toNat ≤ d.toNat := by
      rw [hcodes]
      intro d hd
      obtain ⟨code, hcode, rfl⟩ := List.mem_map.mp hd
      obtain ⟨a, ha, hhas⟩ := himages code hcode
      rw [hsettled.toNat_ofNat ha hhas]
      exact (hsettled.images_letters a ha).trans (CaseRun.has_iff.mp hhas).1
    rw [count_eq_zero_of_letters hmark himage, count_eq_zero_of_letters hmark hsource]

/-! ### Upper case -/

theorem upper_eq_self {text : Text} (h : ∀ c ∈ text, upperChar c = [c]) : upper text = text := by
  induction text with
  | nil => rfl
  | cons c text ih =>
    obtain ⟨hc, htext⟩ := List.forall_mem_cons.mp h
    rw [upper, List.flatMap_cons, hc]
    exact congrArg (c :: ·) (ih htext)

/-- **A text in upper case stays as it is in upper case.** -/
@[simp] theorem upper_upper (text : Text) : upper (upper text) = upper text := by
  refine upper_eq_self fun d hd => ?_
  obtain ⟨c, -, hc⟩ := List.mem_flatMap.mp hd
  exact Settled.mapCase_eq_self_of_mem settled_upper hc

theorem count_upper (hmark : mark < 'A') (text : Text) :
    (upper text).count mark = text.count mark := by
  induction text with
  | nil => rfl
  | cons c text ih =>
    have hchar : (upperChar c).count mark = [c].count mark :=
      Settled.count_mapCase settled_upper hmark c
    show (upperChar c ++ upper text).count mark = ([c] ++ text).count mark
    rw [List.count_append, List.count_append, hchar, ih]

@[simp] theorem upper_eq_nil_iff {text : Text} : upper text = [] ↔ text = [] := by
  cases text with
  | nil => simp [upper]
  | cons c text => simp [upper, upperChar, Settled.mapCase_ne_nil settled_upper]

/-! ### Lower case -/

/-- What becomes of one character, with what came before it and what comes behind it. -/
def lowerAt (passed rest : Text) (c : Char) : Text :=
  if c = capitalSigma then
    if meetsCased passed && !meetsCased rest then ['ς'] else ['σ']
  else
    lowerChar c

theorem lowerAfter_cons (passed text : Text) (c : Char) :
    lowerAfter passed (c :: text) = lowerAt passed text c ++ lowerAfter (c :: passed) text := rfl

/-- A capital sigma becomes one of two letters, any other character what it always becomes. -/
theorem lowerAt_eq_or (passed rest : Text) (c : Char) :
    lowerAt passed rest c = lowerChar c ∨
      c = capitalSigma ∧ (lowerAt passed rest c = ['ς'] ∨ lowerAt passed rest c = ['σ']) := by
  by_cases hsigma : c = capitalSigma
  · refine .inr ⟨hsigma, ?_⟩
    rw [lowerAt, if_pos hsigma]
    split
    · exact .inl rfl
    · exact .inr rfl
  · left
    rw [lowerAt, if_neg hsigma]

theorem lowerAt_eq_self (passed rest : Text) (h : lowerChar c = [c]) :
    lowerAt passed rest c = [c] := by
  have hsigma : c ≠ capitalSigma := by
    rintro rfl
    exact absurd h (by decide)
  rw [lowerAt, if_neg hsigma, h]

/-- Small letters stay: both forms of the small sigma are among them. -/
theorem lowerChar_eq_self_of_mem_lowerAt {passed rest : Text} (h : d ∈ lowerAt passed rest c) :
    lowerChar d = [d] := by
  rcases lowerAt_eq_or passed rest c with hchar | ⟨-, hfinal | hordinary⟩
  · exact Settled.mapCase_eq_self_of_mem settled_lower (hchar ▸ h)
  · obtain rfl := List.mem_singleton.mp (hfinal ▸ h)
    decide
  · obtain rfl := List.mem_singleton.mp (hordinary ▸ h)
    decide

theorem lowerAfter_eq_self (passed : Text) {text : Text} (h : ∀ c ∈ text, lowerChar c = [c]) :
    lowerAfter passed text = text := by
  induction text generalizing passed with
  | nil => rfl
  | cons c text ih =>
    obtain ⟨hc, htext⟩ := List.forall_mem_cons.mp h
    rw [lowerAfter_cons, lowerAt_eq_self passed text hc, ih (c :: passed) htext]
    rfl

theorem lowerChar_eq_self_of_mem {passed text : Text} (h : d ∈ lowerAfter passed text) :
    lowerChar d = [d] := by
  induction text generalizing passed with
  | nil => simp [lowerAfter] at h
  | cons c text ih =>
    rw [lowerAfter_cons, List.mem_append] at h
    rcases h with hhere | hlater
    · exact lowerChar_eq_self_of_mem_lowerAt hhere
    · exact ih hlater

/-- **A text in lower case stays as it is in lower case.** -/
@[simp] theorem lower_lower (text : Text) : lower (lower text) = lower text :=
  lowerAfter_eq_self [] fun _ hd => lowerChar_eq_self_of_mem hd

theorem count_lowerAfter (hmark : mark < 'A') (passed text : Text) :
    (lowerAfter passed text).count mark = text.count mark := by
  induction text generalizing passed with
  | nil => rfl
  | cons c text ih =>
    have hsigma : [capitalSigma].count mark = 0 :=
      count_eq_zero_of_letters hmark (List.forall_mem_singleton.mpr (by decide))
    have hchar : (lowerAt passed text c).count mark = [c].count mark := by
      rcases lowerAt_eq_or passed text c with hchar | ⟨rfl, hfinal | hordinary⟩
      · rw [hchar]
        exact Settled.count_mapCase settled_lower hmark c
      · rw [hfinal, hsigma]
        exact count_eq_zero_of_letters hmark (List.forall_mem_singleton.mpr (by decide))
      · rw [hordinary, hsigma]
        exact count_eq_zero_of_letters hmark (List.forall_mem_singleton.mpr (by decide))
    show (lowerAt passed text c ++ lowerAfter (c :: passed) text).count mark
      = ([c] ++ text).count mark
    rw [List.count_append, List.count_append, hchar, ih]

theorem count_lower (hmark : mark < 'A') (text : Text) :
    (lower text).count mark = text.count mark := count_lowerAfter hmark [] text

@[simp] theorem lower_eq_nil_iff {text : Text} : lower text = [] ↔ text = [] := by
  cases text with
  | nil => simp [lower, lowerAfter]
  | cons c text =>
    have hne : lowerAt [] text c ≠ [] := by
      rcases lowerAt_eq_or [] text c with hchar | ⟨-, hfinal | hordinary⟩
      · rw [hchar]
        exact Settled.mapCase_ne_nil settled_lower c
      · simp [hfinal]
      · simp [hordinary]
    simp [lower, lowerAfter_cons, hne]

end Text

/-! ### The case of a database -/

namespace CaseFold

variable {fold : CaseFold} {name : Text}

/-- **Folding twice is folding once.** -/
@[simp] theorem apply_apply (fold : CaseFold) (name : Text) :
    fold.apply (fold.apply name) = fold.apply name := by
  cases fold with
  | upper => exact Text.upper_upper name
  | lower => exact Text.lower_lower name
  | preserve => rfl

/-- Folding leaves the characters before the letters. -/
theorem count_apply {mark : Char} (hmark : mark < 'A') (fold : CaseFold) (name : Text) :
    (fold.apply name).count mark = name.count mark := by
  cases fold with
  | upper => exact Text.count_upper hmark name
  | lower => exact Text.count_lower hmark name
  | preserve => rfl

theorem mem_apply_iff {mark : Char} (hmark : mark < 'A') : mark ∈ fold.apply name ↔ mark ∈ name := by
  rw [← List.count_pos_iff, count_apply hmark, List.count_pos_iff]

/-- Folding does not make a name empty. -/
@[simp] theorem apply_eq_nil_iff : fold.apply name = [] ↔ name = [] := by
  cases fold with
  | upper => exact Text.upper_eq_nil_iff
  | lower => exact Text.lower_eq_nil_iff
  | preserve => exact Iff.rfl

end CaseFold

end SqlDialect
