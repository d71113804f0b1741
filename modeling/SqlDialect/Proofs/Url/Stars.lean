import Mathlib.Data.List.Infix
import Mathlib.Data.List.Lattice
import SqlDialect.Url.Password

/-!
# Stretches hidden behind stars

What all passes over an address have in common, whatever they look for: behind a mark they put four
stars in the place of what comes up to another mark. `Starred` says this of two texts and says
nothing of how the stretches are found.

## Why passes do not go in circles

Two passes might undo each other: the second one could turn what the first one has made of an
address back into that address. They cannot, and it follows from the relation alone. Let `disorder`
count the characters that are not stars, and for every run of stars between them how far it is from
four. Hiding a stretch does not raise this number, and leaves it only if the stretch was four stars
before. The runs have to be counted: `***` has fewer characters than the `****` that takes its
place.

## What is seen of the text

A character that is neither a star nor the mark was in the text, with the same characters in front
of it and behind it, up to hidden stretches (`Starred.exists_of_eq_append`). A word without stars
and marks was in it as a whole (`Starred.infix_map`).

## Main definitions

* `Starred` — a text and what hiding some stretches makes of it
* `Starred.disorder` — what is left to mask

## Main results

* `Starred.disorder_le`, `Starred.eq_of_disorder_le` — hiding leaves less to mask, or it changes
  nothing
* `Starred.exists_of_eq_append`, `Starred.infix_map` — what is seen of the text
-/

namespace SqlDialect

/-- `masked` is `text` with four stars in the place of some stretches behind a `mark`. -/
inductive Starred (mark : Char) (Hidden : Text → Prop) : Text → Text → Prop where
  /-- Nothing is left. -/
  | nil : Starred mark Hidden [] []
  /-- A character is kept. -/
  | keep (c : Char) {text masked : Text} :
      Starred mark Hidden text masked → Starred mark Hidden (c :: text) (c :: masked)
  /-- A stretch behind the mark is hidden. -/
  | hide {hidden text masked : Text} : Hidden hidden → '*' ∉ text.head? →
      Starred mark Hidden text masked →
      Starred mark Hidden (mark :: (hidden ++ text)) (mark :: (stars ++ masked))

namespace Starred

variable {mark : Char} {Hidden Hidden' : Text → Prop} {text masked hidden : Text}

theorem append_left (h : Starred mark Hidden text masked) (front : Text) :
    Starred mark Hidden (front ++ text) (front ++ masked) := by
  induction front with
  | nil => exact h
  | cons c front ih => exact .keep c ih

theorem mono (h : Starred mark Hidden text masked)
    (hmono : ∀ hidden, Hidden hidden → Hidden' hidden) : Starred mark Hidden' text masked := by
  induction h with
  | nil => exact .nil
  | keep c _ ih => exact .keep c ih
  | hide hhidden hend _ ih => exact .hide (hmono _ hhidden) hend ih

/-! ### What is left to mask -/

/-- How far a count of stars is from four. -/
def starsOff (count : Nat) : Nat := count - 4 + (4 - count)

/-- What is left to mask in a text that `count` stars stand in front of: the characters that are not
stars, and for every run of stars between them how far it is from four. -/
def disorder : Nat → Text → Nat
  | count, [] => starsOff count
  | count, c :: rest =>
    if c = '*' then disorder (count + 1) rest else starsOff count + 1 + disorder 0 rest

theorem disorder_stars_append (text : Text) : disorder 0 (stars ++ text) = disorder 4 text := by
  simp [disorder, stars]

theorem disorder_of_head? (h : '*' ∉ text.head?) (count : Nat) :
    disorder count text = starsOff count + disorder 4 text := by
  cases text with
  | nil => simp [disorder, starsOff]
  | cons c rest =>
    have hc : c ≠ '*' := by simpa using h
    simp [disorder, hc, starsOff]
    omega

/-- A hidden stretch does not count less than four stars. -/
theorem disorder_four_le (h : '*' ∉ text.head?) (hidden : Text) (count : Nat) :
    disorder 4 text ≤ disorder count (hidden ++ text) := by
  induction hidden generalizing count with
  | nil =>
    rw [List.nil_append, disorder_of_head? h count]
    exact Nat.le_add_left _ _
  | cons c hidden ih =>
    rw [List.cons_append, disorder]
    split
    · exact ih _
    · exact Nat.le_add_left_of_le (ih 0)

/-- It counts as much only if it is four stars. -/
theorem eq_stars_of_disorder_le (h : '*' ∉ text.head?) {count : Nat}
    (hle : disorder count (hidden ++ text) ≤ disorder 4 text) :
    List.replicate count '*' ++ hidden = stars := by
  induction hidden generalizing count with
  | nil =>
    rw [List.nil_append, disorder_of_head? h count] at hle
    have hfour : count = 4 := by
      simp only [starsOff] at hle
      omega
    subst hfour
    rfl
  | cons c hidden ih =>
    rw [List.cons_append, disorder] at hle
    split at hle
    · next hc =>
      rw [hc, ← ih hle, List.replicate_succ', List.append_assoc]
      rfl
    · have := disorder_four_le h hidden 0
      omega

/-- Hiding a stretch does not leave more to mask. -/
theorem disorder_le (h : Starred mark Hidden text masked) (hmark : mark ≠ '*') (count : Nat) :
    disorder count masked ≤ disorder count text := by
  induction h generalizing count with
  | nil => exact Nat.le_refl _
  | keep c _ ih =>
    rw [disorder, disorder]
    split
    · exact ih _
    · exact Nat.add_le_add_left (ih 0) _
  | @hide hidden text masked _ hend _ ih =>
    rw [disorder, disorder, if_neg hmark, if_neg hmark, disorder_stars_append]
    exact Nat.add_le_add_left ((ih 4).trans (disorder_four_le hend hidden 0)) _

/-- If it leaves as much, nothing has changed. -/
theorem eq_of_disorder_le (h : Starred mark Hidden text masked) (hmark : mark ≠ '*') {count : Nat}
    (hle : disorder count text ≤ disorder count masked) : masked = text := by
  induction h generalizing count with
  | nil => rfl
  | keep c _ ih =>
    rw [disorder, disorder] at hle
    split at hle
    · rw [ih hle]
    · rw [ih (Nat.le_of_add_le_add_left hle)]
  | @hide hidden text masked _ hend hstarred ih =>
    rw [disorder, disorder, if_neg hmark, if_neg hmark, disorder_stars_append] at hle
    have hbehind := Nat.le_of_add_le_add_left hle
    have hmasked := hstarred.disorder_le hmark 4
    have hhidden := eq_stars_of_disorder_le hend (hbehind.trans hmasked)
    rw [List.replicate_zero, List.nil_append] at hhidden
    rw [hhidden, ih ((disorder_four_le hend hidden 0).trans hbehind)]

/-! ### What is kept -/

/-- Without a mark nothing is hidden. -/
theorem eq_of_unmarked (h : Starred mark Hidden text masked) (hmark : mark ∉ text) :
    masked = text := by
  induction h with
  | nil => rfl
  | keep c _ ih => rw [ih (List.not_mem_of_not_mem_cons hmark)]
  | hide _ _ _ _ => simp at hmark

/-- What stands behind four stars up to a character that is no star. -/
theorem exists_of_stars_append_eq {c : Char} (hstar : c ≠ '*') {front tail : Text}
    (h : stars ++ masked = front ++ c :: tail) :
    ∃ front', front = stars ++ front' ∧ masked = front' ++ c :: tail := by
  rcases List.append_eq_append_iff.mp h with ⟨front', hfront, hrest⟩ | ⟨left, hstars, hrest⟩
  · exact ⟨front', hfront, hrest⟩
  · cases left with
    | nil => exact ⟨[], by simpa using hstars.symm, by simpa using hrest.symm⟩
    | cons d left =>
      have hmem : c ∈ stars := by
        rw [hstars, (List.cons.inj hrest).1]
        simp
      simp [stars, hstar] at hmem

/-- A character that is neither a star nor the mark has been kept. -/
theorem exists_of_eq_append {c : Char} (hstar : c ≠ '*') (hmark : c ≠ mark) {front tail : Text}
    (h : Starred mark Hidden text masked) (hmasked : masked = front ++ c :: tail) :
    ∃ front' tail', text = front' ++ c :: tail' ∧ Starred mark Hidden front' front ∧
      Starred mark Hidden tail' tail := by
  induction h generalizing front with
  | nil => simp at hmasked
  | keep d hrest ih =>
    cases front with
    | nil =>
      obtain ⟨rfl, rfl⟩ := List.cons.inj hmasked
      exact ⟨[], _, rfl, .nil, hrest⟩
    | cons d' front =>
      obtain ⟨rfl, hbehind⟩ := List.cons.inj hmasked
      obtain ⟨front', tail', rfl, hfront, htail⟩ := ih hbehind
      exact ⟨d :: front', tail', rfl, .keep d hfront, htail⟩
  | @hide hidden text masked hhidden hend _ ih =>
    cases front with
    | nil => exact absurd (List.cons.inj hmasked).1.symm hmark
    | cons d front =>
      obtain ⟨rfl, hbehind⟩ := List.cons.inj hmasked
      obtain ⟨front', rfl, hrest⟩ := exists_of_stars_append_eq hstar hbehind
      obtain ⟨before, tail', rfl, hfront, htail⟩ := ih hrest
      refine ⟨mark :: (hidden ++ before), tail', by simp, .hide hhidden ?_ hfront, htail⟩
      cases before with
      | nil => simp
      | cons d before => exact hend

/-- Characters that are not hidden and not left come from nowhere. -/
theorem disjoint {marks : List Char} (hhidden : ∀ hidden, Hidden hidden → hidden.Disjoint marks)
    (h : Starred mark Hidden text masked) (hmasked : masked.Disjoint marks) :
    text.Disjoint marks := by
  induction h with
  | nil => exact hmasked
  | keep c _ ih =>
    rw [List.disjoint_cons_left] at hmasked ⊢
    exact ⟨hmasked.1, ih hmasked.2⟩
  | hide hown _ _ ih =>
    rw [List.disjoint_cons_left, List.disjoint_append_left] at hmasked ⊢
    exact ⟨hmasked.1, hhidden _ hown, ih hmasked.2.2⟩

/-- A word without the mark that comes first has been kept. -/
theorem starts_map {word : Text} {f : Char → Char} (hmark : f mark ∉ word)
    (h : Starred mark Hidden text masked) (hword : word <+: masked.map f) :
    word <+: text.map f := by
  induction h generalizing word with
  | nil => exact hword
  | keep c _ ih =>
    rw [List.map_cons, List.prefix_cons_iff] at hword ⊢
    rcases hword with rfl | ⟨word, rfl, hword⟩
    · exact .inl rfl
    · exact .inr ⟨word, rfl, ih (List.not_mem_of_not_mem_cons hmark) hword⟩
  | hide _ _ _ _ =>
    rw [List.map_cons, List.prefix_cons_iff] at hword
    rcases hword with rfl | ⟨word, rfl, -⟩
    · exact List.nil_prefix
    · simp at hmark

theorem infix_of_infix_cons {word rest : Text} {c : Char} (hc : c ∉ word)
    (h : word <:+: c :: rest) : word <:+: rest := by
  rcases List.infix_cons_iff.mp h with hstart | hrest
  · rcases List.prefix_cons_iff.mp hstart with rfl | ⟨word, rfl, -⟩
    · exact List.nil_infix
    · simp at hc
  · exact hrest

/-- A word without the mark and without stars has been kept, wherever it stands. -/
theorem infix_map {word : Text} {f : Char → Char} (hstar : f '*' ∉ word) (hmark : f mark ∉ word)
    (h : Starred mark Hidden text masked) (hword : word <:+: masked.map f) :
    word <:+: text.map f := by
  induction h with
  | nil => exact hword
  | keep c hrest ih =>
    rcases List.infix_cons_iff.mp hword with hstart | hinside
    · exact ((hrest.keep c).starts_map hmark hstart).isInfix
    · exact (ih hinside).trans (List.suffix_cons _ _).isInfix
  | @hide hidden text masked _ _ _ ih =>
    have hstars : word <:+: (stars ++ masked).map f := infix_of_infix_cons hmark hword
    have hrest : word <:+: masked.map f :=
      infix_of_infix_cons hstar (infix_of_infix_cons hstar
        (infix_of_infix_cons hstar (infix_of_infix_cons hstar hstars)))
    have hsuffix : text <:+ mark :: (hidden ++ text) := ⟨mark :: hidden, rfl⟩
    exact (ih hrest).trans (hsuffix.isInfix.map f)

end Starred

end SqlDialect
