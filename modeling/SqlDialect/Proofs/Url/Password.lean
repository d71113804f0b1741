import Mathlib.Data.List.Lattice
import Mathlib.Data.List.TakeWhile
import SqlDialect.Proofs.Url.Replacement
import SqlDialect.Url.Password

/-!
# Passwords in parameters

A masked address says nothing about the value of a parameter whose key names a password: two
addresses that differ in that value only are masked alike, so not even its length is seen. Whatever
stands in front may open keys and values of its own. A question mark both opens a parameter and may
stand inside one, so the pass reaches the value in one of three places, and in each of them it
leaves the value out (`applyFrom_parameter`).

## The pattern

From the front of an address the pass carries out a replacement. The pattern is
`([?&;][^=&;]*password[^=&;]*=)[^&;]*`, in whatever case, and four stars are put behind what is in
parentheses. What a match ends with is as long as can be, so an ampersand or a semicolon follows, or
nothing does.

## Masked addresses

An address is `Masked` if every password in it reads as four stars. This says nothing about a pass
over the address, and it looks at all parameters, also at those that overlap. It is what one pass
establishes, and what another pass leaves alone.

## Main definitions

* `PasswordMask.SecretKey` — the keys of passwords
* `PasswordMask.Parameter` — the pattern
* `PasswordMask.Shows`, `PasswordMask.Masked` — the passwords that can be read off an address

## Main results

* `PasswordMask.apply_eq_iff` — the pass replaces all matches of the pattern
* `PasswordMask.apply_secret_eq` — the value of a password leaves no trace
* `PasswordMask.masked_apply`, `PasswordMask.apply_eq_self` — masked addresses
-/

namespace SqlDialect

namespace PasswordMask

variable {c : Char} {key value rest text : Text} {place : Place}

/-! ### Parameters -/

/-- A key that names a password: it is not broken by a mark, and the word is in it, in whatever
case. -/
structure SecretKey (key : Text) : Prop where
  /-- No character of it ends a key. -/
  unbroken : key.Disjoint ['=', '&', ';']
  /-- The word is in it. -/
  named : ("password" : Text) <:+: key.map foldLetter

/-- A text that follows the value of a parameter: it is empty or goes on with another one. -/
def Ended (rest : Text) : Prop := ∀ c ∈ rest.head?, c ∈ ['&', ';']

theorem opens_iff : opens c = true ↔ c ∈ ['?', '&', ';'] := by
  simp [opens, or_assoc]

theorem closes_iff : closes c = true ↔ c ∈ ['&', ';'] := by
  simp [closes]

theorem closes_of_mem_value (h : value.Disjoint ['&', ';']) : ∀ c ∈ value, (!closes c) = true := by
  intro c hc
  have hopen : ¬ closes c = true := fun hclose => h hc (closes_iff.mp hclose)
  simpa using hopen

/-! ### The key ahead -/

/-- Whether a character goes on with a key. -/
def inKey (c : Char) : Bool := c != '=' && !closes c

theorem inKey_iff : inKey c = true ↔ c ∉ ['=', '&', ';'] := by
  simp [inKey, closes]

theorem secretAhead_eq (text : Text) :
    secretAhead text = (namesPassword (text.takeWhile inKey)
      && (text.dropWhile inKey).head? == some '=') := rfl

theorem namesPassword_iff :
    namesPassword key = true ↔ ("password" : Text) <:+: key.map foldLetter :=
  Text.occursIn_iff

/-- What a text starts with when a password is ahead. -/
theorem secretAhead_iff :
    secretAhead text = true ↔ ∃ key rest, SecretKey key ∧ text = key ++ '=' :: rest := by
  rw [secretAhead_eq, Bool.and_eq_true, namesPassword_iff, beq_iff_eq]
  constructor
  · rintro ⟨hnamed, hequals⟩
    obtain ⟨rest, hrest⟩ := List.head?_eq_some_iff.mp hequals
    refine ⟨text.takeWhile inKey, rest, ⟨?_, hnamed⟩, ?_⟩
    · intro c hc
      exact inKey_iff.mp (List.mem_takeWhile_imp hc)
    · rw [← hrest, List.takeWhile_append_dropWhile]
  · rintro ⟨key, rest, hkey, rfl⟩
    have hinside : ∀ c ∈ key, inKey c = true := fun c hc => inKey_iff.mpr (hkey.unbroken hc)
    rw [List.takeWhile_append_of_pos hinside, List.dropWhile_append_of_pos hinside]
    exact ⟨by simpa [inKey] using hkey.named, by simp [inKey]⟩

theorem head?_dropWhile_inKey_append (front rest : Text) :
    ((front ++ '=' :: rest).dropWhile inKey).head?
      = ((front ++ ['=']).dropWhile inKey).head? := by
  induction front with
  | nil => rfl
  | cons c front ih =>
    simp only [List.cons_append, List.dropWhile_cons]
    split
    · exact ih
    · rfl

/-- The look ahead ends with the key: it does not see what comes behind an equals sign. -/
theorem secretAhead_append (front rest rest' : Text) :
    secretAhead (front ++ '=' :: rest) = secretAhead (front ++ '=' :: rest') := by
  rw [secretAhead_eq, secretAhead_eq, Text.takeWhile_append_cons rfl,
    Text.takeWhile_append_cons rfl, head?_dropWhile_inKey_append,
    head?_dropWhile_inKey_append front rest']

/-! ### The pass over one parameter -/

theorem applyFrom_key_append (h : key.Disjoint ['=', '&', ';']) (rest : Text) :
    applyFrom .key (key ++ '=' :: rest) = key ++ '=' :: (stars ++ applyFrom .value rest) := by
  induction key with
  | nil => rfl
  | cons c key ih =>
    rw [List.disjoint_cons_left] at h
    have hc : c ≠ '=' := fun hequals => h.1 (by simp [hequals])
    rw [List.cons_append, applyFrom, if_neg hc, ih h.2, List.cons_append]

/-- A value is left out; behind it the address is passed as from its front. -/
theorem applyFrom_value_append (h : value.Disjoint ['&', ';']) (hrest : Ended rest) :
    applyFrom .value (value ++ rest) = apply rest := by
  induction value with
  | nil =>
    cases rest with
    | nil => rfl
    | cons c rest =>
      have hclose : closes c = true := closes_iff.mpr (hrest c rfl)
      have hopen : opens c = true := opens_iff.mpr (List.mem_cons_of_mem _ (closes_iff.mp hclose))
      simp [apply, applyFrom, hclose, hopen]
  | cons c value ih =>
    rw [List.disjoint_cons_left] at h
    have hc : ¬ closes c = true := fun hclose => h.1 (closes_iff.mp hclose)
    rw [List.cons_append, applyFrom, if_neg hc, ih h.2]

/-- **The pass over one parameter.** Inside a value the parameter belongs to that value, unless its
mark ends it. Everywhere else its key is kept and its value replaced. -/
theorem applyFrom_parameter {mark : Char} (hmark : mark ∈ ['?', '&', ';']) (hkey : SecretKey key)
    (hvalue : value.Disjoint ['&', ';']) (hrest : Ended rest) (place : Place) :
    applyFrom place (mark :: (key ++ '=' :: (value ++ rest)))
      = if place = .value ∧ mark = '?' then apply rest
        else mark :: (key ++ '=' :: (stars ++ apply rest)) := by
  have hopen : opens mark = true := opens_iff.mpr hmark
  have hahead : secretAhead (key ++ '=' :: (value ++ rest)) = true :=
    secretAhead_iff.mpr ⟨key, value ++ rest, hkey, rfl⟩
  have hmasked : applyFrom .key (key ++ '=' :: (value ++ rest))
      = key ++ '=' :: (stars ++ apply rest) := by
    rw [applyFrom_key_append hkey.unbroken, applyFrom_value_append hvalue hrest]
  cases place with
  | elsewhere => simp [applyFrom, hopen, hahead, hmasked]
  | key =>
    have hother : mark ≠ '=' := by
      rintro rfl
      simp at hmark
    simp [applyFrom, hother, hmasked]
  | value =>
    by_cases hquestion : mark = '?'
    · have hinside : (key ++ '=' :: value).Disjoint ['&', ';'] := by
        rw [List.disjoint_append_left, List.disjoint_cons_left]
        refine ⟨fun c hc hclose => ?_, by simp, hvalue⟩
        exact hkey.unbroken hc (List.mem_cons_of_mem _ hclose)
      have hnext : key ++ '=' :: (value ++ rest) = (key ++ '=' :: value) ++ rest := by simp
      subst hquestion
      rw [applyFrom, if_neg (by decide), hnext, applyFrom_value_append hinside hrest,
        if_pos ⟨rfl, rfl⟩]
    · have hclose : closes mark = true := closes_iff.mpr (by simpa [hquestion] using hmark)
      simp [applyFrom, hclose, hahead, hmasked, hquestion]

/-- From the front of an address the value of its first parameter is replaced. -/
theorem apply_parameter {mark : Char} (hmark : mark ∈ ['?', '&', ';']) (hkey : SecretKey key)
    (hvalue : value.Disjoint ['&', ';']) (hrest : Ended rest) :
    apply (mark :: (key ++ '=' :: (value ++ rest)))
      = mark :: (key ++ '=' :: (stars ++ apply rest)) := by
  rw [apply, applyFrom_parameter hmark hkey hvalue hrest, if_neg (by simp)]

/-- A character with which no password starts is kept. -/
theorem apply_cons_of_plain (h : ¬ (opens c = true ∧ secretAhead rest = true)) :
    apply (c :: rest) = c :: apply rest := by
  have hplace : (opens c && secretAhead rest) = false := by simpa using h
  rw [apply, applyFrom, hplace]
  rfl

/-- Where no parameter opens nothing is masked. -/
theorem apply_append {front : Text} (h : front.Disjoint ['?', '&', ';']) (rest : Text) :
    apply (front ++ rest) = front ++ apply rest := by
  induction front with
  | nil => rfl
  | cons c front ih =>
    rw [List.disjoint_cons_left] at h
    have hplain : ¬ (opens c = true ∧ secretAhead (front ++ rest) = true) :=
      fun hopened => h.1 (opens_iff.mp hopened.1)
    rw [List.cons_append, apply_cons_of_plain hplain, ih h.2, List.cons_append]

/-- A value reaches to the next mark that ends one. -/
theorem exists_value (text : Text) :
    ∃ value rest, text = value ++ rest ∧ value.Disjoint ['&', ';'] ∧ Ended rest := by
  refine ⟨text.takeWhile (fun c => !closes c), text.dropWhile (fun c => !closes c),
    List.takeWhile_append_dropWhile.symm, ?_, ?_⟩
  · intro c hc hclose
    have := List.mem_takeWhile_imp hc
    simp [closes_iff.mpr hclose] at this
  · intro c hc
    have := List.head?_dropWhile_not (fun c => !closes c) text
    rw [Option.mem_def.mp hc] at this
    exact closes_iff.mp (by simpa using this)

/-! ### The pattern -/

/-- A parameter whose key names a password, and the same with four stars for its value, which is as
long as can be: `([?&;][^=&;]*password[^=&;]*=)[^&;]*`, in whatever case. -/
inductive Parameter : Text → Text → Text → Prop where
  /-- Mark, key and value. -/
  | intro (mark : Char) (key value : Text) {rest : Text} : mark ∈ ['?', '&', ';'] →
      SecretKey key → value.Disjoint ['&', ';'] → Ended rest →
      Parameter (mark :: (key ++ '=' :: value)) rest (mark :: (key ++ '=' :: stars))

theorem startsMatch_iff :
    StartsMatch Parameter (c :: rest) ↔ opens c = true ∧ secretAhead rest = true := by
  constructor
  · rintro ⟨_, behind, _, htext, ⟨mark, key, value, hmark, hkey, -, -⟩⟩
    obtain ⟨rfl, rfl⟩ := List.cons.inj htext
    exact ⟨opens_iff.mpr hmark,
      secretAhead_iff.mpr ⟨key, value ++ behind, hkey, by simp⟩⟩
  · rintro ⟨hopen, hahead⟩
    obtain ⟨key, tail, hkey, rfl⟩ := secretAhead_iff.mp hahead
    obtain ⟨value, behind, rfl, hvalue, hended⟩ := exists_value tail
    exact ⟨_, behind, _, by simp, .intro c key value (opens_iff.mp hopen) hkey hvalue hended⟩

/-- **The pass replaces all matches of the pattern**, from left to right. -/
theorem apply_eq_iff {url masked : Text} :
    apply url = masked ↔ ReplacesAll Parameter url masked := by
  refine ReplacesAll.eq_iff rfl ?_ fun c rest h => apply_cons_of_plain (startsMatch_iff.not.mp h)
  rintro _ rest _ ⟨mark, key, value, hmark, hkey, hvalue, hended⟩
  exact ⟨List.cons_ne_nil _ _, by simpa using apply_parameter hmark hkey hvalue hended⟩

theorem replacesAll_apply (url : Text) : ReplacesAll Parameter url (apply url) :=
  apply_eq_iff.mp rfl

/-! ### No trace -/

/-- **The value of a password leaves no trace.** Two addresses that differ in the value of one
parameter with a password are masked alike, whatever stands in front of it and behind it. -/
theorem apply_secret_eq {mark : Char} (hmark : mark ∈ ['?', '&', ';']) (hkey : SecretKey key)
    {value' : Text} (hvalue : value.Disjoint ['&', ';']) (hvalue' : value'.Disjoint ['&', ';'])
    (hrest : Ended rest) (before : Text) :
    apply (before ++ mark :: (key ++ '=' :: (value ++ rest)))
      = apply (before ++ mark :: (key ++ '=' :: (value' ++ rest))) := by
  suffices h : ∀ place, applyFrom place (before ++ mark :: (key ++ '=' :: (value ++ rest)))
      = applyFrom place (before ++ mark :: (key ++ '=' :: (value' ++ rest))) from h .elsewhere
  induction before with
  | nil =>
    intro place
    rw [List.nil_append, List.nil_append, applyFrom_parameter hmark hkey hvalue hrest,
      applyFrom_parameter hmark hkey hvalue' hrest]
  | cons c before ih =>
    -- The place behind `c` depends on the look ahead, which ends before the value.
    have hahead : secretAhead (before ++ mark :: (key ++ '=' :: (value ++ rest)))
        = secretAhead (before ++ mark :: (key ++ '=' :: (value' ++ rest))) := by
      have := secretAhead_append (before ++ mark :: key) (value ++ rest) (value' ++ rest)
      simpa only [List.append_assoc, List.cons_append] using this
    intro place
    cases place <;> simp only [List.cons_append, applyFrom, hahead, ih]

/-- A key with the long s, in the value of another password. -/
theorem apply_secret_eq_long_s :
    SecretKey "paſsWord" ∧ Ended ";mode=x" ∧
      apply ("db?u?PASSWORD=" ++ '?' :: ("paſsWord" ++ '=' :: ("tiger" ++ ";mode=x")))
        = apply ("db?u?PASSWORD=" ++ '?' :: ("paſsWord" ++ '=' :: ("a=b?" ++ ";mode=x"))) := by
  have hkey : SecretKey "paſsWord" := ⟨by simp, by decide⟩
  have hended : Ended ";mode=x" := by simp [Ended]
  exact ⟨hkey, hended, apply_secret_eq (by decide) hkey (by simp) (by simp) hended _⟩

/-! ### Masked addresses -/

/-- `value` can be read off `url` as a password: it is the value of a parameter whose key names
one. -/
def Shows (url value : Text) : Prop :=
  ∃ before mark key rest, url = before ++ mark :: (key ++ '=' :: (value ++ rest)) ∧
    mark ∈ ['?', '&', ';'] ∧ SecretKey key ∧ value.Disjoint ['&', ';'] ∧ Ended rest

/-- Every password that can be read off `url` is four stars. -/
def Masked (url : Text) : Prop := ∀ value, Shows url value → value = stars

theorem masked_nil : Masked [] := by
  rintro value ⟨before, mark, key, rest, hurl, -⟩
  simp at hurl

theorem Masked.of_append (front : Text) (h : Masked (front ++ rest)) : Masked rest := by
  rintro value ⟨before, mark, key, tail, rfl, hshown⟩
  exact h value ⟨front ++ before, mark, key, tail, by rw [List.append_assoc], hshown⟩

/-- The value of the parameter whose key a text starts with. -/
def valueAhead (text : Text) : Text := ((text.dropWhile inKey).drop 1).takeWhile fun c => !closes c

theorem valueAhead_append (hkey : key.Disjoint ['=', '&', ';']) (hvalue : value.Disjoint ['&', ';'])
    (hrest : Ended rest) : valueAhead (key ++ '=' :: (value ++ rest)) = value := by
  have hinside : ∀ c ∈ key, inKey c = true := fun c hc => inKey_iff.mpr (hkey hc)
  have hend : rest.takeWhile (fun c => !closes c) = [] := by
    cases rest with
    | nil => rfl
    | cons c rest => simp [closes_iff.mpr (hrest c rfl)]
  rw [valueAhead, List.dropWhile_append_of_pos hinside]
  simp only [inKey, List.dropWhile_cons, bne_self_eq_false, Bool.false_and, Bool.false_eq_true,
    if_false, List.drop_succ_cons, List.drop_zero]
  rw [List.takeWhile_append_of_pos (closes_of_mem_value hvalue), hend, List.append_nil]

/-- The passwords of an address are that of the parameter its first character opens, if it opens
one, and those of the rest. -/
theorem masked_cons_iff : Masked (c :: rest) ↔
    (opens c = true → secretAhead rest = true → valueAhead rest = stars) ∧ Masked rest := by
  constructor
  · intro h
    refine ⟨fun hopen hahead => ?_, h.of_append [c]⟩
    obtain ⟨key, tail, hkey, rfl⟩ := secretAhead_iff.mp hahead
    obtain ⟨value, rest, rfl, hvalue, hrest⟩ := exists_value tail
    rw [valueAhead_append hkey.unbroken hvalue hrest]
    exact h value ⟨[], c, key, rest, rfl, opens_iff.mp hopen, hkey, hvalue, hrest⟩
  · rintro ⟨hfront, h⟩ value ⟨before, mark, key, tail, hurl, hmark, hkey, hvalue, htail⟩
    cases before with
    | nil =>
      obtain ⟨rfl, rfl⟩ := List.cons.inj hurl
      rw [← valueAhead_append hkey.unbroken hvalue htail]
      exact hfront (opens_iff.mpr hmark) (secretAhead_iff.mpr ⟨key, value ++ tail, hkey, rfl⟩)
    | cons c' before =>
      obtain ⟨rfl, rfl⟩ := List.cons.inj hurl
      exact h value ⟨before, mark, key, tail, rfl, hmark, hkey, hvalue, htail⟩

/-- Outside a value the pass keeps the key ahead and the mark behind it. -/
theorem keyAhead_applyFrom (hplace : place ≠ .value) (text : Text) :
    (applyFrom place text).takeWhile inKey = text.takeWhile inKey ∧
      ((applyFrom place text).dropWhile inKey).head? = (text.dropWhile inKey).head? := by
  induction text generalizing place with
  | nil => cases place <;> simp [applyFrom]
  | cons c rest ih =>
    have hkept : ∀ next ≠ Place.value,
        ((c :: applyFrom next rest).takeWhile inKey = (c :: rest).takeWhile inKey ∧
          ((c :: applyFrom next rest).dropWhile inKey).head?
            = ((c :: rest).dropWhile inKey).head?) := by
      intro next hnext
      by_cases hc : inKey c = true
      · simpa [hc] using ih hnext
      · simp [hc]
    cases place with
    | value => exact absurd rfl hplace
    | elsewhere =>
      rw [applyFrom]
      refine hkept _ ?_
      split <;> simp
    | key =>
      rw [applyFrom]
      split
      · next hc => simp [hc, inKey]
      · exact hkept .key (by simp)

theorem secretAhead_applyFrom (hplace : place ≠ .value) (text : Text) :
    secretAhead (applyFrom place text) = secretAhead text := by
  obtain ⟨hkey, hbehind⟩ := keyAhead_applyFrom hplace text
  rw [secretAhead_eq, secretAhead_eq, hkey, hbehind]

/-- Where the pass is in the key of a password, the value ahead of it becomes four stars. -/
theorem valueAhead_applyFrom_key (h : secretAhead text = true) :
    valueAhead (applyFrom .key text) = stars := by
  obtain ⟨key, tail, hkey, rfl⟩ := secretAhead_iff.mp h
  obtain ⟨value, rest, rfl, hvalue, hrest⟩ := exists_value tail
  have hmasked : Ended (apply rest) := by
    cases rest with
    | nil => exact hrest
    | cons c rest => exact hrest
  rw [applyFrom_key_append hkey.unbroken, applyFrom_value_append hvalue hrest]
  exact valueAhead_append hkey.unbroken (by simp [stars]) hmasked

/-- **One pass masks all passwords**, those of parameters that overlap included. -/
theorem masked_apply (url : Text) : Masked (apply url) := by
  suffices h : ∀ place, Masked (applyFrom place url) from h .elsewhere
  induction url with
  | nil => intro place; cases place <;> exact masked_nil
  | cons c rest ih =>
    have hopened : Masked (c :: applyFrom (if opens c && secretAhead rest then .key else .elsewhere)
        rest) := by
      refine masked_cons_iff.mpr ⟨fun hopen hahead => ?_, ih _⟩
      rw [secretAhead_applyFrom (by split <;> simp)] at hahead
      rw [hopen, hahead]
      exact valueAhead_applyFrom_key hahead
    intro place
    cases place with
    | elsewhere => exact hopened
    | key =>
      rw [applyFrom]
      split
      · next hc =>
        subst hc
        simpa [masked_cons_iff, stars, opens] using ih .value
      · refine masked_cons_iff.mpr ⟨fun _ hahead => ?_, ih .key⟩
        rw [secretAhead_applyFrom (by simp)] at hahead
        exact valueAhead_applyFrom_key hahead
    | value =>
      rw [applyFrom]
      split
      · next hclose =>
        have hopen : opens c = true := opens_iff.mpr (List.mem_cons_of_mem _ (closes_iff.mp hclose))
        simpa [hopen] using hopened
      · exact ih .value

/-- A masked address is left alone. -/
theorem apply_eq_self {url : Text} (h : Masked url) : apply url = url := by
  have hall := replacesAll_apply url
  generalize apply url = masked at hall ⊢
  induction hall with
  | nil => rfl
  | @replace _ rest _ masked hmatch _ ih =>
    obtain ⟨mark, key, value, hmark, hkey, hvalue, hended⟩ := hmatch
    obtain rfl : value = stars :=
      h value ⟨[], mark, key, rest, by simp, hmark, hkey, hvalue, hended⟩
    rw [ih (h.of_append _)]
  | keep c _ _ ih => rw [ih (h.of_append [c])]

end PasswordMask

end SqlDialect
