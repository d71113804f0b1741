import SqlDialect.Json.Number

/-!
# Where a number ends

A number is not closed by anything: it is read as far as it goes, and `1` in front of `5` is another
number. So what the reader makes of a number depends on what stands behind it.

## What may stand behind

Every step of the reader looks at most one character beyond what it takes, and goes on only for a
digit, the point, the mark of an exponent or its sign. In front of anything else, `EndsNumber`, each
step reads a text with more behind it as it reads the text alone, and what is behind is left as it
is. Space, commas and closing brackets end a number, and nothing else can stand behind one in JSON.

The same is not true of a number that is left early: in `1.5.` the second point is left, but a point
does not end a number. That is why the text that is read is first split off as the front of the
text (`LeavesEnd`), and only then read alone.

## Main definitions

* `Json.EndsNumber` — no number goes on into a text

## Main results

* `Json.number?_append` — a number is read in the same way with anything behind that ends it
* `Json.number?_eq_some_iff` — the numbers that are read are those that are read alone
-/

namespace SqlDialect

namespace Json

/-! ### What ends a number -/

/-- Whether `c` may be a further character of a number. -/
def goesOn (c : Char) : Bool :=
  c.isDigit || c == '.' || c == 'e' || c == 'E' || c == '+' || c == '-'

/-- No number goes on into `rest`. -/
def EndsNumber (rest : Text) : Prop := ∀ c ∈ rest.head?, goesOn c = false

theorem endsNumber_cons {c : Char} {rest : Text} : EndsNumber (c :: rest) ↔ goesOn c = false := by
  simp [EndsNumber]

/-- What was read, with `rest` behind what is left. -/
def withRest (rest : Text) : Json × Text → Json × Text := Prod.map id (· ++ rest)

@[simp] theorem withRest_mk (rest : Text) (value : Json) (after : Text) :
    withRest rest (value, after) = (value, after ++ rest) := rfl

theorem withRest_comp_mk (rest after : Text) :
    (withRest rest ∘ fun value => (value, after)) = fun value => (value, after ++ rest) := rfl

variable {rest : Text}

theorem EndsNumber.isDigit_eq_false {c : Char} (h : EndsNumber (c :: rest)) :
    c.isDigit = false := by
  have := endsNumber_cons.mp h
  simp only [goesOn, Bool.or_eq_false_iff] at this
  exact this.1.1.1.1.1

theorem EndsNumber.ne {c : Char} (h : EndsNumber (c :: rest)) (mark : Char)
    (hmark : goesOn mark = true) : c ≠ mark := by
  rintro rfl
  simp [endsNumber_cons.mp h] at hmark

/-! ### Reading with more behind -/

/-- Digits are gathered as without the rest. -/
theorem gather_append (h : EndsNumber rest) (limit n : Nat) (text : Text) :
    gather limit n (text ++ rest) =
      ((gather limit n text).1, (gather limit n text).2.1, (gather limit n text).2.2 ++ rest) := by
  induction text generalizing n with
  | nil =>
    cases rest with
    | nil => rfl
    | cons c rest => simp [gather, h.isDigit_eq_false]
  | cons c text ih =>
    rw [List.cons_append, gather, gather, ih]
    split <;> rfl

theorem dropWhile_isDigit_append (h : EndsNumber rest) (text : Text) :
    (text ++ rest).dropWhile Char.isDigit = text.dropWhile Char.isDigit ++ rest := by
  induction text with
  | nil =>
    cases rest with
    | nil => rfl
    | cons c rest => simp [h.isDigit_eq_false]
  | cons c text ih =>
    simp only [List.cons_append, List.dropWhile_cons, ih]
    split <;> rfl

theorem takeWhile_isDigit_append (h : EndsNumber rest) (text : Text) :
    (text ++ rest).takeWhile Char.isDigit = text.takeWhile Char.isDigit := by
  cases rest with
  | nil => rw [List.append_nil]
  | cons c rest => exact Text.takeWhile_append_cons h.isDigit_eq_false text rest

theorem head_isDigit_append (h : EndsNumber rest) (text : Text) :
    ((text ++ rest).head?.map Char.isDigit).getD false
      = (text.head?.map Char.isDigit).getD false := by
  cases text with
  | nil =>
    cases rest with
    | nil => rfl
    | cons c rest => simp [h.isDigit_eq_false]
  | cons c text => rfl

theorem exponentSign_append (h : EndsNumber rest) (text : Text) :
    exponentSign (text ++ rest) = ((exponentSign text).1, (exponentSign text).2 ++ rest) := by
  cases text with
  | nil =>
    cases rest with
    | nil => rfl
    | cons c rest =>
      have hplus := h.ne '+' rfl
      have hminus := h.ne '-' rfl
      simp [exponentSign, hplus, hminus]
  | cons c text =>
    simp only [List.cons_append, exponentSign]
    split <;> simp_all

theorem withExponentDigits?_append (h : EndsNumber rest) (negative : Bool) (significand : Nat)
    (power : Int) (below : Bool) (text : Text) :
    withExponentDigits? negative significand power below (text ++ rest)
      = (withExponentDigits? negative significand power below text).map (withRest rest) := by
  simp only [withExponentDigits?, gather_append h, head_isDigit_append h,
    dropWhile_isDigit_append h, apply_ite (Option.map (withRest rest)), Option.map_none,
    Option.map_some, Option.map_map, withRest_mk, withRest_comp_mk]

theorem withExponent?_append (h : EndsNumber rest) (negative : Bool) (significand : Nat)
    (power : Int) (text : Text) :
    withExponent? negative significand power (text ++ rest)
      = (withExponent? negative significand power text).map (withRest rest) := by
  cases text with
  | nil =>
    cases rest with
    | nil => simp [withExponent?, withRest_comp_mk]
    | cons c rest =>
      have he := h.ne 'e' rfl
      have hE := h.ne 'E' rfl
      simp [withExponent?, he, hE, withRest_comp_mk]
  | cons mark text =>
    rw [List.cons_append, withExponent?, withExponent?]
    split
    · rw [exponentSign_append h]
      exact withExponentDigits?_append h ..
    · rw [Option.map_map, withRest_comp_mk, List.cons_append]

theorem withFraction?_append (h : EndsNumber rest) (negative : Bool) (significand : Nat)
    (power : Int) (text : Text) :
    withFraction? negative significand power (text ++ rest)
      = (withFraction? negative significand power text).map (withRest rest) := by
  simp only [withFraction?, head_isDigit_append h, gather_append h, dropWhile_isDigit_append h,
    withExponent?_append h, apply_ite (Option.map (withRest rest)), Option.map_none]

theorem head?_append_iff (h : EndsNumber rest) (mark : Char) (hmark : goesOn mark = true)
    (text : Text) : (text ++ rest).head? = some mark ↔ text.head? = some mark := by
  cases text with
  | nil =>
    cases rest with
    | nil => rfl
    | cons c rest => simp [h.ne mark hmark]
  | cons c text => rfl

theorem withWhole?_of_head?_ne {text : Text} (h : text.head? ≠ some '.') (negative : Bool)
    (n dropped : Nat) :
    withWhole? negative n dropped text =
      if text.head? = some 'e' ∨ text.head? = some 'E' ∨ 0 < dropped then
        withExponent? negative n dropped text
      else if !negative then some (.integer n, text)
      else if 0 < n ∧ n ≤ Nat.pow 2 63 then some (.integer (-(n : Int)), text)
      else (floatingOf? negative n 0).map (·, text) := by
  rw [withWhole?]
  rintro rest rfl
  exact h rfl

theorem withWhole?_append (h : EndsNumber rest) (negative : Bool) (n dropped : Nat)
    (text : Text) :
    withWhole? negative n dropped (text ++ rest)
      = (withWhole? negative n dropped text).map (withRest rest) := by
  by_cases hpoint : text.head? = some '.'
  · obtain ⟨fraction, rfl⟩ := List.head?_eq_some_iff.mp hpoint
    exact withFraction?_append h ..
  · rw [withWhole?_of_head?_ne hpoint,
      withWhole?_of_head?_ne (mt (head?_append_iff h '.' rfl text).mp hpoint)]
    simp only [head?_append_iff h 'e' rfl, head?_append_iff h 'E' rfl,
      withExponent?_append h, apply_ite (Option.map (withRest rest)), Option.map_some,
      Option.map_map, withRest_mk, withRest_comp_mk]

theorem unsignedNumber?_append (h : EndsNumber rest) (negative : Bool) (text : Text) :
    unsignedNumber? negative (text ++ rest)
      = (unsignedNumber? negative text).map (withRest rest) := by
  have hzero : ((text ++ rest).head? == some '0') = (text.head? == some '0') := by
    rw [Bool.eq_iff_iff, beq_iff_eq, beq_iff_eq, head?_append_iff h '0' rfl]
  simp only [unsignedNumber?, hzero, gather_append h, takeWhile_isDigit_append h,
    dropWhile_isDigit_append h, withWhole?_append h, apply_ite (Option.map (withRest rest)),
    Option.map_none]

theorem number?_of_head?_ne {text : Text} (h : text.head? ≠ some '-') :
    number? text = unsignedNumber? false text := by
  rw [number?]
  rintro rest rfl
  exact h rfl

/-- A number is read in the same way with anything behind that ends it. -/
theorem number?_append (h : EndsNumber rest) (text : Text) :
    number? (text ++ rest) = (number? text).map (withRest rest) := by
  by_cases hminus : text.head? = some '-'
  · obtain ⟨digits, rfl⟩ := List.head?_eq_some_iff.mp hminus
    exact unsignedNumber?_append h ..
  · rw [number?_of_head?_ne hminus,
      number?_of_head?_ne (mt (head?_append_iff h '-' rfl text).mp hminus)]
    exact unsignedNumber?_append h ..

/-! ### What is left is the end of the text -/

theorem gather_suffix (limit n : Nat) (text : Text) : (gather limit n text).2.2 <:+ text := by
  induction text generalizing n with
  | nil => exact List.suffix_rfl
  | cons c text ih =>
    rw [gather]
    split
    · exact (ih _).trans (List.suffix_cons c text)
    · exact List.suffix_rfl

/-- The text that a reader of numbers leaves is the end of the text it was given. -/
def LeavesEnd (read : Option (Json × Text)) (text : Text) : Prop :=
  ∀ value after, read = some (value, after) → after <:+ text

theorem leavesEnd_none (text : Text) : LeavesEnd none text := by
  rintro value after ⟨⟩

theorem leavesEnd_some {value : Json} {after text : Text} (h : after <:+ text) :
    LeavesEnd (some (value, after)) text := by
  rintro value after ⟨⟩
  exact h

theorem leavesEnd_map {found : Option Json} {after text : Text} (h : after <:+ text) :
    LeavesEnd (found.map (·, after)) text := by
  cases found with
  | none => exact leavesEnd_none text
  | some value => exact leavesEnd_some h

theorem LeavesEnd.trans {read : Option (Json × Text)} {text front : Text} (h : LeavesEnd read text)
    (hfront : text <:+ front) : LeavesEnd read front := fun value after hread =>
  (h value after hread).trans hfront

theorem exponentSign_suffix (text : Text) : (exponentSign text).2 <:+ text := by
  unfold exponentSign
  split
  · exact List.suffix_cons ..
  · exact List.suffix_cons ..
  · exact List.suffix_rfl

theorem withExponentDigits?_leavesEnd {negative : Bool} {significand : Nat} {power : Int}
    {below : Bool} {text : Text} :
    LeavesEnd (withExponentDigits? negative significand power below text) text := by
  have hgather := gather_suffix maxExponent 0 text
  have hdrop := (List.dropWhile_suffix Char.isDigit).trans hgather
  simp only [withExponentDigits?]
  split
  · exact leavesEnd_none text
  · split
    · split
      · exact leavesEnd_some hdrop
      · exact leavesEnd_none text
    · exact leavesEnd_map hgather

theorem withExponent?_leavesEnd {negative : Bool} {significand : Nat} {power : Int} {text : Text} :
    LeavesEnd (withExponent? negative significand power text) text := by
  cases text with
  | nil => exact leavesEnd_map List.suffix_rfl
  | cons mark text =>
    rw [withExponent?]
    split
    · exact withExponentDigits?_leavesEnd.trans
        ((exponentSign_suffix text).trans (List.suffix_cons mark text))
    · exact leavesEnd_map List.suffix_rfl

theorem withFraction?_leavesEnd {negative : Bool} {significand : Nat} {power : Int} {text : Text} :
    LeavesEnd (withFraction? negative significand power text) text := by
  simp only [withFraction?]
  split
  · exact withExponent?_leavesEnd.trans
      ((List.dropWhile_suffix Char.isDigit).trans (gather_suffix maxSignificand significand text))
  · exact leavesEnd_none text

theorem withWhole?_leavesEnd {negative : Bool} {n dropped : Nat} {text : Text} :
    LeavesEnd (withWhole? negative n dropped text) text := by
  by_cases hpoint : text.head? = some '.'
  · obtain ⟨fraction, rfl⟩ := List.head?_eq_some_iff.mp hpoint
    exact withFraction?_leavesEnd.trans (List.suffix_cons ..)
  · rw [withWhole?_of_head?_ne hpoint]
    split
    · exact withExponent?_leavesEnd
    · split
      · exact leavesEnd_some List.suffix_rfl
      · split
        · exact leavesEnd_some List.suffix_rfl
        · exact leavesEnd_map List.suffix_rfl

theorem unsignedNumber?_leavesEnd {negative : Bool} {text : Text} :
    LeavesEnd (unsignedNumber? negative text) text := by
  have hdrop (limit : Nat) : (gather limit 0 text).2.2.dropWhile Char.isDigit <:+ text :=
    (List.dropWhile_suffix Char.isDigit).trans (gather_suffix limit 0 text)
  have hdrop := hdrop (if text.head? == some '0' then 0 else maxSignificand)
  simp only [unsignedNumber?]
  generalize gather (if text.head? == some '0' then 0 else maxSignificand) 0 text = gathered
    at hdrop ⊢
  split
  · exact leavesEnd_none text
  · split
    · exact leavesEnd_none text
    · exact withWhole?_leavesEnd.trans hdrop

theorem number?_leavesEnd {text : Text} : LeavesEnd (number? text) text := by
  by_cases hminus : text.head? = some '-'
  · obtain ⟨digits, rfl⟩ := List.head?_eq_some_iff.mp hminus
    exact unsignedNumber?_leavesEnd.trans (List.suffix_cons ..)
  · rw [number?_of_head?_ne hminus]
    exact unsignedNumber?_leavesEnd

/-- **The numbers that are read are those that are read alone.** In front of a text that ends a
number, reading leaves that text if and only if all that stands before it is one number. -/
theorem number?_eq_some_iff (h : EndsNumber rest) {text : Text} {value : Json} :
    number? text = some (value, rest) ↔
      ∃ number, text = number ++ rest ∧ number? number = some (value, []) := by
  constructor
  · intro hread
    obtain ⟨number, rfl⟩ := number?_leavesEnd value rest hread
    refine ⟨number, rfl, ?_⟩
    rw [number?_append h] at hread
    obtain ⟨⟨value, after⟩, hnumber, heq⟩ := Option.map_eq_some_iff.mp hread
    obtain ⟨rfl, hafter⟩ := Prod.mk.inj heq
    rw [hnumber, List.append_left_eq_self.mp hafter]
    rfl
  · rintro ⟨number, rfl, hnumber⟩
    rw [number?_append h, hnumber]
    rfl

/-- A number starts with a digit or the minus sign. -/
theorem head_of_number? {c : Char} {text : Text} (h : (number? (c :: text)).isSome) :
    c.isDigit ∨ c = '-' := by
  by_cases hminus : c = '-'
  · exact .inr hminus
  · left
    cases hdigit : c.isDigit with
    | true => rfl
    | false =>
      rw [number?_of_head?_ne (by simpa using hminus), unsignedNumber?] at h
      simp [gather, hdigit] at h

end Json

end SqlDialect
