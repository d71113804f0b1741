import Mathlib.Data.List.Basic
import Mathlib.Data.List.Induction
import Mathlib.Tactic.Ring
import SqlDialect.Number.Digits

/-!
# Digits are read back

A number that is written with a fixed count of digits is read back, whatever follows it. Reading
takes no more digits than it may, so a number is told from what follows it by its width, or because
no digit follows.

Zeros in front do not change the value. Without them there is one row of digits for each number, the
one that is written.

## Main definitions

* `Digits.Stop` — a text that goes on without a digit
* `Digits.Canonical` — digits without zeros in front

## Main results

* `Digits.value_padded`, `Digits.length_padded` — the value and the width of a written number
* `Digits.takeUpTo_digits` — digits are taken up to the limit or up to the end of the row
* `Digits.ofNat_eq_iff` — the digits that are written for a number
-/

namespace SqlDialect

namespace Digits

variable {width limit n : Nat} {c : Char} {digits rest : Text}

/-! ### Digits -/

/-- The code points of digits. -/
theorem toNat_of_isDigit (h : c.isDigit = true) : 48 ≤ c.toNat ∧ c.toNat ≤ 57 := by
  simp only [Char.isDigit, Bool.and_eq_true, decide_eq_true_eq] at h
  exact h

theorem isDigit_of_mem_zeros {count : Nat} (h : c ∈ List.replicate count '0') :
    c.isDigit = true := by
  rw [(List.mem_replicate.mp h).2]
  rfl

theorem isDigit_of_mem_ofNat (h : c ∈ ofNat n) : c.isDigit = true :=
  Nat.isDigit_of_mem_toDigits (by decide) (by decide) h

theorem isDigit_of_mem_padded (h : c ∈ padded width n) : c.isDigit = true := by
  rcases List.mem_append.mp h with hzero | hdigit
  · exact isDigit_of_mem_zeros hzero
  · exact isDigit_of_mem_ofNat hdigit

/-- Nothing else is among digits. -/
theorem not_mem_of_isDigit (h : ∀ d ∈ digits, d.isDigit = true) (hc : c.isDigit = false) :
    c ∉ digits := by
  intro hmem
  have hdigit := h c hmem
  rw [hc] at hdigit
  exact Bool.false_ne_true hdigit

/-! ### Values -/

theorem value_ofNat (n : Nat) : value (ofNat n) = n :=
  Nat.ofDigitChars_toDigits (by decide) (by decide)

/-- Zeros in front do not count. -/
theorem value_zeros_append (count : Nat) (digits : Text) :
    value (List.replicate count '0' ++ digits) = value digits := by
  induction count with
  | zero => rfl
  | succ count ih => exact ih

/-- A digit at the end. -/
theorem value_append_singleton (digits : Text) (c : Char) :
    value (digits ++ [c]) = 10 * value digits + digitValue c := by
  simp [value]

/-- Each zero at the end is a factor of ten. -/
theorem value_append_zeros (digits : Text) (count : Nat) :
    value (digits ++ List.replicate count '0') = value digits * 10 ^ count := by
  induction count with
  | zero => simp
  | succ count ih =>
    have hzero : digitValue '0' = 0 := rfl
    rw [List.replicate_succ', ← List.append_assoc, value_append_singleton, ih, hzero]
    ring

theorem digitValue_le (h : c.isDigit = true) : digitValue c ≤ 9 := by
  have hcode := toNat_of_isDigit h
  have hzero : '0'.toNat = 48 := rfl
  rw [digitValue, hzero]
  omega

/-- Digits stand for a number below the power of ten. -/
theorem value_lt (h : ∀ c ∈ digits, c.isDigit = true) : value digits < 10 ^ digits.length := by
  induction digits using List.reverseRecOn with
  | nil => decide
  | append_singleton digits c ih =>
    have hlast := digitValue_le (h c (List.mem_append_right _ (List.mem_singleton_self c)))
    have hothers := ih fun d hd => h d (List.mem_append_left _ hd)
    rw [value_append_singleton, List.length_append, List.length_singleton, Nat.pow_succ]
    omega

theorem value_padded (width n : Nat) : value (padded width n) = n := by
  rw [padded, value_zeros_append, value_ofNat]

/-! ### Widths -/

theorem length_padded_ge (width n : Nat) : width ≤ (padded width n).length := by
  rw [padded, List.length_append, List.length_replicate]
  omega

/-- A number below the power of ten has the width asked for. -/
theorem length_padded (hwidth : 0 < width) (h : n < 10 ^ width) :
    (padded width n).length = width := by
  have hshort : (ofNat n).length ≤ width :=
    (Nat.length_toDigits_le_iff (by decide) hwidth).mpr h
  rw [padded, List.length_append, List.length_replicate]
  omega

/-- A number that is written starts with a digit. -/
theorem exists_padded_append_eq_cons (hwidth : 0 < width) (n : Nat) (rest : Text) :
    ∃ c text, padded width n ++ rest = c :: text ∧ c.isDigit = true := by
  have hlength := length_padded_ge width n
  cases hpadded : padded width n with
  | nil =>
    rw [hpadded, List.length_nil] at hlength
    omega
  | cons c digits =>
    exact ⟨c, digits ++ rest, rfl, isDigit_of_mem_padded (hpadded ▸ List.mem_cons_self)⟩

theorem head?_padded_append_ne (hwidth : 0 < width) (hc : c.isDigit = false) (n : Nat)
    (rest : Text) : (padded width n ++ rest).head? ≠ some c := by
  obtain ⟨first, text, hcons, hfirst⟩ := exists_padded_append_eq_cons hwidth n rest
  rw [hcons]
  rintro ⟨⟩
  exact absurd (hfirst.symm.trans hc) (Bool.noConfusion)

/-! ### Taking digits -/

/-- A text that does not go on with a digit. -/
def Stop (rest : Text) : Prop := ∀ c ∈ rest.head?, c.isDigit = false

theorem Stop.nil : Stop [] := by simp [Stop]

theorem Stop.cons (h : c.isDigit = false) (rest : Text) : Stop (c :: rest) := by
  simpa [Stop] using h

/-- Nothing is taken where no digit stands. -/
theorem takeUpTo_of_stop (h : Stop rest) (limit : Nat) : takeUpTo limit rest = ([], rest) := by
  cases limit with
  | zero => rfl
  | succ limit =>
    cases rest with
    | nil => rfl
    | cons c rest =>
      have hc : c.isDigit = false := h c rfl
      simp [takeUpTo, hc]

/-- **Digits are taken up to the limit, or up to the end of the row.** -/
theorem takeUpTo_digits (hdigits : ∀ c ∈ digits, c.isDigit = true) (hlimit : digits.length ≤ limit)
    (hend : digits.length = limit ∨ Stop rest) :
    takeUpTo limit (digits ++ rest) = (digits, rest) := by
  induction digits generalizing limit with
  | nil =>
    rcases hend with rfl | hstop
    · rfl
    · exact takeUpTo_of_stop hstop limit
  | cons c digits ih =>
    obtain ⟨limit, rfl⟩ : ∃ n, limit = n + 1 := ⟨limit - 1, by simp at hlimit; omega⟩
    obtain ⟨hc, hrest⟩ := List.forall_mem_cons.mp hdigits
    have hlater : takeUpTo limit (digits ++ rest) = (digits, rest) :=
      ih hrest (by simpa using hlimit) (hend.imp_left fun h => by simpa using h)
    simp [takeUpTo, hc, hlater]

/-! ### One way to write a number -/

/-- Digits, at least one, that start with a zero only if they are the number zero. -/
structure Canonical (digits : Text) : Prop where
  /-- There is a digit. -/
  ne_nil : digits ≠ []
  /-- There is nothing else. -/
  isDigit : ∀ c ∈ digits, c.isDigit = true
  /-- No zero stands in front. -/
  head_ne : digits.head? = some '0' → digits = ['0']

/-- A digit is written as itself. -/
theorem ofNat_digitValue (h : c.isDigit = true) : ofNat (digitValue c) = [c] := by
  obtain ⟨hlow, hhigh⟩ := toNat_of_isDigit h
  have hvalue : digitValue c = c.toNat - 48 := rfl
  have hsmall : digitValue c < 10 := Nat.lt_succ_of_le (digitValue_le h)
  rw [ofNat, Nat.toDigits_of_lt_base hsmall]
  congr 1
  apply Char.toNat_inj.mp
  rw [Nat.toNat_digitChar_of_lt_ten hsmall, hvalue]
  omega

/-- A digit more at the end of a number that is not zero. -/
theorem ofNat_append_singleton (hn : 0 < n) (h : c.isDigit = true) :
    ofNat n ++ [c] = ofNat (10 * n + digitValue c) := by
  rw [← ofNat_digitValue h]
  exact Nat.toDigits_append_toDigits (by decide) hn (Nat.lt_succ_of_le (digitValue_le h))

theorem ofNat_ne_nil (n : Nat) : ofNat n ≠ [] := Nat.toDigits_ne_nil

theorem canonical_ofNat (n : Nat) : Canonical (ofNat n) where
  ne_nil := ofNat_ne_nil n
  isDigit := fun _ => isDigit_of_mem_ofNat
  head_ne := by
    induction n using Nat.strong_induction_on with
    | _ n ih =>
      intro hzero
      by_cases hsmall : n < 10
      · rw [ofNat, Nat.toDigits_of_lt_base hsmall] at hzero ⊢
        rw [Option.some.inj hzero]
      · -- The first digit is that of a tenth of the number, which is not zero.
        have htenth : 0 < n / 10 := by omega
        have hdigits : ofNat n = ofNat (n / 10) ++ [(n % 10).digitChar] := by
          rw [ofNat, Nat.toDigits_eq_if (by decide), if_neg hsmall]
          rfl
        rw [hdigits, List.head?_append_of_ne_nil _ (ofNat_ne_nil _)] at hzero
        have hnone := value_ofNat (n / 10)
        rw [ih (n / 10) (by omega) hzero] at hnone
        exact absurd hnone htenth.ne

/-- Digits without a zero in front stand for a number that is not zero. -/
theorem value_pos (h : ∀ c ∈ digits, c.isDigit = true) (hne : digits ≠ [])
    (hhead : digits.head? ≠ some '0') : 0 < value digits := by
  induction digits using List.reverseRecOn with
  | nil => exact absurd rfl hne
  | append_singleton digits c ih =>
    rw [value_append_singleton]
    by_cases hnone : digits = []
    · subst hnone
      have hc : c ≠ '0' := by simpa using hhead
      have hcode : c.toNat ≠ 48 := fun hcode => hc (Char.toNat_inj.mp hcode)
      have hlow := (toNat_of_isDigit (h c (by simp))).1
      have hvalue : digitValue c = c.toNat - 48 := rfl
      omega
    · rw [List.head?_append_of_ne_nil _ hnone] at hhead
      have hpos := ih (fun d hd => h d (List.mem_append_left _ hd)) hnone hhead
      omega

/-- **Without zeros in front there is one way to write a number.** -/
theorem ofNat_value (h : Canonical digits) : ofNat (value digits) = digits := by
  obtain ⟨hne, hdigits, hzero⟩ := h
  induction digits using List.reverseRecOn with
  | nil => exact absurd rfl hne
  | append_singleton digits c ih =>
    obtain ⟨hfront, hlast⟩ := List.forall_mem_append.mp hdigits
    have hc : c.isDigit = true := hlast c (List.mem_singleton_self c)
    rw [value_append_singleton]
    by_cases hnone : digits = []
    · subst hnone
      simpa using ofNat_digitValue hc
    · have hhead : digits.head? ≠ some '0' := by
        intro hhead
        have hsame := hzero (by rw [List.head?_append_of_ne_nil _ hnone, hhead])
        rcases List.append_eq_singleton_iff.mp hsame with ⟨hnil, -⟩ | ⟨-, hnil⟩
        · exact hnone hnil
        · exact absurd hnil (List.cons_ne_nil c [])
      have hpos := value_pos hfront hnone hhead
      rw [← ofNat_append_singleton hpos hc, ih hnone hfront (fun h => absurd h hhead)]

theorem ofNat_eq_iff : ofNat n = digits ↔ Canonical digits ∧ value digits = n := by
  constructor
  · rintro rfl
    exact ⟨canonical_ofNat n, value_ofNat n⟩
  · rintro ⟨h, rfl⟩
    exact ofNat_value h

end Digits

end SqlDialect
