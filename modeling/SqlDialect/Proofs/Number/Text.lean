import SqlDialect.Number.Decimal
import SqlDialect.Proofs.Number.Digits

/-!
# Numbers are told from their texts

No two whole numbers have the same text, no two rows of bytes and no two decimals. For a decimal
this means mantissa and scale, not the number that they make up: one and a half is shown with as
many places as it has.

## Why a decimal shows its scale

A decimal without places has no point, and with places it has as many digits behind the point as
there are places. So the scale is read off the text, and the digits before and behind the point
together are the mantissa, since zeros in front do not count (`Digits.value_padded`).

## Main definitions

* `Decimal.digits`, `Decimal.magnitude` — a decimal without its point and without its sign

## Main results

* `Digits.ofInt_inj`, `Digits.flatMap_hexUpper_inj` — whole numbers and bytes
* `Decimal.text_inj` — decimals
-/

namespace SqlDialect

namespace Digits

variable {m n width : Nat} {a b rest rest' : Text}

/-! ### Whole numbers -/

theorem ofNat_inj : ofNat m = ofNat n ↔ m = n := by
  refine ⟨fun h => ?_, fun h => by rw [h]⟩
  rw [← value_ofNat m, h, value_ofNat]

theorem padded_inj {width' : Nat} (h : padded width m = padded width' n) : m = n := by
  rw [← value_padded width m, h, value_padded]

/-- Of a number with a fixed width and what follows it each is given by the text. -/
theorem padded_append_inj (hwidth : 0 < width) (hm : m < 10 ^ width) (hn : n < 10 ^ width) :
    padded width m ++ rest = padded width n ++ rest' ↔ m = n ∧ rest = rest' := by
  refine ⟨fun h => ?_, fun ⟨hmn, hrest⟩ => by rw [hmn, hrest]⟩
  have hlength : (padded width m).length = (padded width n).length := by
    rw [length_padded hwidth hm, length_padded hwidth hn]
  obtain ⟨hnumber, hrest⟩ := List.append_inj h hlength
  exact ⟨padded_inj hnumber, hrest⟩

/-- A sign in front is told from the digits behind it. -/
theorem signed_inj {negative negative' : Prop} [Decidable negative] [Decidable negative']
    (ha : '-' ∉ a) (hb : '-' ∉ b)
    (h : (if negative then '-' :: a else a) = if negative' then '-' :: b else b) :
    (negative ↔ negative') ∧ a = b := by
  by_cases hsign : negative
  · by_cases hsign' : negative'
    · simpa [hsign, hsign'] using h
    · rw [if_pos hsign, if_neg hsign'] at h
      exact absurd (h ▸ List.mem_cons_self) hb
  · by_cases hsign' : negative'
    · rw [if_neg hsign, if_pos hsign'] at h
      exact absurd (h ▸ List.mem_cons_self) ha
    · simpa [hsign, hsign'] using h

theorem ofInt_inj {x y : Int} : ofInt x = ofInt y ↔ x = y := by
  refine ⟨fun h => ?_, fun h => by rw [h]⟩
  have hminus (n : Nat) : '-' ∉ ofNat n :=
    not_mem_of_isDigit (fun _ => isDigit_of_mem_ofNat) rfl
  obtain ⟨hsign, hdigits⟩ := signed_inj (hminus x.natAbs) (hminus y.natAbs) h
  have habs := ofNat_inj.mp hdigits
  omega

/-! ### Bytes -/

theorem hexDigit_inj : ∀ m < 16, ∀ n < 16,
    hexDigit 'A'.toNat m = hexDigit 'A'.toNat n → m = n := by decide

theorem hexUpper_inj {x y : UInt8} (h : hexUpper x = hexUpper y) : x = y := by
  have hx := x.toNat_lt
  have hy := y.toNat_lt
  obtain ⟨hhigh, hrest⟩ := List.cons.inj h
  have hlow := (List.cons.inj hrest).1
  have hsame := hexDigit_inj _ (by omega) _ (by omega) hhigh
  have hsame' := hexDigit_inj _ (by omega) _ (by omega) hlow
  exact UInt8.toNat_inj.mp (by omega)

/-- Every byte has two digits, so rows of bytes are told apart byte by byte. -/
theorem flatMap_hexUpper_inj {data data' : List UInt8} :
    data.flatMap hexUpper = data'.flatMap hexUpper ↔ data = data' := by
  refine ⟨fun h => ?_, fun h => by rw [h]⟩
  induction data generalizing data' with
  | nil =>
    cases data' with
    | nil => rfl
    | cons y data' => simp [hexUpper] at h
  | cons x data ih =>
    cases data' with
    | nil => simp [hexUpper] at h
    | cons y data' =>
      rw [List.flatMap_cons, List.flatMap_cons] at h
      obtain ⟨hfirst, hothers⟩ := List.append_inj h rfl
      rw [hexUpper_inj hfirst, ih hothers]

end Digits

/-! ### Decimals -/

namespace Decimal

variable {d e : Decimal}

/-- All digits, with at least one in front of the places. -/
def digits (d : Decimal) : Text := Digits.padded (d.scale + 1) d.mantissa.natAbs

/-- The number without its sign. -/
def magnitude (d : Decimal) : Text :=
  if d.scale = 0 then d.digits
  else d.digits.take (d.digits.length - d.scale) ++
    '.' :: d.digits.drop (d.digits.length - d.scale)

theorem text_eq (d : Decimal) :
    d.text = if d.mantissa < 0 then '-' :: d.magnitude else d.magnitude := rfl

theorem not_mem_digits {c : Char} (hc : c.isDigit = false) (d : Decimal) : c ∉ d.digits :=
  Digits.not_mem_of_isDigit (fun _ => Digits.isDigit_of_mem_padded) hc

theorem not_mem_magnitude (d : Decimal) : '-' ∉ d.magnitude := by
  have hnone : '-' ∉ d.digits := d.not_mem_digits rfl
  rw [magnitude]
  split
  · exact hnone
  · simp only [List.mem_append, List.mem_cons, not_or]
    exact ⟨fun h => hnone (List.mem_of_mem_take h), by decide,
      fun h => hnone (List.mem_of_mem_drop h)⟩

theorem scale_lt_length_digits (d : Decimal) : d.scale < d.digits.length :=
  Digits.length_padded_ge (d.scale + 1) d.mantissa.natAbs

/-- Only a decimal with places has a point. -/
theorem point_mem_magnitude_iff (d : Decimal) : '.' ∈ d.magnitude ↔ d.scale ≠ 0 := by
  rw [magnitude]
  split
  · next hscale => simp [hscale, d.not_mem_digits]
  · next hscale => simp [hscale]

theorem magnitude_inj (h : d.magnitude = e.magnitude) : d.scale = e.scale ∧ d.digits = e.digits := by
  have hpoint : d.scale ≠ 0 ↔ e.scale ≠ 0 := by
    rw [← point_mem_magnitude_iff, ← point_mem_magnitude_iff, h]
  by_cases hscale : d.scale = 0
  · have hscale' : e.scale = 0 := by simpa [hscale] using hpoint
    rw [magnitude, magnitude, if_pos hscale, if_pos hscale'] at h
    exact ⟨hscale.trans hscale'.symm, h⟩
  · have hscale' : e.scale ≠ 0 := hpoint.mp hscale
    have hnone (d : Decimal) : '.' ∉ d.digits.take (d.digits.length - d.scale) :=
      fun hmem => d.not_mem_digits rfl (List.mem_of_mem_take hmem)
    rw [magnitude, magnitude, if_neg hscale, if_neg hscale'] at h
    -- The point tells the places from the digits before them.
    obtain ⟨hwhole, hplaces⟩ := Text.append_mark_inj (hnone d) (hnone e) h
    have hcount := congrArg List.length hplaces
    have hd := d.scale_lt_length_digits
    have he := e.scale_lt_length_digits
    rw [List.length_drop, List.length_drop] at hcount
    refine ⟨by omega, ?_⟩
    rw [← List.take_append_drop (d.digits.length - d.scale) d.digits, hwhole, hplaces,
      List.take_append_drop]

/-- **Decimals are told from their texts**, as mantissa and scale. -/
theorem text_inj : d.text = e.text ↔ d = e := by
  refine ⟨fun h => ?_, fun h => by rw [h]⟩
  rw [text_eq, text_eq] at h
  obtain ⟨hsign, hmagnitude⟩ := Digits.signed_inj d.not_mem_magnitude e.not_mem_magnitude h
  obtain ⟨hscale, hdigits⟩ := magnitude_inj hmagnitude
  have habs : d.mantissa.natAbs = e.mantissa.natAbs := Digits.padded_inj hdigits
  obtain ⟨mantissa, scale⟩ := d
  obtain ⟨mantissa', scale'⟩ := e
  dsimp only at hsign habs hscale
  obtain rfl : mantissa = mantissa' := by omega
  rw [hscale]

example : text ⟨15, 1⟩ ≠ text ⟨150, 2⟩ := by decide

end Decimal

end SqlDialect
