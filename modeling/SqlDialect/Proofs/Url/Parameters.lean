import SqlDialect.Proofs.Url.Password

/-!
# Parameters are masked one by one

An ampersand or a semicolon ends a parameter and opens the next one. An address may be cut there:
what a pass makes of it is what the pass makes of the two pieces. So a mask never reaches over such
a separator, whatever stands in front of it and whatever key or value is open there.

## Where an address may be cut

The cut may fall into a key or a value, and neither is spoiled by it. A value ends at the separator
anyway. A key that is open at the separator is none: it would need its equals sign, and the look
ahead for that ends at the separator as it does at the end of the address
(`secretAhead_append_separator`).

A question mark opens a parameter as well, but an address may not be cut there. Inside a value it
belongs to the value and is masked with it.

## Main definitions

* `PasswordMask.parts` — what stands between the separators of an address
* `PasswordMask.maskPart`, `PasswordMask.maskParts` — the parts, each masked alone

## Main results

* `PasswordMask.apply_append_separator` — an address may be cut at a separator
* `PasswordMask.apply_part_by_part` — separators, parts and keys stay where they are
-/

namespace SqlDialect

namespace PasswordMask

variable {mark : Char} {front rest text : Text} {place : Place}

/-! ### Cutting an address -/

theorem inKey_of_separator (hmark : mark ∈ ['&', ';']) : inKey mark = false := by
  have hout : ¬ inKey mark = true := fun h => inKey_iff.mp h (List.mem_cons_of_mem _ hmark)
  simpa using hout

/-- The look ahead ends at a separator as it does at the end of the address. -/
theorem secretAhead_append_separator (hmark : mark ∈ ['&', ';']) (front rest : Text) :
    secretAhead (front ++ mark :: rest) = secretAhead front := by
  have hout := inKey_of_separator hmark
  have hother : mark ≠ '=' := by
    rintro rfl
    simp at hmark
  have hequals : (((front ++ mark :: rest).dropWhile inKey).head? == some '=')
      = ((front.dropWhile inKey).head? == some '=') := by
    induction front with
    | nil => simp [hout, hother]
    | cons c front ih =>
      by_cases hc : inKey c = true
      · simpa [hc] using ih
      · simp [hc]
  rw [secretAhead_eq, secretAhead_eq, Text.takeWhile_append_cons hout, hequals]

theorem Ended.append_separator (hmark : mark ∈ ['&', ';']) (h : Ended front) (rest : Text) :
    Ended (front ++ mark :: rest) := by
  cases front with
  | nil => simpa [Ended] using hmark
  | cons c front => exact h

/-- **An address may be cut at a separator.** The induction is along the passwords in front of it,
and the last of their values may be cut by the separator. -/
theorem apply_append_separator (hmark : mark ∈ ['&', ';']) (front rest : Text) :
    apply (front ++ mark :: rest) = apply front ++ apply (mark :: rest) := by
  have hall := replacesAll_apply front
  generalize apply front = masked at hall ⊢
  induction hall with
  | nil => rfl
  | @replace _ behind _ masked hmatch _ ih =>
    obtain ⟨opening, key, value, hopening, hkey, hvalue, hbehind⟩ := hmatch
    have hcut : opening :: (key ++ '=' :: value) ++ behind ++ mark :: rest
        = opening :: (key ++ '=' :: (value ++ (behind ++ mark :: rest))) := by simp
    rw [hcut, apply_parameter hopening hkey hvalue (hbehind.append_separator hmark rest), ih]
    simp
  | @keep c behind masked hplain _ ih =>
    have hstill : ¬ (opens c = true ∧ secretAhead (behind ++ mark :: rest) = true) := by
      rwa [secretAhead_append_separator hmark, ← startsMatch_iff]
    rw [List.cons_append, apply_cons_of_plain hstill, ih, List.cons_append]

/-! ### Parts -/

/-- What stands between the separators of an address. There is always one part. -/
def parts (url : Text) : List Text := url.splitOnP closes

/-- A part behind a separator, masked: the separator has opened its key. -/
def maskPart (part : Text) : Text := applyFrom (if secretAhead part then .key else .elsewhere) part

/-- The parts of an address, masked. No separator stands in front of the first one. -/
def maskParts : List Text → List Text
  | [] => []
  | first :: others => apply first :: others.map maskPart

/-- The key of a part: what stands in front of its equals sign. -/
def keyOf (part : Text) : Text := part.takeWhile inKey

theorem parts_append_separator (hmark : mark ∈ ['&', ';']) (front rest : Text) :
    parts (front ++ mark :: rest) = parts front ++ parts rest :=
  List.splitOnP_append_cons front rest (closes_iff.mpr hmark)

theorem parts_of_filter_eq_nil (h : text.filter closes = []) : parts text = [text] := by
  refine List.splitOnP_eq_singleton fun c hc => ?_
  simpa using List.filter_eq_nil_iff.mp h c hc

theorem parts_part_append (h : text.filter closes = []) (hmark : mark ∈ ['&', ';']) (rest : Text) :
    parts (text ++ mark :: rest) = text :: parts rest := by
  rw [parts_append_separator hmark, parts_of_filter_eq_nil h, List.singleton_append]

theorem filter_closes_of_disjoint (h : text.Disjoint ['&', ';']) : text.filter closes = [] :=
  List.filter_eq_nil_iff.mpr fun _ hc hclose => h hc (closes_iff.mp hclose)

/-- What is masked holds no separator, and neither do the stars. -/
theorem filter_closes_applyFrom (place : Place) (text : Text) :
    (applyFrom place text).filter closes = text.filter closes := by
  induction text generalizing place with
  | nil => cases place <;> rfl
  | cons c rest ih =>
    cases place with
    | elsewhere => simp only [applyFrom, List.filter_cons, ih]
    | key =>
      rw [applyFrom]
      split
      · next hc =>
        subst hc
        simpa [closes, stars] using ih .value
      · simp only [List.filter_cons, ih]
    | value =>
      rw [applyFrom]
      split
      · simp only [List.filter_cons, ih]
      · next hopen => simp only [List.filter_cons, hopen, ih, Bool.false_eq_true, if_false]

theorem apply_cons_separator (hmark : mark ∈ ['&', ';']) (rest : Text) :
    apply (mark :: rest) = mark :: maskPart rest := by
  have hopen : opens mark = true := opens_iff.mpr (List.mem_cons_of_mem _ hmark)
  rw [apply, applyFrom, hopen, Bool.true_and, maskPart]

theorem maskPart_append_separator (hmark : mark ∈ ['&', ';']) (front rest : Text) :
    maskPart (front ++ mark :: rest) = maskPart front ++ mark :: maskPart rest := by
  have hcut := apply_append_separator hmark (mark :: front) rest
  rw [List.cons_append, apply_cons_separator hmark, apply_cons_separator hmark,
    apply_cons_separator hmark, List.cons_append] at hcut
  exact (List.cons.inj hcut).2

/-- A part with a password keeps its key, and its value is masked to its end. -/
theorem maskPart_secret {key value : Text} (hkey : SecretKey key)
    (hvalue : value.Disjoint ['&', ';']) :
    maskPart (key ++ '=' :: value) = key ++ '=' :: stars := by
  have hmark : '&' ∈ ['?', '&', ';'] := by decide
  have hended : Ended [] := nofun
  have hmasked := apply_parameter hmark hkey hvalue hended
  rw [List.append_nil, apply_cons_separator (by decide)] at hmasked
  exact (List.cons.inj hmasked).2

/-- Behind a separator every part is masked alone. -/
theorem parts_maskPart (text : Text) : parts (maskPart text) = (parts text).map maskPart := by
  induction hlength : text.length using Nat.strong_induction_on generalizing text with
  | _ length ih =>
    obtain ⟨part, rest, rfl, hpart, hrest⟩ := exists_value text
    have hnone := filter_closes_of_disjoint hpart
    have hmasked : (maskPart part).filter closes = [] := by
      rw [maskPart, filter_closes_applyFrom, hnone]
    cases rest with
    | nil =>
      rw [List.append_nil, parts_of_filter_eq_nil hnone, parts_of_filter_eq_nil hmasked]
      rfl
    | cons mark rest =>
      have hmark : mark ∈ ['&', ';'] := hrest mark rfl
      have hshorter : rest.length < length := by
        rw [← hlength, List.length_append, List.length_cons]
        omega
      rw [maskPart_append_separator hmark, parts_part_append hmasked hmark,
        parts_part_append hnone hmark, ih _ hshorter rest rfl, List.map_cons]

/-- Every part of an address is masked alone. -/
theorem parts_apply (url : Text) : parts (apply url) = maskParts (parts url) := by
  obtain ⟨first, rest, rfl, hfirst, hrest⟩ := exists_value url
  have hnone := filter_closes_of_disjoint hfirst
  have hmasked : (apply first).filter closes = [] := by
    rw [apply, filter_closes_applyFrom, hnone]
  cases rest with
  | nil =>
    rw [List.append_nil, parts_of_filter_eq_nil hnone, parts_of_filter_eq_nil hmasked]
    rfl
  | cons mark rest =>
    have hmark : mark ∈ ['&', ';'] := hrest mark rfl
    rw [apply_append_separator hmark, apply_cons_separator hmark, parts_part_append hmasked hmark,
      parts_part_append hnone hmark, parts_maskPart, maskParts]

/-! ### Keys -/

theorem keyOf_maskPart (part : Text) : keyOf (maskPart part) = keyOf part := by
  refine (keyAhead_applyFrom ?_ part).1
  split <;> simp

/-- Masking keeps the keys, in their order. -/
theorem map_keyOf_maskParts (parts : List Text) :
    (maskParts parts).map keyOf = parts.map keyOf := by
  cases parts with
  | nil => rfl
  | cons first others =>
    have hfirst : keyOf (apply first) = keyOf first := (keyAhead_applyFrom (by simp) first).1
    have hothers : keyOf ∘ maskPart = keyOf := funext keyOf_maskPart
    rw [maskParts, List.map_cons, List.map_map, hfirst, hothers, List.map_cons]

/-- **Parameters are masked one by one.** An address may be cut at an ampersand or a semicolon, and
its pieces masked alone. So the separators of every address stay, in their order, and so do the
parts between them with their keys: the parts of the masked address are the masked parts. In a part
with a password the stars reach from its key to its end. -/
theorem apply_part_by_part (hmark : mark ∈ ['&', ';']) (front rest : Text) :
    apply (front ++ mark :: rest) = apply front ++ apply (mark :: rest) ∧
      (∀ url : Text, (apply url).filter closes = url.filter closes ∧
        parts (apply url) = maskParts (parts url) ∧
        (parts (apply url)).map keyOf = (parts url).map keyOf) ∧
      ∀ key value : Text, SecretKey key → value.Disjoint ['&', ';'] →
        maskPart (key ++ '=' :: value) = key ++ '=' :: stars := by
  refine ⟨apply_append_separator hmark front rest, fun url => ⟨?_, parts_apply url, ?_⟩,
    fun _ _ => maskPart_secret⟩
  · exact filter_closes_applyFrom .elsewhere url
  · rw [parts_apply, map_keyOf_maskParts]

/-- A cut in the middle of the word. -/
theorem apply_part_by_part_open_key :
    '&' ∈ ['&', ';'] ∧
      apply ("db?pass" ++ '&' :: "word=x;PASSWORD=y?z")
        = apply "db?pass" ++ apply ('&' :: "word=x;PASSWORD=y?z") ∧
      parts (apply "db?pass&word=x;PASSWORD=y?z") = ["db?pass", "word=x", "PASSWORD=****"] ∧
      maskPart ("PASSWORD" ++ '=' :: "y?z") = "PASSWORD" ++ '=' :: stars := by
  have hmark : '&' ∈ ['&', ';'] := by decide
  have hmasked : maskParts (parts "db?pass&word=x;PASSWORD=y?z")
      = ["db?pass", "word=x", "PASSWORD=****"] := by decide
  have hkey : SecretKey "PASSWORD" := ⟨by simp, by decide⟩
  obtain ⟨hcut, hparts, hsecret⟩ := apply_part_by_part hmark "db?pass" "word=x;PASSWORD=y?z"
  exact ⟨hmark, hcut, (hparts _).2.1.trans hmasked, hsecret _ _ hkey (by simp)⟩

example : apply ("db?password=a" ++ '?' :: "b") ≠ apply "db?password=a" ++ apply ('?' :: "b") := by
  decide

end PasswordMask

end SqlDialect
