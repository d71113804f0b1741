import SqlDialect.Json.Reader
import SqlDialect.Proofs.Json.Number

/-!
# How texts and keys are spelled

One text can be spelled in many ways between its quotes: a character may stand for itself, be
written behind a backslash, or be given by its number, and a character beyond 16 bits by two
numbers. `Spelled` lists the ways, one for each form, without saying how they are told apart.

## Telling the forms apart

The reader does tell them apart, by trying the longer forms first. The letter `u` is the only mark
that starts more than one form, and it is no mark by itself, so no text has two readings and the
order in which the forms are tried does not matter.

## Main definitions

* `Json.Space` — space only
* `Json.Spelled` — how a text is spelled between quotes

## Main results

* `Json.string?_eq_some_iff` — texts are read as they are spelled
* `Json.key?_eq_some_iff` — the same for a key and its colon
-/

namespace SqlDialect

namespace Json

/-! ### Space -/

/-- Space only. -/
def Space (text : Text) : Prop := ∀ c ∈ text, isSpace c = true

instance (text : Text) : Decidable (Space text) := decidable_of_iff _ List.all_eq_true

theorem space_nil : Space [] := nofun

theorem skipSpace_append {front : Text} (h : Space front) (text : Text) :
    skipSpace (front ++ text) = skipSpace text :=
  List.dropWhile_append_of_pos h

theorem skipSpace_cons {c : Char} (h : isSpace c = false) (text : Text) :
    skipSpace (c :: text) = c :: text := by
  simp [skipSpace, h]

/-- What is skipped is space. -/
theorem exists_skipSpace (text : Text) : ∃ front, Space front ∧ text = front ++ skipSpace text :=
  ⟨text.takeWhile isSpace, List.all_eq_true.mp List.all_takeWhile,
    List.takeWhile_append_dropWhile.symm⟩

theorem skipSpace_eq_nil_iff {text : Text} : skipSpace text = [] ↔ Space text := by
  constructor
  · intro h
    obtain ⟨front, hfront, htext⟩ := exists_skipSpace text
    rwa [htext, h, List.append_nil]
  · intro h
    rw [← List.append_nil text, skipSpace_append h]
    rfl

/-- No number goes on into space, nor into what ends a number behind space. -/
theorem endsNumber_append {front rest : Text} (hfront : Space front) (hrest : EndsNumber rest) :
    EndsNumber (front ++ rest) := by
  cases front with
  | nil => exact hrest
  | cons c front =>
    have hc := hfront c List.mem_cons_self
    simp only [isSpace, Bool.or_eq_true, beq_iff_eq] at hc
    rcases hc with ((rfl | rfl) | rfl) | rfl <;> exact endsNumber_cons.mpr rfl

/-! ### Texts in quotes -/

/-- How a text is spelled between quotes. -/
inductive Spelled : Text → Text → Prop where
  /-- The empty text. -/
  | nil : Spelled [] []
  /-- A character that stands for itself. -/
  | plain {c : Char} {body text : Text} (quote : c ≠ '"') (backslash : c ≠ '\\')
      (visible : ¬ c.toNat < 0x20) (rest : Spelled body text) : Spelled (c :: body) (c :: text)
  /-- A backslash and a letter or mark. -/
  | escaped {mark c : Char} {body text : Text} (mark_eq : escaped? mark = some c)
      (rest : Spelled body text) : Spelled ('\\' :: mark :: body) (c :: text)
  /-- The number of a character. -/
  | unit {a b c d : Char} {unit : Nat} {body text : Text} (unit_eq : hexUnit? a b c d = some unit)
      (trailing : isTrailing unit = false) (leading : isLeading unit = false)
      (rest : Spelled body text) :
      Spelled ('\\' :: 'u' :: a :: b :: c :: d :: body) (Char.ofNat unit :: text)
  /-- The two numbers of a character beyond 16 bits. -/
  | pair {a b c d a' b' c' d' : Char} {first second : Nat} {body text : Text}
      (first_eq : hexUnit? a b c d = some first) (notTrailing : isTrailing first = false)
      (leading : isLeading first = true)
      (second_eq : hexUnit? a' b' c' d' = some second) (trailing : isTrailing second = true)
      (rest : Spelled body text) :
      Spelled ('\\' :: 'u' :: a :: b :: c :: d :: '\\' :: 'u' :: a' :: b' :: c' :: d' :: body)
        (Char.ofNat (0x10000 + 1024 * (first - 0xD800) + (second - 0xDC00)) :: text)

/-- Whether a character may stand for itself between quotes. -/
def isPlain (c : Char) : Bool := c ≠ '"' && c ≠ '\\' && !(c.toNat < 0x20)

/-- A text of which no character needs a backslash is spelled as it is. -/
theorem spelled_self (text : Text) (h : text.all isPlain = true) : Spelled text text := by
  induction text with
  | nil => exact .nil
  | cons c text ih =>
    rw [List.all_cons, Bool.and_eq_true] at h
    obtain ⟨⟨hquote, hbackslash⟩, hvisible⟩ :
        (c ≠ '"' ∧ c ≠ '\\') ∧ ¬ c.toNat < 0x20 := by simpa [isPlain] using h.1
    exact .plain hquote hbackslash hvisible (ih h.2)

/-- A letter or mark that is written behind a backslash is not the one before a number. -/
theorem ne_of_escaped? {mark c : Char} (h : escaped? mark = some c) : mark ≠ 'u' := by
  rintro rfl
  cases h

theorem string?_escaped {mark : Char} (h : mark ≠ 'u') (rest : Text) :
    string? ('\\' :: mark :: rest) = (do
      let character ← escaped? mark
      let (text, after) ← string? rest
      some (character :: text, after)) := by
  rw [string?]
  rintro - - - - - rfl
  exact absurd rfl h

theorem string?_plain {c : Char} (quote : c ≠ '"') (backslash : c ≠ '\\') (rest : Text) :
    string? (c :: rest) =
      if c.toNat < 0x20 then none
      else (string? rest).map fun (text, after) => (c :: text, after) := by
  rw [string?]
  · exact quote
  · exact fun _ _ _ _ _ hc _ => backslash hc
  · exact fun _ _ hc _ => backslash hc

/-- What is spelled between quotes is read up to the closing quote. -/
theorem string?_of_spelled {body text : Text} (h : Spelled body text) (rest : Text) :
    string? (body ++ '"' :: rest) = some (text, rest) := by
  induction h with
  | nil => rfl
  | plain quote backslash visible h ih =>
    rw [List.cons_append, string?_plain quote backslash, if_neg visible, ih]
    rfl
  | escaped mark_eq h ih =>
    rw [List.cons_append, List.cons_append, string?_escaped (ne_of_escaped? mark_eq), mark_eq, ih]
    rfl
  | unit unit_eq trailing leading h ih => simp [string?, unit_eq, trailing, leading, ih]
  | pair first_eq notTrailing leading second_eq trailing h ih =>
    simp [string?, first_eq, notTrailing, leading, second_eq, trailing, ih]

/-- A text that is read is spelled up to the quote that closes it. -/
theorem spelled_of_string? {text value rest : Text} (h : string? text = some (value, rest)) :
    ∃ body, text = body ++ '"' :: rest ∧ Spelled body value := by
  induction text using string?.induct generalizing value rest with
  | case1 after =>
    obtain ⟨rfl, rfl⟩ : [] = value ∧ after = rest := by simpa [string?] using h
    exact ⟨[], rfl, .nil⟩
  | case2 a b c d text ihPair ih =>
    rw [string?] at h
    obtain ⟨unit, hunit, h⟩ := Option.bind_eq_some_iff.mp h
    split at h
    case isTrue => cases h
    case isFalse htrailing =>
    have htrailing := eq_false_of_ne_true htrailing
    split at h
    case isTrue hleading =>
      split at h
      · obtain ⟨second, hsecond, h⟩ := Option.bind_eq_some_iff.mp h
        split at h
        case isTrue hpaired =>
          obtain ⟨⟨value, after⟩, hstring, h⟩ := Option.bind_eq_some_iff.mp h
          cases h
          obtain ⟨body, rfl, hbody⟩ := ihPair hstring
          exact ⟨_, rfl, .pair hunit htrailing hleading hsecond hpaired hbody⟩
        case isFalse => cases h
      · cases h
    case isFalse hleading =>
      obtain ⟨⟨value, after⟩, hstring, h⟩ := Option.bind_eq_some_iff.mp h
      cases h
      obtain ⟨body, rfl, hbody⟩ := ih hstring
      exact ⟨_, rfl, .unit hunit htrailing (eq_false_of_ne_true hleading) hbody⟩
  | case3 mark text hnumber ih =>
    rw [string?.eq_3 mark text hnumber] at h
    obtain ⟨c, hmark, h⟩ := Option.bind_eq_some_iff.mp h
    obtain ⟨⟨value, after⟩, hstring, h⟩ := Option.bind_eq_some_iff.mp h
    cases h
    obtain ⟨body, rfl, hbody⟩ := ih hstring
    exact ⟨_, rfl, .escaped hmark hbody⟩
  | case4 c text hquote _ _ hcontrol =>
    have hbackslash : c ≠ '\\' := by
      rintro rfl
      exact absurd hcontrol (by decide)
    rw [string?_plain hquote hbackslash, if_pos hcontrol] at h
    cases h
  | case5 c text hquote _ hmark hcontrol ih =>
    have hbackslash : c ≠ '\\' := by
      rintro rfl
      cases text with
      | nil => cases h
      | cons c text => exact hmark _ _ rfl rfl
    rw [string?_plain hquote hbackslash, if_neg hcontrol] at h
    obtain ⟨⟨value, after⟩, hstring, h⟩ := Option.map_eq_some_iff.mp h
    cases h
    obtain ⟨body, rfl, hbody⟩ := ih hstring
    exact ⟨_, rfl, .plain hquote hbackslash hcontrol hbody⟩
  | case6 => cases h

/-- **Texts are read as they are spelled.** -/
theorem string?_eq_some_iff {text value rest : Text} :
    string? text = some (value, rest) ↔
      ∃ body, text = body ++ '"' :: rest ∧ Spelled body value := by
  refine ⟨spelled_of_string?, ?_⟩
  rintro ⟨body, rfl, hbody⟩
  exact string?_of_spelled hbody rest

/-! ### Keys -/

/-- A key is read up to the text behind its colon. -/
theorem key?_eq_some_iff {text key rest : Text} :
    key? text = some (key, rest) ↔ ∃ body behind after, Spelled body key ∧ Space behind ∧
      text = '"' :: (body ++ '"' :: (behind ++ ':' :: after)) ∧ rest = skipSpace after := by
  constructor
  · intro h
    unfold key? at h
    split at h
    · obtain ⟨⟨key, closed⟩, hstring, h⟩ := Option.bind_eq_some_iff.mp h
      obtain ⟨after, hcolon, h⟩ := Option.bind_eq_some_iff.mp h
      cases h
      obtain ⟨body, rfl, hbody⟩ := spelled_of_string? hstring
      obtain ⟨behind, hbehind, hclosed⟩ := exists_skipSpace closed
      rw [Text.after?_eq_some_iff.mp hcolon] at hclosed
      exact ⟨body, behind, after, hbody, hbehind, by rw [hclosed]; rfl, rfl⟩
    · cases h
  · rintro ⟨body, behind, after, hbody, hbehind, rfl, rfl⟩
    have hcolon : Text.after? ":" (':' :: after) = some after := Text.after?_append ":" after
    simp only [key?, string?_of_spelled hbody, Option.bind_eq_bind, Option.bind_some,
      skipSpace_append hbehind, skipSpace_cons (c := ':') rfl, hcolon]

end Json

end SqlDialect
