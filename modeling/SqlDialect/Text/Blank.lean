import SqlDialect.Text.Basic

/-!
# Blank characters

A blank is a character of the Unicode class White_Space. The class is small and is kept as
ranges; the ASCII blanks and the usual no-break and ideographic spaces are in it, the
zero-width characters are not.

## Main definitions

* `Text.isBlank` — membership in White_Space
* `Text.trimStart`, `Text.trim` — a text without the blanks around it
* `Text.Blank` — blanks only

## Main results

* `Text.isBlank_of_isWhitespace` — every blank of the core library is a blank here
* `Text.trim_append` — trimming a text with blanks around it
-/

namespace SqlDialect

namespace Text

/-- The code points of White_Space, as ranges with both ends in. -/
def blankRanges : List (Nat × Nat) :=
  [(0x09, 0x0D), (0x20, 0x20), (0x85, 0x85), (0xA0, 0xA0), (0x1680, 0x1680), (0x2000, 0x200A),
   (0x2028, 0x2029), (0x202F, 0x202F), (0x205F, 0x205F), (0x3000, 0x3000)]

/-- Whether a code point lies in one of the ranges, which are in order. -/
def inRanges : List (Nat × Nat) → Nat → Bool
  | [], _ => false
  | (first, last) :: ranges, code =>
    if code < first then false else code ≤ last || inRanges ranges code

/-- Whether `c` is white space. -/
def isBlank (c : Char) : Bool := inRanges blankRanges c.toNat

/-- Every blank of the core library is a blank here. -/
theorem isBlank_of_isWhitespace {c : Char} (h : c.isWhitespace = true) : isBlank c = true := by
  simp only [Char.isWhitespace, Bool.or_eq_true, decide_eq_true_eq] at h
  rcases h with ((rfl | rfl) | rfl) | rfl <;> decide

/-- `text` without the blanks it starts with. -/
def trimStart (text : Text) : Text := text.dropWhile isBlank

/-- `text` without the blanks it starts and ends with. -/
def trim (text : Text) : Text := (trimStart (trimStart text).reverse).reverse

/-- Blanks only. -/
def Blank (text : Text) : Prop := ∀ c ∈ text, isBlank c = true

instance (text : Text) : Decidable (Blank text) := decidable_of_iff _ List.all_eq_true

theorem trimStart_append {before : Text} (h : Blank before) (text : Text) :
    trimStart (before ++ text) = trimStart text :=
  List.dropWhile_append_of_pos h

theorem trimStart_cons {c : Char} (h : isBlank c = false) (text : Text) :
    trimStart (c :: text) = c :: text := by
  rw [trimStart, List.dropWhile_cons_of_neg (by simp [h])]

theorem trimStart_of_head? {text : Text} (h : ∀ c ∈ text.head?, isBlank c = false) :
    trimStart text = text := by
  cases text with
  | nil => rfl
  | cons c text => exact trimStart_cons (h c rfl) text

theorem trim_of_blank {text : Text} (h : Blank text) : trim text = [] := by
  have hstart := trimStart_append h []
  rw [List.append_nil] at hstart
  rw [trim, hstart]
  rfl

/-- Trimming a text with blanks around it leaves the text, if no blank is left at its ends. -/
theorem trim_append {before text after : Text} (hbefore : Blank before) (hafter : Blank after)
    (hne : text ≠ []) (hhead : ∀ c ∈ text.head?, isBlank c = false)
    (hlast : ∀ c ∈ text.getLast?, isBlank c = false) : trim (before ++ text ++ after) = text := by
  have hstart : trimStart (text ++ after) = text ++ after := by
    refine trimStart_of_head? fun c hc => hhead c ?_
    cases text with
    | nil => exact absurd rfl hne
    | cons first text => exact hc
  have hend : trimStart (after.reverse ++ text.reverse) = text.reverse := by
    rw [trimStart_append fun c hc => hafter c (List.mem_reverse.mp hc)]
    exact trimStart_of_head? fun c hc => hlast c (by rwa [List.head?_reverse] at hc)
  rw [trim, List.append_assoc, trimStart_append hbefore, hstart, List.reverse_append, hend,
    List.reverse_reverse]

end Text

end SqlDialect
