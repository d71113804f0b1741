import Mathlib.Data.Nat.Init
import SqlDialect.Text.Basic

/-!
# Matches replaced from left to right

A pass over an address looks for a pattern and replaces what matches. It is written as a machine
that passes each character once and knows where it stands, and nothing in it looks like a pattern.
What it carries out is said here without a machine, by the matches alone: where one starts it is
replaced and the search goes on behind it, and a character with which none starts is kept. So the
leftmost match comes first, and matches do not overlap.

## What a pattern is

A pattern relates a match, the text behind it, and what takes its place. The text behind is there
for matches that are as long as can be: such a match is one in front of some texts and not in front
of others.

## Main definitions

* `StartsMatch` — a text starts with a match
* `ReplacesAll` — a text and what is left of it with all its matches replaced

## Main results

* `ReplacesAll.eq_iff` — a pass is known from what it does at the front of a text
-/

namespace SqlDialect

variable {Match : Text → Text → Text → Prop}

/-- A match of the pattern stands at the front of `text`. -/
def StartsMatch (Match : Text → Text → Text → Prop) (text : Text) : Prop :=
  ∃ found behind written, text = found ++ behind ∧ Match found behind written

/-- `masked` is `text` with the matches of the pattern replaced, from left to right. -/
inductive ReplacesAll (Match : Text → Text → Text → Prop) : Text → Text → Prop where
  /-- Nothing is left. -/
  | nil : ReplacesAll Match [] []
  /-- A match is replaced, and the search goes on behind it. -/
  | replace {found behind written masked : Text} : Match found behind written →
      ReplacesAll Match behind masked → ReplacesAll Match (found ++ behind) (written ++ masked)
  /-- A character with which no match starts is kept. -/
  | keep (c : Char) {behind masked : Text} : ¬ StartsMatch Match (c :: behind) →
      ReplacesAll Match behind masked → ReplacesAll Match (c :: behind) (c :: masked)

/-- **A pass is known from what it does at the front of a text.** If it replaces a match that stands
there and otherwise keeps the first character, and if no match is empty, then it replaces all
matches, and nothing else does. -/
theorem ReplacesAll.eq_iff {pass : Text → Text} {text masked : Text} (hnil : pass [] = [])
    (hmatch : ∀ found behind written, Match found behind written →
      found ≠ [] ∧ pass (found ++ behind) = written ++ pass behind)
    (hplain : ∀ c behind, ¬ StartsMatch Match (c :: behind) →
      pass (c :: behind) = c :: pass behind) :
    pass text = masked ↔ ReplacesAll Match text masked := by
  constructor
  · rintro rfl
    induction hlength : text.length using Nat.strong_induction_on generalizing text with
    | _ length ih =>
      by_cases hstart : StartsMatch Match text
      · obtain ⟨found, behind, written, rfl, hfound⟩ := hstart
        obtain ⟨hsome, hpass⟩ := hmatch found behind written hfound
        have hpos : 0 < found.length := List.length_pos_iff.mpr hsome
        rw [hpass]
        exact .replace hfound (ih _ (by simp [← hlength, hpos]) rfl)
      · cases text with
        | nil =>
          rw [hnil]
          exact .nil
        | cons c behind =>
          rw [hplain c behind hstart]
          exact .keep c hstart (ih _ (by simp [← hlength]) rfl)
  · intro h
    induction h with
    | nil => exact hnil
    | replace hfound _ ih => rw [(hmatch _ _ _ hfound).2, ih]
    | keep c hstart _ ih => rw [hplain c _ hstart, ih]

end SqlDialect
