/-!
# Text

A text is a list of characters. Every rule of the library reads a text from its front, and a
list is what such a rule recurses on; a `String` is turned into a text once, where it enters.

## Searching

Occurrences are found from the left and do not overlap. `splitOnce` cuts a text at the first
occurrence of a mark, and `doubled` writes every occurrence of a mark twice, which is how SQL
writes a quote inside quotes.

`doubled` walks the text once. Inside an occurrence it only copies, and a counter says how many
characters of the occurrence are left: there is no index into the text and no measure to argue
about.

## Main definitions

* `Text` — a list of characters
* `Text.after?` — what follows a mark that the text starts with
* `Text.occursIn` — whether a mark occurs in a text
* `Text.splitOnce` — the text before and after the first occurrence of a mark
* `Text.doubled` — every occurrence of a mark written twice
* `Text.splitAll` — the pieces between the occurrences of a character
* `Text.join` — texts with a separator between them
* `Text.asciiLower`, `Text.asciiUpper` — case change of the ASCII letters only

## Main results

* `Text.doubled_append`, `Text.doubled_cons_of_unmarked` — what doubling does to an occurrence
  and to any other character; together with `Text.induction_on_mark` nothing else is needed of it
* `Text.splitAll_join` — joined pieces are split into the same pieces
-/

namespace SqlDialect

/-- A text: its characters, first to last. -/
abbrev Text := List Char

instance : Coe String Text := ⟨String.toList⟩

namespace Text

/-- `parts` with `separator` between every two of them. -/
def join (separator : Text) (parts : List Text) : Text := separator.intercalate parts

@[simp] theorem join_nil (separator : Text) : join separator [] = [] := rfl

@[simp] theorem join_singleton (separator part : Text) : join separator [part] = part := by
  simp [join]

@[simp] theorem join_cons_cons (separator first second : Text) (parts : List Text) :
    join separator (first :: second :: parts)
      = first ++ separator ++ join separator (second :: parts) :=
  List.intercalate_cons_cons

/-- One part more at the end. -/
theorem join_concat (separator last : Text) {parts : List Text} (h : parts ≠ []) :
    join separator (parts ++ [last]) = join separator parts ++ separator ++ last := by
  induction parts with
  | nil => exact absurd rfl h
  | cons first parts ih =>
    cases parts with
    | nil => simp
    | cons second parts =>
      rw [List.cons_append, List.cons_append, join_cons_cons, ← List.cons_append,
        ih (List.cons_ne_nil second parts), join_cons_cons]
      simp only [List.append_assoc]

/-- A character of joined parts belongs to the separator or to a part. -/
theorem mem_join {separator : Text} {parts : List Text} {c : Char} (h : c ∈ join separator parts) :
    c ∈ separator ∨ ∃ part ∈ parts, c ∈ part := by
  induction parts with
  | nil => simp at h
  | cons first parts ih =>
    cases parts with
    | nil => exact .inr ⟨first, by simp, by simpa using h⟩
    | cons second parts =>
      simp only [join_cons_cons, List.mem_append] at h
      rcases h with (h | h) | h
      · exact .inr ⟨first, List.mem_cons_self, h⟩
      · exact .inl h
      · rcases ih h with h | ⟨part, hpart, hc⟩
        · exact .inl h
        · exact .inr ⟨part, List.mem_cons_of_mem first hpart, hc⟩

/-- What is read up to a mark does not depend on what comes behind the mark. -/
theorem takeWhile_append_cons {p : Char → Bool} {mark : Char} (h : p mark = false)
    (front rest : Text) : (front ++ mark :: rest).takeWhile p = front.takeWhile p := by
  induction front with
  | nil => simp [h]
  | cons c front ih => simp only [List.cons_append, List.takeWhile_cons, ih]

/-! ### Occurrences of a mark -/

/-- What follows `mark` in a text that starts with it. -/
def after? : Text → Text → Option Text
  | [], text => some text
  | _ :: _, [] => none
  | m :: mark, c :: text => if m = c then after? mark text else none

theorem after?_eq_some_iff {mark text rest : Text} :
    after? mark text = some rest ↔ text = mark ++ rest := by
  induction mark generalizing text with
  | nil => simp [after?]
  | cons m mark ih =>
    cases text with
    | nil => simp [after?]
    | cons c text =>
      by_cases h : m = c
      · simp [after?, h, ih]
      · simp [after?, h, Ne.symm h]

@[simp] theorem after?_append (mark rest : Text) : after? mark (mark ++ rest) = some rest :=
  after?_eq_some_iff.mpr rfl

/-- The text before and after the first occurrence of `mark`. -/
def splitOnce (mark : Text) : Text → Option (Text × Text)
  | [] => if mark.isEmpty then some ([], []) else none
  | c :: rest =>
    match after? mark (c :: rest) with
    | some after => some ([], after)
    | none => (splitOnce mark rest).map fun (before, after) => (c :: before, after)

/-- A text is cut at the first occurrence of a character. -/
theorem splitOnce_singleton_append {m : Char} {before : Text} (h : m ∉ before) (after : Text) :
    splitOnce [m] (before ++ m :: after) = some (before, after) := by
  induction before with
  | nil => simp [splitOnce, after?]
  | cons c before ih =>
    obtain ⟨hc, hbefore⟩ := List.ne_and_not_mem_of_not_mem_cons h
    simp [splitOnce, after?, hc, ih hbefore]

/-- A mark that is in neither beginning tells where the two end. -/
theorem append_mark_inj {m : Char} {before before' after after' : Text} (h : m ∉ before)
    (h' : m ∉ before') (hsame : before ++ m :: after = before' ++ m :: after') :
    before = before' ∧ after = after' := by
  have hcut := congrArg (splitOnce [m]) hsame
  rw [splitOnce_singleton_append h, splitOnce_singleton_append h'] at hcut
  exact Prod.mk.inj (Option.some.inj hcut)

/-- A text without the character is not cut. -/
theorem splitOnce_singleton_eq_none {m : Char} {text : Text} (h : m ∉ text) :
    splitOnce [m] text = none := by
  induction text with
  | nil => rfl
  | cons c text ih =>
    obtain ⟨hc, htext⟩ := List.ne_and_not_mem_of_not_mem_cons h
    simp [splitOnce, after?, hc, ih htext]

/-- Whether `mark` occurs in a text. -/
def occursIn (mark : Text) : Text → Bool
  | [] => mark.isEmpty
  | c :: rest => mark.isPrefixOf (c :: rest) || occursIn mark rest

theorem occursIn_iff {mark text : Text} : occursIn mark text = true ↔ mark <:+: text := by
  induction text with
  | nil => simp [occursIn]
  | cons c rest ih => simp [occursIn, ih, List.infix_cons_iff]

/-- `text` from a place where `pending` characters of an occurrence of `mark` are still to be
copied; outside an occurrence `pending` is zero. -/
def doubledFrom (mark : Text) : Nat → Text → Text
  | _, [] => []
  | pending + 1, c :: rest => c :: doubledFrom mark pending rest
  | 0, c :: rest =>
    if mark.isPrefixOf (c :: rest) then
      mark ++ c :: doubledFrom mark (mark.length - 1) rest
    else
      c :: doubledFrom mark 0 rest

/-- `text` with every occurrence of `mark` written twice. An empty mark occurs nowhere. -/
def doubled (mark text : Text) : Text :=
  if mark.isEmpty then text else doubledFrom mark 0 text

@[simp] theorem doubled_nil (mark : Text) : doubled mark [] = [] := by
  unfold doubled; split <;> rfl

/-- The characters of an occurrence are copied as they are. -/
theorem doubledFrom_append (mark : Text) (occurrence rest : Text) :
    doubledFrom mark occurrence.length (occurrence ++ rest)
      = occurrence ++ doubledFrom mark 0 rest := by
  induction occurrence with
  | nil => rfl
  | cons c occurrence ih => simp [doubledFrom, ih]

/-- An occurrence of the mark is written twice. -/
theorem doubled_append (mark rest : Text) :
    doubled mark (mark ++ rest) = mark ++ mark ++ doubled mark rest := by
  cases mark with
  | nil => rfl
  | cons m mark =>
    have here : (m :: mark).isPrefixOf (m :: (mark ++ rest)) = true := by simp
    simp only [doubled, List.isEmpty_cons, Bool.false_eq_true, if_false, List.cons_append,
      doubledFrom, here, if_true, List.length_cons, Nat.add_sub_cancel, doubledFrom_append,
      List.append_assoc]

/-- A character with which no occurrence of the mark starts is written once. -/
theorem doubled_cons_of_unmarked {mark rest : Text} {c : Char} (h : ¬ mark <+: c :: rest) :
    doubled mark (c :: rest) = c :: doubled mark rest := by
  have marked : mark.isEmpty = false := by
    cases mark with
    | nil => exact absurd List.nil_prefix h
    | cons m mark => rfl
  have elsewhere : ¬ mark.isPrefixOf (c :: rest) = true := by simpa using h
  simp only [doubled, marked, Bool.false_eq_true, if_false, doubledFrom, elsewhere]

/-- Doubling a mark of one character looks at each character alone. -/
theorem doubled_singleton (m : Char) (text : Text) :
    doubled [m] text = text.flatMap fun c => if c = m then [m, m] else [c] := by
  induction text with
  | nil => rfl
  | cons c rest ih =>
    rw [List.flatMap_cons, ← ih]
    by_cases h : c = m
    · subst h
      simpa using doubled_append [c] rest
    · rw [doubled_cons_of_unmarked (by simpa using Ne.symm h), if_neg h]
      rfl

/-- Induction along the occurrences of a mark: a text is empty, or starts with the mark, or starts
with a character that belongs to no occurrence. -/
@[elab_as_elim]
theorem induction_on_mark {mark : Text} (marked : mark ≠ []) {motive : Text → Prop} (text : Text)
    (nil : motive []) (occurrence : ∀ rest, motive rest → motive (mark ++ rest))
    (cons : ∀ c rest, ¬ mark <+: c :: rest → motive rest → motive (c :: rest)) : motive text :=
  match text with
  | [] => nil
  | c :: text => by
    by_cases h : mark <+: c :: text
    · obtain ⟨rest, hrest⟩ := h
      have shorter : rest.length < (c :: text).length := by
        have := List.length_pos_iff.mpr marked
        rw [← hrest, List.length_append]
        omega
      rw [← hrest]
      exact occurrence rest (induction_on_mark marked rest nil occurrence cons)
    · exact cons c text h (induction_on_mark marked text nil occurrence cons)
termination_by text.length
decreasing_by
  · exact shorter
  · exact Nat.lt_add_one text.length

/-- The pieces of `text` between the occurrences of the character `mark`; there is always one. -/
def splitAll (mark : Char) : Text → List Text
  | [] => [[]]
  | c :: rest =>
    if c = mark then [] :: splitAll mark rest
    else match splitAll mark rest with
      | [] => [[c]]
      | piece :: pieces => (c :: piece) :: pieces

theorem splitAll_cons_of_ne {mark c : Char} {rest piece : Text} {pieces : List Text} (h : c ≠ mark)
    (hrest : splitAll mark rest = piece :: pieces) :
    splitAll mark (c :: rest) = (c :: piece) :: pieces := by
  rw [splitAll, if_neg h, hrest]

/-- A text without the mark is one piece. -/
theorem splitAll_of_not_mem {mark : Char} {text : Text} (h : mark ∉ text) :
    splitAll mark text = [text] := by
  induction text with
  | nil => rfl
  | cons c text ih =>
    obtain ⟨hc, htext⟩ := List.ne_and_not_mem_of_not_mem_cons h
    exact splitAll_cons_of_ne hc.symm (ih htext)

theorem splitAll_append_cons {mark : Char} {before : Text} (h : mark ∉ before) (after : Text) :
    splitAll mark (before ++ mark :: after) = before :: splitAll mark after := by
  induction before with
  | nil => simp [splitAll]
  | cons c before ih =>
    obtain ⟨hc, hbefore⟩ := List.ne_and_not_mem_of_not_mem_cons h
    exact splitAll_cons_of_ne hc.symm (ih hbefore)

/-- Pieces without the mark, joined by it, are the pieces between its occurrences. -/
theorem splitAll_join {mark : Char} {pieces : List Text} (h : ∀ piece ∈ pieces, mark ∉ piece)
    (hne : pieces ≠ []) : splitAll mark (join [mark] pieces) = pieces := by
  induction pieces with
  | nil => exact absurd rfl hne
  | cons first pieces ih =>
    obtain ⟨hfirst, hpieces⟩ := List.forall_mem_cons.mp h
    cases pieces with
    | nil => rw [join_singleton, splitAll_of_not_mem hfirst]
    | cons second pieces =>
      rw [join_cons_cons, List.append_assoc, List.singleton_append, splitAll_append_cons hfirst,
        ih hpieces (List.cons_ne_nil second pieces)]

/-! ### ASCII case

Only the letters `A` to `Z` and `a` to `z` change. -/

/-- The ASCII letters in lower case, everything else as it is. -/
def asciiLower (text : Text) : Text := text.map Char.toLower

/-- The ASCII letters in upper case, everything else as it is. -/
def asciiUpper (text : Text) : Text := text.map Char.toUpper

/-- Whether two texts are the same but for the case of ASCII letters. -/
def eqIgnoringAsciiCase (a b : Text) : Bool := asciiLower a == asciiLower b

end Text

end SqlDialect
