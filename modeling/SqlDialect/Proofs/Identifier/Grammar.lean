import Mathlib.Data.List.Infix
import Mathlib.Tactic.MkIffOfInductiveProp
import SqlDialect.Proofs.Identifier.RoundTrip

/-!
# The grammar of written names

Which texts are read as a qualified name, and as which one, when each of the three marks is a single
character. The grammar speaks of whole texts and does not know the reader: a written name is a
sequence of segments with separators between them, and a segment is a name in quotes or a bare text
that stands for itself.

## What the grammar lets through

Bare segments may be empty, so a separator may come first or twice, but not last: what would stand
behind it is the empty bare segment. A quote inside a bare segment is a character like any other. A
quoted segment may be empty wherever it stands.

## Why there is one reading only

The first segment of a text and what follows it are determined by the text
(`Segment.write_append_inj`). Two things are needed for that: the open quote may not be the
separator, or a text could both start with a quoted segment and with an empty bare one, and the
close quote may not be the separator, or the separator behind a quoted segment would double its
close quote. That open and close quote are the same is no problem.

## Main definitions

* `Rules.Segment` — a segment of a written name, with `Segment.name` and `Segment.write`
* `Rules.Reading` — the ways in which a text can be read

## Main results

* `Rules.Reading.eq` — a text has at most one reading
* `Rules.parseQualified_grammar` — reading a name and having a reading are the same
-/

namespace SqlDialect

namespace Rules

/-! ### The grammar -/

/-- A segment of a written name. -/
inductive Segment where
  /-- A name in quotes. -/
  | quoted (name : Text)
  /-- A text that stands for itself. -/
  | bare (text : Text)
  deriving DecidableEq

namespace Segment

/-- The name that a segment stands for. -/
def name : Segment → Text
  | quoted name => name
  | bare text => text

/-- The text of a segment. -/
def write (rules : Rules) : Segment → Text
  | quoted name => rules.quote name
  | bare text => text

/-- A bare segment may not have a separator in it and may not start with an open quote. -/
def Allowed (rules : Rules) : Segment → Prop
  | quoted _ => True
  | bare text => ¬ rules.separator <:+: text ∧ ¬ rules.openQuote <+: text

instance (rules : Rules) (segment : Segment) : Decidable (segment.Allowed rules) :=
  match segment with
  | quoted _ => .isTrue trivial
  | bare text =>
    inferInstanceAs (Decidable (¬ rules.separator <:+: text ∧ ¬ rules.openQuote <+: text))

end Segment

/-- `text` can be read as `segments`. -/
@[mk_iff]
structure Reading (rules : Rules) (text : Text) (segments : List Segment) : Prop where
  /-- There is a segment. -/
  ne_nil : segments ≠ []
  /-- Bare segments cannot be taken for something else. -/
  allowed : ∀ segment ∈ segments, segment.Allowed rules
  /-- The text does not end in a separator, and it is not empty. -/
  last_ne : segments.getLast? ≠ some (.bare [])
  /-- The text is written so. -/
  written : Text.join rules.separator (segments.map (Segment.write rules)) = text

instance (rules : Rules) (text : Text) (segments : List Segment) :
    Decidable (Reading rules text segments) :=
  decidable_of_iff _ (reading_iff rules text segments).symm

variable {rules : Rules} {text rest : Text} {segment : Segment} {segments segments' : List Segment}

/-- The first segment is the only one, or a separator and a reading of the rest follow. -/
theorem reading_cons_iff : Reading rules text (segment :: segments) ↔ segment.Allowed rules ∧
    ((segments = [] ∧ segment ≠ .bare [] ∧ text = segment.write rules) ∨
      ∃ rest, Reading rules rest segments ∧
        text = segment.write rules ++ (rules.separator ++ rest)) := by
  constructor
  · rintro ⟨-, hallowed, hlast, rfl⟩
    refine ⟨hallowed segment List.mem_cons_self, ?_⟩
    cases segments with
    | nil => exact .inl ⟨rfl, by simpa using hlast, by simp⟩
    | cons next segments =>
      refine .inr ⟨_, ⟨List.cons_ne_nil next segments, ?_, ?_, rfl⟩, by simp⟩
      · exact fun other hother => hallowed other (List.mem_cons_of_mem segment hother)
      · simpa using hlast
  · rintro ⟨hsegment, ⟨rfl, hlast, rfl⟩ | ⟨rest, ⟨hne, hallowed, hlast, rfl⟩, rfl⟩⟩
    · exact ⟨List.cons_ne_nil _ _, by simpa using hsegment, by simpa using hlast, by simp⟩
    · obtain ⟨next, segments, rfl⟩ := List.exists_cons_of_ne_nil hne
      exact ⟨List.cons_ne_nil _ _, List.forall_mem_cons.mpr ⟨hsegment, hallowed⟩,
        by simpa using hlast, by simp⟩

/-! ### Marks of one character -/

/-- Rules whose marks are single characters. -/
def single (separator left right : Char) : Rules := ⟨[separator], [left], [right]⟩

variable {separator left right : Char}

theorem ansi_eq_single : ansi = single '.' '"' '"' := rfl

theorem single_distinct (hright : right ≠ separator) : (single separator left right).Distinct where
  open_ne_nil := List.cons_ne_nil _ _
  close_ne_nil := List.cons_ne_nil _ _
  separator_ne_nil := List.cons_ne_nil _ _
  unbordered := by
    intro border hne hbeginning _
    simpa [single, List.prefix_cons_iff, hne] using hbeginning
  separator_not_closing := by simpa [single] using hright
  close_not_separating := by simpa [single] using hright.symm

theorem allowed_bare_iff : (Segment.bare text).Allowed (single separator left right) ↔
    separator ∉ text ∧ ¬ [left] <+: text := by
  simp only [Segment.Allowed, single, List.singleton_infix_iff]

/-- What comes behind a segment: nothing, or a separator. -/
def Ends (separator : Char) (tail : Text) : Prop := ∀ c ∈ tail.head?, c = separator

theorem Ends.nil : Ends separator [] := by simp [Ends]

theorem Ends.cons (rest : Text) : Ends separator (separator :: rest) := by simp [Ends]

theorem Ends.unmarked {tail : Text} {mark : Char} (h : Ends separator tail)
    (hmark : mark ≠ separator) : ¬ [mark] <+: tail := by
  rintro ⟨rest, rfl⟩
  exact hmark (h mark rfl)

/-! ### One reading -/

variable {tail tail' : Text}

/-- Two quoted segments and what follows them: the first one is read up to its own close quote. -/
theorem quote_append_inj (hright : right ≠ separator) (htail : Ends separator tail)
    (htail' : Ends separator tail') {name name' : Text}
    (hsame : (single separator left right).quote name ++ tail
      = (single separator left right).quote name' ++ tail') : name = name' ∧ tail = tail' := by
  have hread : ∀ name tail : Text, Ends separator tail →
      readQuoted [right] 0 (Text.doubled [right] name ++ ([right] ++ tail))
        = some (name, tail) := by
    intro name tail htail
    have hdistinct : (single separator left right).Distinct := single_distinct hright
    exact readQuoted_doubled hdistinct.close_ne_nil hdistinct.unbordered
      (htail.unmarked hright) name
  have hbody : Text.doubled [right] name ++ ([right] ++ tail)
      = Text.doubled [right] name' ++ ([right] ++ tail') := by
    simpa [quote, single] using hsame
  have hpair := (hread name tail htail).symm.trans (hbody ▸ hread name' tail' htail')
  simpa using hpair

/-- Two bare segments and what follows them: the first one goes up to the first separator. -/
theorem bare_append_inj {text' : Text} (h : separator ∉ text) (h' : separator ∉ text')
    (htail : Ends separator tail) (htail' : Ends separator tail')
    (hsame : text ++ tail = text' ++ tail') : text = text' ∧ tail = tail' := by
  rcases List.append_eq_append_iff.mp hsame with ⟨between, rfl, rfl⟩ | ⟨between, rfl, rfl⟩
  · cases between with
    | nil => simp
    | cons c between =>
      obtain rfl := htail c rfl
      simp at h'
  · cases between with
    | nil => simp
    | cons c between =>
      obtain rfl := htail' c rfl
      simp at h

/-- A bare segment does not look like a quoted one, not even if it is empty. -/
theorem bare_append_ne (hleft : left ≠ separator) (htail : Ends separator tail)
    (h : ¬ [left] <+: text) (body : Text) : text ++ tail ≠ left :: body := by
  intro hsame
  cases text with
  | nil => exact htail.unmarked hleft ⟨body, hsame.symm⟩
  | cons c text =>
    obtain ⟨rfl, -⟩ := List.cons.inj hsame
    exact h ⟨text, rfl⟩

/-- **The first segment of a text and what follows it are determined by the text.** -/
theorem Segment.write_append_inj (hleft : left ≠ separator) (hright : right ≠ separator)
    {segment segment' : Segment} (h : segment.Allowed (single separator left right))
    (h' : segment'.Allowed (single separator left right)) (htail : Ends separator tail)
    (htail' : Ends separator tail')
    (hsame : segment.write (single separator left right) ++ tail
      = segment'.write (single separator left right) ++ tail') :
    segment = segment' ∧ tail = tail' := by
  cases segment with
  | quoted name =>
    cases segment' with
    | quoted name' =>
      obtain ⟨rfl, rfl⟩ := quote_append_inj hright htail htail' hsame
      exact ⟨rfl, rfl⟩
    | bare text' =>
      exact absurd hsame.symm (bare_append_ne hleft htail' (allowed_bare_iff.mp h').2 _)
  | bare text =>
    cases segment' with
    | quoted name' => exact absurd hsame (bare_append_ne hleft htail (allowed_bare_iff.mp h).2 _)
    | bare text' =>
      obtain ⟨rfl, rfl⟩ := bare_append_inj (allowed_bare_iff.mp h).1 (allowed_bare_iff.mp h').1
        htail htail' hsame
      exact ⟨rfl, rfl⟩

/-- The first segment of a reading and what follows it. -/
theorem Reading.exists_tail (h : Reading (single separator left right) text (segment :: segments)) :
    segment.Allowed (single separator left right) ∧ ∃ tail, Ends separator tail ∧
      text = segment.write (single separator left right) ++ tail ∧
      (tail = [] ∧ segments = [] ∨ ∃ rest, tail = separator :: rest ∧
        Reading (single separator left right) rest segments) := by
  obtain ⟨hsegment, ⟨hlast, -, htext⟩ | ⟨rest, hrest, htext⟩⟩ := reading_cons_iff.mp h
  · exact ⟨hsegment, [], .nil, by simpa using htext, .inl ⟨rfl, hlast⟩⟩
  · exact ⟨hsegment, separator :: rest, .cons rest, htext, .inr ⟨rest, rfl, hrest⟩⟩

/-- **A text has at most one reading.** -/
theorem Reading.eq (hleft : left ≠ separator) (hright : right ≠ separator)
    (h : Reading (single separator left right) text segments)
    (h' : Reading (single separator left right) text segments') : segments = segments' := by
  induction segments generalizing text segments' with
  | nil => exact absurd rfl h.ne_nil
  | cons segment segments ih =>
    obtain ⟨segment', segments', rfl⟩ := List.exists_cons_of_ne_nil h'.ne_nil
    obtain ⟨hsegment, tail, htail, rfl, hmore⟩ := h.exists_tail
    obtain ⟨hsegment', tail', htail', hsame, hmore'⟩ := h'.exists_tail
    obtain ⟨rfl, rfl⟩ :=
      Segment.write_append_inj hleft hright hsegment hsegment' htail htail' hsame
    rcases hmore with ⟨rfl, rfl⟩ | ⟨rest, rfl, hrest⟩
    · rcases hmore' with ⟨-, rfl⟩ | ⟨rest', hrest', -⟩
      · rfl
      · simp at hrest'
    · rcases hmore' with ⟨hnone, -⟩ | ⟨rest', hsame', hrest'⟩
      · simp at hnone
      · obtain rfl := (List.cons.inj hsame').2
        rw [ih hrest hrest']

/-! ### Reading a text that has a reading -/

theorem Reading.text_ne_nil (h : Reading (single separator left right) text segments) :
    text ≠ [] := by
  obtain ⟨segment, segments, rfl⟩ := List.exists_cons_of_ne_nil h.ne_nil
  obtain ⟨-, ⟨-, hlast, rfl⟩ | ⟨rest, -, rfl⟩⟩ := reading_cons_iff.mp h
  · cases segment with
    | quoted name => simp [Segment.write, quote, single]
    | bare text => simpa [Segment.write] using hlast
  · simp [single]

/-- Text that starts with no open quote is read up to the next separator. -/
theorem parts?_of_unopened (h : ¬ [left] <+: text) (fuel : Nat) :
    (single separator left right).parts? (fuel + 1) text
      = match Text.splitOnce [separator] text with
        | none => some [text]
        | some (_, []) => none
        | some (name, next) =>
          ((single separator left right).parts? fuel next).map (name :: ·) := by
  have hunopened : Text.after? [left] text = none := by
    cases hfound : Text.after? [left] text with
    | none => rfl
    | some body => exact absurd ⟨body, (Text.after?_eq_some_iff.mp hfound).symm⟩ h
  rcases hsplit : Text.splitOnce [separator] text with _ | ⟨name, _ | ⟨c, next⟩⟩ <;>
    simp only [parts?, single, List.isEmpty_cons, Bool.false_eq_true, if_false, hunopened, hsplit]

theorem parts?_write (hright : right ≠ separator)
    (h : segment.Allowed (single separator left right)) (fuel : Nat) :
    (single separator left right).parts? (fuel + 1) (segment.write (single separator left right))
      = some [segment.name] := by
  cases segment with
  | quoted name => exact parts?_quote (single_distinct hright) fuel name
  | bare text =>
    obtain ⟨hseparator, hunopened⟩ := allowed_bare_iff.mp h
    rw [Segment.write, parts?_of_unopened hunopened, Text.splitOnce_singleton_eq_none hseparator]
    rfl

theorem parts?_write_append (hleft : left ≠ separator) (hright : right ≠ separator)
    (h : segment.Allowed (single separator left right)) (hrest : rest ≠ []) (fuel : Nat) :
    (single separator left right).parts? (fuel + 1)
        (segment.write (single separator left right) ++ separator :: rest)
      = ((single separator left right).parts? fuel rest).map (segment.name :: ·) := by
  cases segment with
  | quoted name => exact parts?_quote_append (single_distinct hright) fuel name hrest
  | bare text =>
    obtain ⟨hseparator, hunopened⟩ := allowed_bare_iff.mp h
    have hunopened' : ¬ [left] <+: text ++ separator :: rest := by
      rintro ⟨body, hbody⟩
      exact bare_append_ne hleft (.cons rest) hunopened body hbody.symm
    obtain ⟨c, rest, rfl⟩ := List.exists_cons_of_ne_nil hrest
    rw [Segment.write, parts?_of_unopened hunopened', Text.splitOnce_singleton_append hseparator]
    rfl

/-- The names of a reading are read. -/
theorem Reading.parts?_eq (hleft : left ≠ separator) (hright : right ≠ separator)
    (h : Reading (single separator left right) text segments) {fuel : Nat}
    (hfuel : text.length < fuel) :
    (single separator left right).parts? fuel text = some (segments.map Segment.name) := by
  induction segments generalizing text fuel with
  | nil => exact absurd rfl h.ne_nil
  | cons segment segments ih =>
    obtain ⟨fuel, rfl⟩ : ∃ n, fuel = n + 1 := ⟨fuel - 1, by omega⟩
    obtain ⟨hsegment, ⟨rfl, -, rfl⟩ | ⟨rest, hrest, rfl⟩⟩ := reading_cons_iff.mp h
    · exact parts?_write hright hsegment fuel
    · have hshorter : rest.length < fuel := by
        simp only [single, List.length_append, List.length_cons, List.length_nil] at hfuel
        omega
      have hread := ih hrest hshorter
      exact (parts?_write_append hleft hright hsegment hrest.text_ne_nil fuel).trans
        (by rw [hread]; rfl)

/-! ### Having a reading when a text is read -/

/-- What is read as the inside of a quoted segment is written so. The characters that are only
passed belong to a close quote in front of it. -/
theorem drop_eq_of_readQuoted {pending : Nat} {body name after : Text}
    (h : readQuoted [right] pending body = some (name, after)) :
    body.drop pending = Text.doubled [right] name ++ right :: after := by
  induction body generalizing pending name with
  | nil => simp [readQuoted] at h
  | cons c body ih =>
    cases pending with
    | succ pending => exact ih h
    | zero =>
      by_cases hc : c = right
      · subst hc
        by_cases hpair : [c] <+: body
        · obtain ⟨rest, rfl⟩ := hpair
          have hread := readQuoted_pair (List.cons_ne_nil c []) rest
          obtain ⟨⟨inner, after⟩, hinner, hnames⟩ := Option.map_eq_some_iff.mp (hread ▸ h)
          obtain ⟨rfl, rfl⟩ := Prod.mk.inj hnames
          have hbehind : ([c] ++ rest).drop 1 = Text.doubled [c] inner ++ c :: after := ih hinner
          rw [Text.doubled_append]
          simpa using hbehind
        · have hend := readQuoted_close (List.cons_ne_nil c []) hpair
          obtain ⟨rfl, rfl⟩ := Prod.mk.inj (Option.some.inj (hend.symm.trans h))
          rw [Text.doubled_nil]
          rfl
      · rw [readQuoted_cons_of_unclosed (by simpa using Ne.symm hc)] at h
        obtain ⟨⟨name, after⟩, hread, hpair⟩ := Option.map_eq_some_iff.mp h
        obtain ⟨rfl, rfl⟩ := Prod.mk.inj hpair
        have hbehind := ih hread
        rw [Text.doubled_cons_of_unmarked (by simpa using Ne.symm hc)]
        simpa using hbehind

/-- The first segment that is read is the only one, or a separator and the text of the others
follow. -/
theorem exists_first_of_parts? {fuel : Nat} {names : List Text}
    (h : (single separator left right).parts? (fuel + 1) text = some names) :
    ∃ segment : Segment, segment.Allowed (single separator left right) ∧
      (text = segment.write (single separator left right) ∧ names = [segment.name] ∨
        ∃ next more, text = segment.write (single separator left right) ++ separator :: next ∧
          next ≠ [] ∧ (single separator left right).parts? fuel next = some more ∧
          names = segment.name :: more) := by
  by_cases hopened : [left] <+: text
  · obtain ⟨body, rfl⟩ := hopened
    have hopen : (single separator left right).openQuote ≠ [] := List.cons_ne_nil left []
    obtain ⟨⟨name, after⟩, hread, hnames⟩ :=
      Option.bind_eq_some_iff.mp ((parts?_openQuote_append hopen fuel body).symm.trans h)
    have hbody : body = Text.doubled [right] name ++ right :: after := drop_eq_of_readQuoted hread
    refine ⟨.quoted name, trivial, ?_⟩
    cases after with
    | nil =>
      exact .inl ⟨by simp [hbody, Segment.write, quote, single], (Option.some.inj hnames).symm⟩
    | cons c after =>
      obtain ⟨next, hafter, hnames⟩ := Option.bind_eq_some_iff.mp hnames
      obtain ⟨hafter, hnext⟩ := afterSeparator?_eq_some_iff.mp hafter
      obtain ⟨more, hmore, rfl⟩ := Option.map_eq_some_iff.mp hnames
      refine .inr ⟨next, more, ?_, hnext, hmore, rfl⟩
      simp [hbody, hafter, Segment.write, quote, single]
  · rw [parts?_of_unopened hopened] at h
    by_cases hseparator : separator ∈ text
    · obtain ⟨name, next, rfl, hname⟩ := List.eq_append_cons_of_mem hseparator
      rw [Text.splitOnce_singleton_append hname] at h
      have hallowed : ¬ [left] <+: name := fun hstart =>
        hopened (hstart.trans (List.prefix_append name _))
      cases next with
      | nil => simp at h
      | cons c next =>
        obtain ⟨more, hmore, rfl⟩ := Option.map_eq_some_iff.mp h
        exact ⟨.bare name, allowed_bare_iff.mpr ⟨hname, hallowed⟩,
          .inr ⟨c :: next, more, rfl, List.cons_ne_nil c next, hmore, rfl⟩⟩
    · rw [Text.splitOnce_singleton_eq_none hseparator] at h
      exact ⟨.bare text, allowed_bare_iff.mpr ⟨hseparator, hopened⟩,
        .inl ⟨rfl, (Option.some.inj h).symm⟩⟩

/-- A text that is read has a reading with the same names. -/
theorem exists_reading_of_parts? {fuel : Nat} {names : List Text} (htext : text ≠ [])
    (h : (single separator left right).parts? fuel text = some names) :
    ∃ segments, Reading (single separator left right) text segments ∧
      names = segments.map Segment.name := by
  induction fuel generalizing text names with
  | zero => simp [parts?] at h
  | succ fuel ih =>
    obtain ⟨segment, hsegment, ⟨rfl, rfl⟩ | ⟨next, more, rfl, hnext, hmore, rfl⟩⟩ :=
      exists_first_of_parts? h
    · refine ⟨[segment], reading_cons_iff.mpr ⟨hsegment, .inl ⟨rfl, ?_, rfl⟩⟩, rfl⟩
      rintro rfl
      exact htext rfl
    · obtain ⟨segments, hreading, rfl⟩ := ih hnext hmore
      exact ⟨segment :: segments, reading_cons_iff.mpr ⟨hsegment, .inr ⟨next, hreading, rfl⟩⟩, rfl⟩

/-! ### Reading and having a reading -/

/-- The names of a reading are the parts of the text. -/
theorem Reading.parseQualified_eq (hleft : left ≠ separator) (hright : right ≠ separator)
    (h : Reading (single separator left right) text segments) :
    (single separator left right).parseQualified text = .ok (segments.map Segment.name) := by
  have hne : text.isEmpty = false := by simpa using h.text_ne_nil
  simp only [parseQualified, hne, Bool.false_eq_true, if_false,
    h.parts?_eq hleft hright (Nat.lt_succ_self text.length)]

/-- A text is refused as a whole, or it has a reading. -/
theorem parseQualified_eq_error_or_exists_reading (separator left right : Char) (text : Text) :
    (single separator left right).parseQualified text = .error (.invalidIdentifier text) ∨
      ∃ segments, Reading (single separator left right) text segments := by
  rw [parseQualified]
  split
  · next names hnames =>
    split at hnames
    · simp at hnames
    · next hne =>
      obtain ⟨segments, hreading, -⟩ := exists_reading_of_parts? (by simpa using hne) hnames
      exact .inr ⟨segments, hreading⟩
  · exact .inl rfl

/-- **A text is read as what the grammar reads in it, and refused if the grammar reads nothing.**
There is at most one reading of a text. Its names are the parts of the text; without one, the error
holds the whole text. -/
theorem parseQualified_grammar (hleft : left ≠ separator) (hright : right ≠ separator)
    (text : Text) :
    (∀ names, (single separator left right).parseQualified text = .ok names ↔
      ∃ segments, Reading (single separator left right) text segments ∧
        names = segments.map Segment.name) ∧
    ((single separator left right).parseQualified text = .error (.invalidIdentifier text) ↔
      ¬ ∃ segments, Reading (single separator left right) text segments) ∧
    ∀ segments segments', Reading (single separator left right) text segments →
      Reading (single separator left right) text segments' → segments = segments' := by
  refine ⟨fun names => ⟨fun hnames => ?_, ?_⟩, ⟨?_, fun hnone => ?_⟩, fun _ _ h h' =>
    h.eq hleft hright h'⟩
  · rcases parseQualified_eq_error_or_exists_reading separator left right text with
      herror | ⟨segments, hreading⟩
    · simp [herror] at hnames
    · rw [hreading.parseQualified_eq hleft hright] at hnames
      exact ⟨segments, hreading, (Except.ok.inj hnames).symm⟩
  · rintro ⟨segments, hreading, rfl⟩
    exact hreading.parseQualified_eq hleft hright
  · rintro herror ⟨segments, hreading⟩
    simp [hreading.parseQualified_eq hleft hright] at herror
  · exact (parseQualified_eq_error_or_exists_reading separator left right text).resolve_right hnone

/-- The usual marks: an empty segment and a quote inside a bare one are read, a separator at the end
is not. -/
theorem parseQualified_grammar_ansi :
    ('"' ≠ '.' ∧ '"' ≠ '.') ∧
      ansi.parseQualified "\"a.\"\"b\"..c\"d" = .ok ["a.\"b", "", "c\"d"] ∧
      ¬ ∃ segments, Reading ansi "\"a\"." segments := by
  have hquoted : Reading ansi "\"a.\"\"b\"..c\"d" [.quoted "a.\"b", .bare "", .bare "c\"d"] := by
    decide
  rw [ansi_eq_single] at hquoted ⊢
  exact ⟨by decide,
    ((parseQualified_grammar (by decide) (by decide) _).1 _).mpr ⟨_, hquoted, rfl⟩,
    (parseQualified_grammar (by decide) (by decide) _).2.1.mp rfl⟩

end Rules

end SqlDialect
