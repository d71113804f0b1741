import Mathlib.Data.List.Chain
import SqlDialect.Text.Basic

/-!
# Tokens

Seen from outside, the text of a statement is plain characters and quoted texts. A quoted text goes
from one quote to the next, and a quote that is written twice inside stands for one quote. `read`
takes a text apart in this way, one character after the other, and knows nothing of how the text
was made. It fails when the text ends inside quotes.

## Reading what was written

Two texts that are quoted alike must not touch: `'a''b'` is one quoted text, not two. Apart from
that, and as long as no plain character is a quote, reading gives back what was written
(`read_writeAll`). So whether a statement can be read is a question about its tokens, and
`Readable.append_plains` settles it wherever plain characters stand between two pieces.

## Main definitions

* `Token`, `Token.writeAll` — plain characters and quoted texts, and how they are written
* `Token.read` — the tokens of a text
* `Token.Readable` — tokens that can be told apart once they are written
* `Token.quotedTexts`, `Token.plainText` — what is inside the quotes, and what is outside
* `Token.quotedBy` — what is inside the quotes of one kind

## Main results

* `Token.read_writeAll` — reading undoes writing
-/

namespace SqlDialect

/-- What a text is made of, as far as quotes go. -/
inductive Token where
  /-- A character outside quotes. -/
  | plain (c : Char)
  /-- A text inside quotes of the given kind. -/
  | quoted (mark : Char) (text : Text)
  deriving DecidableEq

namespace Token

/-! ### Writing -/

/-- The token as it is written. -/
def write : Token → Text
  | .plain c => [c]
  | .quoted mark text => mark :: (Text.doubled [mark] text ++ [mark])

/-- Tokens as they are written, one after the other. -/
def writeAll (tokens : List Token) : Text := tokens.flatMap write

@[simp] theorem writeAll_append (a b : List Token) : writeAll (a ++ b) = writeAll a ++ writeAll b :=
  List.flatMap_append

theorem writeAll_cons (t : Token) (tokens : List Token) :
    writeAll (t :: tokens) = t.write ++ writeAll tokens := List.flatMap_cons

/-- The characters of `text`, all outside quotes. -/
def plains (text : Text) : List Token := text.map plain

@[simp] theorem plains_nil : plains [] = [] := rfl

@[simp] theorem plains_append (a b : Text) : plains (a ++ b) = plains a ++ plains b :=
  List.map_append

@[simp] theorem writeAll_plains (text : Text) : writeAll (plains text) = text := by
  simp [writeAll, plains, List.flatMap_map, write]

/-! ### Reading -/

/-- Where a reader stands. -/
inductive Place where
  /-- Outside quotes. -/
  | outside
  /-- Inside quotes of the given kind, with the text read so far. -/
  | inside (mark : Char) (text : Text)
  /-- Behind a quote inside such quotes, which ends them unless a second one follows. -/
  | ending (mark : Char) (text : Text)
  deriving DecidableEq

variable {marks : List Char}

/-- The tokens that are complete with one character more, and the place behind it. -/
def step (marks : List Char) : Place → Char → List Token × Place
  | .outside, c => if c ∈ marks then ([], .inside c []) else ([.plain c], .outside)
  | .inside mark text, c =>
    if c = mark then ([], .ending mark text) else ([], .inside mark (text ++ [c]))
  | .ending mark text, c =>
    if c = mark then ([], .inside mark (text ++ [c]))
    else if c ∈ marks then ([.quoted mark text], .inside c [])
    else ([.quoted mark text, .plain c], .outside)

/-- The tokens that are complete with the end of the text; nothing inside quotes. -/
def finish : Place → Option (List Token)
  | .outside => some []
  | .inside _ _ => none
  | .ending mark text => some [.quoted mark text]

/-- The tokens of the rest of a text. -/
def readFrom (marks : List Char) : Place → Text → Option (List Token)
  | place, [] => finish place
  | place, c :: rest =>
    (readFrom marks (step marks place c).2 rest).map ((step marks place c).1 ++ ·)

/-- The tokens of a text in which the characters of `marks` are quotes; nothing if it ends inside
quotes. -/
def read (marks : List Char) (text : Text) : Option (List Token) := readFrom marks .outside text

/-! ### Reading one token -/

/-- The inside of quotes is read up to the quote that ends them. -/
theorem readFrom_inside (mark : Char) (before text rest : Text) :
    readFrom marks (.inside mark before) (Text.doubled [mark] text ++ mark :: rest)
      = readFrom marks (.ending mark (before ++ text)) rest := by
  rw [Text.doubled_singleton]
  induction text generalizing before with
  | nil => simp [readFrom, step]
  | cons c text ih =>
    rw [List.append_cons before c text, ← ih (before ++ [c]), List.flatMap_cons]
    by_cases hc : c = mark
    · subst hc
      simp [readFrom, step]
    · simp [readFrom, step, hc]

/-- Quotes end where no second quote follows. -/
theorem readFrom_ending {mark : Char} {rest : Text} (h : rest.head? ≠ some mark) (text : Text) :
    readFrom marks (.ending mark text) rest
      = (readFrom marks .outside rest).map (.quoted mark text :: ·) := by
  cases rest with
  | nil => rfl
  | cons c rest =>
    have hc : c ≠ mark := by simpa using h
    by_cases hm : c ∈ marks
    · simp [readFrom, step, hc, hm]
    · simp [readFrom, step, hc, hm]
      rfl

theorem read_plain_append {c : Char} (h : c ∉ marks) (rest : Text) :
    read marks ((plain c).write ++ rest) = (read marks rest).map (.plain c :: ·) := by
  simp [read, write, readFrom, step, h]

theorem read_quoted_append {mark : Char} (h : mark ∈ marks) {rest : Text}
    (hrest : rest.head? ≠ some mark) (text : Text) :
    read marks ((quoted mark text).write ++ rest)
      = (read marks rest).map (.quoted mark text :: ·) := by
  have hin : readFrom marks (.inside mark []) (Text.doubled [mark] text ++ mark :: rest)
      = (readFrom marks .outside rest).map (.quoted mark text :: ·) := by
    rw [readFrom_inside, List.nil_append, readFrom_ending hrest]
  simpa [read, write, readFrom, step, h] using hin

/-! ### Reading all tokens -/

/-- A plain character is no quote, and a quoted text is quoted by one. -/
def IsProper (marks : List Char) : Token → Prop
  | .plain c => c ∉ marks
  | .quoted mark _ => mark ∈ marks

/-- Two tokens that may touch: not two texts in quotes of one kind. -/
def MayTouch : Token → Token → Prop
  | .quoted mark _, .quoted next _ => mark ≠ next
  | _, _ => True

/-- Tokens that can be told apart once they are written. -/
structure Readable (marks : List Char) (tokens : List Token) : Prop where
  /-- Quotes are quotes, and nothing else is. -/
  proper : ∀ t ∈ tokens, t.IsProper marks
  /-- What is quoted alike does not touch. -/
  chain : tokens.IsChain MayTouch

theorem Readable.tail {t : Token} {tokens : List Token} (h : Readable marks (t :: tokens)) :
    Readable marks tokens :=
  ⟨fun u hu => h.proper u (List.mem_cons_of_mem t hu), h.chain.tail⟩

/-- Behind a quoted text there is no quote of its kind. -/
theorem Readable.head?_writeAll_ne {mark : Char} {text : Text} {tokens : List Token}
    (h : Readable marks (.quoted mark text :: tokens)) :
    (writeAll tokens).head? ≠ some mark := by
  have hmark : mark ∈ marks := h.proper _ List.mem_cons_self
  rcases tokens with _ | ⟨c | ⟨next, more⟩, tokens⟩
  · simp [writeAll]
  · have hc : c ∉ marks := h.proper (.plain c) (by simp)
    have hne : c ≠ mark := fun hcm => hc (hcm ▸ hmark)
    simpa [writeAll_cons, write] using hne
  · have hne : mark ≠ next := (List.isChain_cons_cons.mp h.chain).1
    simpa [writeAll_cons, write] using hne.symm

/-- **Reading undoes writing.** -/
theorem read_writeAll {tokens : List Token} (h : Readable marks tokens) :
    read marks (writeAll tokens) = some tokens := by
  induction tokens with
  | nil => rfl
  | cons t tokens ih =>
    have hproper := h.proper t List.mem_cons_self
    rw [writeAll_cons]
    cases t with
    | plain c => rw [read_plain_append hproper, ih h.tail]; rfl
    | quoted mark text =>
      rw [read_quoted_append hproper h.head?_writeAll_ne, ih h.tail]
      rfl

/-! ### Texts without quotes -/

/-- A text in which no character is a quote. -/
def Bare (marks : List Char) (text : Text) : Prop := ∀ c ∈ text, c ∉ marks

instance (marks : List Char) (text : Text) : Decidable (Bare marks text) :=
  List.decidableBAll (· ∉ marks) text

theorem bare_singleton {mark : Char} {text : Text} (h : mark ∉ text) : Bare [mark] text := by
  intro c hc hmark
  rw [List.mem_singleton.mp hmark] at hc
  exact h hc

theorem Bare.append {a b : Text} (ha : Bare marks a) (hb : Bare marks b) : Bare marks (a ++ b) := by
  intro c hc
  rcases List.mem_append.mp hc with hc | hc
  · exact ha c hc
  · exact hb c hc

theorem Bare.join {separator : Text} {parts : List Text} (hs : Bare marks separator)
    (hp : ∀ part ∈ parts, Bare marks part) : Bare marks (Text.join separator parts) := by
  intro c hc
  rcases Text.mem_join hc with hc | ⟨part, hpart, hc⟩
  · exact hs c hc
  · exact hp part hpart c hc

theorem Bare.join_replicate {separator part : Text} (hs : Bare marks separator)
    (hp : Bare marks part) (count : Nat) :
    Bare marks (Text.join separator (List.replicate count part)) := by
  refine .join hs fun other hother => ?_
  rw [(List.mem_replicate.mp hother).2]
  exact hp

/-! ### Readable pieces

A piece of plain characters keeps what stands before it from touching what stands behind it. -/

theorem isChain_plains (text : Text) : (plains text).IsChain MayTouch := by
  induction text with
  | nil => exact .nil
  | cons c text ih =>
    refine List.isChain_cons.mpr ⟨fun t _ => ?_, ih⟩
    cases t <;> trivial

theorem Readable.nil : Readable marks [] := ⟨by simp, .nil⟩

theorem Readable.singleton {t : Token} (h : t.IsProper marks) : Readable marks [t] :=
  ⟨by simpa using h, .singleton t⟩

theorem Readable.plains_append {text : Text} {tokens : List Token} (htext : Bare marks text)
    (h : Readable marks tokens) : Readable marks (plains text ++ tokens) := by
  refine ⟨fun t ht => ?_, (isChain_plains text).append h.chain fun t ht u _ => ?_⟩
  · rcases List.mem_append.mp ht with ht | ht
    · obtain ⟨c, hc, rfl⟩ := List.mem_map.mp ht
      exact htext c hc
    · exact h.proper t ht
  · obtain ⟨c, -, rfl⟩ := List.mem_map.mp (List.mem_of_getLast? ht)
    trivial

theorem readable_plains {text : Text} (htext : Bare marks text) :
    Readable marks (plains text) := by
  simpa using Readable.nil.plains_append htext

/-- Two readable pieces stay readable with plain characters between them. -/
theorem Readable.append_plains {text : Text} {a b : List Token} (ha : Readable marks a)
    (hne : text ≠ []) (htext : Bare marks text) (hb : Readable marks b) :
    Readable marks (a ++ (plains text ++ b)) := by
  have hback := hb.plains_append htext
  refine ⟨fun t ht => ?_, ha.chain.append hback.chain fun t _ u hu => ?_⟩
  · rcases List.mem_append.mp ht with ht | ht
    · exact ha.proper t ht
    · exact hback.proper t ht
  · obtain ⟨c, text, rfl⟩ := List.exists_cons_of_ne_nil hne
    obtain rfl : plain c = u := by simpa [plains] using hu
    cases t <;> trivial

/-- A readable piece stays readable with plain characters behind it. -/
theorem Readable.append_text {text : Text} {a : List Token} (ha : Readable marks a)
    (htext : Bare marks text) : Readable marks (a ++ plains text) := by
  cases text with
  | nil => simpa using ha
  | cons c text => simpa using ha.append_plains (List.cons_ne_nil c text) htext .nil

/-- Readable pieces stay readable in a list with a delimiter. -/
theorem Readable.intercalate {delimiter : Text} (hne : delimiter ≠ [])
    (hdelimiter : Bare marks delimiter) {pieces : List (List Token)}
    (h : ∀ piece ∈ pieces, Readable marks piece) :
    Readable marks ((plains delimiter).intercalate pieces) := by
  induction pieces with
  | nil => exact .nil
  | cons first pieces ih =>
    have hfirst : Readable marks first := h first List.mem_cons_self
    cases pieces with
    | nil => simpa using hfirst
    | cons second pieces =>
      rw [List.intercalate_cons_cons, List.append_assoc]
      exact hfirst.append_plains hne hdelimiter
        (ih fun piece hp => h piece (List.mem_cons_of_mem first hp))

/-! ### Inside and outside -/

/-- The texts inside quotes, first to last. -/
def quotedTexts (tokens : List Token) : List Text :=
  tokens.filterMap fun
    | .quoted _ text => some text
    | .plain _ => none

/-- The texts inside quotes of one kind, first to last. -/
def quotedBy (mark : Char) (tokens : List Token) : List Text :=
  tokens.filterMap fun
    | .quoted other text => if other = mark then some text else none
    | .plain _ => none

/-- The characters outside quotes, first to last. -/
def plainText (tokens : List Token) : Text :=
  tokens.filterMap fun
    | .quoted _ _ => none
    | .plain c => some c

theorem mem_plainText {c : Char} {tokens : List Token} :
    c ∈ plainText tokens ↔ .plain c ∈ tokens := by
  rw [plainText, List.mem_filterMap]
  constructor
  · rintro ⟨d | ⟨mark, text⟩, ht, hc⟩
    · obtain rfl : d = c := by simpa using hc
      exact ht
    · simp at hc
  · exact fun h => ⟨.plain c, h, rfl⟩

@[simp] theorem quotedTexts_nil : quotedTexts [] = [] := rfl

@[simp] theorem plainText_nil : plainText [] = [] := rfl

@[simp] theorem quotedTexts_append (a b : List Token) :
    quotedTexts (a ++ b) = quotedTexts a ++ quotedTexts b := List.filterMap_append

@[simp] theorem plainText_append (a b : List Token) :
    plainText (a ++ b) = plainText a ++ plainText b := List.filterMap_append

@[simp] theorem quotedTexts_plains (text : Text) : quotedTexts (plains text) = [] := by
  simp [quotedTexts, plains]

@[simp] theorem plainText_plains (text : Text) : plainText (plains text) = text := by
  simp [plainText, plains, List.filterMap_map]

@[simp] theorem quotedTexts_cons_quoted (mark : Char) (text : Text) (tokens : List Token) :
    quotedTexts (.quoted mark text :: tokens) = text :: quotedTexts tokens := rfl

@[simp] theorem plainText_cons_quoted (mark : Char) (text : Text) (tokens : List Token) :
    plainText (.quoted mark text :: tokens) = plainText tokens := rfl

@[simp] theorem quotedBy_nil (mark : Char) : quotedBy mark [] = [] := rfl

@[simp] theorem quotedBy_append (mark : Char) (a b : List Token) :
    quotedBy mark (a ++ b) = quotedBy mark a ++ quotedBy mark b := List.filterMap_append

@[simp] theorem quotedBy_plains (mark : Char) (text : Text) : quotedBy mark (plains text) = [] := by
  simp [quotedBy, plains]

@[simp] theorem quotedBy_cons_self (mark : Char) (text : Text) (tokens : List Token) :
    quotedBy mark (.quoted mark text :: tokens) = text :: quotedBy mark tokens := by
  simp [quotedBy]

theorem quotedBy_cons_of_ne {mark other : Char} (h : other ≠ mark) (text : Text)
    (tokens : List Token) :
    quotedBy mark (.quoted other text :: tokens) = quotedBy mark tokens := by
  simp [quotedBy, h]

/-! ### Lists with a delimiter -/

/-- What respects appending respects lists with a delimiter. -/
theorem map_intercalate {α β : Type} (f : List α → List β) (hf : ∀ a b, f (a ++ b) = f a ++ f b)
    (delimiter : List α) (pieces : List (List α)) :
    f (delimiter.intercalate pieces) = (f delimiter).intercalate (pieces.map f) := by
  have hnil : f [] = [] := by
    have := congrArg List.length (hf [] [])
    rw [List.append_nil, List.length_append] at this
    exact List.length_eq_zero_iff.mp (by omega)
  induction pieces with
  | nil => exact hnil
  | cons first pieces ih =>
    cases pieces with
    | nil => simp
    | cons second pieces =>
      simp only [List.map_cons, List.intercalate_cons_cons, hf] at ih ⊢
      rw [ih]

theorem writeAll_intercalate (delimiter : Text) (pieces : List (List Token)) :
    writeAll ((plains delimiter).intercalate pieces)
      = Text.join delimiter (pieces.map writeAll) := by
  rw [map_intercalate writeAll writeAll_append, writeAll_plains, Text.join]

theorem plainText_intercalate (delimiter : Text) (pieces : List (List Token)) :
    plainText ((plains delimiter).intercalate pieces)
      = Text.join delimiter (pieces.map plainText) := by
  rw [map_intercalate plainText plainText_append, plainText_plains, Text.join]

/-- What respects appending and sees nothing in the delimiter sees the pieces of a list one after
the other. -/
theorem flatMap_intercalate {α β : Type} (f : List α → List β)
    (hf : ∀ a b, f (a ++ b) = f a ++ f b) {delimiter : List α} (hdelimiter : f delimiter = [])
    (pieces : List (List α)) : f (delimiter.intercalate pieces) = pieces.flatMap f := by
  rw [map_intercalate f hf, hdelimiter]
  induction pieces with
  | nil => rfl
  | cons first pieces ih =>
    cases pieces with
    | nil => simp
    | cons second pieces => simpa using ih

theorem quotedTexts_intercalate (delimiter : Text) (pieces : List (List Token)) :
    quotedTexts ((plains delimiter).intercalate pieces) = pieces.flatMap quotedTexts :=
  flatMap_intercalate quotedTexts quotedTexts_append (quotedTexts_plains delimiter) pieces

theorem quotedBy_intercalate (mark : Char) (delimiter : Text) (pieces : List (List Token)) :
    quotedBy mark ((plains delimiter).intercalate pieces) = pieces.flatMap (quotedBy mark) :=
  flatMap_intercalate (quotedBy mark) (quotedBy_append mark) (quotedBy_plains mark delimiter) pieces

end Token

end SqlDialect
