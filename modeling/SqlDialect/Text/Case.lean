import SqlDialect.Text.Blank
import SqlDialect.Text.CaseTable

/-!
# Case of a text

The case mapping of the Unicode standard without any language's own rules. A character may
become several: the sharp s becomes two letters in upper case, the dotted capital I a letter and
a combining dot in lower case.

## The final sigma

One letter looks at its neighbours. A capital sigma that ends a word becomes the final small
sigma, any other the ordinary one. It ends a word when a cased letter comes before it and none
comes after it, where characters that only accompany a letter are passed over on both sides.
`lowerAfter` carries the text already passed, last character first, so that both sides are lists
read from the letter outwards.

## Main definitions

* `Text.upper`, `Text.lower` — a text in upper and in lower case

## Main results

* `Text.upperChar_ofNat`, `Text.lowerChar_ofNat` — ASCII characters change as in the core library
-/

namespace SqlDialect

namespace Text

/-! ### One character -/

/-- Whether `code`, which is not before the run, is one of its code points. -/
def CaseRun.covers (run : CaseRun) (code : Nat) : Bool :=
  code ≤ run.last && (code - run.first) % run.step == 0

/-- What the run that covers `code` makes of it; itself where none does. The runs are in order, so
the first one behind `code` ends the search. -/
def moveByRuns : List CaseRun → Nat → Nat
  | [], code => code
  | run :: runs, code =>
    if code < run.first then code
    else if run.covers code then (code + run.shift).toNat
    else moveByRuns runs code

/-- The code points that `code` becomes, if it is listed. The list is in order. -/
def expansion? : List (Nat × List Nat) → Nat → Option (List Nat)
  | [], _ => none
  | (listed, codes) :: expansions, code =>
    if code < listed then none
    else if code = listed then some codes
    else expansion? expansions code

/-- The image of a character under a table of expansions and a table of runs. -/
def mapCase (expansions : List (Nat × List Nat)) (runs : List CaseRun) (c : Char) : Text :=
  match expansion? expansions c.toNat with
  | some codes => codes.map Char.ofNat
  | none => [Char.ofNat (moveByRuns runs c.toNat)]

/-- The upper case of one character. -/
def upperChar (c : Char) : Text := mapCase upperExpansions upperRuns c

/-- The lower case of one character away from the final-sigma rule. -/
def lowerChar (c : Char) : Text := mapCase lowerExpansions lowerRuns c

/-- The ASCII characters have the upper case of the core library. -/
theorem upperChar_ofNat {n : Nat} (h : n < 128) :
    upperChar (Char.ofNat n) = [(Char.ofNat n).toUpper] := by
  revert n
  decide +kernel

/-- The ASCII characters have the lower case of the core library. -/
theorem lowerChar_ofNat {n : Nat} (h : n < 128) :
    lowerChar (Char.ofNat n) = [(Char.ofNat n).toLower] := by
  revert n
  decide +kernel

/-! ### A whole text -/

/-- `text` in upper case. -/
def upper (text : Text) : Text := text.flatMap upperChar

/-- Whether a letter with a case comes first, apart from characters that accompany a letter. -/
def meetsCased (text : Text) : Bool :=
  match text.dropWhile fun c => inRanges caseIgnorableRanges c.toNat with
  | [] => false
  | c :: _ => inRanges casedRanges c.toNat

/-- The capital sigma. -/
def capitalSigma : Char := 'Σ'

/-- The lower case of the rest of a text, when `passed` is what came before it, last character
first. -/
def lowerAfter (passed : Text) : Text → Text
  | [] => []
  | c :: rest =>
    (if c = capitalSigma then
      if meetsCased passed && !meetsCased rest then ['ς'] else ['σ']
    else
      lowerChar c) ++ lowerAfter (c :: passed) rest

/-- `text` in lower case. -/
def lower (text : Text) : Text := lowerAfter [] text

example : upper "straße" = "STRASSE" := by decide

example : lower "ΟΔΟΣ ΣΑ" = "οδος σα" := by decide

end Text

end SqlDialect
