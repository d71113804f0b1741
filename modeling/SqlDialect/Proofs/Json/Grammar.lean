import SqlDialect.Proofs.Json.Spelling

/-!
# The grammar of JSON

What is JSON is said here without the reader: values without brackets, items in a row with commas
between them, members of a key and a value, and brackets around such rows. The reader is then shown
to take exactly what the grammar derives, so that statements about texts that are read can be made
for every text that is written by the rules. Only numbers are not spelled out: a number is a text
that the reader of numbers takes to its end.

## Depth

Brackets may be nested so many deep, and the grammar is a function of that number: `Written 0` knows
no brackets, and `Written (depth + 1)` puts brackets around what `Written depth` knows. A row does
not care what its items are, so lists and objects share it, and induction on the depth is all that
ties the readers of values, items and members together.

The readers have a bound on their calls as well. It never decides anything: a text of `n` characters
is read with any bound that is not below `n`.

## Main definitions

* `Json.Row`, `Json.Listed` — items with commas between them
* `Json.Written` — how a value is written with brackets nested at most so deep
* `Json.ObjectText` — how an object is written that is a whole text

## Main results

* `Json.value?_eq_some_iff` — the values that are read are those that are written
* `Json.members?_eq_some_iff` — the same for the members of an object
-/

namespace SqlDialect

namespace Json

/-! ### The grammar -/

section Rows

variable {α : Type}

/-- Items in a row, a comma between every two and space around each. -/
inductive Row (Item : Text → α → Prop) : Text → List α → Prop where
  /-- The last item. -/
  | last {before text behind : Text} {item : α} (hbefore : Space before) (hitem : Item text item)
      (hbehind : Space behind) : Row Item (before ++ (text ++ behind)) [item]
  /-- An item and those behind its comma. -/
  | more {before text behind body : Text} {item : α} {items : List α} (hbefore : Space before)
      (hitem : Item text item) (hbehind : Space behind) (rest : Row Item body items) :
      Row Item (before ++ (text ++ (behind ++ ',' :: body))) (item :: items)

/-- What stands between brackets: items in a row, or only space. -/
inductive Listed (Item : Text → α → Prop) : Text → List α → Prop where
  /-- No item. -/
  | none {body : Text} (space : Space body) : Listed Item body []
  /-- Some items. -/
  | row {body : Text} {items : List α} (row : Row Item body items) : Listed Item body items

end Rows

/-- A key, its colon and a value. -/
inductive Member (Value : Text → Json → Prop) : Text → Text × Json → Prop where
  /-- There may be space on both sides of the colon. -/
  | mk {spelled key behind before text : Text} {value : Json} (hkey : Spelled spelled key)
      (hbehind : Space behind) (hbefore : Space before) (hvalue : Value text value) :
      Member Value ('"' :: (spelled ++ '"' :: (behind ++ ':' :: (before ++ text)))) (key, value)

/-- Values without brackets. -/
inductive Scalar : Text → Json → Prop where
  /-- The value `null`. -/
  | null : Scalar "null" .null
  /-- The truth value `true`. -/
  | isTrue : Scalar "true" (.boolean true)
  /-- The truth value `false`. -/
  | isFalse : Scalar "false" (.boolean false)
  /-- A text in quotes. -/
  | string {spelled value : Text} (h : Spelled spelled value) :
      Scalar ('"' :: (spelled ++ ['"'])) (.string value)
  /-- A number. -/
  | number {text : Text} {value : Json} (h : number? text = some (value, [])) : Scalar text value

/-- Values in brackets, around values of the given form. -/
inductive Bracketed (Value : Text → Json → Prop) : Text → Json → Prop where
  /-- A list. -/
  | array {body : Text} {items : List Json} (h : Listed Value body items) :
      Bracketed Value ('[' :: (body ++ [']'])) (.array items)
  /-- An object: of members with one key the last stays. -/
  | object {body : Text} {members : List (Text × Json)} (h : Listed (Member Value) body members) :
      Bracketed Value ('\x7b' :: (body ++ ['\x7d'])) (.object (Keyed.ofList members))

/-- How a value is written with brackets nested at most `depth` deep. -/
def Written : (depth : Nat) → Text → Json → Prop
  | 0, text, value => Scalar text value
  | depth + 1, text, value => Scalar text value ∨ Bracketed (Written depth) text value

/-- How an object is written that is a whole text, with its members in the order of the text. -/
def ObjectText (text : Text) (members : List (Text × Json)) : Prop :=
  ∃ before body behind, Space before ∧ Space behind ∧
    Listed (Member (Written (maxDepth - 1))) body members ∧
    text = before ++ '\x7b' :: (body ++ '\x7d' :: behind)

/-! ### Writing without space -/

theorem Row.compactLast {α : Type} {Item : Text → α → Prop} {text : Text} {item : α}
    (hitem : Item text item) : Row Item text [item] := by
  simpa using Row.last space_nil hitem space_nil

theorem Row.compactMore {α : Type} {Item : Text → α → Prop} {text body : Text} {item : α}
    {items : List α} (hitem : Item text item) (rest : Row Item body items) :
    Row Item (text ++ ',' :: body) (item :: items) :=
  .more space_nil hitem space_nil rest

theorem Scalar.written {text : Text} {value : Json} (h : Scalar text value) (depth : Nat) :
    Written depth text value := by
  cases depth with
  | zero => exact h
  | succ depth => exact .inl h

theorem Member.compact {Value : Text → Json → Prop} {spelled key text : Text} {value : Json}
    (hkey : Spelled spelled key) (hvalue : Value text value) :
    Member Value ('"' :: (spelled ++ '"' :: ':' :: text)) (key, value) :=
  .mk hkey space_nil space_nil hvalue

/-- A member that is a text, where neither its key nor its value needs a backslash. -/
theorem Member.compactText {key value : Text} (hkey : Spelled key key)
    (hvalue : Spelled value value) (depth : Nat) :
    Member (Written depth) ('"' :: (key ++ '"' :: ':' :: '"' :: (value ++ ['"'])))
      (key, .string value) :=
  .compact hkey (Scalar.written (.string hvalue) depth)

/-! ### How a value starts -/

/-- The text starts neither with space nor with a closing bracket. -/
def Starts (text : Text) : Prop := ∃ c ∈ text.head?, isSpace c = false ∧ c ≠ ']' ∧ c ≠ '\x7d'

theorem starts_cons {c : Char} {rest : Text} :
    Starts (c :: rest) ↔ isSpace c = false ∧ c ≠ ']' ∧ c ≠ '\x7d' := by
  simp [Starts]

theorem Starts.skipSpace_append {text : Text} (h : Starts text) (rest : Text) :
    skipSpace (text ++ rest) = text ++ rest := by
  obtain ⟨c, hhead, hspace, -⟩ := h
  obtain ⟨text, rfl⟩ := List.head?_eq_some_iff.mp hhead
  exact skipSpace_cons hspace (text ++ rest)

/-- No other mark starts a number. -/
theorem ne_of_numberHead {c mark : Char} (h : c.isDigit ∨ c = '-')
    (hmark : mark.isDigit = false ∧ mark ≠ '-') : c ≠ mark := by
  rintro rfl
  simp [hmark] at h

theorem Scalar.starts {text : Text} {value : Json} (h : Scalar text value) : Starts text := by
  cases h with
  | null => exact ⟨'n', rfl, by decide⟩
  | isTrue => exact ⟨'t', rfl, by decide⟩
  | isFalse => exact ⟨'f', rfl, by decide⟩
  | string h => exact ⟨'"', rfl, by decide⟩
  | number h =>
    cases text with
    | nil => cases h
    | cons c text =>
      refine ⟨c, rfl, ?_⟩
      have hhead := head_of_number? (by rw [h]; rfl)
      have hspace : isSpace c = false := by
        simp only [isSpace, Bool.or_eq_false_iff, beq_eq_false_iff_ne]
        exact ⟨⟨⟨ne_of_numberHead hhead (by decide), ne_of_numberHead hhead (by decide)⟩,
          ne_of_numberHead hhead (by decide)⟩, ne_of_numberHead hhead (by decide)⟩
      exact ⟨hspace, ne_of_numberHead hhead (by decide), ne_of_numberHead hhead (by decide)⟩

theorem Bracketed.starts {Value : Text → Json → Prop} {text : Text} {value : Json}
    (h : Bracketed Value text value) : Starts text := by
  cases h with
  | array => exact ⟨'[', rfl, by decide⟩
  | object => exact ⟨'\x7b', rfl, by decide⟩

theorem Written.starts {depth : Nat} {text : Text} {value : Json} (h : Written depth text value) :
    Starts text := by
  cases depth with
  | zero => exact Scalar.starts h
  | succ depth =>
    rcases h with h | h
    · exact h.starts
    · exact h.starts

theorem Member.starts {Value : Text → Json → Prop} {text : Text} {member : Text × Json}
    (h : Member Value text member) : Starts text := by
  cases h
  exact ⟨'"', rfl, by decide⟩

/-- What starts a row is neither space nor a closing bracket. -/
theorem Row.starts {α : Type} {Item : Text → α → Prop} {body : Text} {items : List α}
    (h : Row Item body items) (hstarts : ∀ {text item}, Item text item → Starts text)
    (rest : Text) : Starts (skipSpace (body ++ rest)) := by
  have first {before text : Text} {item : α} (hbefore : Space before) (hitem : Item text item)
      (after : Text) : Starts (skipSpace (before ++ (text ++ after))) := by
    obtain ⟨c, hc, hstart⟩ := hstarts hitem
    rw [skipSpace_append hbefore, (hstarts hitem).skipSpace_append]
    obtain ⟨text, rfl⟩ := List.head?_eq_some_iff.mp hc
    exact ⟨c, rfl, hstart⟩
  cases h with
  | last hbefore hitem =>
    rw [List.append_assoc, List.append_assoc]
    exact first hbefore hitem _
  | more hbefore hitem =>
    rw [List.append_assoc, List.append_assoc]
    exact first hbefore hitem _

/-! ### What is written is read -/

/-- Values with brackets nested at most `depth` deep are read to their end. -/
def Reads (depth : Nat) : Prop :=
  ∀ {text : Text} {value : Json} {fuel : Nat} {rest : Text}, Written depth text value →
    text.length ≤ fuel → EndsNumber rest → value? fuel depth (text ++ rest) = some (value, rest)

theorem Reads.upTo {depth fuel : Nat} (hreads : Reads depth) {text behind : Text} {value : Json}
    (h : Written depth text value) (hfuel : text.length ≤ fuel) (hbehind : Space behind)
    (mark : Char) (hmark : goesOn mark = false) (rest : Text) :
    value? fuel depth (text ++ (behind ++ mark :: rest)) = some (value, behind ++ mark :: rest) :=
  hreads h hfuel (endsNumber_append hbehind (endsNumber_cons.mpr hmark))

theorem items?_of_row {depth fuel : Nat} (hreads : Reads depth) {body : Text} {items : List Json}
    (h : Row (Written depth) body items) (hfuel : body.length < fuel) (rest : Text) :
    items? fuel depth (skipSpace (body ++ ']' :: rest)) = some (items, rest) := by
  induction h generalizing fuel with
  | @last before text behind item hbefore hitem hbehind =>
    obtain ⟨fuel, rfl⟩ := Nat.exists_eq_add_one.mpr (Nat.zero_lt_of_lt hfuel)
    simp only [List.length_append] at hfuel
    have hvalue := hreads.upTo hitem (show text.length ≤ fuel by omega) hbehind ']' rfl rest
    simp only [List.append_assoc, skipSpace_append hbefore, hitem.starts.skipSpace_append, items?,
      hvalue, Option.bind_eq_bind, Option.bind_some, skipSpace_append hbehind,
      skipSpace_cons (c := ']') rfl]
  | @more before text behind body item items hbefore hitem hbehind row ih =>
    obtain ⟨fuel, rfl⟩ := Nat.exists_eq_add_one.mpr (Nat.zero_lt_of_lt hfuel)
    simp only [List.length_append, List.length_cons] at hfuel
    -- The comma pays for reading the rest of the row with one call less.
    have hvalue := hreads.upTo hitem (show text.length ≤ fuel by omega) hbehind ',' rfl
      (body ++ ']' :: rest)
    simp only [List.append_assoc, List.cons_append, skipSpace_append hbefore,
      hitem.starts.skipSpace_append, items?, hvalue, Option.bind_eq_bind, Option.bind_some,
      skipSpace_append hbehind, skipSpace_cons (c := ',') rfl, ih (show body.length < fuel by omega)]

/-- Behind the key of a member its value is left, which is shorter. -/
theorem key?_of_member {Value : Text → Json → Prop} {text key : Text} {value : Json}
    (h : Member Value text (key, value)) : ∃ written, Value written value ∧
      written.length < text.length ∧
      ∀ rest, key? (text ++ rest) = some (key, skipSpace (written ++ rest)) := by
  cases h with
  | @mk spelled _ behind before written _ hkey hbehind hbefore hvalue =>
    refine ⟨written, hvalue, ?_, fun rest => key?_eq_some_iff.mpr ?_⟩
    · simp only [List.length_append, List.length_cons]
      omega
    · refine ⟨spelled, behind, before ++ (written ++ rest), hkey, hbehind, by simp, ?_⟩
      rw [skipSpace_append hbefore]

theorem pairs?_of_row {depth fuel : Nat} (hreads : Reads depth) {body : Text}
    {members : List (Text × Json)} (h : Row (Member (Written depth)) body members)
    (hfuel : body.length ≤ fuel) (rest : Text) :
    pairs? fuel depth (skipSpace (body ++ '\x7d' :: rest)) = some (members, rest) := by
  induction h generalizing fuel with
  | @last before text behind member hbefore hmember hbehind =>
    obtain ⟨key, value⟩ := member
    obtain ⟨written, hwritten, hshorter, hkey⟩ := key?_of_member hmember
    simp only [List.length_append] at hfuel
    obtain ⟨fuel, rfl⟩ := Nat.exists_eq_add_one.mpr (show 0 < fuel by omega)
    have hvalue := hreads.upTo hwritten (show written.length ≤ fuel by omega) hbehind '\x7d' rfl
      rest
    simp only [List.append_assoc, skipSpace_append hbefore, hmember.starts.skipSpace_append,
      pairs?, hkey, hwritten.starts.skipSpace_append, hvalue, Option.bind_eq_bind,
      Option.bind_some, skipSpace_append hbehind, skipSpace_cons (c := '\x7d') rfl]
  | @more before text behind body member members hbefore hmember hbehind row ih =>
    obtain ⟨key, value⟩ := member
    obtain ⟨written, hwritten, hshorter, hkey⟩ := key?_of_member hmember
    simp only [List.length_append, List.length_cons] at hfuel
    obtain ⟨fuel, rfl⟩ := Nat.exists_eq_add_one.mpr (show 0 < fuel by omega)
    have hvalue := hreads.upTo hwritten (show written.length ≤ fuel by omega) hbehind ',' rfl
      (body ++ '\x7d' :: rest)
    simp only [List.append_assoc, List.cons_append, skipSpace_append hbefore,
      hmember.starts.skipSpace_append, pairs?, hkey, hwritten.starts.skipSpace_append, hvalue,
      Option.bind_eq_bind, Option.bind_some, skipSpace_append hbehind,
      skipSpace_cons (c := ',') rfl, ih (show body.length ≤ fuel by omega)]

theorem members?_of_listed {depth fuel : Nat} (hreads : Reads depth) {body : Text}
    {members : List (Text × Json)} (h : Listed (Member (Written depth)) body members)
    (hfuel : body.length < fuel) (rest : Text) :
    members? fuel depth (body ++ '\x7d' :: rest) = some (Keyed.ofList members, rest) := by
  obtain ⟨fuel, rfl⟩ := Nat.exists_eq_add_one.mpr (Nat.zero_lt_of_lt hfuel)
  cases h with
  | none space =>
    simp only [members?, skipSpace_append space, skipSpace_cons (c := '\x7d') rfl]
    rfl
  | row row =>
    have hstarts := row.starts Member.starts ('\x7d' :: rest)
    have hpairs := pairs?_of_row hreads row (Nat.le_of_lt_succ hfuel) rest
    rw [members?]
    split
    case h_1 after heq => exact absurd rfl (starts_cons.mp (heq ▸ hstarts)).2.2
    case h_2 =>
      rw [hpairs]
      rfl

theorem value?_number {c : Char} (h : c.isDigit ∨ c = '-') (fuel depth : Nat) (rest : Text) :
    value? (fuel + 1) depth (c :: rest) = number? (c :: rest) := by
  rw [value?] <;> exact ne_of_numberHead h (by decide)

theorem value?_array (fuel depth : Nat) (rest : Text) :
    value? (fuel + 1) (depth + 1) ('[' :: rest) =
      match skipSpace rest with
      | ']' :: after => some (.array [], after)
      | rest => (items? fuel depth rest).map fun (items, after) => (.array items, after) := by
  cases h : skipSpace rest with
  | nil => simp [value?, h]
  | cons c text => by_cases hc : c = ']' <;> simp [value?, h, hc]

theorem value?_of_scalar {fuel : Nat} {text rest : Text} {value : Json} (h : Scalar text value)
    (hfuel : text.length ≤ fuel) (hrest : EndsNumber rest) (depth : Nat) :
    value? fuel depth (text ++ rest) = some (value, rest) := by
  have hpos : 0 < fuel := by
    obtain ⟨c, hc, -⟩ := h.starts
    exact Nat.lt_of_lt_of_le (List.length_pos_of_mem (List.mem_of_mem_head? hc)) hfuel
  obtain ⟨fuel, rfl⟩ := Nat.exists_eq_add_one.mpr hpos
  cases h with
  | null => simp [value?, word?, Text.after?]
  | isTrue => simp [value?, word?, Text.after?]
  | isFalse => simp [value?, word?, Text.after?]
  | string h =>
    rw [List.cons_append, List.append_assoc, List.singleton_append, value?,
      string?_of_spelled h]
    rfl
  | number h =>
    cases text with
    | nil => cases h
    | cons c text =>
      have hhead := head_of_number? (by rw [h]; rfl)
      rw [List.cons_append, value?_number hhead, ← List.cons_append, number?_append hrest, h]
      rfl

theorem value?_of_bracketed {depth fuel : Nat} (hreads : Reads depth) {text : Text} {value : Json}
    (h : Bracketed (Written depth) text value) (hfuel : text.length ≤ fuel) (rest : Text) :
    value? fuel (depth + 1) (text ++ rest) = some (value, rest) := by
  cases h with
  | array h =>
    simp only [List.length_append, List.length_cons, List.length_nil] at hfuel
    obtain ⟨fuel, rfl⟩ := Nat.exists_eq_add_one.mpr (show 0 < fuel by omega)
    rw [List.cons_append, List.append_assoc, List.singleton_append, value?_array]
    cases h with
    | none space =>
      rw [skipSpace_append space, skipSpace_cons rfl]
      rfl
    | row row =>
      have hstarts := row.starts Written.starts (']' :: rest)
      split
      case h_1 after heq => exact absurd rfl (starts_cons.mp (heq ▸ hstarts)).2.1
      case h_2 =>
        rw [items?_of_row hreads row (by omega)]
        rfl
  | object h =>
    simp only [List.length_append, List.length_cons, List.length_nil] at hfuel
    obtain ⟨fuel, rfl⟩ := Nat.exists_eq_add_one.mpr (show 0 < fuel by omega)
    rw [List.cons_append, List.append_assoc, List.singleton_append, value?,
      members?_of_listed hreads h (by omega)]
    rfl

theorem reads (depth : Nat) : Reads depth := by
  induction depth with
  | zero =>
    intro text value fuel rest h hfuel hrest
    exact value?_of_scalar h hfuel hrest 0
  | succ depth ih =>
    intro text value fuel rest h hfuel hrest
    rcases h with scalar | bracketed
    · exact value?_of_scalar scalar hfuel hrest (depth + 1)
    · exact value?_of_bracketed ih bracketed hfuel rest

/-! ### What is read is written -/

/-- Values that are read with brackets nested at most `depth` deep are written so. -/
def ReadsOnly (depth : Nat) : Prop :=
  ∀ {fuel : Nat} {text : Text} {value : Json} {rest : Text},
    value? fuel depth text = some (value, rest) → EndsNumber rest →
      ∃ written, text = written ++ rest ∧ Written depth written value

/-- What stands behind skipped space. -/
theorem exists_of_skipSpace {text rest : Text} {mark : Char} (h : skipSpace text = mark :: rest) :
    ∃ front, Space front ∧ text = front ++ mark :: rest := by
  obtain ⟨front, hfront, htext⟩ := exists_skipSpace text
  exact ⟨front, hfront, by rw [← h, ← htext]⟩

theorem Row.prepend {α : Type} {Item : Text → α → Prop} {front body : Text} {items : List α}
    (hfront : Space front) (h : Row Item body items) : Row Item (front ++ body) items := by
  have space {before : Text} (hbefore : Space before) : Space (front ++ before) :=
    fun c hc => (List.mem_append.mp hc).elim (hfront c) (hbefore c)
  cases h with
  | last hbefore hitem hbehind =>
    rw [← List.append_assoc]
    exact .last (space hbefore) hitem hbehind
  | more hbefore hitem hbehind row =>
    rw [← List.append_assoc]
    exact .more (space hbefore) hitem hbehind row

theorem ReadsOnly.upTo {depth fuel : Nat} (hreads : ReadsOnly depth) {text after rest : Text}
    {value : Json} {mark : Char} (h : value? fuel depth text = some (value, after))
    (hafter : skipSpace after = mark :: rest) (hmark : goesOn mark = false) :
    ∃ written behind, Written depth written value ∧ Space behind ∧
      text = written ++ (behind ++ mark :: rest) := by
  obtain ⟨behind, hbehind, rfl⟩ := exists_of_skipSpace hafter
  obtain ⟨written, rfl, hwritten⟩ :=
    hreads h (endsNumber_append hbehind (endsNumber_cons.mpr hmark))
  exact ⟨written, behind, hwritten, hbehind, rfl⟩

theorem row_of_items? {depth : Nat} (hreads : ReadsOnly depth) {fuel : Nat} {text rest : Text}
    {items : List Json} (h : items? fuel depth text = some (items, rest)) :
    ∃ body, text = body ++ ']' :: rest ∧ Row (Written depth) body items := by
  induction fuel generalizing text items with
  | zero =>
    rw [items?] at h
    cases h
  | succ fuel ih =>
    rw [items?] at h
    obtain ⟨⟨item, after⟩, hvalue, h⟩ := Option.bind_eq_some_iff.mp h
    dsimp only at h
    split at h
    case h_1 hafter =>
      cases h
      obtain ⟨written, behind, hwritten, hbehind, rfl⟩ := hreads.upTo hvalue hafter rfl
      refine ⟨written ++ behind, by rw [List.append_assoc], ?_⟩
      exact .last space_nil hwritten hbehind
    case h_2 next hafter =>
      obtain ⟨⟨items, after⟩, hitems, h⟩ := Option.bind_eq_some_iff.mp h
      cases h
      obtain ⟨written, behind, hwritten, hbehind, rfl⟩ := hreads.upTo hvalue hafter rfl
      obtain ⟨front, hfront, hnext⟩ := exists_skipSpace next
      obtain ⟨body, hbody, hrow⟩ := ih hitems
      refine ⟨written ++ (behind ++ ',' :: (front ++ body)), ?_, ?_⟩
      · rw [hnext, hbody]
        simp
      · exact .more space_nil hwritten hbehind (hrow.prepend hfront)
    case h_3 => cases h

/-- The space that the reader skips behind a comma belongs to the member that follows. -/
theorem row_of_pairs? {depth : Nat} (hreads : ReadsOnly depth) {fuel : Nat} {text rest : Text}
    {members : List (Text × Json)} (h : pairs? fuel depth text = some (members, rest)) :
    ∃ body, text = body ++ '\x7d' :: rest ∧ Row (Member (Written depth)) body members := by
  induction fuel generalizing text members with
  | zero =>
    rw [pairs?] at h
    cases h
  | succ fuel ih =>
    rw [pairs?] at h
    obtain ⟨⟨key, value⟩, hkey, h⟩ := Option.bind_eq_some_iff.mp h
    obtain ⟨spelled, between, colon, hspelled, hbetween, htext, rfl⟩ := key?_eq_some_iff.mp hkey
    obtain ⟨before, hbefore, hcolon⟩ := exists_skipSpace colon
    obtain ⟨⟨value, after⟩, hvalue, h⟩ := Option.bind_eq_some_iff.mp h
    dsimp only at h
    split at h
    case h_1 hafter =>
      cases h
      obtain ⟨written, behind, hwritten, hbehind, hnext⟩ := hreads.upTo hvalue hafter rfl
      refine ⟨_, ?_, .last space_nil (.mk hspelled hbetween hbefore hwritten) hbehind⟩
      rw [htext, hcolon, hnext]
      simp
    case h_2 next hafter =>
      obtain ⟨⟨members, after⟩, hmembers, h⟩ := Option.bind_eq_some_iff.mp h
      cases h
      obtain ⟨written, behind, hwritten, hbehind, hmark⟩ := hreads.upTo hvalue hafter rfl
      obtain ⟨front, hfront, hnext⟩ := exists_skipSpace next
      obtain ⟨body, hbody, hrow⟩ := ih hmembers
      refine ⟨_, ?_, .more space_nil (.mk hspelled hbetween hbefore hwritten) hbehind
        (hrow.prepend hfront)⟩
      rw [htext, hcolon, hmark, hnext, hbody]
      simp
    case h_3 => cases h

theorem listed_of_members? {depth : Nat} (hreads : ReadsOnly depth) {fuel : Nat} {text rest : Text}
    {found : Keyed Json} (h : members? fuel depth text = some (found, rest)) :
    ∃ body members, text = body ++ '\x7d' :: rest ∧
      Listed (Member (Written depth)) body members ∧ found = Keyed.ofList members := by
  cases fuel with
  | zero =>
    rw [members?] at h
    cases h
  | succ fuel =>
    rw [members?] at h
    split at h
    case h_1 hspace =>
      cases h
      obtain ⟨front, hfront, rfl⟩ := exists_of_skipSpace hspace
      exact ⟨front, [], rfl, .none hfront, rfl⟩
    case h_2 =>
      obtain ⟨⟨members, after⟩, hmembers, h⟩ := Option.map_eq_some_iff.mp h
      cases h
      obtain ⟨front, hfront, htext⟩ := exists_skipSpace text
      obtain ⟨body, hbody, hrow⟩ := row_of_pairs? hreads hmembers
      refine ⟨front ++ body, members, ?_, .row (hrow.prepend hfront), rfl⟩
      rw [htext, hbody, List.append_assoc]

theorem eq_of_word? {word text rest : Text} {value found : Json}
    (h : word? word value text = some (found, rest)) : text = word ++ rest ∧ found = value := by
  obtain ⟨after, hafter, heq⟩ := Option.map_eq_some_iff.mp h
  cases heq
  exact ⟨Text.after?_eq_some_iff.mp hafter, rfl⟩

theorem readsOnly (depth : Nat) : ReadsOnly depth := by
  induction depth using Nat.strongRecOn with
  | ind depth ih =>
  intro fuel text value rest h hrest
  rw [value?.eq_def] at h
  split at h
  case h_1 => cases h
  case h_2 => cases h
  case h_3 fuel c text =>
  -- the cases are the characters with which a value starts
  split at h
  case h_1 =>
    obtain ⟨htext, rfl⟩ := eq_of_word? h
    exact ⟨_, htext, Scalar.null.written depth⟩
  case h_2 =>
    obtain ⟨htext, rfl⟩ := eq_of_word? h
    exact ⟨_, htext, Scalar.isTrue.written depth⟩
  case h_3 =>
    obtain ⟨htext, rfl⟩ := eq_of_word? h
    exact ⟨_, htext, Scalar.isFalse.written depth⟩
  case h_4 =>
    obtain ⟨⟨value, after⟩, hstring, h⟩ := Option.map_eq_some_iff.mp h
    cases h
    obtain ⟨spelled, rfl, hspelled⟩ := spelled_of_string? hstring
    exact ⟨'"' :: (spelled ++ ['"']), by simp, (Scalar.string hspelled).written depth⟩
  case h_5 =>
    split at h
    case h_1 => cases h
    case h_2 depth after hspace =>
      cases h
      obtain ⟨front, hfront, rfl⟩ := exists_of_skipSpace hspace
      exact ⟨'[' :: (front ++ [']']), by simp, .inr (.array (.none hfront))⟩
    case h_3 depth _ =>
      obtain ⟨⟨items, after⟩, hitems, h⟩ := Option.map_eq_some_iff.mp h
      cases h
      obtain ⟨front, hfront, htext⟩ := exists_skipSpace text
      obtain ⟨body, hbody, hrow⟩ := row_of_items? (ih depth (Nat.lt_add_one depth)) hitems
      refine ⟨'[' :: (front ++ body ++ [']']), ?_, .inr (.array (.row (hrow.prepend hfront)))⟩
      rw [htext, hbody]
      simp
  case h_6 =>
    split at h
    case h_1 => cases h
    case h_2 depth =>
      obtain ⟨⟨members, after⟩, hmembers, h⟩ := Option.map_eq_some_iff.mp h
      cases h
      obtain ⟨body, members, rfl, hbody, rfl⟩ :=
        listed_of_members? (ih depth (Nat.lt_add_one depth)) hmembers
      exact ⟨'\x7b' :: (body ++ ['\x7d']), by simp, .inr (.object hbody)⟩
  case h_7 =>
    obtain ⟨written, htext, hwritten⟩ := (number?_eq_some_iff hrest).mp h
    exact ⟨written, htext, (Scalar.number hwritten).written depth⟩

/-! ### Reading and writing -/

/-- **The values that are read are those that are written.** In front of what ends a number, a
value is read from a text if and only if the text starts with it, written by the rules. -/
theorem value?_eq_some_iff {depth fuel : Nat} {text rest : Text} {value : Json}
    (hfuel : text.length ≤ fuel) (hrest : EndsNumber rest) :
    value? fuel depth text = some (value, rest) ↔
      ∃ written, text = written ++ rest ∧ Written depth written value := by
  refine ⟨fun h => readsOnly depth h hrest, ?_⟩
  rintro ⟨written, rfl, hwritten⟩
  rw [List.length_append] at hfuel
  exact reads depth hwritten (by omega) hrest

/-- **The members that are read are those that are written.** -/
theorem members?_eq_some_iff {depth fuel : Nat} {text rest : Text} {found : Keyed Json}
    (hfuel : text.length ≤ fuel) :
    members? fuel depth text = some (found, rest) ↔
      ∃ body members, text = body ++ '\x7d' :: rest ∧
        Listed (Member (Written depth)) body members ∧ found = Keyed.ofList members := by
  refine ⟨listed_of_members? (readsOnly depth), ?_⟩
  rintro ⟨body, members, rfl, hbody, rfl⟩
  rw [List.length_append, List.length_cons] at hfuel
  exact members?_of_listed (reads depth) hbody (by omega) rest

end Json

end SqlDialect
