import SqlDialect.Config.Reader
import SqlDialect.Proofs.Json.Grammar

/-!
# The members that count

A configuration is an object with any members in any order, some of them perhaps twice. Four of its
keys count, and of two members with one key the last. So two objects that agree on the last member
under each of the four keys are one configuration, or they fail with one message.

## Which fault is reported

Several members may be bad at once. The properties are looked at in a fixed order, and what comes
first there is reported, wherever it stands in the text. Three of the four belong to the sink, and
these are looked at only when one of them is there. That makes no difference to the faults: when
none of them is there, none of them is bad. So the faults are told in one list of four
(`firstFault?`), and the sink is a matter of success alone.

Each step of the reader fails in the same way whatever the steps before it gave. Therefore the error
of a row of steps is the first of their errors (`errorOf?_bind`), and nothing need be known of the
values they give.

## Main definitions

* `Config.propertyKeys` — the keys that count, in the order in which they are looked at
* `Config.firstFault?` — the first fault of an object

## Main results

* `Config.parse_eq_ok_iff` — a configuration is read from objects only
* `Config.exists_ofMembers_eq_ok_iff` — it is there unless a property is at fault
* `Config.parse_depends_on_properties` — it depends only on the members that count
-/

namespace SqlDialect

namespace Config

open Json (ObjectText)

/-! ### Errors of steps -/

section Errors

variable {α β : Type}

/-- The error of a step, if it fails. -/
def errorOf? : Except ConfigError α → Option ConfigError
  | .ok _ => none
  | .error e => some e

theorem errorOf?_eq_some_iff {x : Except ConfigError α} {e : ConfigError} :
    errorOf? x = some e ↔ x = .error e := by
  cases x <;> simp [errorOf?]

theorem errorOf?_error (e : ConfigError) :
    errorOf? (.error e : Except ConfigError α) = some e := rfl

theorem errorOf?_ite {p : Prop} [Decidable p] {a : α} {x : Except ConfigError α} :
    errorOf? (if p then .ok a else x) = if p then none else errorOf? x := by
  split <;> rfl

/-- Of two steps the second does not depend on, the first error counts. -/
theorem errorOf?_bind {x : Except ConfigError α} {f : α → Except ConfigError β}
    {later : Option ConfigError} (h : ∀ a, errorOf? (f a) = later) :
    errorOf? (x >>= f) = (errorOf? x).or later := by
  cases x with
  | ok a => exact h a
  | error e => rfl

theorem exists_of_bind_eq_ok {x : Except ConfigError α} {f : α → Except ConfigError β} {b : β}
    (h : x >>= f = .ok b) : ∃ a, x = .ok a ∧ f a = .ok b := by
  cases x with
  | ok a => exact ⟨a, rfl, h⟩
  | error e => cases h

theorem errorOf?_bind_pure {x : Except ConfigError α} {f : α → β} :
    errorOf? (x >>= fun a => pure (f a)) = errorOf? x := by
  cases x <;> rfl

theorem property_eq_getD (members : Keyed Json) (key : Text) (absent : α)
    (read : Json → Except ConfigError α) :
    property members key absent read = ((members.get? key).map read).getD (.ok absent) := by
  unfold property
  cases members.get? key <;> rfl

/-- A property that is not there is not at fault. -/
theorem errorOf?_property {members : Keyed Json} {key : Text} {absent : α}
    {read : Json → Except ConfigError α} {fault? : Json → Option ConfigError}
    (h : ∀ value, errorOf? (read value) = fault? value) :
    errorOf? (property members key absent read) = (members.get? key).bind fault? := by
  rw [property_eq_getD]
  cases members.get? key with
  | none => rfl
  | some value => exact h value

end Errors

/-! ### Reading an object -/

/-- A text that is an object is read as the configuration of its members. -/
theorem parse_of_objectText {text : Text} {members : List (Text × Json)}
    (h : ObjectText text members) : parse text = ofMembers (Keyed.ofList members) := by
  obtain ⟨before, body, behind, hbefore, hbehind, hbody, rfl⟩ := h
  have hmembers : Json.members? ((before ++ '\x7b' :: (body ++ '\x7d' :: behind)).length + 1)
      (Json.maxDepth - 1) (body ++ '\x7d' :: behind) = some (Keyed.ofList members, behind) := by
    refine (Json.members?_eq_some_iff ?_).mpr ⟨body, members, rfl, hbody, rfl⟩
    simp only [List.length_append, List.length_cons]
    omega
  have hend : Json.skipSpace behind = [] := Json.skipSpace_eq_nil_iff.mpr hbehind
  rw [parse, Json.skipSpace_append hbefore, Json.skipSpace_cons rfl]
  simp only [hmembers, hend, List.isEmpty_nil, if_true]
  exact bind_pure (ofMembers (Keyed.ofList members))

/-- What is read as a configuration is an object: nothing but space stands around it. -/
theorem objectText_of_parse {text : Text} {c : Config} (h : parse text = .ok c) :
    ∃ members, ObjectText text members ∧ ofMembers (Keyed.ofList members) = .ok c := by
  unfold parse at h
  split at h
  case h_1 rest hstart =>
    obtain ⟨before, hbefore, rfl⟩ := Json.exists_of_skipSpace hstart
    split at h
    case h_1 => cases h
    case h_2 found after hmembers =>
      have hfuel : rest.length ≤ (before ++ '\x7b' :: rest).length + 1 := by
        simp only [List.length_append, List.length_cons]
        omega
      obtain ⟨body, members, rfl, hbody, rfl⟩ := (Json.members?_eq_some_iff hfuel).mp hmembers
      obtain ⟨found, hfound, h⟩ := exists_of_bind_eq_ok h
      split at h
      case isTrue hend =>
        cases h
        have hafter := Json.skipSpace_eq_nil_iff.mp (List.isEmpty_iff.mp hend)
        exact ⟨members, ⟨before, body, after, hbefore, hafter, hbody, rfl⟩, hfound⟩
      case isFalse => cases h
  case h_2 => split at h <;> cases h

/-- **A configuration is read from objects only**, and it is that of the members. -/
theorem parse_eq_ok_iff {text : Text} {c : Config} :
    parse text = .ok c ↔
      ∃ members, ObjectText text members ∧ ofMembers (Keyed.ofList members) = .ok c := by
  refine ⟨objectText_of_parse, ?_⟩
  rintro ⟨members, htext, hmembers⟩
  rw [parse_of_objectText htext, hmembers]

/-! ### Faults -/

/-- The properties that count, in the order in which they are looked at. -/
def propertyKeys : List Text :=
  [quotingKey, insertModeKey, timestampFieldsKey, timestampPrecisionKey]

/-- What is wrong with the name of a choice: it is no text, or none of the names, where the case of
letters does not count. -/
def choiceFault? (fold : Text → Text) (names : List Text) (unknown : Text → ConfigError) :
    Json → Option ConfigError
  | .string text =>
    let name := fold (Text.trim text)
    if name ∈ names then none else some (unknown name)
  | value => some (.notAString value.shape)

/-- Whether a value is a text. -/
def isText : Json → Bool
  | .string _ => true
  | _ => false

/-- What is wrong with a list of names: it is neither a text nor a list of texts. -/
def listFault? : Json → Option ConfigError
  | .string _ => none
  | .array items => if items.all isText then none else some .notAList
  | _ => some .notAList

/-- What is wrong with the value of a property. -/
def fault? (key : Text) : Json → Option ConfigError :=
  if key = quotingKey then choiceFault? Text.asciiLower ["always", "never"] .unknownQuoting
  else if key = insertModeKey then
    choiceFault? Text.asciiUpper ["INSERT", "UPSERT", "UPDATE"] .unknownInsertMode
  else if key = timestampFieldsKey then listFault?
  else if key = timestampPrecisionKey then
    choiceFault? Text.asciiLower ["microseconds", "nanoseconds"] .unknownPrecision
  else fun _ => none

/-- What is wrong with the value that is found for a property. -/
def faultUnder? (lookup : Text → Option Json) (key : Text) : Option ConfigError :=
  (lookup key).bind (fault? key)

/-- The first fault of an object with the given members, of which the last with a key counts. -/
def firstFault? (members : List (Text × Json)) : Option ConfigError :=
  propertyKeys.findSome? (faultUnder? (Keyed.last? members))

/-! ### The readers of properties and their faults -/

theorem errorOf?_choice {α : Type} {ofName : Text → Except ConfigError α} {fold : Text → Text}
    {names : List Text} {unknown : Text → ConfigError}
    (h : ∀ text, errorOf? (ofName text) =
      if fold (Text.trim text) ∈ names then none else some (unknown (fold (Text.trim text))))
    (value : Json) :
    errorOf? (textOf value >>= ofName) = choiceFault? fold names unknown value := by
  cases value with
  | string text => exact h text
  | _ => rfl

theorem ite_mem_cons {name known : Text} {names : List Text} {e : Option ConfigError} :
    (if name ∈ known :: names then none else e) =
      if name = known then none else if name ∈ names then none else e := by
  by_cases h : name = known <;> simp [h]

theorem errorOf?_quoting (value : Json) :
    errorOf? (textOf value >>= Quoting.ofName) = fault? quotingKey value := by
  refine errorOf?_choice (fun text => ?_) value
  simp only [Quoting.ofName, errorOf?_ite, errorOf?_error, ite_mem_cons, List.not_mem_nil,
    if_false]

theorem errorOf?_insertMode (value : Json) :
    errorOf? (textOf value >>= InsertMode.ofName) = fault? insertModeKey value := by
  refine errorOf?_choice (fun text => ?_) value
  simp only [InsertMode.ofName, errorOf?_ite, errorOf?_error, ite_mem_cons, List.not_mem_nil,
    if_false]

theorem errorOf?_timestampPrecision (value : Json) :
    errorOf? (textOf value >>= TimestampPrecision.ofName) = fault? timestampPrecisionKey value := by
  refine errorOf?_choice (fun text => ?_) value
  simp only [TimestampPrecision.ofName, errorOf?_ite, errorOf?_error, ite_mem_cons,
    List.not_mem_nil, if_false]

theorem texts?_isSome (items : List Json) : (texts? items).isSome = items.all isText := by
  induction items with
  | nil => rfl
  | cons item items ih =>
    cases item with
    | string text => simpa [texts?, isText] using ih
    | _ => rfl

theorem errorOf?_namesOf (value : Json) :
    errorOf? (namesOf value) = fault? timestampFieldsKey value := by
  cases value with
  | array items =>
    have hitems := texts?_isSome items
    have hfault : fault? timestampFieldsKey (.array items) =
        if items.all isText then none else some .notAList := rfl
    rw [hfault]
    cases h : texts? items with
    | some names =>
      rw [if_pos (by rw [← hitems, h]; rfl), namesOf, h]
      rfl
    | none =>
      rw [if_neg (by rw [← hitems, h]; exact Bool.false_ne_true), namesOf, h]
      rfl
  | _ => rfl

/-! ### The first fault -/

theorem findSome?_cons_eq_or {α β : Type} (f : α → Option β) (a : α) (as : List α) :
    (a :: as).findSome? f = (f a).or (as.findSome? f) := by
  rw [List.findSome?_cons]
  cases f a <;> rfl

theorem errorOf?_sinkOfMembers (members : Keyed Json) :
    errorOf? (sinkOfMembers members) = sinkKeys.findSome? (faultUnder? members.get?) := by
  unfold sinkOfMembers
  refine (errorOf?_bind fun _ => errorOf?_bind fun _ => errorOf?_bind_pure).trans ?_
  rw [errorOf?_property errorOf?_insertMode, errorOf?_property errorOf?_namesOf,
    errorOf?_property errorOf?_timestampPrecision]
  simp only [sinkKeys, findSome?_cons_eq_or, List.findSome?_nil, Option.or_none]
  rfl

/-- **The error of a configuration is its first fault.** -/
theorem errorOf?_ofMembers (members : Keyed Json) :
    errorOf? (ofMembers members) = propertyKeys.findSome? (faultUnder? members.get?) := by
  have hsink (quoting : Quoting) :
      errorOf? (if sinkKeys.any fun key => (members.get? key).isSome then do
          let sink ← sinkOfMembers members
          return ({ quoting, sink := some sink } : Config)
        else return { quoting }) = sinkKeys.findSome? (faultUnder? members.get?) := by
    split
    case isTrue => rw [errorOf?_bind_pure, errorOf?_sinkOfMembers]
    case isFalse habsent =>
      -- None of the properties of the sink is there, so its list of faults is empty.
      simp only [List.any_eq_true, not_exists, not_and, Bool.not_eq_true,
        Option.isSome_eq_false_iff, Option.isNone_iff_eq_none] at habsent
      refine (List.findSome?_eq_none_iff.mpr fun key hkey => ?_).symm
      rw [faultUnder?, habsent key hkey, Option.bind_none]
  unfold ofMembers
  rw [errorOf?_bind hsink, errorOf?_property errorOf?_quoting]
  exact (findSome?_cons_eq_or (faultUnder? members.get?) quotingKey sinkKeys).symm

/-- A configuration is there if and only if no property is at fault. -/
theorem exists_ofMembers_eq_ok_iff {members : Keyed Json} :
    (∃ c, ofMembers members = .ok c) ↔
      ∀ key ∈ propertyKeys, faultUnder? members.get? key = none := by
  rw [← List.findSome?_eq_none_iff, ← errorOf?_ofMembers]
  cases ofMembers members <;> simp [errorOf?]

/-- There is a sink if and only if one of its properties is there. -/
theorem isSome_sink {members : Keyed Json} {c : Config} (h : ofMembers members = .ok c) :
    c.sink.isSome ↔ ∃ key ∈ sinkKeys, (members.get? key).isSome := by
  unfold ofMembers at h
  obtain ⟨quoting, -, h⟩ := exists_of_bind_eq_ok h
  rw [← List.any_eq_true]
  split at h
  case isTrue hpresent =>
    obtain ⟨sink, -, h⟩ := exists_of_bind_eq_ok h
    cases h
    simpa using hpresent
  case isFalse habsent =>
    cases h
    simpa using habsent

/-- A configuration depends only on the properties, and on the list of timestamp fields only as far
as its names go. -/
theorem ofMembers_congr {members members' : Keyed Json}
    (hsame : ∀ key ∈ propertyKeys, key ≠ timestampFieldsKey →
      members.get? key = members'.get? key)
    (hfields : (members.get? timestampFieldsKey).map namesOf
      = (members'.get? timestampFieldsKey).map namesOf) :
    ofMembers members = ofMembers members' := by
  have hquoting := hsame quotingKey (by simp [propertyKeys]) (by decide)
  have hinsert := hsame insertModeKey (by simp [propertyKeys]) (by decide)
  have hprecision := hsame timestampPrecisionKey (by simp [propertyKeys]) (by decide)
  have hpresent : (members.get? timestampFieldsKey).isSome
      = (members'.get? timestampFieldsKey).isSome := by
    simpa only [Option.isSome_map] using congrArg Option.isSome hfields
  simp only [ofMembers, sinkOfMembers, property_eq_getD, sinkKeys, List.any_cons, List.any_nil,
    hquoting, hinsert, hprecision, hfields, hpresent]

/-- **A configuration depends only on the members that count**: two objects whose last members under
the four keys are alike are read alike. There is a sink if and only if one of its keys is there, and
the error is the first fault in the order of the properties. -/
theorem parse_depends_on_properties {text text' : Text} {members members' : List (Text × Json)}
    (htext : ObjectText text members) (htext' : ObjectText text' members')
    (hsame : ∀ key ∈ propertyKeys, Keyed.last? members key = Keyed.last? members' key) :
    parse text = parse text' ∧
      (∀ c, parse text = .ok c → (c.sink.isSome ↔ ∃ key ∈ sinkKeys, key ∈ members.map Prod.fst)) ∧
      ∀ e, parse text = .error e ↔ firstFault? members = some e := by
  rw [parse_of_objectText htext, parse_of_objectText htext']
  have hget {key : Text} (hkey : key ∈ propertyKeys) :
      (Keyed.ofList members).get? key = (Keyed.ofList members').get? key := by
    rw [Keyed.get?_ofList, Keyed.get?_ofList, hsame key hkey]
  refine ⟨?_, fun c hc => ?_, fun e => ?_⟩
  · refine ofMembers_congr (fun key hkey _ => hget hkey) ?_
    rw [hget (by simp [propertyKeys])]
  · simpa only [Keyed.get?_ofList, Keyed.last?_isSome_iff] using isSome_sink hc
  · have hlookup : (Keyed.ofList members).get? = Keyed.last? members :=
      funext (Keyed.get?_ofList members)
    rw [← errorOf?_eq_some_iff, errorOf?_ofMembers, hlookup, firstFault?]

/-- In another order, with space, and without a member that a later one replaces: the mode is bad in
both, and it counts before the precision, which is bad as well. -/
theorem parse_depends_on_properties_reordered :
    let first : Text :=
      "\x7b\"timestamp.precision.mode\":0,\"insert.mode\":\"upsert\",\"insert.mode\":\"merge\"\x7d"
    let second : Text := " \x7b\"insert.mode\":\"merge\" ,\"x\":true,\"timestamp.precision.mode\":0\x7d"
    parse first = parse second ∧ parse first = .error (.unknownInsertMode "MERGE") := by
  intro first second
  let member := Json.Member (Json.Written 126)
  have hspace : Json.Space [' '] := by decide
  have hprecision : member ('"' :: (timestampPrecisionKey ++ '"' :: ':' :: ['0']))
      (timestampPrecisionKey, .integer 0) :=
    .compact (Json.spelled_self timestampPrecisionKey (by decide))
      (Json.Scalar.written (.number rfl) _)
  have hkey := Json.spelled_self insertModeKey (by decide)
  have hupsert := Json.Member.compactText hkey (Json.spelled_self "upsert" (by decide)) 126
  have hmerge := Json.Member.compactText hkey (Json.spelled_self "merge" (by decide)) 126
  have hother : member ('"' :: (['x'] ++ '"' :: ':' :: "true")) (['x'], .boolean true) :=
    .compact (Json.spelled_self ['x'] (by decide)) (Json.Scalar.isTrue.written _)
  have hfirst : ObjectText first [(timestampPrecisionKey, .integer 0),
      (insertModeKey, .string "upsert"), (insertModeKey, .string "merge")] :=
    ⟨[], _, [], Json.space_nil, Json.space_nil,
      .row (.compactMore hprecision (.compactMore hupsert (.compactLast hmerge))),
      by decide +kernel⟩
  have hsecond : ObjectText second [(insertModeKey, .string "merge"), (['x'], .boolean true),
      (timestampPrecisionKey, .integer 0)] :=
    ⟨[' '], _, [], hspace, Json.space_nil,
      .row (.more Json.space_nil hmerge hspace (.compactMore hother (.compactLast hprecision))),
      by decide +kernel⟩
  obtain ⟨heq, -, herror⟩ := parse_depends_on_properties hfirst hsecond (by
    simp only [propertyKeys, List.forall_mem_cons, List.not_mem_nil, false_implies, implies_true,
      and_true]
    exact ⟨rfl, rfl, rfl, rfl⟩)
  exact ⟨heq, (herror _).mpr (by decide)⟩

end Config

end SqlDialect
