import SqlDialect.Proofs.Config.Members

/-!
# Two ways to list the timestamp fields

The names of the timestamp fields are given as a list of texts, or as one text with commas between
them. In the one text blanks may stand around each name, and items may be empty or blank: at the
start, between two names and at the end. Both ways give the same names.

## What a name may be

The list takes any text as a name. The text with commas cannot give every name: none that is empty,
that holds a comma, or that a blank starts or ends, whatever is done about spacing. `Listable` says
what is left, and blanks of more than one byte count as blanks like the others. Inside a name they
stay.

## Main definitions

* `Config.Listable` — a name that a text with commas can give
* `Config.Lists` — the items between the commas, and the names that they give

## Main results

* `Config.namesBetweenCommas_join` — the names are read back from the text
* `Config.parse_either_list` — both ways give the same configuration
-/

namespace SqlDialect

namespace Config

open Json (ObjectText)

/-! ### Items and names -/

/-- A name that can be given between commas. -/
structure Listable (name : Text) : Prop where
  /-- There is something of it. -/
  nonempty : name ≠ []
  /-- It is one item. -/
  whole : ',' ∉ name
  /-- No blank starts it. -/
  head : ∀ c ∈ name.head?, Text.isBlank c = false
  /-- No blank ends it. -/
  last : ∀ c ∈ name.getLast?, Text.isBlank c = false

instance (name : Text) : Decidable (Listable name) :=
  decidable_of_iff (name ≠ [] ∧ ',' ∉ name ∧ name.head?.any Text.isBlank = false ∧
      name.getLast?.any Text.isBlank = false) <| by
    constructor
    · rintro ⟨hne, hwhole, hhead, hlast⟩
      refine ⟨hne, hwhole, fun c hc => ?_, fun c hc => ?_⟩
      · rw [Option.mem_def.mp hc] at hhead
        exact hhead
      · rw [Option.mem_def.mp hc] at hlast
        exact hlast
    · rintro ⟨hne, hwhole, hhead, hlast⟩
      refine ⟨hne, hwhole, ?_, ?_⟩
      · cases h : name.head? with
        | none => rfl
        | some c => exact hhead c h
      · cases h : name.getLast? with
        | none => rfl
        | some c => exact hlast c h

/-- Items between commas, and the names that they give. -/
inductive Lists : List Text → List Text → Prop where
  /-- No item. -/
  | nil : Lists [] []
  /-- An item that is empty or blank gives no name. -/
  | blank {item : Text} {items names : List Text} (blank : Text.Blank item)
      (rest : Lists items names) : Lists (item :: items) names
  /-- An item may have blanks around its name. -/
  | name {before name after : Text} {items names : List Text} (hbefore : Text.Blank before)
      (hname : Listable name) (hafter : Text.Blank after) (rest : Lists items names) :
      Lists ((before ++ name ++ after) :: items) (name :: names)

variable {items names : List Text}

theorem not_mem_of_blank {item : Text} (h : Text.Blank item) : ',' ∉ item := fun hmem =>
  absurd (h ',' hmem) (by decide)

theorem Lists.not_mem (h : Lists items names) : ∀ item ∈ items, ',' ∉ item := by
  induction h with
  | nil => exact fun item hitem => absurd hitem List.not_mem_nil
  | blank blank rest ih => exact List.forall_mem_cons.mpr ⟨not_mem_of_blank blank, ih⟩
  | name hbefore hname hafter rest ih =>
    refine List.forall_mem_cons.mpr ⟨?_, ih⟩
    simp only [List.mem_append, not_or]
    exact ⟨⟨not_mem_of_blank hbefore, hname.whole⟩, not_mem_of_blank hafter⟩

/-- The items without their blanks, and without those that are then empty. -/
theorem Lists.trimmed (h : Lists items names) :
    (items.map Text.trim).filter (fun name => !name.isEmpty) = names := by
  induction h with
  | nil => rfl
  | blank blank rest ih =>
    rw [List.map_cons, Text.trim_of_blank blank]
    exact ih
  | name hbefore hname hafter rest ih =>
    rw [List.map_cons,
      Text.trim_append hbefore hafter hname.nonempty hname.head hname.last,
      List.filter_cons_of_pos (by simpa using hname.nonempty), ih]

/-- **The names are read back from the text with commas**, whatever blanks and empty items are put
between them. -/
theorem namesBetweenCommas_join (h : Lists items names) :
    namesBetweenCommas (Text.join "," items) = names := by
  cases items with
  | nil =>
    cases h
    rfl
  | cons item items =>
    have hsplit : Text.splitAll ',' (Text.join "," (item :: items)) = item :: items :=
      Text.splitAll_join h.not_mem (List.cons_ne_nil item items)
    rw [namesBetweenCommas, hsplit, h.trimmed]

theorem texts?_map_string (names : List Text) : texts? (names.map Json.string) = some names := by
  induction names with
  | nil => rfl
  | cons name names ih => rw [List.map_cons, texts?, ih, Option.map_some]

/-- Both ways are read as the same names. -/
theorem namesOf_either (h : Lists items names) :
    namesOf (.array (names.map .string)) = .ok names ∧
      namesOf (.string (Text.join "," items)) = .ok names := by
  rw [namesOf, namesOf, texts?_map_string, namesBetweenCommas_join h]
  exact ⟨rfl, rfl⟩

/-! ### The configuration -/

/-- A listed field has the precision of the sink. -/
theorem precisionOf?_eq (o : SinkOptions) (field : Text) :
    o.precisionOf? field =
      if field ∈ o.timestampFields then some o.timestampPrecision else none := by
  simp [SinkOptions.precisionOf?]

/-- The timestamp fields of a configuration are the names under their property. -/
theorem timestampFields_of_ofMembers {members : Keyed Json} {value : Json} {c : Config}
    (hvalue : members.get? timestampFieldsKey = some value) (hnames : namesOf value = .ok names)
    (h : ofMembers members = .ok c) : ∃ o, c.sink = some o ∧ o.timestampFields = names := by
  have hpresent : (sinkKeys.any fun key => (members.get? key).isSome) = true :=
    List.any_eq_true.mpr ⟨timestampFieldsKey, by simp [sinkKeys], by rw [hvalue]; rfl⟩
  have hread : property members timestampFieldsKey [] namesOf = .ok names := by
    rw [property_eq_getD, hvalue, Option.map_some, Option.getD_some, hnames]
  unfold ofMembers at h
  obtain ⟨quoting, -, h⟩ := exists_of_bind_eq_ok h
  rw [if_pos hpresent] at h
  obtain ⟨sink, hsink, h⟩ := exists_of_bind_eq_ok h
  cases h
  refine ⟨sink, rfl, ?_⟩
  unfold sinkOfMembers at hsink
  obtain ⟨insertMode, -, hsink⟩ := exists_of_bind_eq_ok hsink
  obtain ⟨fields, hfields, hsink⟩ := exists_of_bind_eq_ok hsink
  obtain ⟨precision, -, hsink⟩ := exists_of_bind_eq_ok hsink
  cases hsink
  exact Except.ok.inj (hfields.symm.trans hread)

/-- **Both ways to list the fields mean the same.** With the other properties alike, a list of names
and a text with the names between commas give one configuration, whose fields are the names; it is
there unless another property is at fault. -/
theorem parse_either_list {array joined : Text} {members members' : List (Text × Json)}
    (hlists : Lists items names) (harray : ObjectText array members)
    (hjoined : ObjectText joined members')
    (hfields : Keyed.last? members timestampFieldsKey = some (.array (names.map .string)))
    (hfields' : Keyed.last? members' timestampFieldsKey = some (.string (Text.join "," items)))
    (hsame : ∀ key ∈ propertyKeys, key ≠ timestampFieldsKey →
      Keyed.last? members key = Keyed.last? members' key) :
    parse array = parse joined ∧
      (∀ c, parse array = .ok c → ∃ o, c.sink = some o ∧ o.timestampFields = names ∧
        ∀ field, o.precisionOf? field = if field ∈ names then some o.timestampPrecision else none) ∧
      ((∀ key ∈ propertyKeys, key ≠ timestampFieldsKey →
          faultUnder? (Keyed.last? members) key = none) → ∃ c, parse array = .ok c) := by
  obtain ⟨hlist, htext⟩ := namesOf_either hlists
  rw [parse_of_objectText harray, parse_of_objectText hjoined]
  simp only [← Keyed.get?_ofList] at hfields hfields' hsame
  refine ⟨?_, fun c hc => ?_, fun hfaults => ?_⟩
  · refine ofMembers_congr hsame ?_
    rw [hfields, hfields', Option.map_some, Option.map_some, hlist, htext]
  · obtain ⟨o, hsink, hnames⟩ := timestampFields_of_ofMembers hfields hlist hc
    exact ⟨o, hsink, hnames, fun field => by rw [precisionOf?_eq, hnames]⟩
  · refine exists_ofMembers_eq_ok_iff.mpr fun key hkey => ?_
    by_cases hlisted : key = timestampFieldsKey
    · rw [hlisted, faultUnder?, hfields, Option.bind_some, ← errorOf?_namesOf, hlist]
      rfl
    · rw [funext (Keyed.get?_ofList members)]
      exact hfaults key hkey hlisted

/-- Blanks of more than one byte around a name and in one, and empty items at both ends and between. -/
theorem parse_either_list_wideBlanks :
    let array : Text :=
      "\x7b\"timestamp.fields.list\":[\"ts\",\"due\u00a0date\"],\"insert.mode\":\"upsert\"\x7d"
    let joined : Text := "\x7b\"insert.mode\":\"upsert\"," ++
      "\"timestamp.fields.list\":\",\u3000ts\u2003,, due\u00a0date , \"\x7d"
    parse array = parse joined ∧ ∃ c o, parse array = .ok c ∧ c.sink = some o ∧
      o.timestampFields = (["ts", "due\u00a0date"] : List Text) := by
  intro array joined
  let names : List Text := ["ts", "due\u00a0date"]
  let items : List Text := [[], ("\u3000" : Text) ++ "ts" ++ "\u2003", [],
    (" " : Text) ++ "due\u00a0date" ++ " ", " "]
  have hlists : Lists items names :=
    .blank (by decide) (.name (by decide) (by decide) (by decide) (.blank (by decide)
      (.name (by decide) (by decide) (by decide) (.blank (by decide) .nil))))
  have hkey := Json.spelled_self timestampFieldsKey (by decide)
  have hts := Json.Scalar.written (.string (Json.spelled_self "ts" (by decide))) 125
  have hdue := Json.Scalar.written (.string (Json.spelled_self "due\u00a0date" (by decide))) 125
  have hlist : Json.Member (Json.Written 126) _ (timestampFieldsKey, .array (names.map .string)) :=
    .compact hkey (.inr (.array (.row (.compactMore hts (.compactLast hdue)))))
  have htext := Json.Member.compactText hkey
    (Json.spelled_self (Text.join "," items) (by decide +kernel)) 126
  have hmode := Json.Member.compactText (Json.spelled_self insertModeKey (by decide))
    (Json.spelled_self "upsert" (by decide)) 126
  have harray : ObjectText array [(timestampFieldsKey, .array (names.map .string)),
      (insertModeKey, .string "upsert")] :=
    ⟨[], _, [], Json.space_nil, Json.space_nil,
      .row (.compactMore hlist (.compactLast hmode)), by decide +kernel⟩
  have hjoined : ObjectText joined [(insertModeKey, .string "upsert"),
      (timestampFieldsKey, .string (Text.join "," items))] :=
    ⟨[], _, [], Json.space_nil, Json.space_nil,
      .row (.compactMore hmode (.compactLast htext)), by decide +kernel⟩
  obtain ⟨heq, hfields, hok⟩ := parse_either_list hlists harray hjoined rfl rfl (by
    simp only [propertyKeys, List.forall_mem_cons, List.not_mem_nil, false_implies, implies_true,
      and_true]
    exact ⟨fun _ => rfl, fun _ => rfl, fun h => absurd rfl h, fun _ => rfl⟩)
  obtain ⟨c, hc⟩ := hok (by decide)
  obtain ⟨o, hsink, hnames, -⟩ := hfields c hc
  exact ⟨heq, c, o, hc, hsink, hnames⟩

end Config

end SqlDialect
