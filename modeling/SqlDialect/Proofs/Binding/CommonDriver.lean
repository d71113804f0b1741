import SqlDialect.Proofs.Binding.Prefix

/-!
# Drivers without calls of a vendor's own

A vendor may have numbers of its own and a driver calls of its own to bind them. A driver that lacks
these calls binds the same numbers as ordinary ones. Nothing else about a record may depend on which
of the two drivers it is bound by: how far the run gets, what it reports, and every other binding.

## Forgetting as a map of statements

Which driver it is stands in the statement, next to its bindings. So there is one map,
`Statement.common`, that turns a statement of any driver into one of a driver with common calls
only. That nothing else differs means that binding commutes with it: first bind and then forget, or
first forget and then bind. Commuting is a fact about one call. A field makes one call or none and a
record is bound field by field, so it carries over to both, and a run that an error ends is no
exception.

## Main definitions

* `BindCall.common` — the call every driver has, in place of a vendor's own
* `Bound.common`, `Statement.common` — what is left when the vendor's own numbers are forgotten

## Main results

* `Statement.bind_common_eq` — a driver without the vendor's calls makes the common ones
* `Statement.common_bind`, `Dialect.common_bindField`, `RecordBinder.common_bindFrom` — binding
  commutes with forgetting
* `RecordBinder.common_bind_eq` — both drivers see the same record
-/

namespace SqlDialect

/-! ### One call -/

/-- The call every driver has, in place of a vendor's own. -/
def BindCall.common : BindCall → BindCall
  | .binaryFloat bits => .whole (.float32 bits)
  | .binaryDouble bits => .whole (.float64 bits)
  | call => call

/-- What is bound, a number of the vendor's own being an ordinary one. -/
def Bound.common : Bound → Bound
  | .binaryFloat bits => .whole (.float32 bits)
  | .binaryDouble bits => .whole (.float64 bits)
  | bound => bound

namespace Statement

/-- The statement of a driver that has the common calls only, with the same bindings but for the
numbers of the vendor's own. -/
def common (s : Statement) : Statement :=
  { s with bindings := s.bindings.map (Prod.map id Bound.common), nativeFloats := false }

@[simp] theorem nativeFloats_common (s : Statement) : s.common.nativeFloats = false := rfl

@[simp] theorem refusal?_common (s : Statement) (index : Nat) :
    s.common.refusal? index = s.refusal? index := rfl

theorem common_push (s : Statement) (index : Nat) (bound : Bound) :
    (s.push index bound).common = s.common.push index bound.common := by
  simp [common, push]

end Statement

namespace BindCall

/-- A driver without the vendor's calls binds what any driver binds that is asked to make the common
ones. -/
theorem run_common (call : BindCall) (nativeFloats : Bool) :
    call.common.run nativeFloats = call.run false := by
  cases call <;> rfl

theorem run_false_eq_map (call : BindCall) (nativeFloats : Bool) :
    call.run false = (call.run nativeFloats).map Bound.common := by
  cases call with
  | whole value => rfl
  | characterStream source length =>
    rw [run, run]
    cases source.text with
    | ok text => rfl
    | error words => rfl
  | nationalCharacterStream source =>
    rw [run, run]
    cases source.text with
    | ok text => rfl
    | error words => rfl
  | blob source =>
    rw [run, run]
    cases source.bytes with
    | ok data => rfl
    | error words => rfl
  | binaryFloat bits => cases nativeFloats <;> rfl
  | binaryDouble bits => cases nativeFloats <;> rfl

end BindCall

namespace Statement

/-- A driver without the vendor's calls makes the common ones in their place. -/
theorem bind_common_eq (s : Statement) (index : Nat) (call : BindCall) :
    s.common.bind index call = s.common.bind index call.common := by
  rw [bind, bind, answer, answer, call.run_common, nativeFloats_common]

/-- What a call comes to, with the numbers of the vendor's own forgotten. -/
theorem answer_common (s : Statement) (index : Nat) (call : BindCall) :
    s.common.answer index call = (s.answer index call).map Bound.common := by
  rw [answer, answer, nativeFloats_common, refusal?_common, call.run_false_eq_map s.nativeFloats]
  cases call.run s.nativeFloats with
  | error e => rfl
  | ok bound =>
    cases s.refusal? index with
    | some e => rfl
    | none => rfl

/-- A call commutes with forgetting. -/
theorem common_bind (s : Statement) (index : Nat) (call : BindCall) :
    s.common.bind index call = (s.bind index call).map common := by
  rw [bind, bind, answer_common]
  cases s.answer index call with
  | error e => rfl
  | ok bound =>
    show Except.ok (s.common.push index bound.common) = .ok (s.push index bound).common
    rw [common_push]

theorem common_bindOrFail (s : Statement) (index : Nat) (call : BindCall) :
    s.common.bindOrFail index call = (s.bindOrFail index call).map common := by
  rw [bindOrFail, bindOrFail, common_bind]
  cases s.bind index call with
  | ok s' => rfl
  | error e => rfl

end Statement

/-! ### Fields and records -/

/-- A field commutes with forgetting. -/
theorem Dialect.common_bindField (d : Dialect) (s : Statement) (index : Nat) (f : Field)
    (value : Option Value) (column : Option Column) :
    d.bindField s.common index f value column
      = (d.bindField s index f value column).map Statement.common := by
  rw [bindField, bindField]
  cases d.chooseCall f value column with
  | ok call => exact s.common_bindOrFail index call
  | error e => rfl

namespace RecordBinder

/-- A run over fields commutes with forgetting, and how it ends is the same. -/
theorem common_bindFrom (b : RecordBinder) (record : Record) (index : Nat) (fields : List Field)
    (s : Statement) :
    b.bindFrom record index fields s.common
      = ((b.bindFrom record index fields s).1.common, (b.bindFrom record index fields s).2) := by
  induction fields generalizing index s with
  | nil => rfl
  | cons f fields ih =>
    rw [bindFrom, bindFrom, b.dialect.common_bindField]
    cases b.dialect.bindField s index f (record.get? f.name) (b.column? f) with
    | error e => rfl
    | ok s' => exact ih (index + 1) s'

/-- The same for a whole record. -/
theorem common_bind (b : RecordBinder) (record : Record) (s : Statement) :
    b.bind record s.common = ((b.bind record s).1.common, (b.bind record s).2) := by
  rw [bind, bind, common_bindFrom]

/-- **A driver without calls of the vendor's own sees the same record.** Such a driver makes the
common calls in their place. A record and a field that are bound by it come to the same count or the
same error as with any other driver, and what they bind is the same, entry by entry, but for the
numbers of the vendor's own, which are ordinary ones. The handlers, working on the statement itself,
leave just that. -/
theorem common_bind_eq (s : Statement) :
    (∀ index call, s.common.bind index call = s.common.bind index call.common) ∧
    (∀ (b : RecordBinder) (record : Record),
      (b.bind record s.common).2 = (b.bind record s).2 ∧
      (b.bind record s.common).1.bindings
        = (b.bind record s).1.bindings.map (Prod.map id Bound.common) ∧
      b.handleAll record s.common = Run.result (b.bind record s.common)) ∧
    ∀ (d : Dialect) (index : Nat) (f : Field) (value : Option Value) (column : Option Column),
      (d.bindField s.common index f value column).map Statement.bindings
        = (d.bindField s index f value column).map
            (fun s' => s'.bindings.map (Prod.map id Bound.common)) ∧
      d.handlers index f value column s.common
        = Run.ending s.common (d.bindField s.common index f value column) := by
  refine ⟨s.bind_common_eq, fun b record => ⟨?_, ?_, b.handleAll_eq record s.common⟩,
    fun d index f value column => ⟨?_, d.handlers_eq index f value column s.common⟩⟩
  · rw [b.common_bind]
  · rw [b.common_bind]
    rfl
  · rw [d.common_bindField]
    cases d.bindField s index f value column with
    | ok s' => rfl
    | error e => rfl

/-- A binder for a table whose only column is one of the vendor's own numbers. -/
def rates : RecordBinder where
  dialect := .oracle {}
  mode := .insert
  keys := []
  others := [{ name := "RATE", schema := { kind := .float32 } }]
  table := some (.ofColumns ⟨none, none, "RATES"⟩
    [{ name := "RATE", sqlType := .binaryFloat, typeName := "BINARY_FLOAT" }])

/-- The number one is bound as the vendor's own by a driver with the call for it, and as an ordinary
one by a driver without. -/
theorem common_bind_eq_rate :
    rates.bind [("RATE", .float32 0x3f800000)] {}
      = ({ bindings := [(1, .binaryFloat 0x3f800000)] }, .ok 1) ∧
    (rates.bind [("RATE", .float32 0x3f800000)] { nativeFloats := false }).1.bindings
      = [(1, .whole (.float32 0x3f800000))] ∧
    (rates.bind [("RATE", .float32 0x3f800000)] { nativeFloats := false }).2 = .ok 1 := by
  have hnative : rates.bind [("RATE", .float32 0x3f800000)] {}
      = ({ bindings := [(1, .binaryFloat 0x3f800000)] }, .ok 1) := by rfl
  have hcommon : Statement.common {} = { nativeFloats := false } := rfl
  obtain ⟨hcount, hbindings, -⟩ := (common_bind_eq {}).2.1 rates [("RATE", .float32 0x3f800000)]
  rw [hcommon, hnative] at hcount hbindings
  exact ⟨hnative, hbindings, hcount⟩

end RecordBinder

end SqlDialect
