import SqlDialect.Proofs.Binding.Run

/-!
# The handlers of a field

`Dialect.bindField` chooses a call and makes it afterwards, so that nothing can be bound twice or
halfway. Nobody works like this who is handed a statement: handlers are tried one after the other,
each of them calls the driver on its own, and the first that does so ends the run. Here the run of
the handlers is spelled out and compared with the choice.

## What is not undone

A run keeps the statement when it fails, as the failing call left it. Nothing is undone, neither
after an error nor before the next handler is tried, so a call that is made too early or too often
would show.

## Main definitions

* `Run` — a run on a statement
* `Run.perform` — one call of the driver, stream first
* `Dialect.handlers` — the handlers of a field, one after the other

## Main results

* `Dialect.handlers_eq` — the handlers do what the chosen call does
-/

namespace SqlDialect

/-- A run on a statement, which ends with the statement that is left and with a result or an
error. -/
abbrev Run := EStateM Error Statement

/-- What a handler reports if it does not fail. -/
inductive Handled where
  /-- It has bound the value. -/
  | bound
  /-- The value is not its business. -/
  | notApplicable
  deriving DecidableEq

namespace Run

/-! ### Calls of the driver -/

/-- Something is bound, unless the parameter is refused. -/
def record (index : Nat) (bound : Bound) : Run Unit := do
  match (← get).refusal? index with
  | some error => throw (.driver error)
  | none => modify (·.push index bound)

/-- What was in a stream, or its failure. -/
def drained {α : Type} (stream : Text) : Except Text α → Run α
  | .ok content => pure content
  | .error words =>
    throw (.driver (BindCall.streamFailure ("failed to read " ++ stream ++ " stream: " ++ words)))

/-- A call of the driver. -/
def perform (index : Nat) : BindCall → Run Unit
  | .whole value => record index (.whole value)
  | .characterStream source length => do
    let text ← drained "character" source.text
    record index (.characterStream text length)
  | .nationalCharacterStream source => do
    let text ← drained "character" source.text
    record index (.nationalCharacterStream text)
  | .blob source => do
    let data ← drained "blob" source.bytes
    record index (.blob data)
  | .binaryFloat bits => do
    record index (if (← get).nativeFloats then .binaryFloat bits else .whole (.float32 bits))
  | .binaryDouble bits => do
    record index (if (← get).nativeFloats then .binaryDouble bits else .whole (.float64 bits))

/-! ### What a call leaves -/

/-- How a run on `s` ends that leaves `s` alone when it fails. -/
def ending (s : Statement) : Except Error Statement → EStateM.Result Error Statement Unit
  | .ok s' => .ok () s'
  | .error e => .error e s

theorem record_eq (index : Nat) (bound : Bound) (s : Statement) :
    record index bound s
      = match s.refusal? index with
        | some e => .error (.driver e) s
        | none => .ok () (s.push index bound) := by
  show (match s.refusal? index with
    | some error => throw (.driver error)
    | none => modify (·.push index bound) : Run Unit) s = _
  cases s.refusal? index with
  | some e => rfl
  | none => rfl

/-- What a call binds is recorded once; a stream that fails ends the call before. -/
theorem perform_eq_record (index : Nat) (call : BindCall) (s : Statement) :
    perform index call s
      = match call.run s.nativeFloats with
        | .ok bound => record index bound s
        | .error e => .error (.driver e) s := by
  cases call with
  | whole value => rfl
  | characterStream source length =>
    rw [perform, BindCall.run]
    cases source.text with
    | ok text => rfl
    | error words => rfl
  | nationalCharacterStream source =>
    rw [perform, BindCall.run]
    cases source.text with
    | ok text => rfl
    | error words => rfl
  | blob source =>
    rw [perform, BindCall.run]
    cases source.bytes with
    | ok data => rfl
    | error words => rfl
  | binaryFloat bits => rfl
  | binaryDouble bits => rfl

/-- **A call of the driver binds once or leaves the statement as it was.** -/
theorem perform_eq (index : Nat) (call : BindCall) (s : Statement) :
    perform index call s = ending s (s.bindOrFail index call) := by
  rw [perform_eq_record, Statement.bindOrFail, Statement.bind, Statement.answer]
  cases call.run s.nativeFloats with
  | error e => rfl
  | ok bound =>
    show record index bound s = _
    rw [record_eq]
    cases s.refusal? index with
    | some e => rfl
    | none => rfl

/-! ### Handlers -/

/-- A handler that makes a call, if it has one for the value. -/
def handle (index : Nat) : Option BindCall → Run Handled
  | some call => do
    perform index call
    return .bound
  | none => return .notApplicable

/-- A handler, and what is done if the value is not its business. -/
def orElse (handler : Run Handled) (rest : Run Unit) : Run Unit := do
  match ← handler with
  | .bound => return
  | .notApplicable => rest

theorem orElse_handle_none (index : Nat) (rest : Run Unit) :
    orElse (handle index none) rest = rest := rfl

/-- A handler with a call ends the run. -/
theorem orElse_handle_some (index : Nat) (call : BindCall) (rest : Run Unit) (s : Statement) :
    orElse (handle index (some call)) rest s = ending s (s.bindOrFail index call) := by
  simp only [orElse, handle, bind, EStateM.bind, perform_eq]
  cases s.bindOrFail index call with
  | ok s' => rfl
  | error e => rfl

end Run

namespace Dialect

/-- The handler every dialect has. A listed field is made an instant before anything is called. -/
def handleCommon (index : Nat) (f : Field) (sink : Option SinkOptions) (value : Value) :
    Run Handled := do
  if f.isListed sink then
    match f.instantOf? value with
    | .error e => throw e
    | .ok (some instant) => Run.handle index (some (.whole (.timestamp instant)))
    | .ok none => Run.handle index value.plainCall?
  else Run.handle index value.plainCall?

/-- The handlers of a field: the logical type, the vendor's, the common one. A missing value needs
none. -/
def handlers (d : Dialect) (index : Nat) (f : Field) (value : Option Value)
    (column : Option Column) : Run Unit :=
  match value with
  | none =>
    Run.perform index (.whole (.null (match column with
      | some column => some column.sqlType
      | none => f.schema.nullType?)))
  | some value =>
    Run.orElse (Run.handle index (f.schema.logical.bind (·.call? value)))
      (Run.orElse (Run.handle index (d.vendorCall? f value column))
        (Run.orElse (handleCommon index f d.sink value)
          (throw (.unsupportedValue f.schema.kind))))

/-- Making the call that was chosen, if one was. -/
def makeCall (s : Statement) (index : Nat) : Except Error BindCall → Except Error Statement
  | .ok call => s.bindOrFail index call
  | .error e => .error e

/-- The common handler, and the error if the value is not its business either. -/
theorem orElse_handleCommon (index : Nat) (f : Field) (sink : Option SinkOptions) (value : Value)
    (s : Statement) :
    Run.orElse (handleCommon index f sink value) (throw (.unsupportedValue f.schema.kind)) s
      = Run.ending s (makeCall s index (f.commonCall sink value)) := by
  have hplain : Run.orElse (Run.handle index value.plainCall?)
      (throw (.unsupportedValue f.schema.kind)) s
      = Run.ending s (makeCall s index (match value.plainCall? with
        | some call => .ok call
        | none => .error (.unsupportedValue f.schema.kind))) := by
    cases value.plainCall? with
    | some call => exact Run.orElse_handle_some index call _ s
    | none => rfl
  rw [handleCommon, Field.commonCall]
  cases f.isListed sink with
  | false => exact hplain
  | true =>
    rw [if_pos rfl, if_pos rfl]
    cases f.instantOf? value with
    | error e => rfl
    | ok instant? =>
      cases instant? with
      | none => exact hplain
      | some instant => exact Run.orElse_handle_some index _ _ s

/-- **The handlers do what the chosen call does.** They end with the statement it leaves, and if
they fail the statement is as it was. -/
theorem handlers_eq (d : Dialect) (index : Nat) (f : Field) (value : Option Value)
    (column : Option Column) (s : Statement) :
    d.handlers index f value column s = Run.ending s (d.bindField s index f value column) := by
  cases value with
  | none =>
    cases column with
    | none => exact Run.perform_eq index (.whole (.null f.schema.nullType?)) s
    | some column => exact Run.perform_eq index (.whole (.null (some column.sqlType))) s
  | some value =>
    rw [handlers, bindField, chooseCall, chooseValueCall]
    cases f.schema.logical.bind (·.call? value) with
    | some call => exact Run.orElse_handle_some index call _ s
    | none =>
      rw [Run.orElse_handle_none]
      cases d.vendorCall? f value column with
      | some call => exact Run.orElse_handle_some index call _ s
      | none =>
        rw [Run.orElse_handle_none]
        exact orElse_handleCommon index f d.sink value s

end Dialect

end SqlDialect
