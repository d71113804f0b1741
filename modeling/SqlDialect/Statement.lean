import SqlDialect.Statement.Parameter

/-!
# Prepared statements

A statement holds what has been bound to its parameters, in the order of the calls. Parameters are
counted from one. A parameter can be bound again; the last binding counts. The statement may refuse
one parameter: then every call for it fails with the same error and nothing is held.

## Main definitions

* `Statement` — the bindings, and the parameter that is refused
* `Statement.answer` — what a call comes to
* `Statement.bind` — one call
* `Statement.get?` — what is bound to a parameter
* `Statement.clear` — all bindings forgotten

## Main results

* `Statement.answer_eq_ok_iff` — when a call succeeds, and with what
-/

namespace SqlDialect

/-- A prepared statement. -/
structure Statement where
  /-- What has been bound, and to which parameter, in the order of the calls. -/
  bindings : List (Nat × Bound) := []
  /-- The parameter that is refused, and the error. -/
  refused : Option (Nat × DriverError) := none
  /-- Whether the driver has calls of its own for the vendor's binary numbers. -/
  nativeFloats : Bool := true
  deriving DecidableEq

namespace Statement

/-- The error for a parameter, if it is refused. -/
def refusal? (s : Statement) (index : Nat) : Option DriverError :=
  match s.refused with
  | some (refused, error) => if refused = index then some error else none
  | none => none

/-- What a call comes to: what is bound, or the driver's error. A stream is read before the
parameter is looked at. -/
def answer (s : Statement) (index : Nat) (call : BindCall) : Except DriverError Bound :=
  match call.run s.nativeFloats with
  | .error error => .error error
  | .ok bound =>
    match s.refusal? index with
    | some error => .error error
    | none => .ok bound

/-- The statement with one binding more. -/
def push (s : Statement) (index : Nat) (bound : Bound) : Statement :=
  { s with bindings := s.bindings ++ [(index, bound)] }

/-- One call of the driver. It adds what it comes to, or nothing. -/
def bind (s : Statement) (index : Nat) (call : BindCall) : Except DriverError Statement :=
  (s.answer index call).map (s.push index)

/-- What is bound to a parameter. -/
def get? (s : Statement) (index : Nat) : Option Bound :=
  (s.bindings.reverse.find? fun entry => entry.1 == index).map Prod.snd

/-- The statement with nothing bound. -/
def clear (s : Statement) : Statement := { s with bindings := [] }

@[simp] theorem bindings_push (s : Statement) (index : Nat) (bound : Bound) :
    (s.push index bound).bindings = s.bindings ++ [(index, bound)] := rfl

theorem answer_eq_ok_iff {s : Statement} {index : Nat} {call : BindCall} {bound : Bound} :
    s.answer index call = .ok bound ↔
      call.run s.nativeFloats = .ok bound ∧ s.refusal? index = none := by
  rw [answer]
  cases call.run s.nativeFloats with
  | error e => simp
  | ok other =>
    cases s.refusal? index with
    | some e => simp
    | none => simp

end Statement

end SqlDialect
