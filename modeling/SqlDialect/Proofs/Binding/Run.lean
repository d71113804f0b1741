import Mathlib.Data.List.Forall2
import SqlDialect.Binding.Record

/-!
# Runs of a record

Binding a field adds one binding or none, and which of the two does not depend on what is bound
already. So a run over the fields of a record can be told field by field, all of them against the
statement it started from: it adds the bindings of the fields up to the first that cannot be bound,
at consecutive parameters.

## Main definitions

* `Dialect.outcome` — what binding a field comes to
* `RecordBinder.outcome` — the same for a field of a record
* `Statement.pushAll` — bindings at consecutive parameters

## Main results

* `Dialect.bindField_eq_map_push` — binding a field adds what it comes to
* `RecordBinder.bind_congr_forall₂` — runs over fields that are bound alike
* `RecordBinder.bindFrom_spec`, `RecordBinder.bind_spec` — the bindings a run adds, and how it ends
-/

namespace SqlDialect

/-! ### One field -/

theorem map_eq_error_iff {ε α β : Type} {x : Except ε α} {f : α → β} {e : ε} :
    x.map f = .error e ↔ x = .error e := by
  cases x with
  | error e' => simp [Except.map]
  | ok a => simp [Except.map]

theorem mapError_eq_ok_iff {ε ε' α : Type} {x : Except ε α} {f : ε → ε'} {a : α} :
    x.mapError f = .ok a ↔ x = .ok a := by
  cases x with
  | error e => simp [Except.mapError]
  | ok b => simp [Except.mapError]

theorem Statement.push_inj {s : Statement} {index : Nat} {bound other : Bound} :
    s.push index bound = s.push index other ↔ bound = other := by
  refine ⟨fun h => ?_, fun h => by rw [h]⟩
  have hbindings := congrArg Statement.bindings h
  simpa using hbindings

namespace Dialect

variable {d : Dialect} {s : Statement} {index : Nat} {f : Field} {value : Option Value}
  {column : Option Column}

/-- What binding a field to a parameter comes to: what is bound, or the error. -/
def outcome (d : Dialect) (s : Statement) (index : Nat) (f : Field) (value : Option Value)
    (column : Option Column) : Except Error Bound :=
  match d.chooseCall f value column with
  | .error error => .error error
  | .ok call => (s.answer index call).mapError .driver

/-- Something is bound if a call is chosen, the driver makes something of it and the parameter is
not refused. -/
theorem outcome_eq_ok_iff {bound : Bound} :
    d.outcome s index f value column = .ok bound ↔
      ∃ call, d.chooseCall f value column = .ok call ∧ call.run s.nativeFloats = .ok bound ∧
        s.refusal? index = none := by
  rw [outcome]
  cases d.chooseCall f value column with
  | error e => simp
  | ok call => simp [mapError_eq_ok_iff, Statement.answer_eq_ok_iff]

/-- **Binding a field adds what it comes to**, and nothing else. -/
theorem bindField_eq_map_push (d : Dialect) (s : Statement) (index : Nat) (f : Field)
    (value : Option Value) (column : Option Column) :
    d.bindField s index f value column = (d.outcome s index f value column).map (s.push index) := by
  rw [bindField, outcome]
  cases d.chooseCall f value column with
  | error e => rfl
  | ok call =>
    simp only [Statement.bindOrFail, Statement.bind]
    cases s.answer index call with
    | error e => rfl
    | ok bound => rfl

theorem bindField_of_outcome_ok {bound : Bound}
    (h : d.outcome s index f value column = .ok bound) :
    d.bindField s index f value column = .ok (s.push index bound) := by
  rw [bindField_eq_map_push, h]
  rfl

theorem bindField_of_outcome_error {e : Error}
    (h : d.outcome s index f value column = .error e) :
    d.bindField s index f value column = .error e := by
  rw [bindField_eq_map_push, h]
  rfl

/-- What the statement holds more is what binding the field comes to. -/
theorem bindField_eq_push_iff {bound : Bound} :
    d.bindField s index f value column = .ok (s.push index bound) ↔
      d.outcome s index f value column = .ok bound := by
  refine ⟨fun h => ?_, bindField_of_outcome_ok⟩
  cases houtcome : d.outcome s index f value column with
  | error e =>
    rw [bindField_of_outcome_error houtcome] at h
    exact absurd h (by simp)
  | ok other =>
    rw [bindField_of_outcome_ok houtcome] at h
    rw [Statement.push_inj.mp (Except.ok.inj h)]

end Dialect

/-! ### All fields -/

namespace Statement

/-- The statement with the given bindings more, at the parameters from `index` on. -/
def pushAll (s : Statement) (index : Nat) (bounds : List Bound) : Statement :=
  { s with bindings := s.bindings ++ (List.range' index bounds.length).zip bounds }

@[simp] theorem pushAll_nil (s : Statement) (index : Nat) : s.pushAll index [] = s := by
  simp [pushAll]

theorem pushAll_cons (s : Statement) (index : Nat) (bound : Bound) (bounds : List Bound) :
    s.pushAll index (bound :: bounds) = (s.push index bound).pushAll (index + 1) bounds := by
  simp [pushAll, push, List.range'_succ]

/-- The bindings more stand behind those that were there. -/
theorem getElem?_pushAll (s : Statement) (index : Nat) (bounds : List Bound) (i : Nat) :
    (s.pushAll index bounds).bindings[s.bindings.length + i]?
      = bounds[i]?.map fun bound => (index + i, bound) := by
  rw [pushAll, List.getElem?_append_right (Nat.le_add_right _ i), Nat.add_sub_cancel_left]
  cases hbound : bounds[i]? with
  | none =>
    have hle : bounds.length ≤ i := List.getElem?_eq_none_iff.mp hbound
    simpa using hle
  | some bound =>
    have hlt : i < bounds.length := (List.getElem?_eq_some_iff.mp hbound).1
    rw [Option.map_some, List.getElem?_zip_eq_some]
    exact ⟨by rw [List.getElem?_range' hlt, Nat.one_mul], hbound⟩

end Statement

namespace RecordBinder

variable {b b' : RecordBinder} {record record' : Record}

/-- Runs over fields that are bound alike, one by one, are alike, also where an error ends them. -/
theorem bindFrom_congr_forall₂ {fields fields' : List Field}
    (h : List.Forall₂ (fun f f' => ∀ s index,
      b.dialect.bindField s index f (record.get? f.name) (b.column? f)
        = b'.dialect.bindField s index f' (record'.get? f'.name) (b'.column? f')) fields fields')
    (index : Nat) (s : Statement) :
    b.bindFrom record index fields s = b'.bindFrom record' index fields' s := by
  induction h generalizing index s with
  | nil => rfl
  | @cons f f' _ _ halike _ ih =>
    rw [bindFrom, bindFrom, halike s index]
    cases b'.dialect.bindField s index f' (record'.get? f'.name) (b'.column? f') with
    | error e => rfl
    | ok s' => exact ih (index + 1) s'

theorem bind_congr_forall₂
    (h : List.Forall₂ (fun f f' => ∀ s index,
      b.dialect.bindField s index f (record.get? f.name) (b.column? f)
        = b'.dialect.bindField s index f' (record'.get? f'.name) (b'.column? f'))
      b.fields b'.fields)
    (s : Statement) : b.bind record s = b'.bind record' s := by
  rw [bind, bind, bindFrom_congr_forall₂ h, h.length_eq]

/-- What binding a field of a record to a parameter comes to. -/
def outcome (b : RecordBinder) (record : Record) (s : Statement) (index : Nat) (f : Field) :
    Except Error Bound :=
  b.dialect.outcome s index f (record.get? f.name) (b.column? f)

/-- What is bound already does not matter. -/
theorem outcome_push (b : RecordBinder) (record : Record) (s : Statement) (other : Nat)
    (bound : Bound) (index : Nat) (f : Field) :
    b.outcome record (s.push other bound) index f = b.outcome record s index f := rfl

/-- **The bindings a run adds, and how it ends.** Every field up to the first that cannot be bound
adds the binding it comes to; the error of that first one ends the run. -/
theorem bindFrom_spec (b : RecordBinder) (record : Record) (index : Nat) (fields : List Field)
    (s : Statement) :
    ∃ bounds : List Bound, (b.bindFrom record index fields s).1 = s.pushAll index bounds ∧
      (∀ i f bound, fields[i]? = some f → bounds[i]? = some bound →
        b.outcome record s (index + i) f = .ok bound) ∧
      match (b.bindFrom record index fields s).2 with
      | .ok () => bounds.length = fields.length
      | .error e =>
        ∃ f, fields[bounds.length]? = some f ∧
          b.outcome record s (index + bounds.length) f = .error e := by
  induction fields generalizing index s with
  | nil => exact ⟨[], by simp [bindFrom], by simp, rfl⟩
  | cons f fields ih =>
    cases hf : b.outcome record s index f with
    | error e =>
      have hbind := Dialect.bindField_of_outcome_error hf
      refine ⟨[], by simp [bindFrom, hbind], by simp, ?_⟩
      simp only [bindFrom, hbind]
      exact ⟨f, rfl, hf⟩
    | ok bound =>
      have hbind := Dialect.bindField_of_outcome_ok hf
      obtain ⟨bounds, hpush, hbounds, hend⟩ := ih (index + 1) (s.push index bound)
      simp only [outcome_push] at hbounds hend
      have hrun : b.bindFrom record index (f :: fields) s
          = b.bindFrom record (index + 1) fields (s.push index bound) := by
        simp only [bindFrom, hbind]
      rw [hrun]
      refine ⟨bound :: bounds, by rw [hpush, Statement.pushAll_cons], fun i g c hg hc => ?_, ?_⟩
      · cases i with
        | zero =>
          obtain rfl : f = g := by simpa using hg
          obtain rfl : bound = c := by simpa using hc
          exact hf
        | succ i =>
          rw [← Nat.succ_add_eq_add_succ]
          exact hbounds i g c (by simpa using hg) (by simpa using hc)
      · revert hend
        cases (b.bindFrom record (index + 1) fields (s.push index bound)).2 with
        | ok u => exact fun hlen => by simpa using hlen
        | error e =>
          rintro ⟨g, hg, hfail⟩
          refine ⟨g, by simpa using hg, ?_⟩
          rw [List.length_cons, ← Nat.succ_add_eq_add_succ]
          exact hfail

/-- The same for a whole record. A run that succeeds binds every field and counts them. -/
theorem bind_spec (b : RecordBinder) (record : Record) (s : Statement) :
    ∃ bounds : List Bound, (b.bind record s).1 = s.pushAll 1 bounds ∧
      (∀ i f bound, b.fields[i]? = some f → bounds[i]? = some bound →
        b.outcome record s (1 + i) f = .ok bound) ∧
      match (b.bind record s).2 with
      | .ok n => bounds.length = b.fields.length ∧ n = b.fields.length
      | .error e =>
        ∃ f, b.fields[bounds.length]? = some f ∧
          b.outcome record s (1 + bounds.length) f = .error e := by
  obtain ⟨bounds, hpush, hbounds, hend⟩ := b.bindFrom_spec record 1 b.fields s
  refine ⟨bounds, hpush, hbounds, ?_⟩
  have hcount : (b.bind record s).2
      = (b.bindFrom record 1 b.fields s).2.map fun _ => b.fields.length := rfl
  rw [hcount]
  cases hrun : (b.bindFrom record 1 b.fields s).2 with
  | ok u =>
    rw [hrun] at hend
    exact ⟨hend, rfl⟩
  | error e =>
    rw [hrun] at hend
    exact hend

/-- A run that succeeds has what each field comes to in the place of the field. -/
theorem exists_outcome {s : Statement} {n i : Nat} {f : Field}
    (hok : (b.bind record s).2 = .ok n) (hf : b.fields[i]? = some f) :
    ∃ bound, b.outcome record s (i + 1) f = .ok bound ∧
      (b.bind record s).1.bindings[s.bindings.length + i]? = some (i + 1, bound) := by
  obtain ⟨bounds, hpush, hbounds, hend⟩ := b.bind_spec record s
  rw [hok] at hend
  have hlt : i < bounds.length := by
    rw [hend.1]
    exact (List.getElem?_eq_some_iff.mp hf).1
  have hbound : bounds[i]? = some bounds[i] := List.getElem?_eq_getElem hlt
  refine ⟨bounds[i], ?_, ?_⟩
  · rw [Nat.add_comm]
    exact hbounds i f bounds[i] hf hbound
  · rw [hpush, Statement.getElem?_pushAll, hbound, Option.map_some, Nat.add_comm]

end RecordBinder

end SqlDialect
