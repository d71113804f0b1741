import SqlDialect.Proofs.Binding.Handlers

/-!
# A record is bound up to its first failure

Binding a record is a loop: a counter goes up, the handlers of the next field work on the statement,
and the first error leaves the loop. What comes of it can be told without the loop. Bind every field
alone, each to its own parameter and all of them to the statement as it was before: the record
leaves the bindings of the fields before the first that fails, in order, and its error is that
field's. So nothing after a failure is bound, nothing of the failing field is, and what the record
has for the fields behind it does not matter.

## The loop and its parameters

The counter of the loop is the parameter, and it is what the loop reports at the end. `bind` has the
parameters counted for it and reports the number of fields. The two agree (`handleAll_eq`), on the
statement they leave as well.

## Main definitions

* `RecordBinder.handleAll` — the loop over the handlers of the fields
* `RecordBinder.bindAlone` — one field of a record bound to a parameter
* `RecordBinder.BoundAlone` — the bindings of the first fields, each bound alone

## Main results

* `RecordBinder.handleAll_eq` — the loop does what `RecordBinder.bind` says
* `RecordBinder.bindFrom_congr_of_error` — what stands behind a failure does not matter
* `RecordBinder.bind_exact_prefix` — a record is bound up to its first failure
-/

namespace SqlDialect

namespace Run

/-- How a run ends that leaves the given statement. -/
def result {α : Type} : Statement × Except Error α → EStateM.Result Error Statement α
  | (s, .ok a) => .ok a s
  | (s, .error e) => .error e s

/-- Of two runs one after the other, the second begins where the first ends well. -/
theorem bind_apply {α β : Type} (first : Run α) (second : α → Run β) (s : Statement) :
    (first >>= second) s
      = match first s with
        | .ok a s' => second a s'
        | .error e s' => .error e s' := by
  show EStateM.bind first second s = _
  rw [EStateM.bind]
  cases first s with
  | ok a s' => rfl
  | error e s' => rfl

end Run

namespace RecordBinder

/-! ### The loop -/

/-- The handlers of one field of a record. -/
def handleField (b : RecordBinder) (record : Record) (index : Nat) (f : Field) : Run Unit :=
  b.dialect.handlers index f (record.get? f.name) (b.column? f)

/-- The loop over fields, when `count` parameters have been bound: the count at the end. -/
def handleFrom (b : RecordBinder) (record : Record) (count : Nat) : List Field → Run Nat
  | [] => return count
  | f :: rest => do
    b.handleField record (count + 1) f
    b.handleFrom record (count + 1) rest

/-- The loop over all fields of a record. -/
def handleAll (b : RecordBinder) (record : Record) : Run Nat := b.handleFrom record 0 b.fields

variable {b : RecordBinder} {record : Record} {s : Statement}

theorem handleFrom_eq (b : RecordBinder) (record : Record) (count : Nat) (fields : List Field)
    (s : Statement) :
    b.handleFrom record count fields s
      = Run.result ((b.bindFrom record (count + 1) fields s).1,
          (b.bindFrom record (count + 1) fields s).2.map fun _ => count + fields.length) := by
  induction fields generalizing count s with
  | nil => rfl
  | cons f fields ih =>
    have hfield : b.handleField record (count + 1) f s = Run.ending s
        (b.dialect.bindField s (count + 1) f (record.get? f.name) (b.column? f)) :=
      b.dialect.handlers_eq (count + 1) f (record.get? f.name) (b.column? f) s
    rw [handleFrom, Run.bind_apply, hfield, bindFrom]
    cases b.dialect.bindField s (count + 1) f (record.get? f.name) (b.column? f) with
    | error e => rfl
    | ok s' =>
      have hlength : count + (f :: fields).length = count + 1 + fields.length := by
        rw [List.length_cons]
        omega
      rw [hlength]
      exact ih (count + 1) s'

/-- **The loop does what `bind` says**: the same result, and the same statement is left. -/
theorem handleAll_eq (b : RecordBinder) (record : Record) (s : Statement) :
    b.handleAll record s = Run.result (b.bind record s) := by
  rw [handleAll, handleFrom_eq]
  simp only [Nat.zero_add]
  rfl

/-! ### Fields bound alone -/

/-- One field of a record bound to a parameter, whatever becomes of the other fields. -/
def bindAlone (b : RecordBinder) (record : Record) (s : Statement) (index : Nat) (f : Field) :
    Except Error Statement :=
  b.dialect.bindField s index f (record.get? f.name) (b.column? f)

/-- The bindings of the first fields, as they are when each is bound alone to its own parameter. -/
def BoundAlone (b : RecordBinder) (record : Record) (s : Statement) (bounds : List Bound) : Prop :=
  ∀ i f bound, b.fields[i]? = some f → bounds[i]? = some bound →
    b.bindAlone record s (i + 1) f = .ok (s.push (i + 1) bound)

theorem bindAlone_eq_push_iff {index : Nat} {f : Field} {bound : Bound} :
    b.bindAlone record s index f = .ok (s.push index bound) ↔
      b.outcome record s index f = .ok bound :=
  Dialect.bindField_eq_push_iff

theorem bindAlone_eq_error_iff {index : Nat} {f : Field} {e : Error} :
    b.bindAlone record s index f = .error e ↔ b.outcome record s index f = .error e := by
  rw [bindAlone, Dialect.bindField_eq_map_push]
  exact map_eq_error_iff

/-- `bind_spec` told of fields that are bound alone. -/
theorem exists_boundAlone (b : RecordBinder) (record : Record) (s : Statement) :
    ∃ bounds, (b.bind record s).1 = s.pushAll 1 bounds ∧ b.BoundAlone record s bounds ∧
      ((b.bind record s).2 = .ok b.fields.length ∧ bounds.length = b.fields.length ∨
        ∃ f e, (b.bind record s).2 = .error e ∧ b.fields[bounds.length]? = some f ∧
          b.bindAlone record s (bounds.length + 1) f = .error e) := by
  obtain ⟨bounds, hpush, hbounds, hend⟩ := b.bind_spec record s
  refine ⟨bounds, hpush, fun i f bound hf hbound => ?_, ?_⟩
  · rw [bindAlone_eq_push_iff, Nat.add_comm]
    exact hbounds i f bound hf hbound
  · cases hresult : (b.bind record s).2 with
    | ok n =>
      rw [hresult] at hend
      obtain ⟨hlength, rfl⟩ := hend
      exact .inl ⟨rfl, hlength⟩
    | error e =>
      rw [hresult] at hend
      obtain ⟨f, hf, hfail⟩ := hend
      refine .inr ⟨f, e, rfl, hf, ?_⟩
      rw [bindAlone_eq_error_iff, Nat.add_comm]
      exact hfail

/-- A field that has a binding does not fail. -/
theorem BoundAlone.length_le {bounds : List Bound} (h : b.BoundAlone record s bounds) {k : Nat}
    {f : Field} {e : Error} (hf : b.fields[k]? = some f)
    (hfail : b.bindAlone record s (k + 1) f = .error e) : bounds.length ≤ k := by
  refine Nat.not_lt.mp fun hlt => ?_
  rw [h k f bounds[k] hf (List.getElem?_eq_getElem hlt)] at hfail
  exact absurd hfail (by simp)

/-! ### What stands behind a failure -/

/-- Records that agree up to a field that fails are bound alike. -/
theorem bindFrom_congr_of_error {record' : Record} {fields : List Field} {index k : Nat} {f : Field}
    {e : Error} (hf : fields[k]? = some f) (hfail : b.outcome record s (index + k) f = .error e)
    (hagree : ∀ i g, i ≤ k → fields[i]? = some g → record'.get? g.name = record.get? g.name) :
    b.bindFrom record' index fields s = b.bindFrom record index fields s := by
  induction fields generalizing index k s with
  | nil => rfl
  | cons g fields ih =>
    have hg : record'.get? g.name = record.get? g.name := hagree 0 g (Nat.zero_le k) rfl
    rw [bindFrom, bindFrom, hg]
    cases hout : b.outcome record s index g with
    | error e' => rw [Dialect.bindField_of_outcome_error hout]
    | ok bound =>
      rw [Dialect.bindField_of_outcome_ok hout]
      cases k with
      | zero =>
        obtain rfl : g = f := Option.some.inj hf
        rw [Nat.add_zero, hout] at hfail
        exact absurd hfail (by simp)
      | succ k =>
        rw [← Nat.succ_add_eq_add_succ] at hfail
        exact ih hf hfail fun i g' hi hg' => hagree (i + 1) g' (Nat.succ_le_succ hi) hg'

/-! ### The record -/

/-- **A record is bound up to its first failure.** The fields are those of the key and the others,
the key last in an update. If each of them can be bound alone, the record leaves their bindings at
the parameters from one on and counts the fields. Otherwise it leaves the bindings of the fields
before the first that cannot be bound and ends with the error of that one, so that a record with the
same values up to there comes to the same. The loop over the handlers does all this. -/
theorem bind_exact_prefix (b : RecordBinder) (record : Record) (s : Statement) :
    (b.fields = if b.mode = .update then b.others ++ b.keys else b.keys ++ b.others) ∧
    ((∀ i f, b.fields[i]? = some f → ∃ s', b.bindAlone record s (i + 1) f = .ok s') →
      ∃ bounds, bounds.length = b.fields.length ∧ b.BoundAlone record s bounds ∧
        b.bind record s = (s.pushAll 1 bounds, .ok b.fields.length)) ∧
    (∀ k f e, b.fields[k]? = some f → b.bindAlone record s (k + 1) f = .error e →
      (∀ i g, i < k → b.fields[i]? = some g → ∃ s', b.bindAlone record s (i + 1) g = .ok s') →
      ∃ bounds, bounds.length = k ∧ b.BoundAlone record s bounds ∧
        b.bind record s = (s.pushAll 1 bounds, .error e)) ∧
    (∀ record' k f e, b.fields[k]? = some f → b.bindAlone record s (k + 1) f = .error e →
      (∀ i g, i ≤ k → b.fields[i]? = some g → record'.get? g.name = record.get? g.name) →
      b.bind record' s = b.bind record s) ∧
    b.handleAll record s = Run.result (b.bind record s) := by
  obtain ⟨bounds, hpush, hbounds, hend⟩ := b.exists_boundAlone record s
  refine ⟨?_, fun hall => ?_, fun k f e hf hfail hbefore => ?_,
    fun record' k f e hf hfail hagree => ?_, b.handleAll_eq record s⟩
  · rw [fields]
    cases b.mode <;> rfl
  · rcases hend with ⟨hok, hlength⟩ | ⟨f, e, -, hf, hfail⟩
    · exact ⟨bounds, hlength, hbounds, Prod.ext hpush hok⟩
    · obtain ⟨s', hs'⟩ := hall bounds.length f hf
      rw [hs'] at hfail
      exact absurd hfail (by simp)
  · have hle : bounds.length ≤ k := hbounds.length_le hf hfail
    rcases hend with ⟨-, hlength⟩ | ⟨f', e', herror, hf', hfail'⟩
    · have hlt : k < b.fields.length := (List.getElem?_eq_some_iff.mp hf).1
      omega
    · have hge : k ≤ bounds.length := by
        refine Nat.not_lt.mp fun hlt => ?_
        obtain ⟨s', hs'⟩ := hbefore bounds.length f' hlt hf'
        rw [hs'] at hfail'
        exact absurd hfail' (by simp)
      obtain rfl : bounds.length = k := Nat.le_antisymm hle hge
      obtain rfl : f' = f := Option.some.inj (hf'.symm.trans hf)
      obtain rfl : e' = e := Except.error.inj (hfail'.symm.trans hfail)
      exact ⟨bounds, rfl, hbounds, Prod.ext hpush herror⟩
  · rw [bindAlone_eq_error_iff, Nat.add_comm] at hfail
    rw [bind, bind, bindFrom_congr_of_error hf hfail hagree]

/-- An update whose second parameter is refused: the note is bound, the price is not, and the key
behind it is not tried. -/
theorem bind_exact_prefix_refused :
    RecordBinder.bind
        { dialect := .generic {}, mode := .update
          keys := [{ name := "id", schema := { kind := .int64 }, isKey := true }]
          others := [{ name := "note", schema := { kind := .string } },
            { name := "price", schema := .decimal 2 }] }
        [("id", .int64 7), ("note", .string "hi")]
        { refused := some (2, { code := 1438, message := "value too large" }) }
      = ({ bindings := [(1, .whole (.string "hi"))]
           refused := some (2, { code := 1438, message := "value too large" }) },
        .error (.driver { code := 1438, message := "value too large" })) := by
  obtain ⟨-, -, hfirst, -, -⟩ := bind_exact_prefix
    { dialect := .generic {}, mode := .update
      keys := [{ name := "id", schema := { kind := .int64 }, isKey := true }]
      others := [{ name := "note", schema := { kind := .string } },
        { name := "price", schema := .decimal 2 }] }
    [("id", .int64 7), ("note", .string "hi")]
    { refused := some (2, { code := 1438, message := "value too large" }) }
  obtain ⟨bounds, hlength, hbounds, hbind⟩ := hfirst 1 _ _ rfl rfl fun i g hi hg => by
    obtain rfl := Nat.lt_one_iff.mp hi
    obtain rfl := Option.some.inj hg
    exact ⟨_, rfl⟩
  obtain ⟨bound, rfl⟩ := List.length_eq_one_iff.mp hlength
  obtain rfl : .whole (.string "hi") = bound :=
    Statement.push_inj.mp (Except.ok.inj (hbounds 0 _ bound rfl rfl))
  exact hbind

end RecordBinder

end SqlDialect
