import SqlDialect.Proofs.Binding.Payload
import SqlDialect.Proofs.Binding.Prefix

/-!
# What a statement holds after a session

A statement is used again and again: fields and whole records are bound to it, by any dialects, some
of them fail, and between two rows it is cleared. What it holds afterwards is a matter of the calls
that its driver saw.

## Two levels

A statement sees calls and clears, its *events*, and knows nothing of fields. What it keeps of any
sequence of events can be said without dialects: nothing is bound to a refused parameter, between
two clears bindings are only added, and a parameter holds what the last event did to it.

The uses of a session make events. A field makes one call or none and a record one for each field,
up to the first that fails. So a session is a sequence of events, and all it needs beyond that is
which errors its uses report: those of the driver come from the refused parameter and from nowhere
else, since no call that a dialect chooses fails by itself.

## Events do not depend on bindings

Which calls a record makes depends on the parameter that is refused, but never on what is bound
already. So two statements that are the same once they are cleared make the same of every use
(`Use.events_congr`), and since no event changes the driver (`Statement.clear_see`), the events of a
session can be told of the statement with which it began.

## Main definitions

* `Event`, `Statement.seeAll` — what a statement sees, and what it is afterwards
* `Event.effect?` — what an event does to a parameter
* `Use`, `Use.apply` — a use of a statement
* `Use.events`, `session` — the events of a use, and a session

## Main results

* `Statement.prefix_seeAll`, `Statement.mem_of_mem_seeAll`, `Statement.get?_seeAll` — what is kept
* `Dialect.bindField_cases` — all that binding a field can do
* `Use.apply_fst` — a use leaves what its events leave
* `Use.apply_snd_eq_driver_iff` — the errors of the driver
* `session_invariant` — all of it for sessions
-/

namespace SqlDialect

/-! ### Events -/

/-- What a statement sees. -/
inductive Event where
  /-- Its driver is asked to bind a parameter. -/
  | call (index : Nat) (call : BindCall)
  /-- Everything is to be forgotten. -/
  | clear

namespace Statement

variable {s : Statement} {index : Nat} {call : BindCall}

theorem refusal?_eq_some_iff {e : DriverError} :
    s.refusal? index = some e ↔ s.refused = some (index, e) := by
  rw [refusal?]
  cases s.refused with
  | none => simp
  | some entry =>
    obtain ⟨refused, e'⟩ := entry
    by_cases h : refused = index <;> simp [h]

/-- What a call comes to is a matter of the driver, not of what is bound. -/
theorem answer_congr {s' : Statement} (h : s.clear = s'.clear) (index : Nat) (call : BindCall) :
    s.answer index call = s'.answer index call := by
  show s.clear.answer index call = s'.clear.answer index call
  rw [h]

/-- The statement after an event. A call that fails leaves it as it was. -/
def see (s : Statement) : Event → Statement
  | .call index call =>
    match s.bind index call with
    | .ok s' => s'
    | .error _ => s
  | .clear => s.clear

/-- The statement after events, from first to last. -/
def seeAll (s : Statement) (events : List Event) : Statement := events.foldl see s

@[simp] theorem seeAll_cons (s : Statement) (event : Event) (events : List Event) :
    s.seeAll (event :: events) = (s.see event).seeAll events := rfl

@[simp] theorem seeAll_append (s : Statement) (events later : List Event) :
    s.seeAll (events ++ later) = (s.seeAll events).seeAll later := List.foldl_append

/-- All an event can do: add a binding at a parameter that is not refused, nothing, or forget. -/
theorem see_cases (s : Statement) (event : Event) :
    (∃ index call bound, event = .call index call ∧ s.answer index call = .ok bound ∧
      s.see event = s.push index bound) ∨
    (∃ index call e, event = .call index call ∧ s.answer index call = .error e ∧
      s.see event = s) ∨
    event = .clear ∧ s.see event = s.clear := by
  cases event with
  | clear => exact .inr (.inr ⟨rfl, rfl⟩)
  | call index call =>
    rw [see, bind]
    cases hanswer : s.answer index call with
    | ok bound => exact .inl ⟨index, call, bound, rfl, hanswer, rfl⟩
    | error e => exact .inr (.inl ⟨index, call, e, rfl, hanswer, rfl⟩)

/-! ### What a statement keeps -/

/-- The driver stays the same. -/
theorem clear_see (s : Statement) (event : Event) : (s.see event).clear = s.clear := by
  rcases s.see_cases event with ⟨index, call, bound, -, -, hsee⟩ | ⟨-, -, -, -, -, hsee⟩ | ⟨-, hsee⟩
  · rw [hsee]
    rfl
  · rw [hsee]
  · rw [hsee]
    rfl

theorem clear_seeAll (s : Statement) (events : List Event) : (s.seeAll events).clear = s.clear := by
  induction events generalizing s with
  | nil => rfl
  | cons event events ih => rw [seeAll_cons, ih, clear_see]

/-- Without a clear, bindings are only added, behind those that are there. -/
theorem prefix_seeAll {events : List Event} (h : .clear ∉ events) :
    s.bindings <+: (s.seeAll events).bindings := by
  induction events generalizing s with
  | nil => exact List.prefix_rfl
  | cons event events ih =>
    have hstep : s.bindings <+: (s.see event).bindings := by
      rcases s.see_cases event with ⟨index, _, bound, -, -, hsee⟩ | ⟨-, -, -, -, -, hsee⟩ | ⟨rfl, -⟩
      · rw [hsee]
        exact List.prefix_append s.bindings [(index, bound)]
      · exact ⟨[], by rw [hsee, List.append_nil]⟩
      · exact absurd List.mem_cons_self h
    exact hstep.trans (ih fun hmem => h (List.mem_cons_of_mem event hmem))

theorem refusal?_see (s : Statement) (event : Event) (index : Nat) :
    (s.see event).refusal? index = s.refusal? index := by
  show (s.see event).clear.refusal? index = s.clear.refusal? index
  rw [clear_see]

theorem mem_of_mem_see {event : Event} {entry : Nat × Bound} {e : DriverError}
    (hrefused : s.refusal? entry.1 = some e) (h : entry ∈ (s.see event).bindings) :
    entry ∈ s.bindings := by
  rcases s.see_cases event with
    ⟨index, call, bound, -, hanswer, hsee⟩ | ⟨-, -, -, -, -, hsee⟩ | ⟨-, hsee⟩
  · rw [hsee] at h
    rcases List.mem_append.mp h with hold | hnew
    · exact hold
    · rw [List.mem_singleton.mp hnew, (answer_eq_ok_iff.mp hanswer).2] at hrefused
      exact absurd hrefused.symm (Option.some_ne_none e)
  · rwa [hsee] at h
  · rw [hsee] at h
    exact absurd h List.not_mem_nil

/-- Nothing is bound to a refused parameter: what is there has been there before. -/
theorem mem_of_mem_seeAll {events : List Event} {entry : Nat × Bound} {e : DriverError}
    (hrefused : s.refusal? entry.1 = some e) (h : entry ∈ (s.seeAll events).bindings) :
    entry ∈ s.bindings := by
  induction events generalizing s with
  | nil => exact h
  | cons event events ih =>
    have hsee : (s.see event).refusal? entry.1 = some e := by rw [refusal?_see, hrefused]
    exact mem_of_mem_see hrefused (ih hsee h)

/-! ### What is bound to a parameter -/

@[simp] theorem get?_clear (s : Statement) (index : Nat) : s.clear.get? index = none := rfl

theorem get?_push (s : Statement) (index j : Nat) (bound : Bound) :
    (s.push index bound).get? j = if index = j then some bound else s.get? j := by
  by_cases h : index = j
  · simp [get?, push, h]
  · simp [get?, push, h]

end Statement

/-- What an event does to a parameter: it is bound, it is forgotten, or nothing at all. -/
def Event.effect? (s : Statement) (j : Nat) : Event → Option (Option Bound)
  | .call index asked =>
    match s.answer index asked with
    | .ok bound => if index = j then some (some bound) else none
    | .error _ => none
  | .clear => some none

theorem Event.effect?_congr {s s' : Statement} (h : s.clear = s'.clear) (j : Nat) (event : Event) :
    event.effect? s j = event.effect? s' j := by
  cases event with
  | clear => rfl
  | call index asked => rw [effect?, effect?, Statement.answer_congr h]

theorem Event.effect?_eq_some_iff {s : Statement} {j : Nat} {event : Event} {bound : Bound} :
    event.effect? s j = some (some bound) ↔
      ∃ asked, event = .call j asked ∧ s.answer j asked = .ok bound := by
  cases event with
  | clear => simp [effect?]
  | call index asked =>
    rw [effect?]
    cases hanswer : s.answer index asked with
    | error e =>
      refine ⟨fun h => absurd h (by simp), ?_⟩
      rintro ⟨other, hother, hok⟩
      cases hother
      exact absurd (hanswer.symm.trans hok) (by simp)
    | ok other =>
      by_cases h : index = j
      · subst h
        simp [hanswer]
      · simp [h]

namespace Statement

theorem get?_see (s : Statement) (event : Event) (j : Nat) :
    (s.see event).get? j = (event.effect? s j).getD (s.get? j) := by
  rcases s.see_cases event with
    ⟨index, call, bound, rfl, hanswer, hsee⟩ | ⟨index, call, e, rfl, hanswer, hsee⟩ | ⟨rfl, hsee⟩
  · rw [hsee, get?_push, Event.effect?, hanswer]
    by_cases h : index = j
    · simp [h]
    · simp [h]
  · rw [hsee, Event.effect?, hanswer]
    rfl
  · rw [hsee, get?_clear]
    rfl

/-- **A parameter holds what the last event did to it**, of those that did anything. -/
theorem get?_seeAll (s : Statement) (events : List Event) (j : Nat) :
    (s.seeAll events).get? j
      = (events.reverse.findSome? (Event.effect? s j)).getD (s.get? j) := by
  induction events generalizing s with
  | nil => rfl
  | cons event events ih =>
    have heffect : Event.effect? (s.see event) j = Event.effect? s j :=
      funext fun later => later.effect?_congr (s.clear_see event) j
    rw [seeAll_cons, ih, heffect, get?_see, List.reverse_cons, List.findSome?_append,
      List.findSome?_singleton]
    cases events.reverse.findSome? (Event.effect? s j) with
    | none => rfl
    | some effect => rfl

/-- What a parameter holds was bound by the last call for it that succeeded, and nothing that came
later did anything to it; or no event did, and it was there before. -/
theorem get?_seeAll_eq_some_iff {events : List Event} {j : Nat} {bound : Bound} :
    (s.seeAll events).get? j = some bound ↔
      (∃ before call after, events = before ++ .call j call :: after ∧
        s.answer j call = .ok bound ∧ ∀ event ∈ after, event.effect? s j = none) ∨
      (∀ event ∈ events, event.effect? s j = none) ∧ s.get? j = some bound := by
  have hlast : (∃ before call after, events = before ++ .call j call :: after ∧
      s.answer j call = .ok bound ∧ ∀ event ∈ after, event.effect? s j = none) ↔
      events.reverse.findSome? (Event.effect? s j) = some (some bound) := by
    rw [List.findSome?_eq_some_iff]
    constructor
    · rintro ⟨before, call, after, rfl, hanswer, hafter⟩
      refine ⟨after.reverse, .call j call, before.reverse, by simp,
        Event.effect?_eq_some_iff.mpr ⟨call, rfl, hanswer⟩, fun event hevent => ?_⟩
      exact hafter event (List.mem_reverse.mp hevent)
    · rintro ⟨after, event, before, hsplit, heffect, hafter⟩
      obtain ⟨call, rfl, hanswer⟩ := Event.effect?_eq_some_iff.mp heffect
      refine ⟨before.reverse, call, after.reverse, ?_, hanswer, fun event hevent => ?_⟩
      · rw [← events.reverse_reverse, hsplit]
        simp
      · exact hafter event (List.mem_reverse.mp hevent)
  have hnone : (∀ event ∈ events, event.effect? s j = none) ↔
      events.reverse.findSome? (Event.effect? s j) = none := by
    rw [List.findSome?_eq_none_iff]
    exact forall_congr' fun event => by rw [List.mem_reverse]
  rw [hlast, hnone, get?_seeAll]
  cases events.reverse.findSome? (Event.effect? s j) with
  | none => simp
  | some effect => simp

end Statement

/-! ### Uses -/

/-- A use of a statement. -/
inductive Use where
  /-- A field is bound to a parameter, by any dialect. -/
  | field (dialect : Dialect) (index : Nat) (f : Field) (value : Option Value)
      (column : Option Column)
  /-- A record is bound. -/
  | record (binder : RecordBinder) (values : Record)
  /-- Everything is forgotten. -/
  | clear

/-- The statement that a use leaves, and the error it reports. -/
def Use.apply : Use → Statement → Statement × Except Error Unit
  | .field d index f value column, s =>
    match d.bindField s index f value column with
    | .ok s' => (s', .ok ())
    | .error e => (s, .error e)
  | .record b values, s => ((b.bind values s).1, (b.bind values s).2.map fun _ => ())
  | .clear, s => (s.clear, .ok ())

/-- A use at work: the handlers of a field, the loop of a record. -/
def Use.run : Use → Run Unit
  | .field d index f value column => d.handlers index f value column
  | .record b values => do
    let _ ← b.handleAll values
  | .clear => modify Statement.clear

theorem Use.run_eq (u : Use) (s : Statement) : u.run s = Run.result (u.apply s) := by
  cases u with
  | field d index f value column =>
    rw [run, d.handlers_eq, apply]
    cases d.bindField s index f value column with
    | ok s' => rfl
    | error e => rfl
  | record b values =>
    rw [run, Run.bind_apply, b.handleAll_eq, apply]
    obtain ⟨s', outcome⟩ := b.bind values s
    cases outcome with
    | ok n => rfl
    | error e => rfl
  | clear => rfl

/-! ### The events of a use -/

/-- The call of a field, if one is chosen. -/
def Dialect.calls (d : Dialect) (index : Nat) (f : Field) (value : Option Value)
    (column : Option Column) : List Event :=
  match d.chooseCall f value column with
  | .ok call => [.call index call]
  | .error _ => []

/-- The calls of a run over fields, up to the first that fails. -/
def RecordBinder.callsFrom (b : RecordBinder) (record : Record) (s : Statement) :
    Nat → List Field → List Event
  | _, [] => []
  | index, f :: rest =>
    match b.dialect.chooseCall f (record.get? f.name) (b.column? f) with
    | .ok call =>
      match s.answer index call with
      | .ok _ => .call index call :: b.callsFrom record s (index + 1) rest
      | .error _ => [.call index call]
    | .error _ => []

/-- The events of a use. -/
def Use.events (s : Statement) : Use → List Event
  | .field d index f value column => d.calls index f value column
  | .record b values => b.callsFrom values s 1 b.fields
  | .clear => [.clear]

namespace Statement

variable {s : Statement} {index : Nat} {call : BindCall}

theorem see_call_of_ok {bound : Bound} (h : s.answer index call = .ok bound) :
    s.see (.call index call) = s.push index bound := by
  rw [see, bind, h]
  rfl

theorem see_call_of_error {e : DriverError} (h : s.answer index call = .error e) :
    s.see (.call index call) = s := by
  rw [see, bind, h]
  rfl

end Statement

namespace Event

variable {s : Statement} {index r : Nat} {asked call : BindCall} {e e' : DriverError}

/-- Of one call at the refused parameter, the error is that of the refusal. -/
theorem exists_refused_iff (h : s.refused = some (index, e')) :
    (∃ r asked, s.refused = some (r, e) ∧ .call r asked ∈ [Event.call index call]) ↔ e' = e := by
  constructor
  · rintro ⟨r, asked, hr, -⟩
    exact (Prod.mk.inj (Option.some.inj (h.symm.trans hr))).2
  · rintro rfl
    exact ⟨index, call, h, List.mem_singleton_self _⟩

/-- A call at another parameter is none at the refused one. -/
theorem ne_of_refused (hrefusal : s.refusal? index = none) (hr : s.refused = some (r, e)) :
    Event.call r asked ≠ .call index call := by
  intro heq
  obtain ⟨rfl, -⟩ := Event.call.inj heq
  rw [Statement.refusal?_eq_some_iff.mpr hr] at hrefusal
  exact absurd hrefusal (Option.some_ne_none e)

end Event

namespace Dialect

variable {d : Dialect} {s : Statement} {index : Nat} {f : Field} {value : Option Value}
  {column : Option Column} {call : BindCall}

/-- A choice that fails is no error of the driver. -/
theorem chooseCall_ne_driver (e : DriverError) :
    d.chooseCall f value column ≠ .error (.driver e) := by
  intro h
  cases value with
  | none => exact absurd h (by simp [chooseCall])
  | some v =>
    rcases chooseValueCall_eq_error h with ⟨-, he⟩ | ⟨text, -, -, he⟩
    · exact absurd he (by simp)
    · exact absurd he (by simp)

/-- A call that is chosen fails for the refused parameter only, with the error of the refusal. -/
theorem answer_eq_error_iff (h : d.chooseCall f value column = .ok call) {e : DriverError} :
    s.answer index call = .error e ↔ s.refused = some (index, e) := by
  obtain ⟨bound, hrun⟩ := exists_run_of_chooseCall h s.nativeFloats
  rw [← Statement.refusal?_eq_some_iff, Statement.answer, hrun]
  cases s.refusal? index with
  | some e' => simp
  | none => simp

/-- All that binding a field can do: no call is chosen and it fails, though not with an error of the
driver; the call is for the refused parameter and it fails with the error of the refusal; or the
call is answered. -/
theorem bindField_cases (d : Dialect) (s : Statement) (index : Nat) (f : Field)
    (value : Option Value) (column : Option Column) :
    (∃ e, d.chooseCall f value column = .error e ∧ (∀ e', e ≠ .driver e') ∧
      d.bindField s index f value column = .error e) ∨
    (∃ call e, d.chooseCall f value column = .ok call ∧ s.answer index call = .error e ∧
      s.refused = some (index, e) ∧ d.bindField s index f value column = .error (.driver e)) ∨
    ∃ call bound, d.chooseCall f value column = .ok call ∧ s.answer index call = .ok bound ∧
      s.refusal? index = none ∧
      d.bindField s index f value column = .ok (s.push index bound) := by
  rw [bindField]
  cases hchoose : d.chooseCall f value column with
  | error e =>
    refine .inl ⟨e, rfl, fun e' he => ?_, rfl⟩
    rw [he] at hchoose
    exact chooseCall_ne_driver e' hchoose
  | ok call =>
    simp only [Statement.bindOrFail, Statement.bind]
    cases hanswer : s.answer index call with
    | error e =>
      exact .inr (.inl ⟨call, e, rfl, hanswer, (answer_eq_error_iff hchoose).mp hanswer, rfl⟩)
    | ok bound =>
      have hrefusal : s.refusal? index = none := (Statement.answer_eq_ok_iff.mp hanswer).2
      exact .inr (.inr ⟨call, bound, rfl, hanswer, hrefusal, rfl⟩)

end Dialect

namespace RecordBinder

variable {b : RecordBinder} {record : Record}

theorem callsFrom_congr {s s' : Statement} (h : s.clear = s'.clear) (index : Nat)
    (fields : List Field) :
    b.callsFrom record s index fields = b.callsFrom record s' index fields := by
  induction fields generalizing index with
  | nil => rfl
  | cons f fields ih => simp only [callsFrom, Statement.answer_congr h, ih]

/-- A run over fields leaves what its calls leave. -/
theorem bindFrom_fst (b : RecordBinder) (record : Record) (index : Nat) (fields : List Field)
    (s : Statement) :
    (b.bindFrom record index fields s).1 = s.seeAll (b.callsFrom record s index fields) := by
  induction fields generalizing index s with
  | nil => rfl
  | cons f fields ih =>
    rw [bindFrom, callsFrom]
    rcases b.dialect.bindField_cases s index f (record.get? f.name) (b.column? f) with
      ⟨e, hchoose, -, hbind⟩ | ⟨call, e, hchoose, hanswer, -, hbind⟩ |
      ⟨call, bound, hchoose, hanswer, -, hbind⟩
    · rw [hchoose, hbind]
      rfl
    · simp only [hchoose, hanswer, hbind]
      exact (Statement.see_call_of_error hanswer).symm
    · have hpush : (s.push index bound).clear = s.clear := rfl
      simp only [hchoose, hanswer, hbind, Statement.seeAll_cons, Statement.see_call_of_ok hanswer]
      rw [ih, callsFrom_congr hpush]

/-- A run over fields ends with an error of the driver if it calls it for the refused parameter. -/
theorem bindFrom_snd_eq_driver_iff {index : Nat} {fields : List Field} {s : Statement}
    {e : DriverError} :
    (b.bindFrom record index fields s).2 = .error (.driver e) ↔
      ∃ r call, s.refused = some (r, e) ∧
        .call r call ∈ b.callsFrom record s index fields := by
  induction fields generalizing index s with
  | nil => simp [bindFrom, callsFrom]
  | cons f fields ih =>
    rw [bindFrom, callsFrom]
    rcases b.dialect.bindField_cases s index f (record.get? f.name) (b.column? f) with
      ⟨e', hchoose, hne, hbind⟩ | ⟨call, e', hchoose, hanswer, hrefused, hbind⟩ |
      ⟨call, bound, hchoose, hanswer, hrefusal, hbind⟩
    · simp [hchoose, hbind, hne e]
    · simp only [hchoose, hanswer, hbind]
      rw [Event.exists_refused_iff hrefused]
      simp
    · have hpush : (s.push index bound).clear = s.clear := rfl
      simp only [hchoose, hanswer, hbind]
      rw [ih, callsFrom_congr hpush]
      refine exists₂_congr fun r asked => and_congr_right fun hr => ?_
      have hne : Event.call r asked ≠ .call index call := Event.ne_of_refused hrefusal hr
      rw [List.mem_cons]
      exact ⟨.inr, fun h => h.resolve_left hne⟩

theorem clear_notMem_callsFrom (b : RecordBinder) (record : Record) (s : Statement) (index : Nat)
    (fields : List Field) : .clear ∉ b.callsFrom record s index fields := by
  induction fields generalizing index with
  | nil => exact List.not_mem_nil
  | cons f fields ih =>
    rw [callsFrom]
    cases b.dialect.chooseCall f (record.get? f.name) (b.column? f) with
    | error e => exact List.not_mem_nil
    | ok call =>
      cases hanswer : s.answer index call with
      | error e => simp [hanswer]
      | ok bound => simpa [hanswer] using ih (index + 1)

end RecordBinder

namespace Use

theorem events_congr {s s' : Statement} (h : s.clear = s'.clear) (u : Use) :
    u.events s = u.events s' := by
  cases u with
  | field d index f value column => rfl
  | record b values => exact RecordBinder.callsFrom_congr h 1 b.fields
  | clear => rfl

/-- **A use leaves what its events leave.** -/
theorem apply_fst (u : Use) (s : Statement) : (u.apply s).1 = s.seeAll (u.events s) := by
  cases u with
  | field d index f value column =>
    rw [apply, events, Dialect.calls]
    rcases d.bindField_cases s index f value column with
      ⟨e, hchoose, -, hbind⟩ | ⟨call, e, hchoose, hanswer, -, hbind⟩ |
      ⟨call, bound, hchoose, hanswer, -, hbind⟩
    · rw [hchoose, hbind]
      rfl
    · rw [hchoose, hbind]
      exact (Statement.see_call_of_error hanswer).symm
    · rw [hchoose, hbind]
      exact (Statement.see_call_of_ok hanswer).symm
  | record b values => exact b.bindFrom_fst values 1 b.fields s
  | clear => rfl

/-- **The errors of the driver** that a use reports: that of the refusal, unchanged, and if and only
if the driver is called for the refused parameter. -/
theorem apply_snd_eq_driver_iff {u : Use} {s : Statement} {e : DriverError} :
    (u.apply s).2 = .error (.driver e) ↔
      ∃ r call, s.refused = some (r, e) ∧ .call r call ∈ u.events s := by
  cases u with
  | field d index f value column =>
    rw [apply, events, Dialect.calls]
    rcases d.bindField_cases s index f value column with
      ⟨e', hchoose, hne, hbind⟩ | ⟨call, e', hchoose, -, hrefused, hbind⟩ |
      ⟨call, bound, hchoose, -, hrefusal, hbind⟩
    · simp [hchoose, hbind, hne e]
    · simp only [hchoose, hbind]
      rw [Event.exists_refused_iff hrefused]
      simp
    · simp only [hchoose, hbind]
      refine ⟨fun h => absurd h (by simp), ?_⟩
      rintro ⟨r, asked, hr, hmem⟩
      exact absurd (List.mem_singleton.mp hmem) (Event.ne_of_refused hrefusal hr)
  | record b values =>
    rw [apply, map_eq_error_iff, RecordBinder.bind]
    exact map_eq_error_iff.trans RecordBinder.bindFrom_snd_eq_driver_iff
  | clear => simp [apply, events]

theorem clear_mem_events_iff {u : Use} {s : Statement} : .clear ∈ u.events s ↔ u = .clear := by
  cases u with
  | field d index f value column =>
    rw [events, Dialect.calls]
    cases d.chooseCall f value column with
    | ok call => simp
    | error e => simp
  | record b values => simp [events, b.clear_notMem_callsFrom values s 1 b.fields]
  | clear => simp [events]

end Use

/-! ### Sessions -/

/-- The statement after uses, from first to last. An error ends its use but not the session. -/
def session (uses : List Use) (s : Statement) : Statement :=
  uses.foldl (fun s u => (u.apply s).1) s

/-- The events of a session. -/
def sessionEvents (s : Statement) (uses : List Use) : List Event := uses.flatMap (Use.events s)

theorem sessionEvents_congr {s s' : Statement} (h : s.clear = s'.clear) (uses : List Use) :
    sessionEvents s uses = sessionEvents s' uses := by
  have hevents : Use.events s = Use.events s' := funext fun u => u.events_congr h
  rw [sessionEvents, sessionEvents, hevents]

theorem session_append (uses later : List Use) (s : Statement) :
    session (uses ++ later) s = session later (session uses s) := List.foldl_append

theorem session_eq_seeAll (uses : List Use) (s : Statement) :
    session uses s = s.seeAll (sessionEvents s uses) := by
  induction uses generalizing s with
  | nil => rfl
  | cons u uses ih =>
    have hclear : (u.apply s).1.clear = s.clear := by rw [u.apply_fst, Statement.clear_seeAll]
    show session uses (u.apply s).1 = _
    rw [ih, sessionEvents_congr hclear, u.apply_fst, ← Statement.seeAll_append]
    rfl

/-- **What a statement holds after a session.** Nothing is bound to the refused parameter that has
not been there before. Later uses without a clear only add bindings, behind those that are there. A
parameter holds what the last call for it bound that succeeded, unless it was cleared since; if
there was neither, it holds what it held before. And whatever is used next, leaves what its events
leave and fails with an error of the driver if and only if it calls the driver for the refused
parameter, and then with the error of the refusal. A use at work on the statement itself does just
that. -/
theorem session_invariant (s : Statement) (uses : List Use) :
    (∀ r e bound, s.refused = some (r, e) → (r, bound) ∈ (session uses s).bindings →
      (r, bound) ∈ s.bindings) ∧
    (∀ during, .clear ∉ during →
      (session uses s).bindings <+: (session (uses ++ during) s).bindings) ∧
    (∀ j bound, (session uses s).get? j = some bound ↔
      (∃ before call after, sessionEvents s uses = before ++ .call j call :: after ∧
        s.answer j call = .ok bound ∧ ∀ event ∈ after, event.effect? s j = none) ∨
      (∀ event ∈ sessionEvents s uses, event.effect? s j = none) ∧ s.get? j = some bound) ∧
    ∀ u : Use,
      (u.apply (session uses s)).1 = (session uses s).seeAll (u.events s) ∧
      (∀ e, (u.apply (session uses s)).2 = .error (.driver e) ↔
        ∃ r call, s.refused = some (r, e) ∧ .call r call ∈ u.events s) ∧
      u.run (session uses s) = Run.result (u.apply (session uses s)) := by
  have hclear : (session uses s).clear = s.clear := by
    rw [session_eq_seeAll, Statement.clear_seeAll]
  have hrefused : (session uses s).refused = s.refused := by
    show (session uses s).clear.refused = s.clear.refused
    rw [hclear]
  refine ⟨fun r e bound hr hmem => ?_, fun during hduring => ?_, fun j bound => ?_, fun u =>
    ⟨?_, fun e => ?_, u.run_eq (session uses s)⟩⟩
  · rw [session_eq_seeAll] at hmem
    exact Statement.mem_of_mem_seeAll (Statement.refusal?_eq_some_iff.mpr hr) hmem
  · rw [session_append, session_eq_seeAll during]
    refine Statement.prefix_seeAll fun hmem => ?_
    obtain ⟨u, hu, hevent⟩ := List.mem_flatMap.mp hmem
    rw [Use.clear_mem_events_iff.mp hevent] at hu
    exact hduring hu
  · rw [session_eq_seeAll]
    exact Statement.get?_seeAll_eq_some_iff
  · rw [u.apply_fst, u.events_congr hclear]
  · rw [u.apply_snd_eq_driver_iff, u.events_congr hclear, hrefused]

/-- Two dialects bind a name to the first parameter, and the later name stays. The second parameter
is refused. -/
theorem session_invariant_names :
    (session
        [.field (.generic {}) 1 { name := "name", schema := { kind := .string } }
          (some (.string "Ada")) none,
        .field (.oracle {}) 1 { name := "name", schema := { kind := .string } }
          (some (.string "Eva")) none]
        { refused := some (2, { code := 1438, message := "value too large" }) }).get? 1
      = some (.whole (.string "Eva")) ∧
    ((Use.field (.oracle {}) 2 { name := "name", schema := { kind := .string } }
        (some (.string "Ida")) none).apply
      (session
        [.field (.generic {}) 1 { name := "name", schema := { kind := .string } }
          (some (.string "Ada")) none,
        .field (.oracle {}) 1 { name := "name", schema := { kind := .string } }
          (some (.string "Eva")) none]
        { refused := some (2, { code := 1438, message := "value too large" }) })).2
      = .error (.driver { code := 1438, message := "value too large" }) := by
  obtain ⟨-, -, hheld, huse⟩ := session_invariant
    { refused := some (2, { code := 1438, message := "value too large" }) }
    [.field (.generic {}) 1 { name := "name", schema := { kind := .string } }
      (some (.string "Ada")) none,
    .field (.oracle {}) 1 { name := "name", schema := { kind := .string } }
      (some (.string "Eva")) none]
  refine ⟨(hheld 1 _).mpr (.inl ?_), ((huse _).2.1 _).mpr ?_⟩
  · refine ⟨[.call 1 (.whole (.string "Ada"))], .whole (.string "Eva"), [], rfl, rfl, ?_⟩
    exact fun event hevent => absurd hevent List.not_mem_nil
  · exact ⟨2, .whole (.string "Ida"), rfl, List.mem_singleton_self _⟩

end SqlDialect
