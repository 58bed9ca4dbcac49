import Giffy.Foundation.Runs

/-! The events that the successful calls of a run publish: what each of them is preceded by,
and what can be rebuilt from them alone. -/

namespace EventLog

open Runs

universe u

section Logs

variable {Event : Type u}

/-- Every event meets a condition on the events before it. -/
def Justified (P : List Event → Event → Prop) (log : List Event) : Prop :=
  ∀ front event back, log = front ++ event :: back → P front event

variable {P : List Event → Event → Prop} {past more : List Event}

theorem justified_nil : Justified P [] := by
  intro front event back split
  simp at split

theorem Justified.append (old : Justified P past)
    (new : Justified (fun front => P (past ++ front)) more) : Justified P (past ++ more) := by
  intro front event back split
  rcases List.append_eq_append_iff.mp split with ⟨middle, rfl, tail⟩ | ⟨middle, rfl, tail⟩
  · exact new middle event back tail
  · cases middle with
    | nil =>
        rw [List.nil_append] at tail
        have first := new [] event back tail.symm
        simpa using first
    | cons head middle =>
        rw [List.cons_append, List.cons.injEq] at tail
        rcases tail with ⟨rfl, rfl⟩
        exact old front event middle rfl

theorem justified_cons {event : Event} (first : P [] event)
    (rest : Justified (fun front => P (event :: front)) more) : Justified P (event :: more) := by
  have one : Justified P [event] := by
    intro front other back split
    rcases List.append_eq_singleton_iff.mp split.symm with ⟨rfl, same⟩ | ⟨_, same⟩
    · cases same
      exact first
    · cases same
  exact one.append rest

theorem justified_singleton {event : Event} (first : P [] event) : Justified P [event] :=
  justified_cons first justified_nil

end Logs

section Runs

variable {State Call Err Result Event View : Type u} (m : Machine State Call Err Result)
  (events : Call → Result → List Event)

/-- A failing call publishes nothing. -/
def published (entry : Record State Call Err Result) : List Event :=
  match entry.outcome with
  | .ok result => events entry.call result
  | .error _ => []

def log (entries : List (Record State Call Err Result)) : List Event :=
  entries.flatMap (published events)

theorem log_append_singleton (entries : List (Record State Call Err Result))
    (entry : Record State Call Err Result) :
    log events (entries ++ [entry]) = log events entries ++ published events entry := by
  simp [log, List.flatMap_append]

variable {m}

/-- An invariant of the state and the log, kept by steps that publish justified events only. -/
theorem run_justified (P : List Event → Event → Prop) (Inv : List Event → State → Prop)
    (Ok : State → Call → Prop) {start : State} (init : Inv [] start)
    (step : ∀ past s call, Inv past s → Ok s call →
      Inv (past ++ published events (m.record s call)) (m.next s call) ∧
        Justified (fun front => P (past ++ front)) (published events (m.record s call)))
    (calls : List Call) (met : ∀ entry ∈ m.trace start calls, Ok entry.before entry.call) :
    Inv (log events (m.trace start calls)) (m.final start calls) ∧
      Justified P (log events (m.trace start calls)) := by
  apply Machine.run_invariant
    (fun past s => Inv (log events past) s ∧ Justified P (log events past)) Ok _ _ calls met
  · exact ⟨init, justified_nil⟩
  · rintro past s call ⟨holds, justified⟩ ok
    rcases step _ s call holds ok with ⟨kept, new⟩
    rw [log_append_singleton]
    exact ⟨kept, justified.append new⟩

/-- Renamings of states, calls and results that every step respects carry runs to runs. -/
theorem trace_equivariant (state : State → State) (call : Call → Call) (result : Result → Result)
    (step : ∀ s c, m.exec (state s) (call c) = (m.exec s c).map (Prod.map state result)) (s : State)
    (calls : List Call) :
    m.trace (state s) (calls.map call) = (m.trace s calls).map fun entry =>
      ⟨state entry.before, call entry.call, entry.outcome.map result⟩ := by
  induction calls generalizing s with
  | nil => rfl
  | cons first calls ih =>
      have next : m.next (state s) (call first) = state (m.next s first) := by
        rw [Machine.next, Machine.next, step]
        cases m.exec s first <;> rfl
      have outcome : m.outcome (state s) (call first) = (m.outcome s first).map result := by
        rw [Machine.outcome, Machine.outcome, step]
        cases m.exec s first <;> rfl
      rw [List.map_cons, Machine.trace_cons, next, ih, Machine.trace_cons, List.map_cons,
        Machine.record, outcome]
      rfl

theorem log_equivariant (state : State → State) (call : Call → Call) (event : Event → Event)
    (result : Result → Result)
    (step : ∀ s c, m.exec (state s) (call c) = (m.exec s c).map (Prod.map state result))
    (renames : ∀ c r, events (call c) (result r) = (events c r).map event) (s : State)
    (calls : List Call) :
    log events (m.trace (state s) (calls.map call)) =
      (log events (m.trace s calls)).map event := by
  rw [trace_equivariant state call result step, log, log, List.flatMap_map, List.map_flatMap]
  congr 1
  funext entry
  unfold published
  cases entry.outcome with
  | ok r => exact renames entry.call r
  | error err => rfl

end Runs

end EventLog
