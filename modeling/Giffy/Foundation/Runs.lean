import Mathlib.Data.List.Basic
import Mathlib.Tactic.TypeStar

/-! Runs of a deterministic machine whose failing calls leave the state alone,
the record such a run leaves, and the counted loop. -/

namespace Runs

universe u

structure Machine (State Call Err Result : Type u) where
  exec : State → Call → Except Err (State × Result)

structure Record (State Call Err Result : Type u) where
  before : State
  call : Call
  outcome : Except Err Result

namespace Machine

variable {State Call Err Result : Type u} (m : Machine State Call Err Result)

/-- A failing call is rolled back as a whole. -/
def next (s : State) (call : Call) : State :=
  match m.exec s call with
  | .ok (after, _) => after
  | .error _ => s

def outcome (s : State) (call : Call) : Except Err Result :=
  match m.exec s call with
  | .ok (_, result) => .ok result
  | .error err => .error err

def record (s : State) (call : Call) : Record State Call Err Result :=
  ⟨s, call, m.outcome s call⟩

def final (s : State) (calls : List Call) : State := calls.foldl m.next s

def trace : State → List Call → List (Record State Call Err Result)
  | _, [] => []
  | s, call :: calls => m.record s call :: trace (m.next s call) calls

variable {m}

theorem next_of_ok {s after : State} {call : Call} {result : Result}
    (h : m.exec s call = .ok (after, result)) : m.next s call = after := by
  simp only [next, h]

theorem next_of_error {s : State} {call : Call} {err : Err}
    (h : m.exec s call = .error err) : m.next s call = s := by
  simp only [next, h]

theorem outcome_eq_ok {s : State} {call : Call} {result : Result} :
    m.outcome s call = .ok result ↔ m.exec s call = .ok (m.next s call, result) := by
  cases h : m.exec s call with
  | error err => simp [outcome, h]
  | ok pair => simp [outcome, next, h, Prod.ext_iff]

theorem outcome_eq_error {s : State} {call : Call} {err : Err} :
    m.outcome s call = .error err ↔ m.exec s call = .error err := by
  cases h : m.exec s call <;> simp [outcome, h]

theorem outcome_of_ok {s after : State} {call : Call} {result : Result}
    (h : m.exec s call = .ok (after, result)) : m.outcome s call = .ok result := by
  simp only [outcome, h]

theorem record_of_ok {s after : State} {call : Call} {result : Result}
    (h : m.exec s call = .ok (after, result)) : m.record s call = ⟨s, call, .ok result⟩ := by
  rw [record, outcome_of_ok h]

theorem record_of_error {s : State} {call : Call} {err : Err}
    (h : m.exec s call = .error err) : m.record s call = ⟨s, call, .error err⟩ := by
  rw [record, outcome_eq_error.mpr h]

theorem next_cases {Step : State → Call → State → Result → Prop}
    (covers : ∀ {s after : State} {call : Call} {result : Result},
      m.exec s call = .ok (after, result) → Step s call after result)
    (s : State) (call : Call) :
    (∃ result, m.outcome s call = .ok result ∧ Step s call (m.next s call) result) ∨
      (∃ err, m.outcome s call = .error err) ∧ m.next s call = s := by
  cases ran : m.exec s call with
  | ok pair =>
      left
      refine ⟨pair.2, outcome_of_ok ran, ?_⟩
      rw [next_of_ok ran]
      exact covers ran
  | error err =>
      right
      exact ⟨⟨err, outcome_eq_error.mpr ran⟩, next_of_error ran⟩

@[simp] theorem final_nil (s : State) : m.final s [] = s := rfl

@[simp] theorem final_cons (s : State) (call : Call) (calls : List Call) :
    m.final s (call :: calls) = m.final (m.next s call) calls := rfl

@[simp] theorem trace_nil (s : State) : m.trace s [] = [] := rfl

@[simp] theorem trace_cons (s : State) (call : Call) (calls : List Call) :
    m.trace s (call :: calls) = m.record s call :: m.trace (m.next s call) calls := rfl

theorem trace_append (s : State) (front back : List Call) :
    m.trace s (front ++ back) = m.trace s front ++ m.trace (m.final s front) back := by
  induction front generalizing s with
  | nil => rfl
  | cons call calls ih => simp only [List.cons_append, trace_cons, final_cons, ih]

theorem trace_calls (s : State) (calls : List Call) :
    (m.trace s calls).map Record.call = calls := by
  induction calls generalizing s with
  | nil => rfl
  | cons call calls ih => simp only [trace_cons, List.map_cons, ih, record]

theorem call_mem_of_trace {s : State} {calls : List Call}
    {entry : Record State Call Err Result} (member : entry ∈ m.trace s calls) :
    entry.call ∈ calls := by
  rw [← trace_calls (m := m) s calls]
  exact List.mem_map_of_mem member

theorem trace_member {s : State} {calls : List Call} {entry : Record State Call Err Result}
    (member : entry ∈ m.trace s calls) :
    ∃ front call back, calls = front ++ call :: back ∧
      entry = m.record (m.final s front) call := by
  induction calls generalizing s with
  | nil => simp at member
  | cons head tail ih =>
      simp only [trace_cons, List.mem_cons] at member
      rcases member with rfl | member
      · exact ⟨[], head, tail, rfl, rfl⟩
      · rcases ih member with ⟨front, call, back, rfl, rfl⟩
        exact ⟨head :: front, call, back, rfl, rfl⟩

/-- What holds at the start and is kept by every step that meets `Ok` holds of the
record and the state of every run whose steps meet it. -/
theorem run_invariant (Inv : List (Record State Call Err Result) → State → Prop)
    (Ok : State → Call → Prop) {start : State} (init : Inv [] start)
    (step : ∀ past s call, Inv past s → Ok s call →
      Inv (past ++ [m.record s call]) (m.next s call))
    (calls : List Call) (met : ∀ entry ∈ m.trace start calls, Ok entry.before entry.call) :
    Inv (m.trace start calls) (m.final start calls) := by
  have general : ∀ (rest : List Call) (past : List (Record State Call Err Result)) (s : State),
      Inv past s → (∀ entry ∈ m.trace s rest, Ok entry.before entry.call) →
      Inv (past ++ m.trace s rest) (m.final s rest) := by
    intro rest
    induction rest with
    | nil =>
        intro past s holds _
        simpa using holds
    | cons call rest ih =>
        intro past s holds met
        simp only [trace_cons, List.mem_cons, forall_eq_or_imp] at met
        have kept := ih _ _ (step past s call holds met.1) met.2
        simpa [List.append_assoc] using kept
  simpa using general calls [] start init met

theorem state_invariant (Inv : State → Prop) (Ok : State → Call → Prop) {start : State}
    (init : Inv start) (step : ∀ s call, Inv s → Ok s call → Inv (m.next s call))
    (calls : List Call) (met : ∀ entry ∈ m.trace start calls, Ok entry.before entry.call) :
    Inv (m.final start calls) :=
  run_invariant (fun _ s => Inv s) Ok init (fun _ s call => step s call) calls met

/-- A step that keeps the invariant and leaves a good record does so all along a run. -/
theorem trace_invariant (Inv : State → Prop) (Good : Record State Call Err Result → Prop)
    (Ok : State → Call → Prop) {start : State} (init : Inv start)
    (step : ∀ s call, Inv s → Ok s call → Inv (m.next s call) ∧ Good (m.record s call))
    (calls : List Call) (met : ∀ entry ∈ m.trace start calls, Ok entry.before entry.call) :
    Inv (m.final start calls) ∧ ∀ entry ∈ m.trace start calls, Good entry := by
  apply run_invariant (fun past s => Inv s ∧ ∀ entry ∈ past, Good entry) Ok _ _ calls met
  · exact ⟨init, by simp⟩
  · rintro past s call ⟨holds, good⟩ ok
    have stepped := step s call holds ok
    constructor
    · exact stepped.1
    · intro entry member
      rcases List.mem_append.mp member with old | new
      · exact good entry old
      · exact List.mem_singleton.mp new ▸ stepped.2

theorem met_of_calls {Ok : Call → Prop} {s : State} {calls : List Call}
    (met : ∀ call ∈ calls, Ok call) :
    ∀ entry ∈ m.trace s calls, Ok entry.call := by
  intro entry member
  exact met _ (call_mem_of_trace member)

end Machine

section CountedLoops

variable {β γ : Type u}

theorem foldl_range_invariant (P : Nat → β → Prop) (f : β → Nat → β) (n : Nat) {b : β}
    (init : P 0 b) (step : ∀ i, i < n → ∀ b, P i b → P (i + 1) (f b i)) :
    P n ((List.range n).foldl f b) := by
  induction n with
  | zero => simpa using init
  | succ n ih =>
      rw [List.range_succ, List.foldl_append]
      exact step n (Nat.lt_succ_self n) _
        (ih fun i bound => step i (Nat.lt_succ_of_lt bound))

theorem foldlM_range_invariant (P : Nat → β → Prop) (f : β → Nat → Option β) (n : Nat) {b : β}
    (init : P 0 b)
    (step : ∀ i, i < n → ∀ b, P i b → ∃ next, f b i = some next ∧ P (i + 1) next) :
    ∃ last, (List.range n).foldlM f b = some last ∧ P n last := by
  induction n with
  | zero => exact ⟨b, by simp, init⟩
  | succ n ih =>
      rcases ih fun i bound => step i (Nat.lt_succ_of_lt bound) with ⟨mid, ran, holds⟩
      rcases step n (Nat.lt_succ_self n) mid holds with ⟨last, passed, kept⟩
      refine ⟨last, ?_, kept⟩
      rw [List.range_succ, List.foldlM_append, ran]
      simp [passed]

end CountedLoops

end Runs
