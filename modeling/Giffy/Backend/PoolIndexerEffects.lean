import Giffy.Backend.PoolIndexer

/-! What an action of the indexer can have done, and the pool's history in its events. -/

namespace Giffy.PoolIndexer

open Chain

variable {Address : Type} [DecidableEq Address] (setup : Setup Address)

section Steps

inductive Step (w : World Address) : Act Address → World Address → Report → Prop
  | closed {txs : List (Action Address (Pool.Call Address) × Text)} :
      Step w (.close txs) { txs.foldl (World.take setup) w with latest := w.latest + 1 } .nothing
  | started {task : Task}
      (begins : task = .locating ∨ ∃ startLedger, task = .paging (Paging.first startLedger)) :
      Step w .start (w.start task) .nothing
  | located {k sequence startLedger : Nat} (running : w.tasks[k]? = some .locating) :
      Step w (.locate k sequence) (w.put k (.paging (Paging.first startLedger))) .nothing
  | paged {k : Nat} {paging next : Paging} {answer : EventPage}
      (running : w.tasks[k]? = some (.paging paging))
      (read : readPage paging answer = .more next) :
      Step w (.page k answer) (w.put k (.paging next)) .nothing
  | drained {k : Nat} {paging : Paging} {answer : EventPage} {found : DepositEventPage}
      (running : w.tasks[k]? = some (.paging paging))
      (read : readPage paging answer = .drained found) :
      Step w (.page k answer)
        (w.put k (.writing paging.startLedger found.events found.latestLedger 0)) .nothing
  | matched {k startLedger latestLedger indexed : Nat} {ev : DepositEvent}
      {rest : List DepositEvent}
      (running : w.tasks[k]? = some (.writing startLedger (ev :: rest) latestLedger indexed))
      (present : ∃ leaf ∈ w.leaves, leaf.poolId = setup.poolId ∧ leaf.leafIndex = ev.leafIndex) :
      Step w (.upsert k) (w.put k (.writing startLedger rest latestLedger indexed)) .nothing
  | inserted {k startLedger latestLedger indexed : Nat} {ev : DepositEvent}
      {rest : List DepositEvent}
      (running : w.tasks[k]? = some (.writing startLedger (ev :: rest) latestLedger indexed))
      (absent : ∀ leaf ∈ w.leaves, leaf.poolId = setup.poolId → leaf.leafIndex ≠ ev.leafIndex) :
      Step w (.upsert k)
        { w.put k (.writing startLedger rest latestLedger (indexed + 1)) with
          leaves := w.leaves ++ [leafOf setup.poolId ev] } .nothing
  | stored {k startLedger latestLedger indexed : Nat}
      (running : w.tasks[k]? = some (.writing startLedger [] latestLedger indexed)) :
      Step w (.store k) { w.put k (.counting indexed) with lastLedger := some latestLedger }
        (.stored startLedger latestLedger)
  | counted {k indexed total : Nat} (running : w.tasks[k]? = some (.counting indexed)) :
      Step w (.count k) (w.put k .done) (.returned setup.poolId indexed total)
  | dropped {k : Nat} : Step w (.drop k) (w.put k .done) .nothing

variable {setup} {w after : World Address} {report : Report}

theorem page_step {k : Nat} {answer : EventPage} (ran : page w k answer = .ok (after, report)) :
    Step setup w (.page k answer) after report := by
  unfold page at ran
  split at ran
  next paging running =>
    split at ran
    next next read =>
      cases ran
      exact .paged running read
    next found read =>
      cases ran
      exact .drained running read
  next => cases ran

theorem upsert_step {k : Nat} (ran : upsert setup w k = .ok (after, report)) :
    Step setup w (.upsert k) after report := by
  unfold upsert at ran
  split at ran
  next startLedger ev rest latestLedger indexed running =>
    split at ran
    next present =>
      cases ran
      simp only [List.any_eq_true, matching, Bool.and_eq_true, decide_eq_true_eq] at present
      exact .matched running present
    next absent =>
      cases ran
      refine .inserted running ?_
      intro leaf member same
      simp only [List.any_eq_true, matching, Bool.and_eq_true, decide_eq_true_eq] at absent
      exact fun index => absent ⟨leaf, member, same, index⟩
  next => cases ran

theorem exec_step {act : Act Address} (ran : exec setup w act = .ok (after, report)) :
    Step setup w act after report := by
  cases act with
  | close txs =>
      cases ran
      exact .closed
  | start =>
      cases ran
      apply Step.started
      split
      next => exact Or.inl rfl
      next => exact Or.inr ⟨_, rfl⟩
  | locate k sequence =>
      simp only [exec, locate] at ran
      split at ran
      next running =>
        cases ran
        exact .located running
      next => cases ran
  | page k answer => exact page_step ran
  | upsert k => exact upsert_step ran
  | store k =>
      simp only [exec, store] at ran
      split at ran
      next running =>
        cases ran
        exact .stored running
      next => cases ran
  | count k =>
      simp only [exec, count] at ran
      split at ran
      next running =>
        cases ran
        exact .counted running
      next => cases ran
  | drop k =>
      simp only [exec, drop] at ran
      split at ran
      next =>
        cases ran
        exact .dropped
      next => cases ran

theorem next_cases (setup : Setup Address) (w : World Address) (act : Act Address) :
    (∃ report, (machine setup).outcome w act = .ok report ∧
      Step setup w act ((machine setup).next w act) report) ∨
    (∃ refused, (machine setup).outcome w act = .error refused) ∧ (machine setup).next w act = w :=
  Runs.Machine.next_cases (m := machine setup) exec_step w act

end Steps

section History

variable {setup} {w : World Address}

def World.deposits (w : World Address) : List DepositEvent := w.events.filterMap depositEvent

structure Recorded (setup : Setup Address) (w : World Address) : Prop where
  follows : Pool.Follows setup.pool (w.past setup) (w.pool setup)
  indices : w.deposits.map DepositEvent.leafIndex =
    List.range (Pool.commitments (w.past setup)).length
  values : w.deposits.map DepositEvent.commitment =
    (Pool.commitments (w.past setup)).map fun commitment => toHex commitment.data

theorem take_past (tx : Action Address (Pool.Call Address) × Text) :
    (w.take setup tx).past setup =
      w.past setup ++ [(Pool.machine setup.pool).record (w.pool setup) tx.1] := by
  rw [World.past, World.take, Runs.Machine.trace_append]
  rfl

theorem take_pool (tx : Action Address (Pool.Call Address) × Text) :
    (w.take setup tx).pool setup = (Pool.machine setup.pool).next (w.pool setup) tx.1 := by
  rw [World.pool, World.take, Runs.Machine.final, List.foldl_append]
  rfl

theorem emitted_deposits {past : List (Pool.Entry Address)} {s : Pool.State Address}
    (follows : Pool.Follows setup.pool past s) (ledger : Nat)
    (action : Action Address (Pool.Call Address)) (txHash : Text) :
    (emitted setup s ledger action txHash).filterMap depositEvent =
      ((Pool.depositOf ((Pool.machine setup.pool).record s action)).toList.map fun commitment =>
        ⟨(Pool.commitments past).length, toHex commitment.data, ledger, txHash⟩) := by
  rcases Pool.next_cases (d := setup.pool) s action with ⟨receipt, ran, step⟩ | ⟨⟨trap, failed⟩, _⟩
  · rw [emitted, Runs.Machine.record, ran]
    generalize (Pool.machine setup.pool).next s action = after at step
    cases step with
    | initialized => rfl
    | deposited _ stored =>
        have counted := (follows.grown _ stored).count
        simp [depositEvent, Pool.depositOf, counted]
    | withdrawn => rfl
    | outside => rfl
  · rw [emitted, Runs.Machine.record, failed]
    cases action with
    | outside => rfl
    | invoke env call => cases call <;> rfl

theorem Recorded.take (recorded : Recorded setup w)
    (tx : Action Address (Pool.Call Address) × Text) : Recorded setup (w.take setup tx) := by
  have emits := emitted_deposits recorded.follows (w.latest + 1) tx.1 tx.2
  have deposits : (w.take setup tx).deposits = w.deposits ++
      (emitted setup (w.pool setup) (w.latest + 1) tx.1 tx.2).filterMap depositEvent :=
    List.filterMap_append
  constructor
  · rw [take_past, take_pool]
    exact Pool.next_follows recorded.follows tx.1
  · rw [deposits, emits, List.map_append, recorded.indices, take_past, Pool.commitments_append]
    cases Pool.depositOf ((Pool.machine setup.pool).record (w.pool setup) tx.1) with
    | none => simp
    | some commitment => simp [List.range_succ]
  · rw [deposits, emits, List.map_append, recorded.values, take_past, Pool.commitments_append]
    simp

theorem Recorded.takes (recorded : Recorded setup w)
    (txs : List (Action Address (Pool.Call Address) × Text)) :
    Recorded setup (txs.foldl (World.take setup) w) := by
  induction txs generalizing w with
  | nil => exact recorded
  | cons tx rest ih => exact ih (recorded.take tx)

theorem takes_frame (setup : Setup Address) (w : World Address)
    (txs : List (Action Address (Pool.Call Address) × Text)) :
    let after := txs.foldl (World.take setup) w
    after.latest = w.latest ∧ after.leaves = w.leaves ∧ after.lastLedger = w.lastLedger ∧
      after.tasks = w.tasks ∧
      ∃ new, after.events = w.events ++ new ∧ ∀ ev ∈ new, ev.ledger = w.latest + 1 := by
  induction txs generalizing w with
  | nil => exact ⟨rfl, rfl, rfl, rfl, [], by simp, by simp⟩
  | cons tx rest ih =>
      rcases ih (w.take setup tx) with ⟨latest, leaves, lastLedger, tasks, new, events, ledgers⟩
      refine ⟨latest, leaves, lastLedger, tasks,
        emitted setup (w.pool setup) (w.latest + 1) tx.1 tx.2 ++ new, ?_, ?_⟩
      · rw [List.foldl_cons, events, World.take, List.append_assoc]
      · intro ev member
        rcases List.mem_append.mp member with first | later
        · unfold emitted at first
          split at first
          next =>
            rcases List.mem_map.mp first with ⟨event, _, rfl⟩
            rfl
          next => cases first
        · exact ledgers ev later

structure Chronicle (setup : Setup Address) (w : World Address) : Prop where
  recorded : Recorded setup w
  sorted : w.events.Pairwise fun a b => a.ledger ≤ b.ledger
  bounded : ∀ ev ∈ w.events, ev.ledger ≤ w.latest

theorem Recorded.deposit_unique (recorded : Recorded setup w) {a b : DepositEvent}
    (first : a ∈ w.deposits) (second : b ∈ w.deposits) (same : a.leafIndex = b.leafIndex) :
    a = b := by
  have distinct : (w.deposits.map DepositEvent.leafIndex).Nodup := by
    rw [recorded.indices]
    exact List.nodup_range
  exact List.inj_on_of_nodup_map distinct first second same

theorem chronicle_fresh (setup : Setup Address) (others : List Leaf) (lastLedger : Option Nat) :
    Chronicle setup (World.fresh Address others lastLedger) := by
  constructor
  · exact ⟨(Pool.run_follows setup.pool []), rfl, rfl⟩
  · exact List.Pairwise.nil
  · intro ev member
    cases member

theorem Chronicle.closed (chronicle : Chronicle setup w)
    (txs : List (Action Address (Pool.Call Address) × Text)) :
    Chronicle setup { txs.foldl (World.take setup) w with latest := w.latest + 1 } := by
  rcases takes_frame setup w txs with ⟨_, _, _, _, new, events, ledgers⟩
  have recorded := chronicle.recorded.takes txs
  constructor
  · exact ⟨recorded.follows, recorded.indices, recorded.values⟩
  · show ((txs.foldl (World.take setup) w).events).Pairwise _
    rw [events, List.pairwise_append]
    refine ⟨chronicle.sorted, ?_, ?_⟩
    · apply List.pairwise_of_forall_mem_list
      intro a first b second
      rw [ledgers a first, ledgers b second]
    · intro a first b second
      rw [ledgers b second]
      exact Nat.le_succ_of_le (chronicle.bounded a first)
  · intro ev member
    change ev ∈ (txs.foldl (World.take setup) w).events at member
    rw [events, List.mem_append] at member
    rcases member with old | added
    · exact Nat.le_succ_of_le (chronicle.bounded ev old)
    · exact (ledgers ev added).le

variable {act : Act Address} {after : World Address} {report : Report}

theorem step_chain (step : Step setup w act after report) :
    (∃ txs : List (Action Address (Pool.Call Address) × Text),
        after = { txs.foldl (World.take setup) w with latest := w.latest + 1 }) ∨
      after.actions = w.actions ∧ after.events = w.events ∧ after.latest = w.latest := by
  cases step with
  | closed => exact Or.inl ⟨_, rfl⟩
  | _ => exact Or.inr ⟨rfl, rfl, rfl⟩

theorem Chronicle.step (chronicle : Chronicle setup w) (step : Step setup w act after report) :
    Chronicle setup after := by
  rcases step_chain step with ⟨txs, rfl⟩ | ⟨actions, events, latest⟩
  · exact chronicle.closed txs
  · have deposits : after.deposits = w.deposits := by rw [World.deposits, events, World.deposits]
    have past : after.past setup = w.past setup := by rw [World.past, actions, World.past]
    have pool : after.pool setup = w.pool setup := by rw [World.pool, actions, World.pool]
    rcases chronicle with ⟨⟨follows, indices, values⟩, sorted, bounded⟩
    constructor
    · constructor
      · rwa [past, pool]
      · rwa [deposits, past]
      · rwa [deposits, past]
    · rwa [events]
    · rwa [events, latest]

theorem step_events (step : Step setup w act after report) :
    w.latest ≤ after.latest ∧
      ∃ new, after.events = w.events ++ new ∧ ∀ ev ∈ new, w.latest < ev.ledger := by
  rcases step_chain step with ⟨txs, rfl⟩ | ⟨_, events, latest⟩
  · rcases takes_frame setup w txs with ⟨_, _, _, _, new, events, ledgers⟩
    refine ⟨Nat.le_succ _, new, events, ?_⟩
    intro ev member
    rw [ledgers ev member]
    exact Nat.lt_succ_self _
  · exact ⟨latest.ge, [], by rw [events, List.append_nil], by simp⟩

theorem step_leaves (step : Step setup w act after report) : w.leaves <+: after.leaves := by
  cases step with
  | closed => exact (takes_frame setup w _).2.1 ▸ List.prefix_rfl
  | inserted => exact List.prefix_append _ _
  | _ => exact List.prefix_rfl

theorem run_leaves (setup : Setup Address) (w : World Address) (acts : List (Act Address)) :
    w.leaves <+: ((machine setup).final w acts).leaves := by
  induction acts generalizing w with
  | nil => exact List.prefix_rfl
  | cons act rest ih =>
      rw [Runs.Machine.final_cons]
      rcases next_cases setup w act with ⟨report, _, step⟩ | ⟨_, same⟩
      · exact (step_leaves step).trans (ih _)
      · rw [same]
        exact ih w

end History

end Giffy.PoolIndexer
