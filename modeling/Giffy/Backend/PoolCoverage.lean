import Giffy.Backend.PoolLeaves

/-! What the indexer has read when it stores a resume ledger. -/

namespace Giffy.PoolIndexer

open Chain

section Paging

variable {events : List ContractEvent} {latest : Nat} {paging : Paging} {page : EventPage}

/-- Every deposit from the start ledger on and before the cursor is collected. -/
structure Scanned (events : List ContractEvent) (paging : Paging) : Prop where
  within : ∀ seen ∈ paging.cursor, seen ≤ events.length
  collected : ∀ dep ∈ (events.take (paging.request.skips events)).filterMap depositEvent,
    paging.startLedger ≤ dep.ledger → dep ∈ paging.collected

theorem scanned_unmarked (events : List ContractEvent) (unmarked : paging.cursor = none) :
    Scanned events paging := by
  constructor
  · intro seen marked
    rw [unmarked] at marked
    cases marked
  · intro dep member late
    rcases List.mem_filterMap.mp member with ⟨ev, before, decoded⟩
    have skipped : events.take (paging.request.skips events) =
        events.takeWhile fun ev => ev.ledger < paging.startLedger := by
      rw [Paging.request, unmarked]
      exact (List.prefix_iff_eq_take.mp (List.takeWhile_prefix _)).symm
    rw [skipped] at before
    have early : ev.ledger < paging.startLedger := by simpa using List.mem_takeWhile_imp before
    rw [depositEvent_ledger decoded] at late
    exact absurd late (Nat.not_le_of_lt early)

theorem Scanned.append (scanned : Scanned events paging) (new : List ContractEvent) :
    Scanned (events ++ new) paging := by
  cases marked : paging.cursor with
  | none => exact scanned_unmarked _ marked
  | some seen =>
      have bound := scanned.within seen marked
      constructor
      · intro seen' marked'
        exact (scanned.within seen' marked').trans (by simp)
      · have same : (events ++ new).take (paging.request.skips (events ++ new)) =
            events.take (paging.request.skips events) := by
          rw [request_skips _ marked, request_skips _ marked]
          exact List.take_append_of_le_length bound
        rw [same]
        exact scanned.collected

theorem Scanned.skips_le (scanned : Scanned events paging) :
    paging.request.skips events ≤ events.length := by
  cases marked : paging.cursor with
  | none =>
      rw [Paging.request, marked]
      exact (List.takeWhile_prefix _).length_le
  | some seen =>
      rw [request_skips events marked]
      exact scanned.within seen marked

theorem Scanned.read (scanned : Scanned events paging)
    (documented : Documented events latest paging.request page) :
    Scanned events ⟨paging.startLedger, page.cursor,
      paging.collected ++ page.events.filterMap depositEvent⟩ := by
  have fits := documented.next.length_le
  rw [List.length_drop] at fits
  have skipped := scanned.skips_le
  constructor
  · intro seen marked
    rw [documented.cursor] at marked
    cases marked
    omega
  · intro dep member late
    rw [request_skips events documented.cursor, List.take_add,
      ← List.prefix_iff_eq_take.mp documented.next, List.filterMap_append,
      List.mem_append] at member
    rcases member with old | new
    · exact List.mem_append_left _ (scanned.collected dep old late)
    · exact List.mem_append_right _ new

end Paging

variable {Address : Type} [DecidableEq Address] {setup : Setup Address} {w : World Address}

section Conditions

def Act.asked (w : World Address) : Act Address → Option (Paging × EventPage)
  | .page k answer =>
      match w.tasks[k]? with
      | some (.paging progress) => some (progress, answer)
      | _ => none
  | _ => none

omit [DecidableEq Address] in
theorem asked_eq {k : Nat} {progress : Paging} (running : w.tasks[k]? = some (.paging progress))
    (answer : EventPage) : (Act.page k answer).asked w = some (progress, answer) := by
  rw [Act.asked, running]

def Served (w : World Address) (act : Act Address) : Prop :=
  ∀ asked ∈ act.asked w, Documented w.events w.latest asked.1.request asked.2

/-- A page below the limit leaves no deposit past its cursor that is not in the cache. -/
def Unskipped (setup : Setup Address) (w : World Address) (act : Act Address) : Prop :=
  ∀ asked ∈ act.asked w, asked.2.events.length < pageLimit → ∀ seen ∈ asked.2.cursor,
    ∀ dep ∈ (w.events.drop seen).filterMap depositEvent, leafOf setup.poolId dep ∈ w.leaves

instance (w : World Address) (act : Act Address) : Decidable (Served w act) :=
  inferInstanceAs (Decidable (∀ asked ∈ act.asked w, _))

instance (setup : Setup Address) (w : World Address) (act : Act Address) :
    Decidable (Unskipped setup w act) :=
  inferInstanceAs (Decidable (∀ asked ∈ act.asked w, _))

end Conditions

/-- What a sync has read or cached of the range it will report. -/
def Task.Covers (setup : Setup Address) (w : World Address) : Task → Prop
  | .paging progress => Scanned w.events progress
  | .writing startLedger remaining latestLedger _ =>
      latestLedger ≤ w.latest ∧ ∀ dep ∈ w.deposits, startLedger ≤ dep.ledger →
        dep.ledger ≤ latestLedger → dep ∈ remaining ∨ leafOf setup.poolId dep ∈ w.leaves
  | _ => True

structure Covered (setup : Setup Address) (w : World Address) : Prop where
  genuine : Genuine setup w
  tasks : ∀ task ∈ w.tasks, task.Covers setup w

section Steps

variable {act : Act Address} {after : World Address} {report : Report}

theorem Served.genuineAnswer (served : Served w act) (step : Step setup w act after report) :
    GenuineAnswer w act := by
  cases step with
  | paged running read =>
      have documented := served _ (asked_eq running _)
      exact fun ev member => List.mem_of_mem_drop (documented.next.subset member)
  | drained running read =>
      have documented := served _ (asked_eq running _)
      exact fun ev member => List.mem_of_mem_drop (documented.next.subset member)
  | _ => exact fun ev none_answered => nomatch none_answered

theorem Task.Covers.step {task : Task} (covers : task.Covers setup w)
    (step : Step setup w act after report) : task.Covers setup after := by
  rcases step_events step with ⟨newer, new, events, ledgers⟩
  cases task with
  | paging progress =>
      rw [Task.Covers, events]
      exact Scanned.append covers new
  | writing startLedger remaining latestLedger indexed =>
      rcases covers with ⟨closed, range⟩
      refine ⟨closed.trans newer, ?_⟩
      intro dep member late early
      rw [World.deposits, events, List.filterMap_append, List.mem_append] at member
      rcases member with old | added
      · rcases range dep old late early with kept | cached
        · exact Or.inl kept
        · exact Or.inr ((step_leaves step).subset cached)
      · rcases List.mem_filterMap.mp added with ⟨ev, inside, decoded⟩
        have beyond := ledgers ev inside
        rw [depositEvent_ledger decoded] at early
        omega
  | _ => trivial

omit [DecidableEq Address] in
/-- The last page of a scan leaves the whole range to be written or in the cache. -/
theorem drained_covers {progress : Paging} {answer : EventPage} {found : DepositEventPage}
    (scanned : Scanned w.events progress)
    (documented : Documented w.events w.latest progress.request answer)
    (unskipped : answer.events.length < pageLimit → ∀ seen ∈ answer.cursor,
      ∀ dep ∈ (w.events.drop seen).filterMap depositEvent, leafOf setup.poolId dep ∈ w.leaves)
    (read : readPage progress answer = .drained found) :
    (Task.writing progress.startLedger found.events found.latestLedger 0).Covers setup w := by
  rcases readPage_drained read with ⟨ended, rfl⟩
  have short : answer.events.length < pageLimit := by
    rcases ended with short | unmarked
    · exact short
    · rw [documented.cursor] at unmarked
      cases unmarked
  have further := scanned.read documented
  constructor
  · exact documented.latestLedger.le
  · intro dep member late _
    rw [World.deposits, ← List.take_append_drop (progress.request.skips w.events +
      answer.events.length) w.events, List.filterMap_append, List.mem_append] at member
    rcases member with before | past
    · left
      rw [mem_sortLeaves]
      apply further.collected dep _ late
      rw [request_skips w.events documented.cursor]
      exact before
    · right
      exact unskipped short _ documented.cursor dep past

theorem Genuine.head_cached (genuine : Genuine setup w) {k startLedger latestLedger indexed : Nat}
    {ev : DepositEvent} {rest : List DepositEvent}
    (running : w.tasks[k]? = some (.writing startLedger (ev :: rest) latestLedger indexed))
    {leaf : Leaf} (member : leaf ∈ w.leaves) (same : leaf.poolId = setup.poolId)
    (index : leaf.leafIndex = ev.leafIndex) : leafOf setup.poolId ev ∈ w.leaves := by
  rcases genuine.drawn leaf member same with ⟨dep, source, rfl⟩
  have held : ev ∈ w.deposits := genuine.held _ (List.mem_of_getElem? running) ev List.mem_cons_self
  have equal := genuine.chronicle.recorded.deposit_unique source held index
  rwa [← equal]

theorem step_covers (covered : Covered setup w) (served : Served w act)
    (unskipped : Unskipped setup w act) (step : Step setup w act after report) :
    ∀ task ∈ after.tasks, task.Covers setup after := by
  have kept : ∀ task ∈ w.tasks, task.Covers setup after :=
    fun task member => (covered.tasks task member).step step
  cases step with
  | closed =>
      rw [(takes_frame setup w _).2.2.2.1]
      exact kept
  | started begins =>
      intro task member
      rcases List.mem_append.mp member with old | new
      · exact kept task old
      · rcases List.mem_singleton.mp new ▸ begins with rfl | ⟨startLedger, rfl⟩
        · trivial
        · exact scanned_unmarked _ rfl
  | located => exact put_tasks kept (scanned_unmarked _ rfl)
  | paged running read =>
      have scanned : Scanned w.events _ := covered.tasks _ (List.mem_of_getElem? running)
      apply put_tasks kept
      rw [(readPage_more read).2]
      exact scanned.read (served _ (asked_eq running _))
  | drained running read =>
      have asked := asked_eq running
      exact put_tasks kept (drained_covers (covered.tasks _ (List.mem_of_getElem? running))
        (served _ (asked _)) (unskipped _ (asked _)) read)
  | matched running present =>
      rcases present with ⟨leaf, member, same, index⟩
      rcases covered.tasks _ (List.mem_of_getElem? running) with ⟨closed, range⟩
      refine put_tasks kept ⟨closed, ?_⟩
      intro dep source late early
      rcases range dep source late early with left | cached
      · rcases List.mem_cons.mp left with rfl | rest
        · exact Or.inr (covered.genuine.head_cached running member same index)
        · exact Or.inl rest
      · exact Or.inr cached
  | inserted running absent =>
      rcases covered.tasks _ (List.mem_of_getElem? running) with ⟨closed, range⟩
      refine put_tasks kept ⟨closed, ?_⟩
      intro dep source late early
      rcases range dep source late early with left | cached
      · rcases List.mem_cons.mp left with rfl | rest
        · exact Or.inr (List.mem_append_right _ (List.mem_singleton.mpr rfl))
        · exact Or.inl rest
      · exact Or.inr (List.mem_append_left _ cached)
  | stored => exact put_tasks kept trivial
  | counted => exact put_tasks kept trivial
  | dropped => exact put_tasks kept trivial

/-- A sync that stores its resume ledger has cached its whole range. -/
theorem stored_covers (covered : Covered setup w) {startLedger lastLedger : Nat}
    (step : Step setup w act after (.stored startLedger lastLedger)) :
    ∀ dep ∈ after.deposits, startLedger ≤ dep.ledger → dep.ledger ≤ lastLedger →
      leafOf setup.poolId dep ∈ after.leaves := by
  cases step with
  | stored running =>
      rcases covered.tasks _ (List.mem_of_getElem? running) with ⟨_, range⟩
      intro dep source late early
      rcases range dep source late early with left | cached
      · cases left
      · exact cached

end Steps

section Results

/-- When no short page leaves a deposit behind its cursor, a sync that stores its resume ledger
has every deposit of its range in the cache. -/
theorem indexed_range_complete (setup : Setup Address) (others : List Leaf)
    (foreign : ∀ leaf ∈ others, leaf.poolId ≠ setup.poolId) (lastLedger : Option Nat)
    (acts : List (Act Address))
    (served : ∀ entry ∈ (machine setup).trace (World.fresh Address others lastLedger) acts,
      Served entry.before entry.call)
    (unskipped : ∀ entry ∈ (machine setup).trace (World.fresh Address others lastLedger) acts,
      Unskipped setup entry.before entry.call) :
    ∀ entry ∈ (machine setup).trace (World.fresh Address others lastLedger) acts,
      ∀ startLedger last, entry.outcome = .ok (.stored startLedger last) →
        let after := (machine setup).next entry.before entry.call
        ∀ dep ∈ after.deposits, startLedger ≤ dep.ledger → dep.ledger ≤ last →
          leafOf setup.poolId dep ∈ after.leaves := by
  have fresh : Covered setup (World.fresh Address others lastLedger) :=
    ⟨genuine_fresh foreign lastLedger, fun task member => nomatch member⟩
  refine (Runs.Machine.trace_invariant (Covered setup) _
    (fun w act => Served w act ∧ Unskipped setup w act) fresh ?_ acts
    fun entry member => ⟨served entry member, unskipped entry member⟩).2
  intro w act covered allowed
  rcases allowed with ⟨served, unskipped⟩
  rcases next_cases setup w act with ⟨report, ran, step⟩ | ⟨⟨refused, failed⟩, same⟩
  · constructor
    · exact ⟨covered.genuine.step (served.genuineAnswer step) step,
        step_covers covered served unskipped step⟩
    · intro startLedger last outcome
      cases ran.symm.trans outcome
      exact stored_covers covered step
  · constructor
    · rwa [same]
    · intro startLedger last outcome
      cases failed.symm.trans outcome

theorem indexed_range_complete_sample :
    ∃ entry ∈ (machine sampleSetup).trace (World.fresh Nat [] none) sampleSyncs,
      entry.outcome = .ok (.stored 1 3) ∧
      let after := (machine sampleSetup).next entry.before entry.call
      after.deposits.length = 2 ∧
        ∀ dep ∈ after.deposits, 1 ≤ dep.ledger → dep.ledger ≤ 3 →
          leafOf sampleSetup.poolId dep ∈ after.leaves := by
  have complete := indexed_range_complete sampleSetup [] (by simp) none sampleSyncs
    (by decide +kernel) (by decide +kernel)
  have stores : ∃ entry ∈ (machine sampleSetup).trace (World.fresh Nat [] none) sampleSyncs,
      entry.outcome = .ok (.stored 1 3) ∧
      ((machine sampleSetup).next entry.before entry.call).deposits.length = 2 := by
    decide +kernel
  rcases stores with ⟨entry, member, outcome, two⟩
  exact ⟨entry, member, outcome, two, complete entry member 1 3 outcome⟩

/-- The first sync over the sample ledgers, its only page ending early after ledger 1. -/
def sampleShort : List (Act Nat) :=
  sampleLedgers ++ [.start, .locate 0 3, .page 0 ⟨[sampleEvent 1 0 77], some 1, 3⟩, .upsert 0,
    .store 0]

/-- The loop stops at a short page, the newest ledger is stored and the deposit of ledger 2 is
never read. -/
theorem short_page_skips :
    (∀ entry ∈ (machine sampleSetup).trace (World.fresh Nat [] none) sampleShort,
      Served entry.before entry.call) ∧
    ∃ entry ∈ (machine sampleSetup).trace (World.fresh Nat [] none) sampleShort,
      entry.outcome = .ok (.stored 1 3) ∧
      let after := (machine sampleSetup).next entry.before entry.call
      ∃ dep ∈ after.deposits, 1 ≤ dep.ledger ∧ dep.ledger ≤ 3 ∧
        leafOf sampleSetup.poolId dep ∉ after.leaves := by
  decide +kernel

end Results

end Giffy.PoolIndexer
