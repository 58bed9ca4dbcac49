import Giffy.Backend.PoolIndexerEffects

/-! The leaves the indexer serves are the pool's own, in the contract's order. -/

namespace Giffy.PoolIndexer

open Chain

section Serving

theorem commitmentsFrom_ok {i : Nat} {leaves : List Leaf} {commitments : List Text}
    (served : commitmentsFrom i leaves = .ok commitments) :
    commitments = leaves.map Leaf.commitment ∧
      leaves.map Leaf.leafIndex = List.range' i leaves.length := by
  induction leaves generalizing i commitments with
  | nil =>
      cases served
      exact ⟨rfl, rfl⟩
  | cons leaf rest ih =>
      rw [commitmentsFrom] at served
      split at served
      next => cases served
      next index =>
        split at served
        next tail ran =>
          cases served
          rcases ih ran with ⟨values, indices⟩
          constructor
          · rw [List.map_cons, values]
          · rw [List.map_cons, indices, List.length_cons, List.range'_succ, not_not.mp index]
        next => cases served

theorem numbered_get {deposits : List DepositEvent} {total i : Nat}
    (indices : deposits.map DepositEvent.leafIndex = List.range total)
    (bound : i < deposits.length) : deposits[i].leafIndex = i := by
  have mapped : i < (deposits.map DepositEvent.leafIndex).length := by simpa using bound
  calc
    deposits[i].leafIndex = (deposits.map DepositEvent.leafIndex)[i] := by rw [List.getElem_map]
    _ = i := by simp [indices]

theorem numbered_prefix {leaves : List Leaf} {deposits : List DepositEvent} {poolId : Text}
    {total : Nat} (indices : deposits.map DepositEvent.leafIndex = List.range total)
    (drawn : ∀ leaf ∈ leaves, ∃ dep ∈ deposits, leaf = leafOf poolId dep)
    (numbered : leaves.map Leaf.leafIndex = List.range' 0 leaves.length) :
    leaves.length ≤ deposits.length ∧
      leaves = (deposits.take leaves.length).map (leafOf poolId) := by
  have place (i : Nat) (bound : i < leaves.length) :
      ∃ inside : i < deposits.length, leaves[i] = leafOf poolId deposits[i] := by
    have mapped : i < (leaves.map Leaf.leafIndex).length := by simpa using bound
    have index : leaves[i].leafIndex = i := by
      calc
        leaves[i].leafIndex = (leaves.map Leaf.leafIndex)[i] := by rw [List.getElem_map]
        _ = i := by simp [numbered]
    rcases drawn leaves[i] (List.getElem_mem bound) with ⟨dep, member, source⟩
    rcases List.getElem_of_mem member with ⟨j, inside, rfl⟩
    have same : j = i := by
      calc
        j = deposits[j].leafIndex := (numbered_get indices inside).symm
        _ = leaves[i].leafIndex := by rw [source, leafOf]
        _ = i := index
    subst same
    exact ⟨inside, source⟩
  have shorter : leaves.length ≤ deposits.length := by
    by_contra longer
    rcases place deposits.length (Nat.lt_of_not_le longer) with ⟨inside, _⟩
    exact Nat.lt_irrefl _ inside
  refine ⟨shorter, ?_⟩
  apply List.ext_getElem
  · simp [shorter]
  · intro i bound _
    rcases place i bound with ⟨inside, source⟩
    simp [source]

end Serving

variable {Address : Type} [DecidableEq Address] {setup : Setup Address} {w : World Address}

def Task.held : Task → List DepositEvent
  | .paging progress => progress.collected
  | .writing _ remaining _ _ => remaining
  | _ => []

def Act.answered : Act Address → List ContractEvent
  | .page _ answer => answer.events
  | _ => []

/-- Every event the RPC returns is one the pool contract emitted. -/
def GenuineAnswer (w : World Address) (act : Act Address) : Prop :=
  ∀ ev ∈ act.answered, ev ∈ w.events

instance (w : World Address) (act : Act Address) : Decidable (GenuineAnswer w act) :=
  inferInstanceAs (Decidable (∀ ev ∈ act.answered, ev ∈ w.events))

structure Genuine (setup : Setup Address) (w : World Address) : Prop where
  chronicle : Chronicle setup w
  drawn : ∀ leaf ∈ w.leaves, leaf.poolId = setup.poolId →
    ∃ dep ∈ w.deposits, leaf = leafOf setup.poolId dep
  held : ∀ task ∈ w.tasks, ∀ dep ∈ task.held, dep ∈ w.deposits

theorem genuine_fresh {others : List Leaf} (foreign : ∀ leaf ∈ others, leaf.poolId ≠ setup.poolId)
    (lastLedger : Option Nat) : Genuine setup (World.fresh Address others lastLedger) := by
  constructor
  · exact chronicle_fresh setup others lastLedger
  · intro leaf member same
    exact absurd same (foreign leaf member)
  · intro task member
    cases member

section Steps

omit [DecidableEq Address] in
theorem put_tasks {P : Task → Prop} {k : Nat} {task : Task} (all : ∀ old ∈ w.tasks, P old)
    (holds : P task) : ∀ other ∈ (w.put k task).tasks, P other := by
  intro other member
  rcases List.mem_or_eq_of_mem_set member with old | rfl
  · exact all other old
  · exact holds

omit [DecidableEq Address] in
theorem answer_deposits {events : List ContractEvent}
    (genuine : ∀ ev ∈ events, ev ∈ w.events) {dep : DepositEvent}
    (member : dep ∈ events.filterMap depositEvent) : dep ∈ w.deposits := by
  rcases List.mem_filterMap.mp member with ⟨ev, inside, decoded⟩
  exact List.mem_filterMap.mpr ⟨ev, genuine ev inside, decoded⟩

variable {act : Act Address} {after : World Address} {report : Report}

theorem step_deposits (step : Step setup w act after report) {dep : DepositEvent}
    (member : dep ∈ w.deposits) : dep ∈ after.deposits := by
  rcases step_events step with ⟨_, new, events, _⟩
  rw [World.deposits, events, List.filterMap_append]
  exact List.mem_append_left _ member

theorem step_held (genuine : Genuine setup w) (answer : GenuineAnswer w act)
    (step : Step setup w act after report) :
    ∀ task ∈ after.tasks, ∀ dep ∈ task.held, dep ∈ w.deposits := by
  have held := genuine.held
  cases step with
  | closed => rwa [(takes_frame setup w _).2.2.2.1]
  | started begins =>
      intro task member
      rcases List.mem_append.mp member with old | new
      · exact held task old
      · rcases List.mem_singleton.mp new ▸ begins with rfl | ⟨_, rfl⟩
        · exact List.forall_mem_nil _
        · exact List.forall_mem_nil _
  | located => exact put_tasks held (List.forall_mem_nil _)
  | paged running read =>
      apply put_tasks held
      intro dep member
      rw [(readPage_more read).2, Task.held] at member
      rcases List.mem_append.mp member with old | new
      · exact held _ (List.mem_of_getElem? running) dep old
      · exact answer_deposits answer new
  | drained running read =>
      apply put_tasks held
      intro dep member
      rw [Task.held, (readPage_drained read).2, mem_sortLeaves] at member
      rcases List.mem_append.mp member with old | new
      · exact held _ (List.mem_of_getElem? running) dep old
      · exact answer_deposits answer new
  | matched running =>
      apply put_tasks held
      intro dep member
      exact held _ (List.mem_of_getElem? running) dep (List.mem_cons_of_mem _ member)
  | inserted running =>
      apply put_tasks held
      intro dep member
      exact held _ (List.mem_of_getElem? running) dep (List.mem_cons_of_mem _ member)
  | stored => exact put_tasks held (List.forall_mem_nil _)
  | counted => exact put_tasks held (List.forall_mem_nil _)
  | dropped => exact put_tasks held (List.forall_mem_nil _)

theorem step_drawn (genuine : Genuine setup w) (step : Step setup w act after report) :
    ∀ leaf ∈ after.leaves, leaf ∈ w.leaves ∨
      ∃ dep ∈ w.deposits, leaf = leafOf setup.poolId dep := by
  intro leaf member
  cases step with
  | closed =>
      rw [(takes_frame setup w _).2.1] at member
      exact Or.inl member
  | inserted running =>
      rcases List.mem_append.mp member with old | new
      · exact Or.inl old
      · have source := genuine.held _ (List.mem_of_getElem? running) _ List.mem_cons_self
        exact Or.inr ⟨_, source, List.mem_singleton.mp new⟩
  | _ => exact Or.inl member

theorem Genuine.step (genuine : Genuine setup w) (answer : GenuineAnswer w act)
    (step : Step setup w act after report) : Genuine setup after := by
  constructor
  · exact genuine.chronicle.step step
  · intro leaf member same
    rcases step_drawn genuine step leaf member with old | ⟨dep, source, rfl⟩
    · rcases genuine.drawn leaf old same with ⟨dep, source, rfl⟩
      exact ⟨dep, step_deposits step source, rfl⟩
    · exact ⟨dep, step_deposits step source, rfl⟩
  · intro task member dep kept
    exact step_deposits step (step_held genuine answer step task member dep kept)

theorem Genuine.next (genuine : Genuine setup w) (act : Act Address)
    (answer : GenuineAnswer w act) : Genuine setup ((machine setup).next w act) := by
  rcases next_cases setup w act with ⟨report, _, step⟩ | ⟨_, same⟩
  · exact genuine.step answer step
  · rwa [same]

end Steps

/-- Whatever is served from genuine leaves is a prefix of the contract's commitments. -/
theorem Genuine.served (genuine : Genuine setup w) {found : List Leaf} (read : found ⊆ w.leaves)
    {served : OrderedCommitments} (ran : getOrderedCommitments setup.poolId found = .ok served) :
    let inserted := Pool.commitments (w.past setup)
    served.commitments.length = served.count ∧ served.count ≤ inserted.length ∧
      served.commitments = (inserted.take served.count).map fun commitment =>
        toHex commitment.data := by
  unfold getOrderedCommitments at ran
  split at ran
  next commitments listed =>
    cases ran
    rcases commitmentsFrom_ok listed with ⟨values, numbered⟩
    have drawn : ∀ leaf ∈ poolLeaves setup.poolId found,
        ∃ dep ∈ w.deposits, leaf = leafOf setup.poolId dep := by
      intro leaf member
      have kept := List.mem_filter.mp ((List.mem_insertionSort _).mp member)
      exact genuine.drawn leaf (read kept.1) (by simpa using kept.2)
    have recorded := genuine.chronicle.recorded
    rcases numbered_prefix recorded.indices drawn numbered with ⟨shorter, leaves⟩
    have count : commitments.length = (poolLeaves setup.poolId found).length := by
      rw [values, List.length_map]
    have total : w.deposits.length = (Pool.commitments (w.past setup)).length := by
      rw [← List.length_map (f := DepositEvent.commitment), recorded.values, List.length_map]
    refine ⟨rfl, ?_, ?_⟩
    · rw [← total, count]
      exact shorter
    · calc
        commitments = (poolLeaves setup.poolId found).map Leaf.commitment := values
        _ = (w.deposits.take commitments.length).map DepositEvent.commitment := by
          rw [count, leaves, List.map_map, List.length_map, List.length_take,
            Nat.min_eq_left shorter]
          rfl
        _ = ((Pool.commitments (w.past setup)).take commitments.length).map fun commitment =>
            toHex commitment.data := by
          rw [List.map_take, recorded.values, List.map_take]
  next => cases ran

section Results

/-- Whatever the syncs do, a served list is the contract's first commitments in index order, and
no stored leaf ever changes. A read may miss leaves inserted while it runs. -/
theorem served_leaves_genuine (setup : Setup Address) (others : List Leaf)
    (foreign : ∀ leaf ∈ others, leaf.poolId ≠ setup.poolId) (lastLedger : Option Nat)
    (acts later : List (Act Address))
    (genuine : ∀ entry ∈ (machine setup).trace (World.fresh Address others lastLedger) acts,
      GenuineAnswer entry.before entry.call) :
    let w := (machine setup).final (World.fresh Address others lastLedger) acts
    let inserted := Pool.commitments (w.past setup)
    (∀ found ⊆ w.leaves, ∀ served, getOrderedCommitments setup.poolId found = .ok served →
      served.commitments.length = served.count ∧ served.count ≤ inserted.length ∧
        served.commitments = (inserted.take served.count).map fun commitment =>
          toHex commitment.data) ∧
      w.leaves <+: ((machine setup).final w later).leaves := by
  intro w inserted
  have kept : Genuine setup w :=
    Runs.Machine.state_invariant (Genuine setup) GenuineAnswer (genuine_fresh foreign lastLedger)
      (fun _ act holds answer => holds.next act answer) acts genuine
  constructor
  · intro found read served ran
    exact kept.served read ran
  · exact run_leaves setup w later

def sampleSetup : Setup Nat := ⟨Pool.sampleDeployment, "POOL".toList, 17000⟩

def sampleTx (action : Action Nat (Pool.Call Nat)) : Action Nat (Pool.Call Nat) × Text :=
  (action, "ab".toList)

def sampleLedgers : List (Act Nat) :=
  [.close ((Pool.sampleDeposits.take 3).map sampleTx),
    .close ((Pool.sampleDeposits.drop 3).map sampleTx), .close []]

def sampleEvent (ledger leafIndex commitment : Nat) : ContractEvent :=
  ⟨ledger, .deposit leafIndex (BytesN.ofNat 32 commitment), "ab".toList⟩

/-- Two overlapping syncs over the same ledgers. -/
def sampleSyncs : List (Act Nat) :=
  sampleLedgers ++ [.start, .locate 0 3, .start, .locate 1 3,
    .page 0 ⟨[sampleEvent 1 0 77, sampleEvent 2 1 78], some 2, 3⟩,
    .page 1 ⟨[sampleEvent 1 0 77, sampleEvent 2 1 78], some 2, 3⟩,
    .upsert 0, .upsert 1, .upsert 1, .drop 0, .store 1, .count 1]

theorem sampleSyncs_leaves :
    ((machine sampleSetup).final (World.fresh Nat [] none) sampleSyncs).leaves =
      [⟨"POOL".toList, 0, toHex (BytesN.ofNat 32 77).data, 1, "ab".toList⟩,
        ⟨"POOL".toList, 1, toHex (BytesN.ofNat 32 78).data, 2, "ab".toList⟩] := by
  decide +kernel

theorem served_leaves_genuine_sample :
    let w := (machine sampleSetup).final (World.fresh Nat [] none) sampleSyncs
    let inserted := Pool.commitments (w.past sampleSetup)
    getOrderedCommitments sampleSetup.poolId w.leaves =
      .ok ⟨(inserted.take 2).map fun commitment => toHex commitment.data, 2⟩ := by
  have sound := (served_leaves_genuine sampleSetup [] (by simp) none sampleSyncs []
    (by decide +kernel)).1 _ (List.Subset.refl _)
  have listed : getOrderedCommitments sampleSetup.poolId
      ((machine sampleSetup).final (World.fresh Nat [] none) sampleSyncs).leaves =
      .ok ⟨[toHex (BytesN.ofNat 32 77).data, toHex (BytesN.ofNat 32 78).data], 2⟩ := by
    rw [sampleSyncs_leaves]
    rfl
  rcases sound _ listed with ⟨_, _, commitments⟩
  intro w inserted
  rw [listed]
  congr 2

end Results

end Giffy.PoolIndexer
