import Giffy.Pool.Tree

/-! Spent nullifiers as byte strings and as scalars. -/

namespace Giffy.Pool

open TokenLedger

variable {Address : Type} [DecidableEq Address]

section Spending

def spentBy {Address : Type} (entry : Entry Address) : Option (BytesN 32) :=
  match entry.call, entry.outcome with
  | .invoke _ (.withdraw _ nullifier _ _ _), .ok _ => some nullifier
  | _, _ => none

def spent {Address : Type} (past : List (Entry Address)) : List (BytesN 32) :=
  past.filterMap spentBy

/-- No other name of the same scalar is in the spent set. -/
def Unaliased {Address : Type} (s : State Address) (nullifier : BytesN 32) : Prop :=
  ∀ used ∈ s.nullifiers, toFr used = toFr nullifier → used = nullifier

def NoDoubleSpend {Address : Type} (past : List (Entry Address)) : Prop :=
  ((spent past).map toFr).Nodup

theorem spent_append {Address : Type} (past : List (Entry Address)) (entry : Entry Address) :
    spent (past ++ [entry]) = spent past ++ (spentBy entry).toList := by
  simp only [spent, List.filterMap_append]
  cases withdrawal : spentBy entry <;> simp [withdrawal]

theorem failed_spentBy {Address : Type} {s : State Address}
    {action : Action Address (Call Address)} {trap : Trap PoolError} :
    spentBy ⟨s, action, .error trap⟩ = none := by
  cases action with
  | outside => rfl
  | invoke env call => cases call <;> rfl

end Spending

section Steps

variable {d : Deployment Address} {past : List (Entry Address)} {s after : State Address}
  {receipt : Receipt Address} {action : Action Address (Call Address)}

theorem step_nullifiers (step : Step d s action after receipt) :
    (spentBy ⟨s, action, .ok receipt⟩ = none ∧ after.nullifiers = s.nullifiers) ∨
      ∃ nullifier, spentBy ⟨s, action, .ok receipt⟩ = some nullifier ∧
        nullifier ∉ s.nullifiers ∧ after.nullifiers = insert nullifier s.nullifiers := by
  cases step with
  | initialized => exact Or.inl ⟨rfl, rfl⟩
  | deposited => exact Or.inl ⟨rfl, rfl⟩
  | withdrawn _ _ unused => exact Or.inr ⟨_, rfl, unused, rfl⟩
  | outside => exact Or.inl ⟨rfl, rfl⟩

theorem next_nullifiers (d : Deployment Address) (s : State Address)
    (action : Action Address (Call Address)) :
    (spentBy ((machine d).record s action) = none ∧
      ((machine d).next s action).nullifiers = s.nullifiers) ∨
    ∃ nullifier, spentBy ((machine d).record s action) = some nullifier ∧
      nullifier ∉ s.nullifiers ∧
      ((machine d).next s action).nullifiers = insert nullifier s.nullifiers := by
  rcases next_cases (d := d) s action with ⟨receipt, ran, step⟩ | ⟨⟨trap, failed⟩, same⟩
  · rw [Runs.Machine.record, ran]
    exact step_nullifiers step
  · rw [Runs.Machine.record, failed, same]
    exact Or.inl ⟨failed_spentBy, rfl⟩

theorem run_nullifiers (d : Deployment Address) (actions : List (Action Address (Call Address)))
    (nullifier : BytesN 32) :
    nullifier ∈ ((machine d).final State.empty actions).nullifiers ↔
      nullifier ∈ spent ((machine d).trace State.empty actions) := by
  refine Runs.Machine.run_invariant (m := machine d)
    (fun past s => nullifier ∈ s.nullifiers ↔ nullifier ∈ spent past) (fun _ _ => True)
    (by simp [State.empty, spent]) ?_ actions (fun _ _ => trivial)
  intro past s action holds _
  rcases next_nullifiers d s action with ⟨none_spent, same⟩ | ⟨used, one_spent, _, grown⟩
  · rw [spent_append, none_spent, same, holds]
    simp
  · rw [spent_append, one_spent, grown, Finset.mem_insert, holds]
    simp [or_comm]

theorem run_no_double_spend (d : Deployment Address)
    (actions : List (Action Address (Call Address)))
    (unaliased : ∀ entry ∈ (machine d).trace State.empty actions, ∀ nullifier,
      spentBy entry = some nullifier → Unaliased entry.before nullifier) :
    NoDoubleSpend ((machine d).trace State.empty actions) := by
  induction actions using List.reverseRecOn with
  | nil => exact List.nodup_nil
  | append_singleton front action ih =>
      rw [Runs.Machine.trace_append] at unaliased ⊢
      change ∀ entry ∈ _ ++ [(machine d).record _ action], _ at unaliased
      change NoDoubleSpend (_ ++ [(machine d).record _ action])
      have earlier := ih fun entry member => unaliased entry (List.mem_append_left _ member)
      rw [NoDoubleSpend, spent_append, List.map_append, List.nodup_append]
      rcases next_nullifiers d ((machine d).final State.empty front) action with
        ⟨none_spent, _⟩ | ⟨nullifier, one_spent, unused, _⟩
      · rw [none_spent]
        exact ⟨earlier, List.nodup_nil, by simp⟩
      · rw [one_spent]
        refine ⟨earlier, List.nodup_singleton _, ?_⟩
        intro scalar member other isOther same
        rcases List.mem_map.mp member with ⟨used, inside, rfl⟩
        have stored := (run_nullifiers d front used).mpr inside
        simp only [Option.toList_some, List.map_singleton, List.mem_singleton] at isOther
        have unaliased_last := unaliased _ (List.mem_append_right _ (List.mem_singleton_self _))
          nullifier one_spent used stored (same.trans isOther)
        exact unused (unaliased_last ▸ stored)

/-- A withdrawal that succeeds with an aliased nullifier spends a scalar again. -/
theorem alias_double_spend (d : Deployment Address)
    (actions : List (Action Address (Call Address)))
    (safe : NoDoubleSpend ((machine d).trace State.empty actions)) :
    ∀ entry ∈ (machine d).trace State.empty actions, ∀ nullifier,
      spentBy entry = some nullifier → Unaliased entry.before nullifier := by
  intro entry member nullifier withdrawn used stored same
  rcases Runs.Machine.trace_member member with ⟨front, action, back, split, rfl⟩
  have earlier := (run_nullifiers d front used).mp stored
  rw [split, Runs.Machine.trace_append, Runs.Machine.trace_cons, NoDoubleSpend, spent,
    List.filterMap_append, List.map_append, List.nodup_append] at safe
  refine absurd same (safe.2.2 _ (List.mem_map_of_mem earlier) _ ?_)
  refine List.mem_map_of_mem (List.mem_filterMap.mpr ⟨_, List.mem_cons_self, withdrawn⟩)

theorem canonical_unique {left right : BytesN 32} (leftBound : left.value < frModulus)
    (rightBound : right.value < frModulus) (same : toFr left = toFr right) : left = right := by
  rw [← Fr.toBytes_fromBytes leftBound, ← Fr.toBytes_fromBytes rightBound]
  exact congrArg Fr.toBytes same

theorem run_canonical (d : Deployment Address) (actions : List (Action Address (Call Address)))
    (canonical : ∀ nullifier ∈ spent ((machine d).trace State.empty actions),
      nullifier.value < frModulus) :
    NoDoubleSpend ((machine d).trace State.empty actions) := by
  apply run_no_double_spend d actions
  intro entry member nullifier withdrawn used stored same
  rcases Runs.Machine.trace_member member with ⟨front, action, back, split, rfl⟩
  have earlier := (run_nullifiers d front used).mp stored
  refine canonical_unique (canonical used ?_) (canonical nullifier ?_) same
  · rw [split, Runs.Machine.trace_append, spent, List.filterMap_append]
    exact List.mem_append_left _ earlier
  · exact List.mem_filterMap.mpr ⟨_, member, withdrawn⟩

end Steps

section Aliases

/-- The same scalar, one modulus higher. -/
def aliasOf (nullifier : BytesN 32) : BytesN 32 := BytesN.ofNat 32 (nullifier.value + frModulus)

variable {nullifier : BytesN 32}

theorem aliasOf_value (canonical : nullifier.value < frModulus) :
    (aliasOf nullifier).value = nullifier.value + frModulus := by
  refine BytesN.value_ofNat (lt_trans (Nat.add_lt_add_right canonical frModulus) ?_)
  decide

theorem toFr_aliasOf (canonical : nullifier.value < frModulus) :
    toFr (aliasOf nullifier) = toFr nullifier := by
  rw [toFr, toFr, Fr.fromBytes_eq_iff, aliasOf_value canonical, Nat.ModEq, Nat.add_mod_right]

end Aliases

/-- No scalar is spent twice exactly when no successful withdrawal is given another name of
a spent nullifier; nullifiers below the modulus never are one. -/
theorem no_double_spend_iff (d : Deployment Address)
    (actions : List (Action Address (Call Address))) :
    (NoDoubleSpend ((machine d).trace State.empty actions) ↔
      ∀ entry ∈ (machine d).trace State.empty actions, ∀ nullifier,
        spentBy entry = some nullifier → Unaliased entry.before nullifier) ∧
    ((∀ nullifier ∈ spent ((machine d).trace State.empty actions),
      nullifier.value < frModulus) → NoDoubleSpend ((machine d).trace State.empty actions)) :=
  ⟨⟨alias_double_spend d actions, run_no_double_spend d actions⟩, run_canonical d actions⟩

def sampleNullifier : BytesN 32 := Fr.toBytes (sampleDeployment.hash2 77 1)

def sampleRoot : BytesN 32 := BytesN.ofNat 32 233

def sampleProof : Proof :=
  ⟨scalarPoint 64 0, scalarPoint 160 0,
    scalarPoint 64 (-(toFr sampleRoot + toFr sampleNullifier + 3))⟩

def sampleSpend (nullifier : BytesN 32) : Action Nat (Call Nat) :=
  .invoke sampleEnv (.withdraw sampleRoot nullifier 2 (BytesN.ofNat 32 3) sampleProof)

def sampleDoubleSpend : List (Action Nat (Call Nat)) :=
  sampleDeposits ++ [sampleSpend sampleNullifier, sampleSpend (aliasOf sampleNullifier)]

/-- One note is paid out twice: both withdrawals succeed, they name the same scalar, and
account 2 ends with two denominations. -/
theorem note_paid_twice :
    spent ((machine sampleDeployment).trace State.empty sampleDoubleSpend) =
      [sampleNullifier, aliasOf sampleNullifier] ∧
    toFr (aliasOf sampleNullifier) = toFr sampleNullifier ∧
    ¬ NoDoubleSpend ((machine sampleDeployment).trace State.empty sampleDoubleSpend) ∧
    ((machine sampleDeployment).final State.empty sampleDoubleSpend).balances 9 2 = 10 := by
  have named : toFr (aliasOf sampleNullifier) = toFr sampleNullifier :=
    toFr_aliasOf (by decide +kernel)
  have both : spent ((machine sampleDeployment).trace State.empty sampleDoubleSpend) =
      [sampleNullifier, aliasOf sampleNullifier] := by
    decide +kernel
  refine ⟨both, named, ?_, by decide +kernel⟩
  rw [NoDoubleSpend, both]
  simp [named]

end Giffy.Pool
