import Giffy.Pool.Contract

/-! What a successful call of the pool contract can have done. -/

namespace Giffy.Pool

open TokenLedger

variable {Address : Type} [DecidableEq Address] {d : Deployment Address}

inductive Step (d : Deployment Address) (s : State Address) :
    Action Address (Call Address) → State Address → Receipt Address → Prop
  | initialized {env : Env Address} {config : Config Address} {vk : VerifyingKey}
      {zeros frontier : List (BytesN 32)} {initialRoot : BytesN 32}
      (unset : s.storage = none)
      (built : buildZeros d.hash2 = some zeros)
      (taken : ((List.range depth).mapM fun i => zeros[i]?) = some frontier)
      (last : zeros[depth]? = some initialRoot) :
      Step d s (.invoke env (.initializePool config vk))
        ⟨some ⟨config, vk, 0, frontier, zeros, [initialRoot]⟩, s.nullifiers, s.balances⟩
        ⟨none, [], []⟩
  | deposited {env : Env Address} {source : Address} {commitment : BytesN 32}
      {pool : Instance Address} {inserted : Insertion} {payment : Transfer Address}
      (authorized : env.authorized source = true)
      (stored : s.storage = some pool)
      (paid : payment = ⟨pool.config.token, source, d.self, pool.config.denom.value⟩)
      (funded : payment.amount ≤ s.balances payment.token payment.source)
      (room : pool.nextIndex < 2 ^ depth)
      (ran : insertLeaf d.hash2 pool.zeros pool.frontier pool.nextIndex commitment =
        some inserted) :
      Step d s (.invoke env (.deposit source commitment))
        ⟨some { pool with
            nextIndex := pool.nextIndex + 1
            frontier := inserted.frontier
            roots := trimRoots (pool.roots ++ [inserted.cur]) },
          s.nullifiers, move s.balances payment⟩
        ⟨some pool.nextIndex, [payment], [.deposit pool.nextIndex commitment]⟩
  | withdrawn {env : Env Address} {root nullifier : BytesN 32} {recipient : Address}
      {recipientSignal : BytesN 32} {proof : Proof} {pool : Instance Address}
      {payment : Transfer Address}
      (stored : s.storage = some pool)
      (known : root ∈ pool.roots)
      (unused : nullifier ∉ s.nullifiers)
      (valid : callVerifier d pool.config.verifier pool.vk proof
        [root, nullifier, recipientSignal] = .ok true)
      (paid : payment = ⟨pool.config.token, d.self, recipient, pool.config.denom.value⟩)
      (funded : payment.amount ≤ s.balances payment.token payment.source)
      (unrefused : env.refuses payment = false) :
      Step d s (.invoke env (.withdraw root nullifier recipient recipientSignal proof))
        ⟨s.storage, insert nullifier s.nullifiers, move s.balances payment⟩
        ⟨none, [payment], [.withdraw nullifier]⟩
  | outside {token holder : Address} {change : Int} (kept : holder = d.self → 0 ≤ change) :
      Step d s (.outside token holder change)
        ⟨s.storage, s.nullifiers, add s.balances token holder change⟩ ⟨none, [], []⟩

variable {env : Env Address} {s after : State Address} {receipt : Receipt Address}

theorem initializePool_step {config : Config Address} {vk : VerifyingKey}
    (ran : initializePool d s config vk = .ok (after, receipt)) :
    Step d s (.invoke env (.initializePool config vk)) after receipt := by
  simp only [initializePool, bind_eq_ok, panicIf_eq_ok, required_eq_ok, pure_eq_ok, exists_const,
    Prod.mk.injEq, Bool.not_eq_true, Option.isSome_eq_false_iff, Option.isNone_iff_eq_none] at ran
  rcases ran with ⟨unset, zeros, built, frontier, taken, initialRoot, last, rfl, rfl⟩
  exact .initialized unset built taken last

theorem deposit_step {source : Address} {commitment : BytesN 32}
    (ran : deposit d env s source commitment = .ok (after, receipt)) :
    Step d s (.invoke env (.deposit source commitment)) after receipt := by
  simp only [deposit, getInstance, bind_eq_ok, requireAuth_eq_ok, panicIf_eq_ok, required_eq_ok,
    tokenTransfer_eq_ok, pure_eq_ok, exists_const, not_le, Prod.mk.injEq] at ran
  obtain ⟨authorized, pool, stored, balances, ⟨funded, _, rfl⟩, room, inserted, placed, rfl, rfl⟩ :=
    ran
  exact .deposited authorized stored rfl funded room placed

theorem deposit_unrefused {source : Address} {commitment : BytesN 32}
    (ran : deposit d env s source commitment = .ok (after, receipt)) {pool : Instance Address}
    (stored : s.storage = some pool) :
    env.refuses ⟨pool.config.token, source, d.self, pool.config.denom.value⟩ = false := by
  simp only [deposit, getInstance, bind_eq_ok, requireAuth_eq_ok, panicIf_eq_ok, required_eq_ok,
    tokenTransfer_eq_ok, exists_const] at ran
  rcases ran with ⟨_, present, found, _, ⟨_, unrefused, _⟩, _⟩
  cases stored.symm.trans found
  exact unrefused

theorem withdraw_step {root nullifier : BytesN 32} {recipient : Address}
    {recipientSignal : BytesN 32} {proof : Proof}
    (ran : withdraw d env s root nullifier recipient recipientSignal proof =
      .ok (after, receipt)) :
    Step d s (.invoke env (.withdraw root nullifier recipient recipientSignal proof)) after
      receipt := by
  simp only [withdraw, getInstance, bind_eq_ok, panicIf_eq_ok, required_eq_ok, tokenTransfer_eq_ok,
    pure_eq_ok, exists_const, not_not, Bool.not_eq_false, Prod.mk.injEq] at ran
  obtain ⟨pool, stored, known, unused, ok, valid, rfl, balances, ⟨funded, unrefused, rfl⟩, rfl,
    rfl⟩ := ran
  exact .withdrawn stored known unused valid rfl funded unrefused

theorem exec_step {action : Action Address (Call Address)}
    (ran : exec d s action = .ok (after, receipt)) : Step d s action after receipt := by
  cases action with
  | invoke env call =>
      cases call with
      | initializePool => exact initializePool_step ran
      | deposit => exact deposit_step ran
      | withdraw => exact withdraw_step ran
  | outside token holder change =>
      simp only [exec, bind_eq_ok, outsideChange_eq_ok, pure_eq_ok, Prod.mk.injEq] at ran
      rcases ran with ⟨balances, ⟨kept, rfl⟩, rfl, rfl⟩
      exact .outside kept

theorem next_cases (s : State Address) (action : Action Address (Call Address)) :
    (∃ receipt, (machine d).outcome s action = .ok receipt ∧
      Step d s action ((machine d).next s action) receipt) ∨
    (∃ trap, (machine d).outcome s action = .error trap) ∧ (machine d).next s action = s :=
  Runs.Machine.next_cases (m := machine d) exec_step s action

theorem withdraw_eq_ok {root nullifier : BytesN 32} {recipient : Address}
    {recipientSignal : BytesN 32} {proof : Proof} {pool : Instance Address}
    (stored : s.storage = some pool) (known : root ∈ pool.roots)
    (unused : nullifier ∉ s.nullifiers)
    (valid : callVerifier d pool.config.verifier pool.vk proof
      [root, nullifier, recipientSignal] = .ok true)
    (funded : pool.config.denom.value ≤ s.balances pool.config.token d.self)
    (unrefused : env.refuses ⟨pool.config.token, d.self, recipient, pool.config.denom.value⟩ =
      false) :
    withdraw d env s root nullifier recipient recipientSignal proof =
      .ok (⟨s.storage, insert nullifier s.nullifiers, move s.balances
          ⟨pool.config.token, d.self, recipient, pool.config.denom.value⟩⟩,
        ⟨none, [⟨pool.config.token, d.self, recipient, pool.config.denom.value⟩],
          [.withdraw nullifier]⟩) := by
  simp only [withdraw, getInstance, bind_eq_ok, panicIf_eq_ok, required_eq_ok, tokenTransfer_eq_ok,
    pure_eq_ok, exists_const, not_not, Bool.not_eq_false]
  exact ⟨pool, stored, known, unused, true, valid, rfl, _, ⟨funded, unrefused, rfl⟩, rfl⟩

end Giffy.Pool
