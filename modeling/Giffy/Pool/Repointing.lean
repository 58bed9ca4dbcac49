import Giffy.Pool.Nullifiers

/-! Which payout addresses one withdrawal proof can be sent to. -/

namespace Giffy.Pool

open TokenLedger

variable {Address : Type} [DecidableEq Address]

section Definitions

variable (d : Deployment Address) (env : Env Address) (s : State Address)
  (root nullifier : BytesN 32) (recipientSignal : BytesN 32) (proof : Proof)

def Pays (recipient : Address) : Prop :=
  ∃ effect, withdraw d env s root nullifier recipient recipientSignal proof = .ok effect

/-- If the proof pays one address, it pays no other from the same state. -/
def BoundTo (recipient : Address) : Prop :=
  Pays d env s root nullifier recipientSignal proof recipient →
    ∀ other, other ≠ recipient →
      ∃ trap, withdraw d env s root nullifier other recipientSignal proof = .error trap

structure Admitted (pool : Instance Address) : Prop where
  stored : s.storage = some pool
  known : root ∈ pool.roots
  unused : nullifier ∉ s.nullifiers
  valid : callVerifier d pool.config.verifier pool.vk proof [root, nullifier, recipientSignal] =
    .ok true
  funded : pool.config.denom.value ≤ s.balances pool.config.token d.self

def Refused (pool : Instance Address) (recipient : Address) : Prop :=
  env.refuses ⟨pool.config.token, d.self, recipient, pool.config.denom.value⟩ = true

end Definitions

variable {d : Deployment Address} {env : Env Address} {s : State Address}
  {root nullifier : BytesN 32} {recipientSignal : BytesN 32} {proof : Proof}

instance (recipient : Address) :
    Decidable (Pays d env s root nullifier recipientSignal proof recipient) :=
  match ran : withdraw d env s root nullifier recipient recipientSignal proof with
  | .ok effect => isTrue ⟨effect, ran⟩
  | .error _ => isFalse fun ⟨_, paid⟩ => nomatch ran.symm.trans paid

theorem pays_iff {recipient : Address} :
    Pays d env s root nullifier recipientSignal proof recipient ↔
      ∃ pool, Admitted d s root nullifier recipientSignal proof pool ∧
        ¬ Refused d env pool recipient := by
  constructor
  · intro pays
    rcases pays with ⟨⟨after, receipt⟩, ran⟩
    have step := withdraw_step ran
    generalize called : Action.invoke env (Call.withdraw root nullifier recipient recipientSignal
      proof) = action at step
    cases step with
    | initialized => cases called
    | deposited => cases called
    | outside => cases called
    | withdrawn stored known unused valid paid funded unrefused =>
        cases called
        subst paid
        refine ⟨_, ⟨stored, known, unused, valid, funded⟩, ?_⟩
        intro refused
        cases unrefused.symm.trans refused
  · intro passes
    rcases passes with ⟨pool, admitted, allowed⟩
    have unrefused := Bool.eq_false_iff.mpr allowed
    exact ⟨_, withdraw_eq_ok admitted.stored admitted.known admitted.unused admitted.valid
      admitted.funded unrefused⟩

theorem not_pays_iff {recipient : Address} :
    ¬ Pays d env s root nullifier recipientSignal proof recipient ↔
      ∃ trap, withdraw d env s root nullifier recipient recipientSignal proof = .error trap := by
  unfold Pays
  cases withdraw d env s root nullifier recipient recipientSignal proof <;> simp

/-- From every state a proof is bound to one payout address exactly when it pays nobody there
or the token refuses everybody else: nothing checked depends on the address. -/
theorem bound_iff (d : Deployment Address) (actions : List (Action Address (Call Address)))
    (env : Env Address) (root nullifier recipientSignal : BytesN 32) (proof : Proof)
    (recipient : Address) :
    let s := (machine d).final State.empty actions
    BoundTo d env s root nullifier recipientSignal proof recipient ↔
      ∀ pool, Admitted d s root nullifier recipientSignal proof pool →
        Refused d env pool recipient ∨
          ∀ other, other ≠ recipient → Refused d env pool other := by
  intro s
  constructor
  · intro bound pool admitted
    by_cases refused : Refused d env pool recipient
    · exact Or.inl refused
    · apply Or.inr
      intro other different
      have failed := not_pays_iff.mpr (bound (pays_iff.mpr ⟨pool, admitted, refused⟩) other different)
      by_contra allowed
      exact failed (pays_iff.mpr ⟨pool, admitted, allowed⟩)
  · intro condition paid other different
    rcases pays_iff.mp paid with ⟨pool, admitted, allowed⟩
    rw [← not_pays_iff, pays_iff]
    intro passes
    rcases passes with ⟨again, admitted', allowed'⟩
    cases admitted.stored.symm.trans admitted'.stored
    rcases condition pool admitted with refused | others
    · exact allowed refused
    · exact allowed' (others other different)

theorem proof_repointed :
    let s := (machine sampleDeployment).final State.empty sampleDeposits
    Pays sampleDeployment sampleEnv s sampleRoot sampleNullifier (BytesN.ofNat 32 3) sampleProof 2 ∧
    Pays sampleDeployment sampleEnv s sampleRoot sampleNullifier (BytesN.ofNat 32 3) sampleProof 3 ∧
    ¬ BoundTo sampleDeployment sampleEnv s sampleRoot sampleNullifier (BytesN.ofNat 32 3)
      sampleProof 2 := by
  intro s
  have first : Pays sampleDeployment sampleEnv s sampleRoot sampleNullifier (BytesN.ofNat 32 3)
      sampleProof 2 := by
    decide +kernel
  have second : Pays sampleDeployment sampleEnv s sampleRoot sampleNullifier (BytesN.ofNat 32 3)
      sampleProof 3 := by
    decide +kernel
  refine ⟨first, second, ?_⟩
  intro bound
  exact not_pays_iff.mpr (bound first 3 (by decide)) second

end Giffy.Pool
