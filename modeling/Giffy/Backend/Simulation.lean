import Giffy.Backend.ClaimService

/-! What a build asks of the chain once its checks have passed. -/

namespace Giffy.Backend

open Chain

variable {Address : Type} [LinearOrder Address]

def readCall (address : Text → Option Address) (built : Invocation) :
    Option (Escrow.Call Address) :=
  match built.method, built.args with
  | "unlock_step", [.address unlocker, .u64 id] => (address unlocker).map (.unlockStep · id)
  | "claim", [.u64 id, .address claimant, .void] => (address claimant).map (.claim id · none)
  | "claim", [.u64 id, .address claimant, .bytes answer] =>
      (address claimant).map (.claim id · (some answer))
  | "refund", [.u64 id, .address caller] => (address caller).map (.refund id)
  | _, _ => none

inductive Unbuilt
  | failure (failure : Failure)
  | noAccount
  | unread
  | refused (trap : Trap Escrow.GiftEscrowError)

def orUnbuilt {α : Type} : Except Failure α → Except Unbuilt α
  | .ok x => .ok x
  | .error failure => .error (.failure failure)

variable (p : Platform Address) (ledger : Escrow.State Address) (env : Env Address) (loaded : Bool)

/-- The account is loaded and the call is run on the ledger as it is by then; a simulation takes
every signature for given. -/
def buildAndSimulate (built : Invocation) : Except Unbuilt Invocation :=
  if loaded then
    match readCall p.address built with
    | none => .error .unread
    | some call =>
        match Escrow.exec p.escrow ledger (.invoke { env with authorized := fun _ => true } call) with
        | .ok _ => .ok built
        | .error trap => .error (.refused trap)
  else .error .noAccount

/-- A route that checks the document as it read it, and the chain after that. -/
def buildRoute (checked : Except Failure Invocation) : Except Unbuilt Invocation := do
  let built ← orUnbuilt checked
  buildAndSimulate p ledger env loaded built

variable {p ledger env loaded}

theorem buildAndSimulate_eq_ok {built answered : Invocation} {call : Escrow.Call Address}
    (read : readCall p.address built = some call) :
    buildAndSimulate p ledger env loaded built = .ok answered ↔
      loaded = true ∧ answered = built ∧ ∃ after receipt,
        Escrow.exec p.escrow ledger (.invoke { env with authorized := fun _ => true } call) =
          .ok (after, receipt) := by
  unfold buildAndSimulate
  cases loaded with
  | false => simp
  | true =>
      simp only [read, if_true, true_and]
      cases Escrow.exec p.escrow ledger (.invoke { env with authorized := fun _ => true } call) with
      | ok taken =>
          rw [Except.ok.injEq, eq_comm]
          exact (and_iff_left ⟨taken.1, taken.2, rfl⟩).symm
      | error trap => exact iff_of_false nofun fun taken => by simp at taken

theorem buildRoute_passed {checked : Except Failure Invocation} {answered : Invocation}
    (answers : buildRoute p ledger env loaded checked = .ok answered) :
    ∃ built, checked = .ok built := by
  cases checked with
  | error failure => cases answers
  | ok built => exact ⟨built, rfl⟩

theorem buildRoute_eq_ok {checked : Except Failure Invocation} {built answered : Invocation}
    {call : Escrow.Call Address} (passed : checked = .ok built)
    (read : readCall p.address built = some call) :
    buildRoute p ledger env loaded checked = .ok answered ↔
      loaded = true ∧ answered = built ∧ ∃ after receipt,
        Escrow.exec p.escrow ledger (.invoke { env with authorized := fun _ => true } call) =
          .ok (after, receipt) := by
  rw [passed]
  exact buildAndSimulate_eq_ok read

end Giffy.Backend
