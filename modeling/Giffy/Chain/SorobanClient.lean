import Giffy.Foundation.Bytes

/-! `submitSignedInvocation`: one send, then polls until the transaction ends or the poll
window closes. -/

namespace Giffy.Chain

inductive SendStatus
  | pending
  | duplicate
  | tryAgainLater
  /-- with the contract error code found in the answer, if any -/
  | error (code : Option Nat)
deriving DecidableEq

inductive TransactionStatus (Value : Type)
  | success (returnValue : Option Value)
  | failed (code : Option Nat)
  | notFound
deriving DecidableEq

/-- What the RPC server answers to one submission; `none` is a request that fails. -/
structure RpcAnswers (Value : Type) where
  send : Option SendStatus
  poll : Nat → Option (TransactionStatus Value)
  /-- Milliseconds from the first answer to the check after poll `i`. -/
  elapsed : Nat → Nat
  paced : ∀ i, elapsed i + 1500 ≤ elapsed (i + 1)

def RpcAnswers.steady {Value : Type} (send : SendStatus) (found : TransactionStatus Value) :
    RpcAnswers Value :=
  ⟨some send, fun _ => some found, fun i => 1500 * i, fun i => by omega⟩

inductive SubmitError
  /-- `parseContractError(_)` of an answer that carries this code -/
  | contract (code : Option Nat)
  | transport
deriving DecidableEq

def CONTRACT_ERROR_MESSAGES : Nat → Option String
  | 1 => some "This gift does not exist on-chain."
  | 2 => some "This gift is no longer open."
  | 3 => some "This gift's claim window has passed."
  | 4 => some "This gift has not expired yet."
  | 5 => some "Only the designated receiver can claim this gift."
  | 6 => some "That answer isn't quite right — try again."
  | 7 => some "Not all unlock steps have been completed yet."
  | 8 => some "This account is not authorized to unlock steps for this gift."
  | 9 => some "All steps are already unlocked."
  | 10 => some "Amount must be greater than zero."
  | 11 => some "Expiry must be in the future."
  | 12 => some "This gift has no step-based condition."
  | 13 => some "Only the sender or a contributor can trigger a refund."
  | _ => none

def parseContractError (code : Option Nat) : String :=
  (code.bind CONTRACT_ERROR_MESSAGES).getD "The contract call could not be completed."

section Submission

variable {Value : Type} (answers : RpcAnswers Value) (timeout : Nat)

def pollFrom (i : Nat) : Option (TransactionStatus Value) :=
  match answers.poll i with
  | some .notFound =>
      if answers.elapsed i < timeout then pollFrom (i + 1) else some .notFound
  | answer => answer
termination_by timeout - answers.elapsed i
decreasing_by
  have paced := answers.paced i
  omega

def submitSignedInvocation : Except SubmitError (Option Value) :=
  match answers.send with
  | none => .error .transport
  | some (.error code) => .error (.contract code)
  | some _ =>
      match pollFrom answers timeout 0 with
      | none => .error .transport
      | some (.success returnValue) => .ok returnValue
      | some (.failed code) => .error (.contract code)
      | some .notFound => .error (.contract none)

def Accepted : Prop := ∃ status, answers.send = some status ∧ ∀ code, status ≠ .error code

def Observed (returnValue : Option Value) : Prop :=
  ∃ n, answers.poll n = some (.success returnValue) ∧
    ∀ i, i < n → answers.poll i = some .notFound ∧ answers.elapsed i < timeout

variable {answers timeout}

theorem pollFrom_success {returnValue : Option Value} {i : Nat} :
    pollFrom answers timeout i = some (.success returnValue) ↔
      ∃ n, i ≤ n ∧ answers.poll n = some (.success returnValue) ∧
        ∀ j, i ≤ j → j < n → answers.poll j = some .notFound ∧ answers.elapsed j < timeout := by
  fun_induction pollFrom answers timeout i with
  | case1 i missing open' ih =>
      rw [ih]
      constructor
      · intro succeeds
        rcases succeeds with ⟨n, later, found, before⟩
        refine ⟨n, Nat.le_of_succ_le later, found, ?_⟩
        intro j from_i below
        rcases Nat.eq_or_lt_of_le from_i with same | after
        · subst same
          exact ⟨missing, open'⟩
        · exact before j after below
      · intro succeeds
        rcases succeeds with ⟨n, later, found, before⟩
        rcases Nat.eq_or_lt_of_le later with same | after
        · subst same
          rw [missing] at found
          cases found
        · exact ⟨n, after, found, fun j from_i => before j (Nat.le_of_succ_le from_i)⟩
  | case2 i missing closed =>
      constructor
      · intro same
        cases same
      · intro succeeds
        rcases succeeds with ⟨n, later, found, before⟩
        rcases Nat.eq_or_lt_of_le later with same | after
        · subst same
          rw [missing] at found
          cases found
        · exact absurd (before i (le_refl i) after).2 closed
  | case3 i ended =>
      constructor
      · intro found
        exact ⟨i, le_refl i, found, fun j from_i below => absurd below (not_lt.mpr from_i)⟩
      · intro succeeds
        rcases succeeds with ⟨n, later, found, before⟩
        rcases Nat.eq_or_lt_of_le later with same | after
        · subst same
          exact found
        · exact absurd (before i (le_refl i) after).1 ended

theorem submitSignedInvocation_eq_ok {returnValue : Option Value} :
    submitSignedInvocation answers timeout = .ok returnValue ↔
      Accepted answers ∧ Observed answers timeout returnValue := by
  have observed : pollFrom answers timeout 0 = some (.success returnValue) ↔
      Observed answers timeout returnValue := by
    rw [pollFrom_success]
    simp [Observed]
  rw [← observed, submitSignedInvocation, Accepted]
  cases answers.send with
  | none => simp
  | some status =>
      have ends : (match pollFrom answers timeout 0 with
          | none => Except.error SubmitError.transport
          | some (.success returnValue) => .ok returnValue
          | some (.failed code) => .error (.contract code)
          | some .notFound => .error (.contract none)) = .ok returnValue ↔
          pollFrom answers timeout 0 = some (.success returnValue) := by
        cases pollFrom answers timeout 0 with
        | none => simp
        | some last => cases last <;> simp
      cases status with
      | error code => simp
      | pending => simpa using ends
      | duplicate => simpa using ends
      | tryAgainLater => simpa using ends

end Submission

end Giffy.Chain
