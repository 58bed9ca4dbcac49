import Giffy.Chain.SorobanClient
import Giffy.Client.Wasm

/-! The sealed deposit: a note minted in the browser, its deposit built, signed and
submitted, and what the page has shown of the note when the flow ends. -/

namespace Giffy.Client

open Chain Circuit

structure ShieldedNote where
  secretHex : Text
  commitmentHex : Text
deriving DecidableEq

/-- `v.toString(16).padStart(64, '0')` -/
def toHex32 (v : Nat) : Text := (Nat.toDigits 16 v).leftpad 64 '0'

def encodeSealedClaimLink (origin secretHex : Text) : Text :=
  origin ++ "/claim/sealed#s=".toList ++ secretHex

inductive SealedDepositPhase
  | signing
  | submitting
  | done
  | error
deriving DecidableEq

inductive Update
  | setPhase (phase : SealedDepositPhase)
  | setClaimLink (link : Text)
  | setTxHash (txHash : Text)
  | setError (message : Option String)
deriving DecidableEq

structure PoolReceipt where
  status : String
  txHash : Text

/-- Everything one press of the button meets: the random buffer, the answers of the backend,
the wallet and the RPC server, whether the two messages of the submit request arrive, and
whether the ledger lets the transaction land once it has been handed to the network. -/
structure DepositRun where
  publicKey : Option Text
  buf : BytesN 32
  buildDepositTx : Text → Text → Except String Text
  signXdr : Text → Except String Text
  requestArrives : Bool
  answers : RpcAnswers Unit
  hash : Text
  answerArrives : Bool
  /-- the browser's message for a request that fails -/
  fetchError : String
  lands : Bool
  success_lands : ∀ i value, answers.poll i = some (.success value) → lands = true
  failed_stays : ∀ i code, answers.poll i = some (.failed code) → lands = false

section Flow

variable (hash2 : Fr → Fr → Fr) (timeout : Nat) (origin : Text)

def generateNote (buf : BytesN 32) : Except String ShieldedNote :=
  let secretHex := toHex32 (buf.value % frModulus)
  match noteCommitmentHex hash2 secretHex with
  | some commitmentHex => .ok ⟨secretHex, commitmentHex⟩
  | none => .error "unreachable"

/-- The backend's half of the submit request; the indexer it starts is not waited for. -/
def submitPoolTx (run : DepositRun) : Except SubmitError PoolReceipt :=
  match submitSignedInvocation run.answers timeout with
  | .ok _ => .ok ⟨"SUCCESS", run.hash⟩
  | .error failure => .error failure

def errorMessage : SubmitError → String
  | .contract code => parseContractError code
  | .transport => "Something went wrong on our end. Please try again."

def postSubmit (run : DepositRun) : Except String PoolReceipt :=
  if run.requestArrives then
    if run.answerArrives then
      match submitPoolTx timeout run with
      | .ok receipt => .ok receipt
      | .error failure => .error (errorMessage failure)
    else .error run.fetchError
  else .error run.fetchError

def abandon (message : String) : List Update := [.setError (some message), .setPhase .error]

def deposit (run : DepositRun) : List Update :=
  match run.publicKey with
  | none => []
  | some publicKey =>
      .setError none ::
      match generateNote hash2 run.buf with
      | .error message => abandon message
      | .ok note =>
          match run.buildDepositTx publicKey note.commitmentHex with
          | .error message => abandon message
          | .ok xdr =>
              .setPhase .signing ::
              match run.signXdr xdr with
              | .error message => abandon message
              | .ok _ =>
                  .setPhase .submitting ::
                  match postSubmit timeout run with
                  | .error message => abandon message
                  | .ok res =>
                      [.setClaimLink (encodeSealedClaimLink origin note.secretHex),
                        .setTxHash res.txHash, .setPhase .done]

structure DepositRun.Sent (run : DepositRun) (note : ShieldedNote) : Prop where
  signed : ∃ publicKey xdr signed, run.publicKey = some publicKey ∧
    run.buildDepositTx publicKey note.commitmentHex = .ok xdr ∧ run.signXdr xdr = .ok signed
  arrived : run.requestArrives = true
  admitted : ∀ code, run.answers.send ≠ some (.error code)

def DepositRun.Locks (run : DepositRun) (note : ShieldedNote) : Prop :=
  run.Sent note ∧ run.lands = true

/-- A deposit that locks the denomination has shown the link with its secret. -/
def KeepsSecret (run : DepositRun) : Prop :=
  ∀ note, generateNote hash2 run.buf = .ok note → run.Locks note →
    .setClaimLink (encodeSealedClaimLink origin note.secretHex) ∈ deposit hash2 timeout origin run

structure DepositRun.Confirmed (run : DepositRun) : Prop where
  accepted : Accepted run.answers
  observed : ∃ value, Observed run.answers timeout value
  answered : run.answerArrives = true

end Flow

section Secrets

variable {hash2 : Fr → Fr → Fr} {timeout : Nat} {origin : Text} {run : DepositRun}
  {note : ShieldedNote}

theorem postSubmit_eq_ok (arrived : run.requestArrives = true) :
    (∃ res, postSubmit timeout run = .ok res) ↔ run.Confirmed timeout := by
  have submitted : (∃ receipt, submitPoolTx timeout run = .ok receipt) ↔
      Accepted run.answers ∧ ∃ value, Observed run.answers timeout value := by
    rw [submitPoolTx]
    cases ran : submitSignedInvocation run.answers timeout with
    | ok value =>
        rcases submitSignedInvocation_eq_ok.mp ran with ⟨accepted, observed⟩
        exact iff_of_true ⟨_, rfl⟩ ⟨accepted, value, observed⟩
    | error failure =>
        apply iff_of_false
        · simp
        · intro landed
          rcases landed with ⟨accepted, value, observed⟩
          rw [submitSignedInvocation_eq_ok.mpr ⟨accepted, observed⟩] at ran
          cases ran
  rw [postSubmit, if_pos arrived]
  cases back : run.answerArrives with
  | false =>
      rw [if_neg Bool.false_ne_true]
      apply iff_of_false
      · simp
      · intro confirmed
        rw [confirmed.answered] at back
        cases back
  | true =>
      rw [if_pos rfl]
      constructor
      · intro shown
        rcases shown with ⟨res, answered⟩
        have ok : ∃ receipt, submitPoolTx timeout run = .ok receipt := by
          cases ran : submitPoolTx timeout run with
          | ok receipt => exact ⟨receipt, rfl⟩
          | error failure =>
              rw [ran] at answered
              cases answered
        rcases submitted.mp ok with ⟨accepted, observed⟩
        exact ⟨accepted, observed, back⟩
      · intro confirmed
        rcases submitted.mpr ⟨confirmed.accepted, confirmed.observed⟩ with ⟨receipt, ran⟩
        rw [ran]
        exact ⟨receipt, rfl⟩

theorem link_shown_iff (minted : generateNote hash2 run.buf = .ok note) (sent : run.Sent note) :
    .setClaimLink (encodeSealedClaimLink origin note.secretHex) ∈ deposit hash2 timeout origin run ↔
      run.Confirmed timeout := by
  rcases sent.signed with ⟨publicKey, xdr, signed, connected, built, wallet⟩
  rw [← postSubmit_eq_ok sent.arrived]
  cases posted : postSubmit timeout run with
  | error message => simp [deposit, connected, minted, built, wallet, posted, abandon]
  | ok res => simp [deposit, connected, minted, built, wallet, posted]

/-- The secret is kept exactly when a deposit that reaches the ledger is confirmed to the
browser: accepted, seen within the poll window, and both answers delivered. -/
theorem sealed_secret_iff (hash2 : Fr → Fr → Fr) (timeout : Nat) (origin : Text)
    (run : DepositRun) :
    KeepsSecret hash2 timeout origin run ↔
      ∀ note, generateNote hash2 run.buf = .ok note → run.Locks note → run.Confirmed timeout := by
  constructor
  · intro keeps note minted locks
    exact (link_shown_iff minted locks.1).mp (keeps note minted locks)
  · intro confirmed note minted locks
    exact (link_shown_iff minted locks.1).mpr (confirmed note minted locks)

end Secrets

/-- An accepted transaction no poll finds, which lands after the window has closed. -/
def lateRun : DepositRun where
  publicKey := some "GC4TO5T5Y43OP2IMOL62T5Y6PYIW4R2V7EYUQ3PHEXGZGFMVLUBW4OS6".toList
  buf := BytesN.ofNat 32 77
  buildDepositTx _ _ := .ok []
  signXdr xdr := .ok xdr
  requestArrives := true
  answers := .steady .pending .notFound
  hash := []
  answerArrives := true
  fetchError := "Failed to fetch"
  lands := true
  success_lands _ _ _ := rfl
  failed_stays _ _ found := by cases found

def lateNote : ShieldedNote := ⟨toHex32 77, frToHex (Fr.fromBytes lateRun.buf)⟩

/-- The deposit locks the denomination, and the page ends on an error without a link. -/
theorem late_deposit_loses_secret :
    generateNote (fun a b => a + 2 * b) lateRun.buf = .ok lateNote ∧ lateRun.Locks lateNote ∧
    Update.setPhase .error ∈ deposit (fun a b => a + 2 * b) 30000 [] lateRun ∧
    (∀ link, Update.setClaimLink link ∉ deposit (fun a b => a + 2 * b) 30000 [] lateRun) ∧
    ¬KeepsSecret (fun a b => a + 2 * b) 30000 [] lateRun := by
  have minted : generateNote (fun a b => a + 2 * b) lateRun.buf = .ok lateNote := by
    decide +kernel
  have locks : lateRun.Locks lateNote := by
    constructor
    · constructor
      · exact ⟨_, [], [], rfl, rfl, rfl⟩
      · rfl
      · intro code same
        cases same
    · rfl
  have unseen : ¬lateRun.Confirmed 30000 := by
    intro confirmed
    rcases confirmed.observed with ⟨value, n, found, _⟩
    cases found
  have ended : ∃ message, deposit (fun a b => a + 2 * b) 30000 [] lateRun =
      [.setError none, .setPhase .signing, .setPhase .submitting, .setError (some message),
        .setPhase .error] := by
    cases posted : postSubmit 30000 lateRun with
    | ok res => exact absurd ((postSubmit_eq_ok rfl).mp ⟨res, posted⟩) unseen
    | error message =>
        refine ⟨message, ?_⟩
        simp only [deposit, minted, posted, abandon]
        rfl
  rcases ended with ⟨message, updates⟩
  refine ⟨minted, locks, ?_, ?_, ?_⟩
  · simp [updates]
  · intro link
    simp [updates]
  · intro keeps
    exact unseen ((link_shown_iff minted locks.1).mp (keeps lateNote minted locks))

end Giffy.Client
