import Giffy.Backend.GiftService
import Giffy.Chain.SorobanClient
import Giffy.Escrow.Contract

/-! One gift document, the requests in flight for it, the transactions built for it and the
ledger they land in. Every leg of a handler between two awaits is one action. -/

namespace Giffy.Backend

open Chain

section Arguments

structure CreateArgs (Address : Type) where
  sender : Address
  receiver : Address
  token : Address
  initialAmount : I128
  expiresAt : Nat
  condition : Escrow.ClaimCondition
  stepUnlocker : Address
  messageHash : BytesN 32

variable {Address : Type}

def CreateArgs.call (args : CreateArgs Address) : Escrow.Call Address :=
  .createGift args.sender args.receiver args.token args.initialAmount args.expiresAt args.condition
    args.stepUnlocker args.messageHash

def readBytes32 (data : List UInt8) : Option (BytesN 32) :=
  if width : data.length = 32 then some ⟨data, width⟩ else none

def readCondition : ScVal → Option Escrow.ClaimCondition
  | .vec [.symbol "None"] => some .none
  | .vec [.symbol "AnswerHash", .bytes answerHash] => (readBytes32 answerHash).map .answerHash
  | .vec [.symbol "StepGate", .u32 total] => some (.stepGate total)
  | _ => none

def readCreateArgs (address : Text → Option Address) : List ScVal → Option (CreateArgs Address)
  | [.address sender, .address receiver, .address token, .i128 initialAmount, .u64 expiresAt,
      condition, .address stepUnlocker, .bytes messageHash] => do
      let sender ← address sender
      let receiver ← address receiver
      let token ← address token
      let condition ← readCondition condition
      let stepUnlocker ← address stepUnlocker
      let messageHash ← readBytes32 messageHash
      return ⟨sender, receiver, token, initialAmount, expiresAt, condition, stepUnlocker,
        messageHash⟩
  | _ => none

end Arguments

inductive Fate
  | signed
  | sent
  | created (id : Nat)
  | failed
deriving DecidableEq

structure CreateTx (Address : Type) where
  sequence : Nat
  maxTime : Nat
  args : CreateArgs Address
  hash : Text
  fate : Fate

def CreateTx.created? {Address : Type} (tx : CreateTx Address) : Option Nat :=
  match tx.fate with
  | .created id => some id
  | _ => none

def CreateTx.handedOver {Address : Type} (tx : CreateTx Address) : CreateTx Address :=
  if tx.fate = .signed then { tx with fate := .sent } else tx

inductive Task (Address : Type) [LT Address]
  | building (read : GiftDocument) (built : Invocation)
  | simulating (read : GiftDocument) (built : Invocation) (sequence maxTime : Nat)
  | savingBuild (read : GiftDocument) (sequence maxTime : Nat) (args : CreateArgs Address)
  | sending (read : GiftDocument) (t : Nat)
  | polling (read : GiftDocument) (t : Nat)
  | savingSubmit (read : GiftDocument) (t id : Nat)
  | sendingOther (read : GiftDocument)
  | savingOther (read : GiftDocument) (contractGiftId txHash : Text)
  | readingChain (id : Nat)
  | savingStatus (id : Nat) (onChain : Escrow.GiftRecord Address)
  | done

/-- The gift's document, the escrow contract, the sequence number of the sender's account,
the transactions signed for this gift and the requests in flight. -/
structure World (Address : Type) [LT Address] where
  now : Instant
  gift : GiftDocument
  escrow : Escrow.State Address
  sequence : Nat
  txs : List (CreateTx Address)
  tasks : List (Task Address)

structure Platform (Address : Type) where
  sdk : Sdk
  rt : Runtime
  escrow : Escrow.Deployment Address
  address : Text → Option Address
  hash : Nat → Nat → CreateArgs Address → Text

inductive Leg
  | claim
  | refund
deriving DecidableEq

inductive Act (Address : Type)
  | tick (later : Instant)
  | build
  | fetchAccount (k : Nat)
  | simulate (k : Nat) (env : Env Address)
  | saveBuild (k : Nat)
  | submit (t : Nat)
  /-- the submitted text is a signed transaction that no build of this gift has returned -/
  | submitOther
  /-- `reaches`: whether a request that gets no answer still hands the transaction over -/
  | send (k : Nat) (answer : Option SendStatus) (reaches : Bool)
  | poll (k : Nat)
  /-- the network reports the success of another transaction, which may have returned anything -/
  | answerOther (k : Nat) (contractGiftId txHash : Text)
  | saveSubmit (k : Nat) (claimTokenHash : Text)
  | drop (k : Nat)
  | markRefundPending
  | reconcile
  | readChain (k : Nat)
  | saveStatus (k : Nat)
  | saveTxHash (leg : Leg) (txHash : Text)
  | settle (t : Nat) (env : Env Address)
  | bump
  | chain (action : Action Address (Escrow.Call Address))

inductive Refused
  | service (error : ServiceError)
  | notRunning

def orRefuse {α : Type} : Except ServiceError α → Except Refused α
  | .ok x => .ok x
  | .error error => .error (.service error)

def statusText : GiftStatus → String
  | .draft => "draft"
  | .pendingChain => "pending_chain"
  | .active => "active"
  | .claimed => "claimed"
  | .refundPending => "refund_pending"
  | .refunded => "refunded"

def mapContractStatus : Escrow.GiftStatus → GiftStatus
  | .open => .active
  | .claimed => .claimed
  | .refunded => .refunded

section Saves

/-- `save()` after `status = 'pending_chain'`: nothing is written when it was read so. -/
def savedBuild (read stored : GiftDocument) : GiftDocument :=
  if read.status = .pendingChain then stored else { stored with status := .pendingChain }

/-- A path set to the value it was read with is not written. -/
def savedPath (read stored : Option Text) (value : Text) : Option Text :=
  if read = some value then stored else some value

def savedSubmit (read stored : GiftDocument) (contractGiftId txHash claimTokenHash : Text)
    (contributedAt : Instant) : GiftDocument :=
  { stored with
    status := .active
    contractGiftId := savedPath read.contractGiftId stored.contractGiftId contractGiftId
    txHashCreate := savedPath read.txHashCreate stored.txHashCreate txHash
    claimTokenHash := claimTokenHash
    contributions := [⟨read.senderPublicKey, read.amount, txHash, contributedAt⟩] }

def i128Text (n : I128) : Text :=
  if n.value < 0 then '-' :: Decimal.ofNat n.value.natAbs else Decimal.ofNat n.value.natAbs

def savedTxHash (stored : GiftDocument) (leg : Leg) (txHash : Text) : GiftDocument :=
  match leg with
  | .claim => { stored with txHashClaim := some txHash }
  | .refund => { stored with txHashRefund := some txHash }

variable {Address : Type} [LT Address]

def savedStatus (stored : GiftDocument) (onChain : Escrow.GiftRecord Address) : GiftDocument :=
  { stored with
    amount := i128Text onChain.totalAmount
    status := mapContractStatus onChain.status
    condition := { stored.condition with stepsCompleted := onChain.stepsCompleted } }

@[simp] theorem savedBuild_contractGiftId (read stored : GiftDocument) :
    (savedBuild read stored).contractGiftId = stored.contractGiftId := by
  unfold savedBuild
  split <;> rfl

@[simp] theorem savedTxHash_contractGiftId (stored : GiftDocument) (leg : Leg) (txHash : Text) :
    (savedTxHash stored leg txHash).contractGiftId = stored.contractGiftId := by
  cases leg <;> rfl

@[simp] theorem savedTxHash_status (stored : GiftDocument) (leg : Leg) (txHash : Text) :
    (savedTxHash stored leg txHash).status = stored.status := by
  cases leg <;> rfl

end Saves

def TRANSACTION_TIMEOUT_SECONDS : Nat := 300

section Legs

variable {Address : Type} [LinearOrder Address] (p : Platform Address) (w : World Address)

/-- A step's new state and the status it wrote into the document, if it wrote one. -/
abbrev Moved (Address : Type) [LT Address] := Except Refused (World Address × Option GiftStatus)

def World.start (task : Task Address) : World Address := { w with tasks := w.tasks ++ [task] }

def World.put (k : Nat) (task : Task Address) : World Address :=
  { w with tasks := w.tasks.set k task }

/-- `buildCreateTransaction` up to its first await after the read. -/
def build : Moved Address := do
  orRefuse (assertBuildable w.now w.gift)
  let built ← orRefuse (orFail (buildCreateGiftTx p.sdk (createGiftParams p.rt w.gift)))
  return (w.start (.building w.gift built), none)

def fetchAccount (k : Nat) : Moved Address :=
  match w.tasks[k]? with
  | some (.building read built) =>
      .ok (w.put k (.simulating read built (w.sequence + 1)
        (w.now.getTime / 1000 + TRANSACTION_TIMEOUT_SECONDS)), none)
  | _ => .error .notRunning

def simulated (env : Env Address) (built : Invocation) : Option (CreateArgs Address) := do
  let args ← readCreateArgs p.address built.args
  match Escrow.exec p.escrow w.escrow (.invoke env args.call) with
  | .ok _ => return args
  | .error _ => none

def simulate (k : Nat) (env : Env Address) : Moved Address :=
  match w.tasks[k]? with
  | some (.simulating read built sequence maxTime) =>
      match simulated p w env built with
      | some args => .ok (w.put k (.savingBuild read sequence maxTime args), none)
      | none => .ok (w.put k .done, none)
  | _ => .error .notRunning

def saveBuild (k : Nat) : Moved Address :=
  match w.tasks[k]? with
  | some (.savingBuild read sequence maxTime args) =>
      let tx := ⟨sequence, maxTime, args, p.hash sequence maxTime args, .signed⟩
      .ok ({ w.put k .done with gift := savedBuild read w.gift, txs := w.txs ++ [tx] },
        if read.status = .pendingChain then none else some .pendingChain)
  | _ => .error .notRunning

def notSubmittable (status : GiftStatus) : Refused :=
  .service (.giftNotDraft (if status = .draft then
    "This gift has no built transaction to submit yet."
    else "This gift is already " ++ statusText status ++ "."))

def submit (t : Nat) : Moved Address :=
  if w.gift.status ≠ .pendingChain then .error (notSubmittable w.gift.status)
  else if t < w.txs.length then .ok (w.start (.sending w.gift t), none)
  else .error .notRunning

def submitOther : Moved Address :=
  if w.gift.status ≠ .pendingChain then .error (notSubmittable w.gift.status)
  else .ok (w.start (.sendingOther w.gift), none)

def handsOver (answer : Option SendStatus) (reaches : Bool) : Bool :=
  match answer with
  | none => reaches
  | some .pending => true
  | some .duplicate => true
  | some .tryAgainLater => false
  | some (.error _) => false

def polls : Option SendStatus → Bool
  | none => false
  | some (.error _) => false
  | some _ => true

def send (k : Nat) (answer : Option SendStatus) (reaches : Bool) : Moved Address :=
  match w.tasks[k]? with
  | some (.sending read t) =>
      let next := if polls answer then Task.polling read t else .done
      .ok ({ w.put k next with
        txs := if handsOver answer reaches then w.txs.modify t CreateTx.handedOver else w.txs },
        none)
  | _ => .error .notRunning

def poll (k : Nat) : Moved Address :=
  match w.tasks[k]? with
  | some (.polling read t) =>
      match w.txs[t]?.map CreateTx.fate with
      | some (.created id) => .ok (w.put k (.savingSubmit read t id), none)
      | some .failed => .ok (w.put k .done, none)
      | _ => .ok (w, none)
  | _ => .error .notRunning

def answerOther (k : Nat) (contractGiftId txHash : Text) : Moved Address :=
  match w.tasks[k]? with
  | some (.sendingOther read) => .ok (w.put k (.savingOther read contractGiftId txHash), none)
  | _ => .error .notRunning

/-- The id is `String(returnValue)`. -/
def saveSubmit (k : Nat) (claimTokenHash : Text) : Moved Address :=
  match w.tasks[k]? with
  | some (.savingSubmit read t id) =>
      let txHash := (w.txs[t]?.map CreateTx.hash).getD []
      .ok ({ w.put k .done with
        gift := savedSubmit read w.gift (Decimal.ofNat id) txHash claimTokenHash w.now },
        some .active)
  | some (.savingOther read contractGiftId txHash) =>
      .ok ({ w.put k .done with
        gift := savedSubmit read w.gift contractGiftId txHash claimTokenHash w.now },
        some .active)
  | _ => .error .notRunning

def drop (k : Nat) : Moved Address :=
  if k < w.tasks.length then .ok (w.put k .done, none) else .error .notRunning

/-- The update is conditioned on the status and the expiry in the query itself. -/
def markRefundPending : Moved Address :=
  if w.gift.status = .active ∧ w.gift.expiresAt.getTime < w.now.getTime then
    .ok ({ w with gift := { w.gift with status := .refundPending } }, some .refundPending)
  else .ok (w, none)

/-- `reconcileGift` up to its read of the chain; the sweep and the submit legs all call it. -/
def reconcile : Moved Address :=
  if truthy w.gift.contractGiftId then do
    let id ← orRefuse (bigInt w.gift.contractGiftId)
    return (w.start (.readingChain id), none)
  else .error (.service (.error "Gift has no on-chain record to reconcile against"))

def readChain (k : Nat) : Moved Address :=
  match w.tasks[k]? with
  | some (.readingChain id) =>
      match w.escrow.gifts.get id with
      | some onChain => .ok (w.put k (.savingStatus id onChain), none)
      | none => .ok (w.put k .done, none)
  | _ => .error .notRunning

def saveStatus (k : Nat) : Moved Address :=
  match w.tasks[k]? with
  | some (.savingStatus _ onChain) =>
      .ok ({ w.put k .done with gift := savedStatus w.gift onChain },
        some (mapContractStatus onChain.status))
  | _ => .error .notRunning

def fateOf : Option Nat → Fate
  | some id => .created id
  | none => .failed

/-- The ledger can take the transaction: handed over, next in sequence and in time. -/
abbrev World.Due (tx : CreateTx Address) : Prop :=
  tx.fate = .sent ∧ tx.sequence = w.sequence + 1 ∧ w.now.getTime / 1000 ≤ tx.maxTime

def settle (t : Nat) (env : Env Address) : Moved Address :=
  match w.txs[t]? with
  | none => .error .notRunning
  | some tx =>
      if w.Due tx then
        match Escrow.exec p.escrow w.escrow (.invoke env tx.args.call) with
        | .ok (escrow, receipt) =>
            .ok ({ w with
              escrow := escrow
              sequence := w.sequence + 1
              txs := w.txs.set t { tx with fate := fateOf receipt.giftId } }, none)
        | .error _ =>
            .ok ({ w with
              sequence := w.sequence + 1
              txs := w.txs.set t { tx with fate := .failed } }, none)
      else .error .notRunning

def exec (p : Platform Address) (w : World Address) : Act Address → Moved Address
  | .tick later =>
      if w.now.getTime ≤ later.getTime then .ok ({ w with now := later }, none)
      else .error .notRunning
  | .build => build p w
  | .fetchAccount k => fetchAccount w k
  | .simulate k env => simulate p w k env
  | .saveBuild k => saveBuild p w k
  | .submit t => submit w t
  | .submitOther => submitOther w
  | .send k answer reaches => send w k answer reaches
  | .poll k => poll w k
  | .answerOther k contractGiftId txHash => answerOther w k contractGiftId txHash
  | .saveSubmit k claimTokenHash => saveSubmit w k claimTokenHash
  | .drop k => drop w k
  | .markRefundPending => markRefundPending w
  | .reconcile => reconcile w
  | .readChain k => readChain w k
  | .saveStatus k => saveStatus w k
  | .saveTxHash leg txHash => .ok ({ w with gift := savedTxHash w.gift leg txHash }, none)
  | .settle t env => settle p w t env
  | .bump => .ok ({ w with sequence := w.sequence + 1 }, none)
  | .chain action =>
      .ok ({ w with escrow := (Escrow.machine p.escrow).next w.escrow action }, none)

abbrev machine : Runs.Machine (World Address) (Act Address) Refused (Option GiftStatus) := ⟨exec p⟩

abbrev Entry (Address : Type) [LT Address] :=
  Runs.Record (World Address) (Act Address) Refused (Option GiftStatus)

def World.drafted (now : Instant) (gift : GiftDocument) (escrow : Escrow.State Address)
    (sequence : Nat) : World Address := ⟨now, gift, escrow, sequence, [], []⟩

def World.creates : List Nat := w.txs.filterMap CreateTx.created?

def World.landed (t : Nat) : Option Nat := w.txs[t]?.bind CreateTx.created?

end Legs

end Giffy.Backend
