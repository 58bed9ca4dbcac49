import Giffy.Foundation.Runs
import Giffy.Foundation.SortedMap
import Giffy.Host

/-! The gift escrow contract: its storage, its entry points and the runs of calls
made to it. -/

namespace Giffy.Escrow

open TokenLedger

inductive GiftEscrowError
  | giftNotFound
  | giftNotOpen
  | giftExpired
  | giftNotYetExpired
  | notReceiver
  | wrongAnswer
  | stepsNotComplete
  | notAuthorizedUnlocker
  | allStepsAlreadyComplete
  | invalidContributionAmount
  | invalidExpiry
  | notStepGated
  | notSenderOrContributor
deriving DecidableEq, Repr

inductive GiftStatus
  | open
  | claimed
  | refunded
deriving DecidableEq, Repr

inductive ClaimCondition
  | none
  | answerHash (expected : BytesN 32)
  | stepGate (total : Nat)
deriving DecidableEq

structure GiftRecord (Address : Type) [LT Address] where
  sender : Address
  receiver : Address
  token : Address
  totalAmount : I128
  contributions : SortedMap Address I128
  expiresAt : Nat
  status : GiftStatus
  condition : ClaimCondition
  stepsCompleted : Nat
  stepUnlocker : Address
  messageHash : BytesN 32

/-- Instance storage, persistent storage, and the balances of every token. -/
structure State (Address : Type) [LT Address] where
  giftCounter : Option Nat
  gifts : SortedMap Nat (GiftRecord Address)
  balances : Balances Address

structure Deployment (Address : Type) where
  self : Address
  sha256 : List UInt8 → BytesN 32

inductive Event (Address : Type)
  | giftCreated (id : Nat) (sender : Address) (initialAmount : I128)
  | giftContributed (id : Nat) (contributor : Address) (amount : I128)
  | giftStep (id : Nat) (stepsCompleted : Nat)
  | giftClaimed (id : Nat) (claimant : Address)
  | giftRefunded (id : Nat)

structure Receipt (Address : Type) where
  giftId : Option Nat
  transfers : List (Transfer Address)
  events : List (Event Address)

abbrev Outcome (Address : Type) [LT Address] :=
  Except (Trap GiftEscrowError) (State Address × Receipt Address)

variable {Address : Type} [LinearOrder Address]

section Storage

def nextGiftId (giftCounter : Option Nat) : Except (Trap GiftEscrowError) Nat :=
  let current := giftCounter.getD 0
  if current + 1 < 2 ^ 64 then .ok (current + 1) else .error .arithmetic

def setGift (s : State Address) (id : Nat) (gift : GiftRecord Address) : State Address :=
  { s with gifts := s.gifts.set id gift }

def getGift (s : State Address) (id : Nat) : Except (Trap GiftEscrowError) (GiftRecord Address) :=
  required (s.gifts.get id) (.contract .giftNotFound)

theorem nextGiftId_eq_ok {giftCounter : Option Nat} {id : Nat} :
    nextGiftId giftCounter = .ok id ↔ id = giftCounter.getD 0 + 1 ∧ id < 2 ^ 64 := by
  simp only [nextGiftId]
  split <;> simp <;> omega

end Storage

variable (d : Deployment Address)

section EntryPoints

variable (env : Env Address) (s : State Address)

def assertOpenAndUnexpired (gift : GiftRecord Address) : Except (Trap GiftEscrowError) Unit := do
  panicIf (gift.status ≠ .open) .giftNotOpen
  panicIf (gift.expiresAt ≤ env.timestamp) .giftExpired

def newGift (sender receiver token : Address) (initialAmount : I128) (expiresAt : Nat)
    (condition : ClaimCondition) (stepUnlocker : Address) (messageHash : BytesN 32) :
    GiftRecord Address :=
  { sender, receiver, token, totalAmount := initialAmount,
    contributions := SortedMap.empty.set sender initialAmount, expiresAt, status := .open,
    condition, stepsCompleted := 0, stepUnlocker, messageHash }

def createGift (sender receiver token : Address) (initialAmount : I128) (expiresAt : Nat)
    (condition : ClaimCondition) (stepUnlocker : Address) (messageHash : BytesN 32) :
    Outcome Address := do
  requireAuth env sender
  panicIf (initialAmount.value ≤ 0) .invalidContributionAmount
  panicIf (expiresAt ≤ env.timestamp) .invalidExpiry
  let payment : Transfer Address := ⟨token, sender, d.self, initialAmount.value⟩
  let balances ← tokenTransfer env s.balances payment
  let id ← nextGiftId s.giftCounter
  let gift := newGift sender receiver token initialAmount expiresAt condition stepUnlocker
    messageHash
  return (setGift { s with giftCounter := some id, balances } id gift,
    ⟨some id, [payment], [.giftCreated id sender initialAmount]⟩)

def contribute (contributor : Address) (giftId : Nat) (amount : I128) : Outcome Address := do
  requireAuth env contributor
  panicIf (amount.value ≤ 0) .invalidContributionAmount
  let gift ← getGift s giftId
  assertOpenAndUnexpired env gift
  let payment : Transfer Address := ⟨gift.token, contributor, d.self, amount.value⟩
  let balances ← tokenTransfer env s.balances payment
  let existing := (gift.contributions.get contributor).getD I128.zero
  let raised ← checkedAdd existing amount
  let totalAmount ← checkedAdd gift.totalAmount amount
  let gift :=
    { gift with contributions := gift.contributions.set contributor raised, totalAmount }
  return (setGift { s with balances } giftId gift,
    ⟨none, [payment], [.giftContributed giftId contributor amount]⟩)

def stepTotal : ClaimCondition → Except (Trap GiftEscrowError) Nat
  | .stepGate total => .ok total
  | _ => .error (.contract .notStepGated)

/-- Neither the status nor the expiry is looked at here. -/
def unlockStep (unlocker : Address) (giftId : Nat) : Outcome Address := do
  requireAuth env unlocker
  let gift ← getGift s giftId
  panicIf (unlocker ≠ gift.stepUnlocker) .notAuthorizedUnlocker
  let total ← stepTotal gift.condition
  panicIf (total ≤ gift.stepsCompleted) .allStepsAlreadyComplete
  let gift := { gift with stepsCompleted := gift.stepsCompleted + 1 }
  return (setGift s giftId gift, ⟨none, [], [.giftStep giftId gift.stepsCompleted]⟩)

def checkCondition (gift : GiftRecord Address) (answer : Option (List UInt8)) :
    Except (Trap GiftEscrowError) Unit :=
  match gift.condition with
  | .none => .ok ()
  | .answerHash expected =>
      match answer with
      | some provided => panicIf (d.sha256 provided ≠ expected) .wrongAnswer
      | none => .error (.contract .wrongAnswer)
  | .stepGate total => panicIf (gift.stepsCompleted ≠ total) .stepsNotComplete

def claim (giftId : Nat) (claimant : Address) (answer : Option (List UInt8)) :
    Outcome Address := do
  requireAuth env claimant
  let gift ← getGift s giftId
  panicIf (claimant ≠ gift.receiver) .notReceiver
  assertOpenAndUnexpired env gift
  checkCondition d gift answer
  let payment : Transfer Address := ⟨gift.token, d.self, claimant, gift.totalAmount.value⟩
  let s := setGift s giftId { gift with status := .claimed }
  let balances ← tokenTransfer env s.balances payment
  return ({ s with balances }, ⟨none, [payment], [.giftClaimed giftId claimant]⟩)

def refunds (gift : GiftRecord Address) : List (Transfer Address) :=
  gift.contributions.entries.map fun entry => ⟨gift.token, d.self, entry.1, entry.2.value⟩

def refund (giftId : Nat) (caller : Address) : Outcome Address := do
  requireAuth env caller
  let gift ← getGift s giftId
  panicIf (caller ≠ gift.sender ∧ gift.contributions.contains caller = false)
    .notSenderOrContributor
  panicIf (gift.status ≠ .open) .giftNotOpen
  panicIf (env.timestamp < gift.expiresAt) .giftNotYetExpired
  let s := setGift s giftId { gift with status := .refunded }
  let balances ← tokenPayAll env s.balances (refunds d gift)
  return ({ s with balances }, ⟨none, refunds d gift, [.giftRefunded giftId]⟩)

end EntryPoints

inductive Call (Address : Type)
  | createGift (sender receiver token : Address) (initialAmount : I128) (expiresAt : Nat)
      (condition : ClaimCondition) (stepUnlocker : Address) (messageHash : BytesN 32)
  | contribute (contributor : Address) (giftId : Nat) (amount : I128)
  | unlockStep (unlocker : Address) (giftId : Nat)
  | claim (giftId : Nat) (claimant : Address) (answer : Option (List UInt8))
  | refund (giftId : Nat) (caller : Address)

def invoke (env : Env Address) (s : State Address) : Call Address → Outcome Address
  | .createGift sender receiver token initialAmount expiresAt condition stepUnlocker messageHash =>
      createGift d env s sender receiver token initialAmount expiresAt condition stepUnlocker
        messageHash
  | .contribute contributor giftId amount => contribute d env s contributor giftId amount
  | .unlockStep unlocker giftId => unlockStep env s unlocker giftId
  | .claim giftId claimant answer => claim d env s giftId claimant answer
  | .refund giftId caller => refund d env s giftId caller

def exec (s : State Address) : Action Address (Call Address) → Outcome Address
  | .invoke env call => invoke d env s call
  | .outside token holder change => do
      let balances ← outsideChange d.self s.balances token holder change
      return ({ s with balances }, ⟨none, [], []⟩)

abbrev machine : Runs.Machine (State Address) (Action Address (Call Address)) (Trap GiftEscrowError)
    (Receipt Address) := ⟨exec d⟩

abbrev Entry (Address : Type) [LT Address] :=
  Runs.Record (State Address) (Action Address (Call Address)) (Trap GiftEscrowError)
    (Receipt Address)

def State.empty : State Address := ⟨none, SortedMap.empty, fun _ _ => 0⟩

def Call.payer : Call Address → Option Address
  | .createGift sender .. => some sender
  | .contribute contributor .. => some contributor
  | _ => none

end Giffy.Escrow
