import Giffy.Escrow.Payouts
import Giffy.Foundation.EventLog

/-! What the events of the escrow contract and the calls that published them tell of its gifts: the
records can be rebuilt from them, and each follows from the earlier ones. -/

namespace Giffy.Escrow

open EventLog TokenLedger

variable {Address : Type} [LinearOrder Address]

section Ledgers

/-- An event, the call that published it with its ledger time, and the transfers of that call. -/
structure Notice (Address : Type) where
  time : Nat
  call : Call Address
  event : Event Address
  transfers : List (Transfer Address)

def notices : Action Address (Call Address) → Receipt Address → List (Notice Address)
  | .invoke env call, receipt =>
      receipt.events.map fun event => ⟨env.timestamp, call, event, receipt.transfers⟩
  | .outside .., _ => []

structure GiftView (Address : Type) where
  sender : Address
  receiver : Address
  token : Address
  totalAmount : Int
  contributions : Address → Int
  expiresAt : Nat
  status : GiftStatus
  condition : ClaimCondition
  stepsCompleted : Nat
  stepUnlocker : Address
  messageHash : BytesN 32

abbrev Ledger (Address : Type) := Nat → Option (GiftView Address)

def Ledger.blank : Ledger Address := fun _ => none

def amend (ledger : Ledger Address) (id : Nat) (change : GiftView Address → GiftView Address) :
    Ledger Address :=
  Function.update ledger id ((ledger id).map change)

/-- The terms of a gift are read off the call that creates it, the rest off the events. -/
def observe (ledger : Ledger Address) (notice : Notice Address) : Ledger Address :=
  match notice.event with
  | .giftCreated id sender initialAmount =>
      match notice.call with
      | .createGift _ receiver token _ expiresAt condition stepUnlocker messageHash =>
          Function.update ledger id (some
            { sender, receiver, token, totalAmount := initialAmount.value
              contributions := fun who => if who = sender then initialAmount.value else 0
              expiresAt, status := .open, condition, stepsCompleted := 0, stepUnlocker
              messageHash })
      | _ => ledger
  | .giftContributed id contributor amount =>
      amend ledger id fun gift =>
        { gift with
          contributions := fun who =>
            gift.contributions who + if who = contributor then amount.value else 0
          totalAmount := gift.totalAmount + amount.value }
  | .giftStep id stepsCompleted => amend ledger id fun gift => { gift with stepsCompleted }
  | .giftClaimed id _ => amend ledger id fun gift => { gift with status := .claimed }
  | .giftRefunded id => amend ledger id fun gift => { gift with status := .refunded }

def rebuilt (past : List (Notice Address)) : Ledger Address := past.foldl observe Ledger.blank

/-- The answer of a claim, or the steps done, fulfil the condition. -/
def GiftView.Fulfilled (sha256 : List UInt8 → BytesN 32) (gift : GiftView Address)
    (answer : Option (List UInt8)) : Prop :=
  match gift.condition with
  | .none => True
  | .answerHash expected => ∃ provided, answer = some provided ∧ sha256 provided = expected
  | .stepGate total => gift.stepsCompleted = total

/-- The notices that a ledger admits next. -/
inductive Follows (d : Deployment Address) (ledger : Ledger Address) : Notice Address → Prop
  | created {time id : Nat} {sender receiver token : Address} {initialAmount : I128}
      {expiresAt : Nat} {condition : ClaimCondition} {stepUnlocker : Address}
      {messageHash : BytesN 32} (fresh : ledger id = none) (positive : 0 < initialAmount.value)
      (unexpired : time < expiresAt) :
      Follows d ledger
        ⟨time, .createGift sender receiver token initialAmount expiresAt condition stepUnlocker
          messageHash, .giftCreated id sender initialAmount,
          [⟨token, sender, d.self, initialAmount.value⟩]⟩
  | contributed {time id : Nat} {contributor : Address} {amount : I128} {gift : GiftView Address}
      (stored : ledger id = some gift) (isOpen : gift.status = .open)
      (unexpired : time < gift.expiresAt) (positive : 0 < amount.value) :
      Follows d ledger
        ⟨time, .contribute contributor id amount, .giftContributed id contributor amount,
          [⟨gift.token, contributor, d.self, amount.value⟩]⟩
  | stepped {time id total : Nat} {gift : GiftView Address} (stored : ledger id = some gift)
      (gated : gift.condition = .stepGate total) (remaining : gift.stepsCompleted < total) :
      Follows d ledger
        ⟨time, .unlockStep gift.stepUnlocker id, .giftStep id (gift.stepsCompleted + 1), []⟩
  | claimed {time id : Nat} {answer : Option (List UInt8)} {gift : GiftView Address}
      (stored : ledger id = some gift) (isOpen : gift.status = .open)
      (unexpired : time < gift.expiresAt) (fulfilled : gift.Fulfilled d.sha256 answer) :
      Follows d ledger
        ⟨time, .claim id gift.receiver answer, .giftClaimed id gift.receiver,
          [⟨gift.token, d.self, gift.receiver, gift.totalAmount⟩]⟩
  | refunded {time id : Nat} {caller : Address} {gift : GiftView Address}
      {transfers : List (Transfer Address)} (stored : ledger id = some gift)
      (isParty : caller = gift.sender ∨ 0 < gift.contributions caller)
      (isOpen : gift.status = .open) (expired : gift.expiresAt ≤ time)
      (once : (transfers.map Transfer.recipient).Nodup)
      (contributors : ∀ who,
        who ∈ transfers.map Transfer.recipient ↔ 0 < gift.contributions who)
      (shares : ∀ t ∈ transfers,
        t = ⟨gift.token, d.self, t.recipient, gift.contributions t.recipient⟩)
      (sum : (transfers.map Transfer.amount).sum = gift.totalAmount) :
      Follows d ledger ⟨time, .refund id caller, .giftRefunded id, transfers⟩

end Ledgers

section Views

def share (gift : GiftRecord Address) (who : Address) : Int :=
  ((gift.contributions.get who).map I128.value).getD 0

def GiftRecord.view (gift : GiftRecord Address) : GiftView Address :=
  { sender := gift.sender, receiver := gift.receiver, token := gift.token
    totalAmount := gift.totalAmount.value, contributions := share gift
    expiresAt := gift.expiresAt, status := gift.status, condition := gift.condition
    stepsCompleted := gift.stepsCompleted, stepUnlocker := gift.stepUnlocker
    messageHash := gift.messageHash }

def State.ledger (s : State Address) : Ledger Address :=
  fun id => (s.gifts.get id).map GiftRecord.view

variable {s : State Address} {gift : GiftRecord Address} {id : Nat}

theorem ledger_stored (stored : s.gifts.get id = some gift) : s.ledger id = some gift.view := by
  rw [State.ledger, stored, Option.map_some]

theorem ledger_fresh (fresh : s.gifts.get id = none) : s.ledger id = none := by
  rw [State.ledger, fresh, Option.map_none]

theorem share_of_get {who : Address} {amount : I128}
    (present : gift.contributions.get who = some amount) : share gift who = amount.value := by
  rw [share, present, Option.map_some, Option.getD_some]

theorem share_pos (recorded : Recorded gift) (who : Address) :
    0 < share gift who ↔ ∃ amount, gift.contributions.get who = some amount := by
  cases present : gift.contributions.get who with
  | none =>
      rw [share, present]
      simp
  | some amount =>
      rw [share_of_get present]
      simp [recorded.positive who amount present]

end Views

section Steps

variable {d : Deployment Address} {s after : State Address} {receipt : Receipt Address}
  {action : Action Address (Call Address)}

theorem view_fulfilled {gift : GiftRecord Address} {answer : Option (List UInt8)}
    (passed : checkCondition d gift answer = .ok ()) : gift.view.Fulfilled d.sha256 answer := by
  have same : gift.view.condition = gift.condition := rfl
  cases kind : gift.condition with
  | none =>
      rw [kind] at same
      simp only [GiftView.Fulfilled, same]
  | answerHash expected =>
      rw [kind] at same
      simp only [checkCondition, kind] at passed
      simp only [GiftView.Fulfilled, same]
      cases answer with
      | none => cases passed
      | some provided =>
          rw [panicIf_eq_ok, not_not] at passed
          exact ⟨provided, rfl, passed⟩
  | stepGate total =>
      rw [kind] at same
      simp only [checkCondition, kind, panicIf_eq_ok, not_not] at passed
      simp only [GiftView.Fulfilled, same]
      exact passed

theorem refund_follows {gift : GiftRecord Address} {time id : Nat} {caller : Address}
    (recorded : Recorded gift) (stored : s.gifts.get id = some gift)
    (isParty : caller = gift.sender ∨ gift.contributions.contains caller = true)
    (isOpen : gift.status = .open) (expired : gift.expiresAt ≤ time) :
    Follows d s.ledger ⟨time, .refund id caller, .giftRefunded id, refunds d gift⟩ := by
  apply Follows.refunded (ledger_stored stored) _ isOpen expired
  · rw [refunds_recipients]
    exact gift.contributions.keys_nodup
  · intro who
    rw [refunds_recipients]
    change _ ↔ 0 < share gift who
    rw [share_pos recorded]
    simp [SortedMap.mem_entries]
  · intro t member
    rcases List.mem_map.mp member with ⟨⟨who, amount⟩, inside, rfl⟩
    have own := share_of_get (SortedMap.mem_entries.mp inside)
    exact congrArg (Transfer.mk gift.token d.self who) own.symm
  · rw [refunds_sum, ← recorded.total]
    rfl
  · rcases isParty with sender | contributor
    · exact Or.inl sender
    · exact Or.inr ((share_pos recorded caller).mpr (SortedMap.contains_iff.mp contributor))

/-- A successful call publishes what the ledger admits. -/
theorem step_follows (counted : Counted s)
    (recorded : ∀ id gift, s.gifts.get id = some gift → Recorded gift)
    (step : Step d s action after receipt) :
    Justified (fun front => Follows d (front.foldl observe s.ledger)) (notices action receipt) := by
  cases step with
  | created _ positive unexpired next _ paid =>
      subst paid
      exact justified_singleton
        (.created (ledger_fresh (counted.fresh next)) positive unexpired)
  | contributed _ positive stored isOpen unexpired paid =>
      subst paid
      exact justified_singleton (.contributed (ledger_stored stored) isOpen unexpired positive)
  | unlocked _ stored isUnlocker gated remaining =>
      subst isUnlocker
      exact justified_singleton (.stepped (ledger_stored stored) gated remaining)
  | claimed _ stored isReceiver isOpen unexpired condition paid =>
      subst isReceiver paid
      exact justified_singleton
        (.claimed (ledger_stored stored) isOpen unexpired (view_fulfilled condition))
  | refunded _ stored isParty isOpen expired =>
      exact justified_singleton
        (refund_follows (recorded _ _ stored) stored isParty isOpen expired)
  | outside => exact justified_nil

end Steps

section Runs

variable (d : Deployment Address)

structure Told (past : List (Notice Address)) (s : State Address) : Prop where
  ledger : s.ledger = rebuilt past
  counted : Counted s
  recorded : ∀ id gift, s.gifts.get id = some gift → Recorded gift

variable {d} {past : List (Notice Address)} {s : State Address}

end Runs

end Giffy.Escrow
