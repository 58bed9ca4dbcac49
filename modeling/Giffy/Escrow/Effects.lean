import Giffy.Escrow.Contract

/-! What a successful call of the escrow contract can have done. -/

namespace Giffy.Escrow

open TokenLedger

variable {Address : Type} [LinearOrder Address] (d : Deployment Address)

inductive Step (s : State Address) :
    Action Address (Call Address) → State Address → Receipt Address → Prop
  | created {env : Env Address} {sender receiver token : Address} {initialAmount : I128}
      {expiresAt : Nat} {condition : ClaimCondition} {stepUnlocker : Address}
      {messageHash : BytesN 32} {id : Nat} {gift : GiftRecord Address}
      {payment : Transfer Address}
      (authorized : env.authorized sender = true)
      (positive : 0 < initialAmount.value)
      (unexpired : env.timestamp < expiresAt)
      (next : id = s.giftCounter.getD 0 + 1)
      (record : gift = newGift sender receiver token initialAmount expiresAt condition
        stepUnlocker messageHash)
      (paid : payment = ⟨token, sender, d.self, initialAmount.value⟩) :
      Step s
        (.invoke env (.createGift sender receiver token initialAmount expiresAt condition
          stepUnlocker messageHash))
        ⟨some id, s.gifts.set id gift, move s.balances payment⟩
        ⟨some id, [payment], [.giftCreated id sender initialAmount]⟩
  | contributed {env : Env Address} {contributor : Address} {giftId : Nat} {amount : I128}
      {gift : GiftRecord Address} {raised totalAmount : I128} {payment : Transfer Address}
      (authorized : env.authorized contributor = true)
      (positive : 0 < amount.value)
      (stored : s.gifts.get giftId = some gift)
      (isOpen : gift.status = .open)
      (unexpired : env.timestamp < gift.expiresAt)
      (paid : payment = ⟨gift.token, contributor, d.self, amount.value⟩)
      (raised_eq : raised.value =
        ((gift.contributions.get contributor).getD I128.zero).value + amount.value)
      (total_eq : totalAmount.value = gift.totalAmount.value + amount.value) :
      Step s (.invoke env (.contribute contributor giftId amount))
        ⟨s.giftCounter, s.gifts.set giftId
          { gift with
            contributions := gift.contributions.set contributor raised
            totalAmount := totalAmount },
          move s.balances payment⟩
        ⟨none, [payment], [.giftContributed giftId contributor amount]⟩
  | unlocked {env : Env Address} {unlocker : Address} {giftId : Nat}
      {gift : GiftRecord Address} {total : Nat}
      (authorized : env.authorized unlocker = true)
      (stored : s.gifts.get giftId = some gift)
      (isUnlocker : unlocker = gift.stepUnlocker)
      (gated : gift.condition = .stepGate total)
      (remaining : gift.stepsCompleted < total) :
      Step s (.invoke env (.unlockStep unlocker giftId))
        ⟨s.giftCounter, s.gifts.set giftId
          { gift with stepsCompleted := gift.stepsCompleted + 1 }, s.balances⟩
        ⟨none, [], [.giftStep giftId (gift.stepsCompleted + 1)]⟩
  | claimed {env : Env Address} {giftId : Nat} {claimant : Address}
      {answer : Option (List UInt8)} {gift : GiftRecord Address} {payment : Transfer Address}
      (authorized : env.authorized claimant = true)
      (stored : s.gifts.get giftId = some gift)
      (isReceiver : claimant = gift.receiver)
      (isOpen : gift.status = .open)
      (unexpired : env.timestamp < gift.expiresAt)
      (condition : checkCondition d gift answer = .ok ())
      (paid : payment = ⟨gift.token, d.self, claimant, gift.totalAmount.value⟩) :
      Step s (.invoke env (.claim giftId claimant answer))
        ⟨s.giftCounter, s.gifts.set giftId { gift with status := .claimed },
          move s.balances payment⟩
        ⟨none, [payment], [.giftClaimed giftId claimant]⟩
  | refunded {env : Env Address} {giftId : Nat} {caller : Address} {gift : GiftRecord Address}
      (authorized : env.authorized caller = true)
      (stored : s.gifts.get giftId = some gift)
      (isParty : caller = gift.sender ∨ gift.contributions.contains caller = true)
      (isOpen : gift.status = .open)
      (expired : gift.expiresAt ≤ env.timestamp) :
      Step s (.invoke env (.refund giftId caller))
        ⟨s.giftCounter, s.gifts.set giftId { gift with status := .refunded },
          (refunds d gift).foldl move s.balances⟩
        ⟨none, refunds d gift, [.giftRefunded giftId]⟩
  | outside {token holder : Address} {change : Int} (kept : holder = d.self → 0 ≤ change) :
      Step s (.outside token holder change)
        ⟨s.giftCounter, s.gifts, add s.balances token holder change⟩ ⟨none, [], []⟩

variable {d} {env : Env Address} {s after : State Address} {receipt : Receipt Address}

theorem getGift_eq_ok {id : Nat} {gift : GiftRecord Address} :
    getGift s id = .ok gift ↔ s.gifts.get id = some gift := required_eq_ok

theorem assertOpenAndUnexpired_eq_ok {gift : GiftRecord Address} {u : Unit} :
    assertOpenAndUnexpired env gift = .ok u ↔
      gift.status = .open ∧ env.timestamp < gift.expiresAt := by
  simp only [assertOpenAndUnexpired, bind_eq_ok, panicIf_eq_ok, not_not, not_le, exists_const]

theorem stepTotal_eq_ok {condition : ClaimCondition} {total : Nat} :
    stepTotal condition = .ok total ↔ condition = .stepGate total := by
  cases condition <;> simp [stepTotal]

theorem createGift_step {sender receiver token : Address} {initialAmount : I128} {expiresAt : Nat}
    {condition : ClaimCondition} {stepUnlocker : Address} {messageHash : BytesN 32}
    (ran : createGift d env s sender receiver token initialAmount expiresAt condition stepUnlocker
      messageHash = .ok (after, receipt)) :
    Step d s (.invoke env (.createGift sender receiver token initialAmount expiresAt condition
      stepUnlocker messageHash)) after receipt := by
  simp only [createGift, bind_eq_ok, requireAuth_eq_ok, panicIf_eq_ok, tokenTransfer_eq_ok,
    nextGiftId_eq_ok, pure_eq_ok, not_le, exists_const, setGift, Prod.mk.injEq] at ran
  rcases ran with ⟨authorized, positive, unexpired, balances, ⟨_, _, rfl⟩, id, ⟨next, _⟩, rfl, rfl⟩
  exact .created authorized positive unexpired next rfl rfl

theorem contribute_step {contributor : Address} {giftId : Nat} {amount : I128}
    (ran : contribute d env s contributor giftId amount = .ok (after, receipt)) :
    Step d s (.invoke env (.contribute contributor giftId amount)) after receipt := by
  simp only [contribute, bind_eq_ok, requireAuth_eq_ok, panicIf_eq_ok, getGift_eq_ok,
    assertOpenAndUnexpired_eq_ok, tokenTransfer_eq_ok, checkedAdd_eq_ok, pure_eq_ok, not_le,
    exists_const, setGift, Prod.mk.injEq] at ran
  obtain ⟨authorized, positive, gift, stored, ⟨isOpen, unexpired⟩, balances, ⟨_, _, rfl⟩, raised,
    raised_eq, total, total_eq, rfl, rfl⟩ := ran
  exact .contributed authorized positive stored isOpen unexpired rfl raised_eq total_eq

theorem unlockStep_step {unlocker : Address} {giftId : Nat}
    (ran : unlockStep env s unlocker giftId = .ok (after, receipt)) :
    Step d s (.invoke env (.unlockStep unlocker giftId)) after receipt := by
  simp only [unlockStep, bind_eq_ok, requireAuth_eq_ok, panicIf_eq_ok, getGift_eq_ok,
    stepTotal_eq_ok, pure_eq_ok, not_not, not_le, exists_const, setGift, Prod.mk.injEq] at ran
  rcases ran with ⟨authorized, gift, stored, isUnlocker, total, gated, remaining, rfl, rfl⟩
  exact .unlocked authorized stored isUnlocker gated remaining

theorem claim_step {giftId : Nat} {claimant : Address} {answer : Option (List UInt8)}
    (ran : claim d env s giftId claimant answer = .ok (after, receipt)) :
    Step d s (.invoke env (.claim giftId claimant answer)) after receipt := by
  simp only [claim, bind_eq_ok, requireAuth_eq_ok, panicIf_eq_ok, getGift_eq_ok,
    assertOpenAndUnexpired_eq_ok, tokenTransfer_eq_ok, pure_eq_ok, not_not, exists_const, setGift,
    Prod.mk.injEq] at ran
  obtain ⟨authorized, gift, stored, isReceiver, ⟨isOpen, unexpired⟩, _, condition, balances,
    ⟨_, _, rfl⟩, rfl, rfl⟩ := ran
  exact .claimed authorized stored isReceiver isOpen unexpired condition rfl

theorem refund_step {giftId : Nat} {caller : Address}
    (ran : refund d env s giftId caller = .ok (after, receipt)) :
    Step d s (.invoke env (.refund giftId caller)) after receipt := by
  simp only [refund, bind_eq_ok, requireAuth_eq_ok, panicIf_eq_ok, getGift_eq_ok, pure_eq_ok,
    not_not, not_lt, exists_const, setGift, Prod.mk.injEq] at ran
  rcases ran with ⟨authorized, gift, stored, party, isOpen, expired, balances, paid, rfl, rfl⟩
  obtain rfl := tokenPayAll_eq_ok paid
  have isParty : caller = gift.sender ∨ gift.contributions.contains caller = true := by
    rw [not_and_or, not_not, Bool.not_eq_false] at party
    exact party
  exact .refunded authorized stored isParty isOpen expired

theorem refund_unrefused {giftId : Nat} {caller : Address} {gift : GiftRecord Address}
    (ran : refund d env s giftId caller = .ok (after, receipt))
    (stored : s.gifts.get giftId = some gift) :
    ∀ t ∈ refunds d gift, env.refuses t = false := by
  simp only [refund, bind_eq_ok, getGift_eq_ok] at ran
  rcases ran with ⟨_, _, found, present, _, _, _, _, _, _, balances, paid, _⟩
  cases stored.symm.trans present
  exact tokenPayAll_unrefused paid

theorem refund_eq_ok {giftId : Nat} {caller : Address} {gift : GiftRecord Address}
    {balances : Balances Address} (authorized : env.authorized caller = true)
    (stored : s.gifts.get giftId = some gift)
    (isParty : caller = gift.sender ∨ gift.contributions.contains caller = true)
    (isOpen : gift.status = .open) (expired : gift.expiresAt ≤ env.timestamp)
    (paid : (tokenPayAll env s.balances (refunds d gift) : Except (Trap GiftEscrowError) _) =
      .ok balances) :
    refund d env s giftId caller =
      .ok (⟨s.giftCounter, s.gifts.set giftId { gift with status := .refunded }, balances⟩,
        ⟨none, refunds d gift, [.giftRefunded giftId]⟩) := by
  simp only [refund, bind_eq_ok, requireAuth_eq_ok, panicIf_eq_ok, getGift_eq_ok, pure_eq_ok,
    not_not, not_lt, exists_const, setGift]
  have party : ¬(caller ≠ gift.sender ∧ gift.contributions.contains caller = false) := by
    rw [not_and_or, not_not, Bool.not_eq_false]
    exact isParty
  exact ⟨authorized, gift, stored, party, isOpen, expired, balances, paid, rfl⟩

theorem exec_step {action : Action Address (Call Address)}
    (ran : exec d s action = .ok (after, receipt)) :
    Step d s action after receipt := by
  cases action with
  | invoke env call =>
      cases call with
      | createGift => exact createGift_step ran
      | contribute => exact contribute_step ran
      | unlockStep => exact unlockStep_step ran
      | claim => exact claim_step ran
      | refund => exact refund_step ran
  | outside token holder change =>
      simp only [exec, bind_eq_ok, outsideChange_eq_ok, pure_eq_ok, Prod.mk.injEq] at ran
      rcases ran with ⟨balances, ⟨kept, rfl⟩, rfl, rfl⟩
      exact .outside kept

theorem next_cases (s : State Address) (action : Action Address (Call Address)) :
    (∃ receipt, (machine d).outcome s action = .ok receipt ∧
      Step d s action ((machine d).next s action) receipt) ∨
    (∃ trap, (machine d).outcome s action = .error trap) ∧ (machine d).next s action = s :=
  Runs.Machine.next_cases (m := machine d) exec_step s action

end Giffy.Escrow
