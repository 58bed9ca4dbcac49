import Giffy.Backend.Lifecycle
import Giffy.Escrow.Payouts

/-! What an action on a gift's document and its ledger can have done. -/

namespace Giffy.Backend

open Chain

variable {Address : Type} [LinearOrder Address] (p : Platform Address)

inductive Step (w : World Address) : Act Address → World Address → Option GiftStatus → Prop
  | ticked {later : Instant} (forward : w.now.getTime ≤ later.getTime) :
      Step w (.tick later) { w with now := later } none
  | built {invocation : Invocation}
      (open' : w.gift.status = .draft ∨ w.gift.status = .pendingChain) :
      Step w .build (w.start (.building w.gift invocation)) none
  | fetched {k : Nat} {read : GiftDocument} {invocation : Invocation} {maxTime : Nat}
      (running : w.tasks[k]? = some (.building read invocation)) :
      Step w (.fetchAccount k) (w.put k (.simulating read invocation (w.sequence + 1) maxTime)) none
  | simulated {k : Nat} {env : Env Address} {read : GiftDocument} {invocation : Invocation}
      {sequence maxTime : Nat} {args : CreateArgs Address}
      (running : w.tasks[k]? = some (.simulating read invocation sequence maxTime)) :
      Step w (.simulate k env) (w.put k (.savingBuild read sequence maxTime args)) none
  | savedBuild {k : Nat} {read : GiftDocument} {tx : CreateTx Address}
      (running : w.tasks[k]? = some (.savingBuild read tx.sequence tx.maxTime tx.args))
      (unsent : tx.fate = .signed) :
      Step w (.saveBuild k)
        { w.put k .done with gift := savedBuild read w.gift, txs := w.txs ++ [tx] }
        (if read.status = .pendingChain then none else some .pendingChain)
  | submitted {t : Nat} (pending : w.gift.status = .pendingChain) :
      Step w (.submit t) (w.start (.sending w.gift t)) none
  | submittedOther (pending : w.gift.status = .pendingChain) :
      Step w .submitOther (w.start (.sendingOther w.gift)) none
  | sent {k t : Nat} {answer : Option SendStatus} {reaches : Bool} {read : GiftDocument}
      {next : Task Address} (running : w.tasks[k]? = some (.sending read t))
      (goesOn : next = .polling read t ∨ next = .done) :
      Step w (.send k answer reaches)
        { w.put k next with
          txs := if handsOver answer reaches then w.txs.modify t CreateTx.handedOver else w.txs }
        none
  | unseen {k : Nat} : Step w (.poll k) w none
  | seen {k t id : Nat} {read : GiftDocument}
      (running : w.tasks[k]? = some (.polling read t)) (landed : w.landed t = some id) :
      Step w (.poll k) (w.put k (.savingSubmit read t id)) none
  | savedSubmit {k t id : Nat} {token txHash : Text} {read : GiftDocument}
      (running : w.tasks[k]? = some (.savingSubmit read t id)) :
      Step w (.saveSubmit k token)
        { w.put k .done with
          gift := savedSubmit read w.gift (Decimal.ofNat id) txHash token w.now }
        (some .active)
  | answered {k : Nat} {contractGiftId txHash : Text} {read : GiftDocument}
      (running : w.tasks[k]? = some (.sendingOther read)) :
      Step w (.answerOther k contractGiftId txHash)
        (w.put k (.savingOther read contractGiftId txHash)) none
  | savedOther {k : Nat} {token contractGiftId txHash : Text} {read : GiftDocument}
      (running : w.tasks[k]? = some (.savingOther read contractGiftId txHash)) :
      Step w (.saveSubmit k token)
        { w.put k .done with gift := savedSubmit read w.gift contractGiftId txHash token w.now }
        (some .active)
  /-- a request has failed; a dropped one may be any -/
  | ended {act : Act Address} {k : Nat} {task : Task Address} (running : w.tasks[k]? = some task)
      (unseen : act = .drop k ∨ ∀ read t, task = .polling read t → w.landed t = none)
      (unsaved : act = .drop k ∨ ∀ read t id, task ≠ .savingSubmit read t id) :
      Step w act (w.put k .done) none
  | marked (active : w.gift.status = .active)
      (expired : w.gift.expiresAt.getTime < w.now.getTime) :
      Step w .markRefundPending
        { w with gift := { w.gift with status := .refundPending } } (some .refundPending)
  | unmarked : Step w .markRefundPending w none
  | reconciling {id : Nat} (named : bigInt w.gift.contractGiftId = .ok id) :
      Step w .reconcile (w.start (.readingChain id)) none
  | readChain {k id : Nat} {onChain : Escrow.GiftRecord Address}
      (running : w.tasks[k]? = some (.readingChain id))
      (stored : w.escrow.gifts.get id = some onChain) :
      Step w (.readChain k) (w.put k (.savingStatus id onChain)) none
  | savedStatus {k id : Nat} {onChain : Escrow.GiftRecord Address}
      (running : w.tasks[k]? = some (.savingStatus id onChain)) :
      Step w (.saveStatus k) { w.put k .done with gift := savedStatus w.gift onChain }
        (some (mapContractStatus onChain.status))
  | savedTxHash {leg : Leg} {txHash : Text} :
      Step w (.saveTxHash leg txHash) { w with gift := savedTxHash w.gift leg txHash } none
  | settled {t : Nat} {env : Env Address} {tx : CreateTx Address} {escrow : Escrow.State Address}
      {receipt : Escrow.Receipt Address} (placed : w.txs[t]? = some tx) (due : w.Due tx)
      (accepted : Escrow.exec p.escrow w.escrow (.invoke env tx.args.call) = .ok (escrow, receipt)) :
      Step w (.settle t env)
        { w with
          escrow := escrow
          sequence := w.sequence + 1
          txs := w.txs.set t { tx with fate := fateOf receipt.giftId } } none
  | rejected {t : Nat} {env : Env Address} {tx : CreateTx Address} (placed : w.txs[t]? = some tx)
      (due : w.Due tx) :
      Step w (.settle t env)
        { w with
          sequence := w.sequence + 1
          txs := w.txs.set t { tx with fate := .failed } } none
  | bumped : Step w .bump { w with sequence := w.sequence + 1 } none
  | chained {action : Action Address (Escrow.Call Address)} :
      Step w (.chain action)
        { w with escrow := (Escrow.machine p.escrow).next w.escrow action } none

variable {p} {w after : World Address} {wrote : Option GiftStatus}

theorem orRefuse_eq_ok {α : Type} {ran : Except ServiceError α} {x : α} :
    orRefuse ran = .ok x ↔ ran = .ok x := by
  cases ran <;> simp [orRefuse]

theorem build_step (ran : build p w = .ok (after, wrote)) : Step p w .build after wrote := by
  simp only [build, bind_eq_ok, orRefuse_eq_ok, orFail_eq_ok, pure_eq_ok, Prod.mk.injEq] at ran
  rcases ran with ⟨_, buildable, invocation, _, rfl, rfl⟩
  exact .built (assertBuildable_eq_ok.mp buildable).1

theorem fetchAccount_step {k : Nat} (ran : fetchAccount w k = .ok (after, wrote)) :
    Step p w (.fetchAccount k) after wrote := by
  unfold fetchAccount at ran
  split at ran
  next read invocation running =>
    cases ran
    exact .fetched running
  next => cases ran

theorem simulate_step {k : Nat} {env : Env Address} (ran : simulate p w k env = .ok (after, wrote)) :
    Step p w (.simulate k env) after wrote := by
  unfold simulate at ran
  split at ran
  next read invocation sequence maxTime running =>
    split at ran
    next args _ =>
      cases ran
      exact .simulated running
    next =>
      cases ran
      exact .ended running (Or.inr (by simp)) (Or.inr (by simp))
  next => cases ran

theorem saveBuild_step {k : Nat} (ran : saveBuild p w k = .ok (after, wrote)) :
    Step p w (.saveBuild k) after wrote := by
  unfold saveBuild at ran
  split at ran
  next read sequence maxTime args running =>
    cases ran
    exact .savedBuild running rfl
  next => cases ran

theorem submit_step {t : Nat} (ran : submit w t = .ok (after, wrote)) :
    Step p w (.submit t) after wrote := by
  unfold submit at ran
  split at ran
  next => cases ran
  next pending =>
    split at ran
    next =>
      cases ran
      exact .submitted (not_not.mp pending)
    next => cases ran

theorem submitOther_step (ran : submitOther w = .ok (after, wrote)) :
    Step p w .submitOther after wrote := by
  unfold submitOther at ran
  split at ran
  next => cases ran
  next pending =>
    cases ran
    exact .submittedOther (not_not.mp pending)

theorem answerOther_step {k : Nat} {contractGiftId txHash : Text}
    (ran : answerOther w k contractGiftId txHash = .ok (after, wrote)) :
    Step p w (.answerOther k contractGiftId txHash) after wrote := by
  unfold answerOther at ran
  split at ran
  next read running =>
    cases ran
    exact .answered running
  next => cases ran

theorem send_step {k : Nat} {answer : Option SendStatus} {reaches : Bool}
    (ran : send w k answer reaches = .ok (after, wrote)) :
    Step p w (.send k answer reaches) after wrote := by
  unfold send at ran
  split at ran
  next read t running =>
    cases ran
    apply Step.sent running
    cases polls answer
    · exact Or.inr rfl
    · exact Or.inl rfl
  next => cases ran

theorem poll_step {k : Nat} (ran : poll w k = .ok (after, wrote)) :
    Step p w (.poll k) after wrote := by
  unfold poll at ran
  split at ran
  next read t running =>
    split at ran
    next id found =>
      cases ran
      rcases Option.map_eq_some_iff.mp found with ⟨tx, placed, fate⟩
      exact .seen running (by rw [World.landed, placed, Option.bind_some, CreateTx.created?, fate])
    next found =>
      cases ran
      rcases Option.map_eq_some_iff.mp found with ⟨tx, placed, fate⟩
      refine .ended running (Or.inr ?_) (Or.inr (by simp))
      intro read' t' same
      cases same
      rw [World.landed, placed, Option.bind_some, CreateTx.created?, fate]
    next =>
      cases ran
      exact .unseen
  next => cases ran

theorem saveSubmit_step {k : Nat} {token : Text} (ran : saveSubmit w k token = .ok (after, wrote)) :
    Step p w (.saveSubmit k token) after wrote := by
  unfold saveSubmit at ran
  split at ran
  next read t id running =>
    cases ran
    exact .savedSubmit running
  next read contractGiftId txHash running =>
    cases ran
    exact .savedOther running
  next => cases ran

theorem drop_step {k : Nat} (ran : drop w k = .ok (after, wrote)) :
    Step p w (.drop k) after wrote := by
  unfold drop at ran
  split at ran
  next inside =>
    cases ran
    exact .ended (List.getElem?_eq_getElem inside) (Or.inl rfl) (Or.inl rfl)
  next => cases ran

theorem markRefundPending_step (ran : markRefundPending w = .ok (after, wrote)) :
    Step p w .markRefundPending after wrote := by
  unfold markRefundPending at ran
  split at ran
  next eligible =>
    cases ran
    exact .marked eligible.1 eligible.2
  next =>
    cases ran
    exact .unmarked

theorem reconcile_step (ran : reconcile w = .ok (after, wrote)) :
    Step p w .reconcile after wrote := by
  unfold reconcile at ran
  split at ran
  next =>
    simp only [bind_eq_ok, orRefuse_eq_ok, pure_eq_ok, Prod.mk.injEq] at ran
    rcases ran with ⟨id, named, rfl, rfl⟩
    exact .reconciling named
  next => cases ran

theorem readChain_step {k : Nat} (ran : readChain w k = .ok (after, wrote)) :
    Step p w (.readChain k) after wrote := by
  unfold readChain at ran
  split at ran
  next id running =>
    split at ran
    next onChain stored =>
      cases ran
      exact .readChain running stored
    next =>
      cases ran
      exact .ended running (Or.inr (by simp)) (Or.inr (by simp))
  next => cases ran

theorem saveStatus_step {k : Nat} (ran : saveStatus w k = .ok (after, wrote)) :
    Step p w (.saveStatus k) after wrote := by
  unfold saveStatus at ran
  split at ran
  next id onChain running =>
    cases ran
    exact .savedStatus running
  next => cases ran

theorem settle_step {t : Nat} {env : Env Address} (ran : settle p w t env = .ok (after, wrote)) :
    Step p w (.settle t env) after wrote := by
  unfold settle at ran
  split at ran
  next => cases ran
  next tx placed =>
    split at ran
    next due =>
      split at ran
      next escrow receipt accepted =>
        cases ran
        exact .settled placed due accepted
      next =>
        cases ran
        exact .rejected placed due
    next => cases ran

theorem exec_step {act : Act Address} (ran : exec p w act = .ok (after, wrote)) :
    Step p w act after wrote := by
  cases act with
  | tick later =>
      simp only [exec] at ran
      split at ran
      next forward =>
        cases ran
        exact .ticked forward
      next => cases ran
  | build => exact build_step ran
  | fetchAccount k => exact fetchAccount_step ran
  | simulate k env => exact simulate_step ran
  | saveBuild k => exact saveBuild_step ran
  | submit t => exact submit_step ran
  | submitOther => exact submitOther_step ran
  | send k answer reaches => exact send_step ran
  | poll k => exact poll_step ran
  | answerOther k contractGiftId txHash => exact answerOther_step ran
  | saveSubmit k token => exact saveSubmit_step ran
  | drop k => exact drop_step ran
  | markRefundPending => exact markRefundPending_step ran
  | reconcile => exact reconcile_step ran
  | readChain k => exact readChain_step ran
  | saveStatus k => exact saveStatus_step ran
  | saveTxHash leg txHash =>
      cases ran
      exact .savedTxHash
  | settle t env => exact settle_step ran
  | bump =>
      cases ran
      exact .bumped
  | chain action =>
      cases ran
      exact .chained

theorem next_cases (w : World Address) (act : Act Address) :
    (∃ wrote, (machine p).outcome w act = .ok wrote ∧
      Step p w act ((machine p).next w act) wrote) ∨
    (∃ refused, (machine p).outcome w act = .error refused) ∧ (machine p).next w act = w :=
  Runs.Machine.next_cases (m := machine p) exec_step w act

end Giffy.Backend
