import Giffy.Escrow.Solvency

/-! The payments of a gift as the history of a run tells them, and the one payout
they lead to. -/

namespace Giffy.Escrow

open TokenLedger

variable {Address : Type} [LinearOrder Address]

section Histories

structure Terms (Address : Type) where
  sender : Address
  receiver : Address
  token : Address
  expiresAt : Nat
deriving DecidableEq

def concerns (entry : Entry Address) : Option Nat :=
  match entry.call, entry.outcome with
  | .invoke _ (.createGift ..), .ok receipt => receipt.giftId
  | .invoke _ (.contribute _ giftId _), .ok _ => some giftId
  | .invoke _ (.unlockStep _ giftId), .ok _ => some giftId
  | .invoke _ (.claim giftId _ _), .ok _ => some giftId
  | .invoke _ (.refund giftId _), .ok _ => some giftId
  | _, _ => none

def opening (id : Nat) (entry : Entry Address) : Option (Terms Address) :=
  match entry.call, entry.outcome with
  | .invoke _ (.createGift sender receiver token _ expiresAt _ _ _), .ok receipt =>
      if receipt.giftId = some id then some ⟨sender, receiver, token, expiresAt⟩ else none
  | _, _ => none

def payment (id : Nat) (entry : Entry Address) : Option (Address × Int) :=
  match entry.call, entry.outcome with
  | .invoke _ (.createGift sender _ _ initialAmount _ _ _ _), .ok receipt =>
      if receipt.giftId = some id then some (sender, initialAmount.value) else none
  | .invoke _ (.contribute contributor giftId amount), .ok _ =>
      if giftId = id then some (contributor, amount.value) else none
  | _, _ => none

def settles (id : Nat) (entry : Entry Address) : Bool :=
  match entry.call, entry.outcome with
  | .invoke _ (.claim giftId _ _), .ok _ => giftId = id
  | .invoke _ (.refund giftId _), .ok _ => giftId = id
  | _, _ => false

def terms (id : Nat) (past : List (Entry Address)) : Option (Terms Address) :=
  past.findSome? (opening id)

def payments (id : Nat) (past : List (Entry Address)) : List (Address × Int) :=
  past.filterMap (payment id)

def paidIn (id : Nat) (past : List (Entry Address)) : Int :=
  ((payments id past).map Prod.snd).sum

def paidBy (id : Nat) (who : Address) (past : List (Entry Address)) : Int :=
  ((payments id past).map fun paid => if paid.1 = who then paid.2 else 0).sum

theorem untouched {id : Nat} {entry : Entry Address} (other : concerns entry ≠ some id) :
    opening id entry = none ∧ payment id entry = none ∧ settles id entry = false := by
  rcases entry with ⟨s, action, outcome⟩
  cases action with
  | outside => exact ⟨rfl, rfl, rfl⟩
  | invoke env call =>
      cases outcome with
      | error trap => cases call <;> exact ⟨rfl, rfl, rfl⟩
      | ok receipt =>
          cases call <;> simp_all [concerns, opening, payment, settles]

variable (id : Nat) (past : List (Entry Address)) (entry : Entry Address)

theorem terms_append : terms id (past ++ [entry]) = (terms id past).or (opening id entry) := by
  simp [terms, List.findSome?_append]

theorem payments_append :
    payments id (past ++ [entry]) = payments id past ++ (payment id entry).toList := by
  simp only [payments, List.filterMap_append]
  cases paid : payment id entry <;> simp [paid]

theorem paidIn_append :
    paidIn id (past ++ [entry]) = paidIn id past + ((payment id entry).map Prod.snd).getD 0 := by
  rw [paidIn, payments_append, List.map_append, List.sum_append]
  cases payment id entry <;> simp [paidIn]

theorem paidBy_append (who : Address) :
    paidBy id who (past ++ [entry]) = paidBy id who past +
      ((payment id entry).map fun paid => if paid.1 = who then paid.2 else 0).getD 0 := by
  rw [paidBy, payments_append, List.map_append, List.sum_append]
  cases payment id entry <;> simp [paidBy]

end Histories

section Agreement

structure Matches (id : Nat) (past : List (Entry Address)) (gift : GiftRecord Address) : Prop where
  terms : terms id past = some ⟨gift.sender, gift.receiver, gift.token, gift.expiresAt⟩
  total : gift.totalAmount.value = paidIn id past
  shares : ∀ who, ((gift.contributions.get who).map I128.value).getD 0 = paidBy id who past
  payers : ∀ who, gift.contributions.contains who = true ↔ who ∈ (payments id past).map Prod.fst
  settled : past.countP (settles id) = if gift.status = .open then 0 else 1

structure Unused (id : Nat) (past : List (Entry Address)) : Prop where
  terms : terms id past = none
  payments : payments id past = []
  settled : past.countP (settles id) = 0

structure History (past : List (Entry Address)) (s : State Address) : Prop where
  stored : ∀ id gift, s.gifts.get id = some gift → Matches id past gift
  absent : ∀ id, s.gifts.get id = none → Unused id past

variable {id : Nat} {past : List (Entry Address)} {entry : Entry Address}
  {gift : GiftRecord Address}

theorem Matches.carry (agrees : Matches id past gift) (noOpening : opening id entry = none)
    (noPayment : payment id entry = none) {changed : GiftRecord Address}
    (parties : changed.sender = gift.sender ∧ changed.receiver = gift.receiver ∧
      changed.token = gift.token ∧ changed.expiresAt = gift.expiresAt)
    (amounts : changed.totalAmount = gift.totalAmount ∧
      changed.contributions = gift.contributions)
    (settled : (past ++ [entry]).countP (settles id) = if changed.status = .open then 0 else 1) :
    Matches id (past ++ [entry]) changed := by
  rcases parties with ⟨sender, receiver, token, expiresAt⟩
  rcases amounts with ⟨total, contributions⟩
  refine ⟨?_, ?_, ?_, ?_, settled⟩
  · rw [terms_append, noOpening, agrees.terms, Option.some_or, sender, receiver, token, expiresAt]
  · rw [paidIn_append, noPayment, total, agrees.total]
    simp
  · intro who
    rw [paidBy_append, noPayment, contributions, agrees.shares]
    simp
  · intro who
    rw [payments_append, noPayment, contributions, agrees.payers]
    simp

theorem Matches.frame (agrees : Matches id past gift) (other : concerns entry ≠ some id) :
    Matches id (past ++ [entry]) gift := by
  rcases untouched other with ⟨noOpening, noPayment, noSettlement⟩
  apply agrees.carry noOpening noPayment ⟨rfl, rfl, rfl, rfl⟩ ⟨rfl, rfl⟩
  rw [List.countP_append, agrees.settled]
  simp [noSettlement]

theorem Matches.created {sender receiver token : Address} {initialAmount : I128} {expiresAt : Nat}
    {condition : ClaimCondition} {stepUnlocker : Address} {messageHash : BytesN 32}
    (unused : Unused id past)
    (opened : opening id entry = some ⟨sender, receiver, token, expiresAt⟩)
    (paid : payment id entry = some (sender, initialAmount.value))
    (unsettled : settles id entry = false) :
    Matches id (past ++ [entry]) (newGift sender receiver token initialAmount expiresAt condition
      stepUnlocker messageHash) := by
  constructor
  · rw [terms_append, unused.terms, opened, Option.none_or]
    rfl
  · rw [paidIn_append, paid, paidIn, unused.payments]
    simp [newGift]
  · intro who
    rw [paidBy_append, paid, paidBy, unused.payments]
    simp only [newGift, SortedMap.get_set, SortedMap.get_empty]
    by_cases same : sender = who <;> simp [same]
  · intro who
    rw [payments_append, paid, unused.payments]
    simp only [newGift, SortedMap.contains, SortedMap.get_set, SortedMap.get_empty]
    by_cases same : sender = who
    · simp [same]
    · simp [same, Ne.symm same]
  · rw [List.countP_append, unused.settled]
    simp [unsettled, newGift]

theorem Matches.contributed {contributor : Address} {amount raised totalAmount : I128}
    (agrees : Matches id past gift)
    (paid : payment id entry = some (contributor, amount.value))
    (unsettled : settles id entry = false)
    (raised_eq : raised.value =
      ((gift.contributions.get contributor).getD I128.zero).value + amount.value)
    (total_eq : totalAmount.value = gift.totalAmount.value + amount.value) :
    Matches id (past ++ [entry]) { gift with
      contributions := gift.contributions.set contributor raised
      totalAmount := totalAmount } := by
  constructor
  · rw [terms_append, agrees.terms, Option.some_or]
  · rw [paidIn_append, paid, ← agrees.total]
    exact total_eq
  · intro who
    have earlier := agrees.shares who
    rw [paidBy_append, paid, ← earlier]
    simp only [SortedMap.get_set]
    split
    next same =>
      subst same
      rw [Option.map_some, Option.getD_some, raised_eq]
      cases gift.contributions.get contributor <;> simp [I128.zero]
    next different => simp [different]
  · intro who
    have earlier := agrees.payers who
    rw [payments_append, paid, List.map_append, List.mem_append, ← earlier]
    simp only [SortedMap.contains, SortedMap.get_set]
    split
    next same => simp [same]
    next different => simp [Ne.symm different]
  · rw [List.countP_append, agrees.settled]
    simp [unsettled]

theorem Unused.frame (unused : Unused id past) (other : concerns entry ≠ some id) :
    Unused id (past ++ [entry]) := by
  rcases untouched other with ⟨noOpening, noPayment, noSettlement⟩
  constructor
  · rw [terms_append, noOpening, unused.terms, Option.none_or]
  · rw [payments_append, noPayment, unused.payments]
    simp
  · rw [List.countP_append, unused.settled]
    simp [noSettlement]

theorem History.extend {s : State Address} (history : History past s) {counter : Option Nat}
    {balances : Balances Address} (about : concerns entry = some id)
    (agrees : Matches id (past ++ [entry]) gift) :
    History (past ++ [entry]) ⟨counter, s.gifts.set id gift, balances⟩ where
  stored other found present := by
    rw [SortedMap.get_set] at present
    split at present
    next same =>
      cases present
      exact same ▸ agrees
    next different =>
      exact (history.stored other found present).frame (by simpa [about] using different)
  absent other missing := by
    rw [SortedMap.get_set] at missing
    split at missing
    next => cases missing
    next different =>
      exact (history.absent other missing).frame (by simpa [about] using different)

theorem History.unchanged {s after : State Address} (history : History past s)
    (about : concerns entry = none) (same : after.gifts = s.gifts) :
    History (past ++ [entry]) after where
  stored id found present :=
    (history.stored id found (same ▸ present)).frame (by simp [about])
  absent id missing := (history.absent id (same ▸ missing)).frame (by simp [about])

end Agreement

section Steps

variable {d : Deployment Address} {past : List (Entry Address)} {s after : State Address}
  {receipt : Receipt Address} {action : Action Address (Call Address)}

theorem step_history (sound : Sound d s) (history : History past s)
    (step : Step d s action after receipt) :
    History (past ++ [⟨s, action, .ok receipt⟩]) after := by
  cases step with
  | @created env sender receiver token amount expiresAt condition unlocker hash id gift payment
      authorized positive unexpired next record paid =>
      subst record
      have unused := history.absent id (sound.counted.fresh next)
      exact history.extend rfl (.created unused (by simp [opening]) (by simp [Escrow.payment]) rfl)
  | @contributed env contributor id amount gift raised total payment authorized positive stored
      isOpen unexpired paid raised_eq total_eq =>
      have agrees := history.stored id gift stored
      exact history.extend rfl (agrees.contributed (by simp [Escrow.payment]) rfl raised_eq total_eq)
  | @unlocked env unlocker id gift total authorized stored isUnlocker gated remaining =>
      have agrees := history.stored id gift stored
      refine history.extend rfl (agrees.carry rfl rfl ⟨rfl, rfl, rfl, rfl⟩ ⟨rfl, rfl⟩ ?_)
      rw [List.countP_append, agrees.settled]
      rfl
  | @claimed env id claimant answer gift payment authorized stored isReceiver isOpen unexpired
      condition paid =>
      have agrees := history.stored id gift stored
      refine history.extend rfl (agrees.carry rfl rfl ⟨rfl, rfl, rfl, rfl⟩ ⟨rfl, rfl⟩ ?_)
      rw [List.countP_append, agrees.settled, isOpen]
      simp [settles]
  | @refunded env id caller gift authorized stored isParty isOpen expired =>
      have agrees := history.stored id gift stored
      refine history.extend rfl (agrees.carry rfl rfl ⟨rfl, rfl, rfl, rfl⟩ ⟨rfl, rfl⟩ ?_)
      rw [List.countP_append, agrees.settled, isOpen]
      simp [settles]
  | outside => exact history.unchanged rfl rfl

theorem failed_concerns {trap : Trap GiftEscrowError} :
    concerns (⟨s, action, .error trap⟩ : Entry Address) = none := by
  cases action with
  | outside => rfl
  | invoke env call => cases call <;> rfl

theorem next_history (sound : Sound d s) (history : History past s)
    (action : Action Address (Call Address)) :
    History (past ++ [(machine d).record s action]) ((machine d).next s action) := by
  rcases next_cases (d := d) s action with ⟨receipt, ran, step⟩ | ⟨⟨trap, failed⟩, same⟩
  · rw [Runs.Machine.record, ran]
    exact step_history sound history step
  · rw [Runs.Machine.record, failed, same]
    exact history.unchanged failed_concerns rfl

theorem empty_history : History [] (State.empty : State Address) where
  stored id gift present := by simp [State.empty] at present
  absent _ _ := ⟨rfl, rfl, rfl⟩

/-- After any run the records agree with its history. -/
theorem run_history (d : Deployment Address) (actions : List (Action Address (Call Address)))
    (foreign : ∀ action ∈ actions, NotSelfPaid Call.payer d.self action) :
    Sound d ((machine d).final State.empty actions) ∧
      History ((machine d).trace State.empty actions) ((machine d).final State.empty actions) :=
  Runs.Machine.run_invariant (fun past s => Sound d s ∧ History past s)
    (fun _ action => NotSelfPaid Call.payer d.self action) ⟨empty_sound d, empty_history⟩
    (fun _ s action holds allowed =>
      ⟨next_sound d s action holds.1 allowed, next_history holds.1 holds.2 action⟩)
    actions (Runs.Machine.met_of_calls foreign)

end Steps

section Closing

variable {d : Deployment Address} {s after : State Address} {receipt : Receipt Address}
  {action : Action Address (Call Address)} {id : Nat}

theorem step_status (counted : Counted s) (step : Step d s action after receipt)
    {gift : GiftRecord Address} (stored : s.gifts.get id = some gift) :
    ∃ changed, after.gifts.get id = some changed ∧
      (changed.status = gift.status ∨ gift.status = .open) := by
  have replaced : ∀ {target : Nat} {old new : GiftRecord Address},
      s.gifts.get target = some old → (new.status = old.status ∨ old.status = .open) →
      ∃ changed, (s.gifts.set target new).get id = some changed ∧
        (changed.status = gift.status ∨ gift.status = .open) := by
    intro target old new found allowed
    rw [SortedMap.get_set]
    split
    next same =>
      subst same
      cases stored.symm.trans found
      exact ⟨new, rfl, allowed⟩
    next => exact ⟨gift, stored, Or.inl rfl⟩
  cases step with
  | @created _ _ _ _ _ _ _ _ _ new _ _ _ _ _ next =>
      have different : new ≠ id := by
        intro same
        subst same
        rw [counted.fresh next] at stored
        cases stored
      exact ⟨gift, (SortedMap.get_set_ne _ different _).trans stored, Or.inl rfl⟩
  | contributed _ _ found isOpen => exact replaced found (Or.inr isOpen)
  | unlocked _ found => exact replaced found (Or.inl rfl)
  | claimed _ found _ isOpen => exact replaced found (Or.inr isOpen)
  | refunded _ found _ isOpen => exact replaced found (Or.inr isOpen)
  | outside => exact ⟨gift, stored, Or.inl rfl⟩

theorem next_status (counted : Counted s) (action : Action Address (Call Address))
    {gift : GiftRecord Address} (stored : s.gifts.get id = some gift) :
    ∃ changed, ((machine d).next s action).gifts.get id = some changed ∧
      (changed.status = gift.status ∨ gift.status = .open) := by
  rcases next_cases (d := d) s action with ⟨receipt, _, step⟩ | ⟨_, same⟩
  · exact step_status counted step stored
  · exact ⟨gift, same.symm ▸ stored, Or.inl rfl⟩

theorem step_created (step : Step d s action after receipt) (named : receipt.giftId = some id) :
    ∃ gift, after.gifts.get id = some gift := by
  cases step <;> cases named
  exact ⟨_, SortedMap.get_set_self ..⟩

def Closed (id : Nat) (s : State Address) : Prop :=
  ∃ gift, s.gifts.get id = some gift ∧ gift.status ≠ .open

theorem step_closed (counted : Counted s) (closed : Closed id s)
    (step : Step d s action after receipt) : Closed id after := by
  rcases closed with ⟨gift, stored, notOpen⟩
  rcases step_status counted step stored with ⟨changed, present, same | isOpen⟩
  · exact ⟨changed, present, same ▸ notOpen⟩
  · exact absurd isOpen notOpen

def targets (id : Nat) : Action Address (Call Address) → Bool
  | .invoke _ (.contribute _ giftId _) => giftId = id
  | .invoke _ (.claim giftId _ _) => giftId = id
  | .invoke _ (.refund giftId _) => giftId = id
  | _ => false

theorem target_open (aimed : targets id action = true) (step : Step d s action after receipt) :
    ∃ gift, s.gifts.get id = some gift ∧ gift.status = .open := by
  cases step <;> simp only [targets, decide_eq_true_eq, Bool.false_eq_true] at aimed
  case contributed _ _ stored isOpen _ _ _ _ => exact ⟨_, aimed ▸ stored, isOpen⟩
  case claimed _ stored _ isOpen _ _ _ => exact ⟨_, aimed ▸ stored, isOpen⟩
  case refunded _ stored _ isOpen _ => exact ⟨_, aimed ▸ stored, isOpen⟩

theorem closed_fails (closed : Closed id s) (aimed : targets id action = true) :
    ∃ trap, (machine d).outcome s action = .error trap := by
  rcases next_cases (d := d) s action with ⟨receipt, _, step⟩ | ⟨failed, _⟩
  · rcases closed with ⟨gift, stored, notOpen⟩
    rcases target_open aimed step with ⟨found, present, isOpen⟩
    cases stored.symm.trans present
    exact absurd isOpen notOpen
  · exact failed

theorem run_closed_fails (sound : Sound d s) (closed : Closed id s)
    (actions : List (Action Address (Call Address)))
    (foreign : ∀ action ∈ actions, NotSelfPaid Call.payer d.self action) :
    ∀ entry ∈ (machine d).trace s actions, targets id entry.call = true →
      ∃ trap, entry.outcome = .error trap := by
  induction actions generalizing s with
  | nil => simp
  | cons action rest ih =>
      intro entry member aimed
      rcases List.mem_cons.mp member with rfl | later
      · exact closed_fails closed aimed
      · have allowed := foreign action List.mem_cons_self
        refine ih (next_sound d s action sound allowed) ?_
          (fun other inside => foreign other (List.mem_cons_of_mem _ inside)) entry later aimed
        rcases next_cases (d := d) s action with ⟨receipt, _, step⟩ | ⟨_, same⟩
        · exact step_closed sound.counted closed step
        · exact same.symm ▸ closed

end Closing

section Payout

variable {d : Deployment Address} {s after : State Address} {receipt : Receipt Address}
  {action : Action Address (Call Address)} {id : Nat}

/-- A claim before the expiry pays everything to the receiver; a refund from the expiry
on pays each contributor their own amounts. -/
def Payout (d : Deployment Address) (id : Nat) (past : List (Entry Address))
    (entry : Entry Address) : Prop :=
  ∃ agreed, terms id past = some agreed ∧
    match entry.call, entry.outcome with
    | .invoke env (.claim _ claimant _), .ok receipt =>
        env.authorized claimant = true ∧ claimant = agreed.receiver ∧
          env.timestamp < agreed.expiresAt ∧
          receipt.transfers = [⟨agreed.token, d.self, claimant, paidIn id past⟩]
    | .invoke env (.refund _ _), .ok receipt =>
        agreed.expiresAt ≤ env.timestamp ∧
          (receipt.transfers.map Transfer.recipient).Nodup ∧
          (∀ who, who ∈ receipt.transfers.map Transfer.recipient ↔
            who ∈ (payments id past).map Prod.fst) ∧
          ∀ t ∈ receipt.transfers,
            t = ⟨agreed.token, d.self, t.recipient, paidBy id t.recipient past⟩
    | _, _ => False

theorem refunds_recipients (d : Deployment Address) (gift : GiftRecord Address) :
    (refunds d gift).map Transfer.recipient = gift.contributions.entries.map Prod.fst := by
  simp [refunds, Function.comp_def]

theorem step_payout {past : List (Entry Address)} (history : History past s)
    (step : Step d s action after receipt)
    (settled : settles id ⟨s, action, .ok receipt⟩ = true) :
    Payout d id past ⟨s, action, .ok receipt⟩ ∧ past.countP (settles id) = 0 ∧
      Closed id after := by
  cases step <;> simp only [settles, decide_eq_true_eq, Bool.false_eq_true] at settled
  case claimed gift payment authorized stored isReceiver isOpen unexpired condition paid =>
    subst settled
    have agrees := history.stored _ gift stored
    refine ⟨⟨_, agrees.terms, authorized, isReceiver, unexpired, ?_⟩, ?_, ?_⟩
    · rw [paid, agrees.total]
    · rw [agrees.settled, if_pos isOpen]
    · exact ⟨_, SortedMap.get_set_self _ _ _, by simp⟩
  case refunded gift authorized stored isParty isOpen expired =>
    subst settled
    have agrees := history.stored _ gift stored
    refine ⟨⟨_, agrees.terms, expired, ?_, ?_, ?_⟩, ?_, ?_⟩
    · rw [refunds_recipients]
      exact gift.contributions.keys_nodup
    · intro who
      rw [refunds_recipients, ← agrees.payers, SortedMap.contains_iff]
      simp [SortedMap.mem_entries]
    · intro t member
      rcases List.mem_map.mp member with ⟨⟨who, amount⟩, inside, rfl⟩
      have share := agrees.shares who
      rw [SortedMap.mem_entries.mp inside] at share
      simp [← share]
    · rw [agrees.settled, if_pos isOpen]
    · exact ⟨_, SortedMap.get_set_self _ _ _, by simp⟩

/-- A successful call that does not settle a gift takes nothing out of the escrow for it. -/
theorem step_inward (foreign : NotSelfPaid Call.payer d.self action)
    (step : Step d s action after receipt)
    (about : concerns ⟨s, action, .ok receipt⟩ = some id)
    (unsettled : settles id ⟨s, action, .ok receipt⟩ = false) :
    ∀ t ∈ receipt.transfers, t.source ≠ d.self := by
  intro t member
  cases step with
  | created authorized _ _ _ _ paid =>
      cases List.mem_singleton.mp member
      rw [paid]
      exact payer_ne_self foreign rfl authorized
  | contributed authorized _ _ _ _ paid =>
      cases List.mem_singleton.mp member
      rw [paid]
      exact payer_ne_self foreign rfl authorized
  | unlocked => cases member
  | claimed =>
      simp only [concerns, Option.some.injEq] at about
      simp [settles, about] at unsettled
  | refunded =>
      simp only [concerns, Option.some.injEq] at about
      simp [settles, about] at unsettled
  | outside => cases member

theorem step_moves (step : Step d s action after receipt) (inside : ∃ env call,
    action = .invoke env call) : after.balances = receipt.transfers.foldl move s.balances := by
  rcases inside with ⟨env, call, rfl⟩
  cases step <;> rfl

section Runs

variable (d : Deployment Address) (actions : List (Action Address (Call Address)))
  (foreign : ∀ action ∈ actions, NotSelfPaid Call.payer d.self action)

include foreign

theorem run_settled_once (id : Nat) :
    ((machine d).trace State.empty actions).countP (settles id) ≤ 1 := by
  rcases run_history d actions foreign with ⟨_, history⟩
  cases found : ((machine d).final State.empty actions).gifts.get id with
  | none => simp [(history.absent id found).settled]
  | some gift =>
      rw [(history.stored id gift found).settled]
      split <;> simp

theorem run_inward (id : Nat) :
    ∀ entry ∈ (machine d).trace State.empty actions, concerns entry = some id →
      settles id entry = false → ∀ receipt, entry.outcome = .ok receipt →
      ∀ t ∈ receipt.transfers, t.source ≠ d.self := by
  intro entry member about unsettled receipt succeeded
  rcases Runs.Machine.trace_member member with ⟨front, action, back, split, rfl⟩
  have allowed : NotSelfPaid Call.payer d.self action := foreign action (by simp [split])
  have ran := exec_step (Runs.Machine.outcome_eq_ok.mp succeeded)
  rw [Runs.Machine.record, show (machine d).outcome _ action = .ok receipt from succeeded]
    at about unsettled
  exact step_inward allowed ran about unsettled

end Runs

/-- In every run at most one claim or refund of a gift succeeds; it pays what the history
says is due, nothing left the escrow for the gift before it, and nothing succeeds after. -/
theorem payout_exactly_once (d : Deployment Address) (actions : List (Action Address (Call Address)))
    (foreign : ∀ action ∈ actions, NotSelfPaid Call.payer d.self action) (id : Nat) :
    ((machine d).trace State.empty actions).countP (settles id) ≤ 1 ∧
    (∀ entry ∈ (machine d).trace State.empty actions, concerns entry = some id →
      settles id entry = false → ∀ receipt, entry.outcome = .ok receipt →
      ∀ t ∈ receipt.transfers, t.source ≠ d.self) ∧
    ∀ front action back, actions = front ++ action :: back →
      let s := (machine d).final State.empty front
      let past := (machine d).trace State.empty front
      let entry := (machine d).record s action
      settles id entry = true →
        Payout d id past entry ∧
        (∀ receipt, entry.outcome = .ok receipt →
          ((machine d).next s action).balances = receipt.transfers.foldl move s.balances) ∧
        (∀ earlier ∈ past, settles id earlier = false) ∧
        ∀ later ∈ (machine d).trace ((machine d).next s action) back,
          targets id later.call = true → ∃ trap, later.outcome = .error trap := by
  refine ⟨run_settled_once d actions foreign id, run_inward d actions foreign id, ?_⟩
  intro front action back split s past entry settled
  have early : ∀ other ∈ front, NotSelfPaid Call.payer d.self other := fun other member =>
    foreign other (by simp [split, member])
  have late : ∀ other ∈ back, NotSelfPaid Call.payer d.self other := fun other member =>
    foreign other (by simp [split, member])
  have allowed : NotSelfPaid Call.payer d.self action := foreign action (by simp [split])
  rcases run_history d front early with ⟨sound, history⟩
  rcases next_cases (d := d) s action with ⟨receipt, ran, step⟩ | ⟨⟨trap, failed⟩, _⟩
  · have shape : entry = ⟨s, action, .ok receipt⟩ := by rw [← ran]; rfl
    rw [shape] at settled
    rcases step_payout history step settled with ⟨paid, none_before, closed⟩
    refine ⟨shape ▸ paid, ?_, ?_, ?_⟩
    · intro other succeeded
      cases ran.symm.trans succeeded
      apply step_moves step
      cases action with
      | invoke env call => exact ⟨env, call, rfl⟩
      | outside => cases settled
    · intro earlier member
      simpa using List.countP_eq_zero.mp none_before earlier member
    · exact run_closed_fails (next_sound d s action sound allowed) closed back late
  · have shape : entry = ⟨s, action, .error trap⟩ := by rw [← failed]; rfl
    rw [shape] at settled
    cases action with
    | invoke env call => cases call <;> cases settled
    | outside => cases settled

def sampleClaim : Action Nat (Call Nat) := .invoke (sampleEnv 999) (.claim 1 2 none)

def sampleRetries : List (Action Nat (Call Nat)) :=
  [.invoke (sampleEnv 999) (.claim 1 2 none), .invoke (sampleEnv 1000) (.refund 1 3)]

theorem payout_exactly_once_sample :
    let s := (machine sampleDeployment).final State.empty sampleFunding
    let past := (machine sampleDeployment).trace State.empty sampleFunding
    let entry := (machine sampleDeployment).record s sampleClaim
    Payout sampleDeployment 1 past entry ∧ paidIn 1 past = 140 ∧
      ∀ later ∈ (machine sampleDeployment).trace ((machine sampleDeployment).next s sampleClaim)
        sampleRetries, targets 1 later.call = true → ∃ trap, later.outcome = .error trap := by
  have once := (payout_exactly_once sampleDeployment (sampleFunding ++ sampleClaim :: sampleRetries)
    (by simp [sampleFunding, sampleClaim, sampleRetries, NotSelfPaid, Call.payer,
      sampleDeployment]) 1).2.2 sampleFunding sampleClaim sampleRetries rfl (by decide +kernel)
  exact ⟨once.1, by decide +kernel, once.2.2.2⟩

end Payout

end Giffy.Escrow
