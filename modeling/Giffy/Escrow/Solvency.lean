import Giffy.Escrow.Effects

/-! The escrow's balances cover its open gifts, and every record adds up. -/

namespace Giffy.Escrow

open TokenLedger

variable {Address : Type} [LinearOrder Address]

def openAmount (token : Address) (gift : GiftRecord Address) : Int :=
  if gift.status = .open ∧ token = gift.token then gift.totalAmount.value else 0

def State.escrowed (s : State Address) (token : Address) : Int :=
  s.gifts.total fun _ gift => openAmount token gift

def contributed (gift : GiftRecord Address) : Int :=
  gift.contributions.total fun _ amount => amount.value

structure Recorded (gift : GiftRecord Address) : Prop where
  total : gift.totalAmount.value = contributed gift
  positive : ∀ who amount, gift.contributions.get who = some amount → 0 < amount.value
  sender : gift.contributions.contains gift.sender = true

def Counted (s : State Address) : Prop :=
  ∀ id gift, s.gifts.get id = some gift → id ≤ s.giftCounter.getD 0

structure Sound (d : Deployment Address) (s : State Address) : Prop where
  solvent : ∀ token, s.escrowed token ≤ s.balances token d.self
  recorded : ∀ id gift, s.gifts.get id = some gift → Recorded gift
  counted : Counted s

theorem Counted.fresh {s : State Address} (counted : Counted s) {id : Nat}
    (next : id = s.giftCounter.getD 0 + 1) : s.gifts.get id = none := by
  cases present : s.gifts.get id with
  | none => rfl
  | some other =>
      have below := counted id other present
      omega

section Records

variable {gift : GiftRecord Address}

theorem Recorded.total_nonneg (recorded : Recorded gift) : 0 ≤ gift.totalAmount.value := by
  rw [recorded.total]
  exact SortedMap.total_nonneg fun who amount present =>
    le_of_lt (recorded.positive who amount present)

theorem openAmount_open (isOpen : gift.status = .open) (token : Address) :
    openAmount token gift = if token = gift.token then gift.totalAmount.value else 0 := by
  simp only [openAmount, isOpen, true_and]

theorem openAmount_closed (closed : gift.status ≠ .open) (token : Address) :
    openAmount token gift = 0 := by
  simp only [openAmount, closed, false_and, if_false]

theorem openAmount_nonneg (recorded : Recorded gift) (token : Address) :
    0 ≤ openAmount token gift := by
  unfold openAmount
  split
  · exact recorded.total_nonneg
  · exact le_refl 0

theorem newGift_recorded {sender : Address} {initialAmount : I128}
    (positive : 0 < initialAmount.value) (receiver token : Address) (expiresAt : Nat)
    (condition : ClaimCondition) (stepUnlocker : Address) (messageHash : BytesN 32) :
    Recorded (newGift sender receiver token initialAmount expiresAt condition stepUnlocker
      messageHash) where
  total := by
    simp only [newGift, contributed]
    rw [SortedMap.total_set_new _ _ (SortedMap.get_empty sender), SortedMap.total_empty, zero_add]
  positive who amount present := by
    simp only [newGift, SortedMap.get_set, SortedMap.get_empty] at present
    split at present
    · cases present
      exact positive
    · cases present
  sender := by simp [newGift, SortedMap.contains]

theorem Recorded.raise (recorded : Recorded gift) {contributor : Address}
    {amount raised totalAmount : I128} (positive : 0 < amount.value)
    (raised_eq : raised.value =
      ((gift.contributions.get contributor).getD I128.zero).value + amount.value)
    (total_eq : totalAmount.value = gift.totalAmount.value + amount.value) :
    Recorded { gift with
      contributions := gift.contributions.set contributor raised
      totalAmount := totalAmount } where
  total := by
    have change := gift.contributions.total_set (fun _ amount => amount.value) contributor raised
    have old := recorded.total
    simp only [contributed] at old ⊢
    cases present : gift.contributions.get contributor <;>
      simp [present, I128.zero] at change raised_eq <;> omega
  positive who held present := by
    simp only [SortedMap.get_set] at present
    split at present
    · cases present
      cases before : gift.contributions.get contributor with
      | none =>
          simp [before, I128.zero] at raised_eq
          omega
      | some existing =>
          have earlier := recorded.positive contributor existing before
          simp [before] at raised_eq
          omega
    · exact recorded.positive who held present
  sender := by
    rcases SortedMap.contains_iff.mp recorded.sender with ⟨amount, present⟩
    apply SortedMap.contains_iff.mpr
    simp only [SortedMap.get_set]
    split
    · exact ⟨_, rfl⟩
    · exact ⟨amount, present⟩

theorem Recorded.of_same {changed : GiftRecord Address} (recorded : Recorded gift)
    (sender : changed.sender = gift.sender) (total : changed.totalAmount = gift.totalAmount)
    (contributions : changed.contributions = gift.contributions) : Recorded changed where
  total := by
    rw [contributed, total, contributions]
    exact recorded.total
  positive := contributions ▸ recorded.positive
  sender := by
    rw [contributions, sender]
    exact recorded.sender

theorem recorded_set {gifts : SortedMap Nat (GiftRecord Address)} {id : Nat}
    (old : ∀ id gift, gifts.get id = some gift → Recorded gift) (new : Recorded gift) (other : Nat)
    (found : GiftRecord Address) (present : (gifts.set id gift).get other = some found) :
    Recorded found := by
  rw [SortedMap.get_set] at present
  split at present
  · cases present
    exact new
  · exact old other found present

end Records

section Sums

variable {s : State Address} {id : Nat} {gift changed : GiftRecord Address}

theorem escrowed_new (fresh : s.gifts.get id = none) (counter : Option Nat)
    (balances : Balances Address) (token : Address) :
    State.escrowed ⟨counter, s.gifts.set id gift, balances⟩ token =
      s.escrowed token + openAmount token gift :=
  s.gifts.total_set_new (fun _ gift => openAmount token gift) fresh gift

theorem escrowed_set (stored : s.gifts.get id = some gift) (counter : Option Nat)
    (balances : Balances Address) (token : Address) :
    State.escrowed ⟨counter, s.gifts.set id changed, balances⟩ token =
      s.escrowed token - openAmount token gift + openAmount token changed := by
  have change := s.gifts.total_set (fun _ gift => openAmount token gift) id changed
  simp only [stored, Option.map_some, Option.getD_some] at change
  simp only [State.escrowed]
  omega

theorem openAmount_le_escrowed (recorded : ∀ id gift, s.gifts.get id = some gift → Recorded gift)
    (stored : s.gifts.get id = some gift) (token : Address) :
    openAmount token gift ≤ s.escrowed token :=
  SortedMap.le_total (f := fun _ gift => openAmount token gift)
    (fun _ other present => openAmount_nonneg (recorded _ other present) token) stored

variable (d : Deployment Address)

theorem refunds_out (recorded : Recorded gift) :
    ∀ t ∈ refunds d gift, t.token = gift.token ∧ t.source = d.self ∧ 0 ≤ t.amount := by
  intro t member
  rcases List.mem_map.mp member with ⟨⟨who, amount⟩, inside, rfl⟩
  exact ⟨rfl, rfl, le_of_lt (recorded.positive who amount (SortedMap.mem_entries.mp inside))⟩

theorem refunds_sum (gift : GiftRecord Address) :
    ((refunds d gift).map Transfer.amount).sum = contributed gift := by
  simp only [refunds, contributed, SortedMap.total, List.map_map]
  rfl

theorem refunds_token_sum (gift : GiftRecord Address) (token : Address) :
    ((refunds d gift).map fun t => if token = t.token then t.amount else 0).sum =
      if token = gift.token then contributed gift else 0 := by
  rw [← refunds_sum d gift]
  simp only [refunds, List.map_map, Function.comp_def]
  split <;> simp

end Sums

section Steps

variable {d : Deployment Address} {s after : State Address} {receipt : Receipt Address}
  {action : Action Address (Call Address)}

omit [LinearOrder Address] in
theorem payer_ne_self {env : Env Address} {call : Call Address} {payer : Address}
    (foreign : NotSelfPaid Call.payer d.self (.invoke env call)) (pays : call.payer = some payer)
    (authorized : env.authorized payer = true) : payer ≠ d.self := by
  rintro rfl
  rw [foreign pays] at authorized
  cases authorized

theorem net_paid_in {token payer : Address} {amount : Int} (other : payer ≠ d.self)
    (queried : Address) :
    net queried d.self ⟨token, payer, d.self, amount⟩ = if queried = token then amount else 0 := by
  rw [net_of_other_source (Ne.symm other)]
  simp

theorem net_paid_out (d : Deployment Address) (token payee : Address) {amount : Int}
    (nonneg : 0 ≤ amount) (queried : Address) :
    -(if queried = token then amount else 0) ≤
      net queried d.self ⟨token, d.self, payee, amount⟩ :=
  net_source_ge queried d.self nonneg

theorem step_solvent (sound : Sound d s) (foreign : NotSelfPaid Call.payer d.self action)
    (step : Step d s action after receipt) (token : Address) :
    after.escrowed token ≤ after.balances token d.self := by
  have before := sound.solvent token
  cases step with
  | @created env sender _ inToken amount _ _ _ _ id gift _ authorized positive unexpired next record
      paid =>
      have other := payer_ne_self foreign rfl authorized
      subst paid record
      rw [escrowed_new (sound.counted.fresh next), openAmount_open rfl]
      change _ ≤ move s.balances ⟨inToken, sender, d.self, amount.value⟩ token d.self
      rw [move_apply, net_paid_in other]
      exact add_le_add_left before _
  | @contributed env contributor id amount gift raised total _ authorized positive stored isOpen
      unexpired paid raised_eq total_eq =>
      have other := payer_ne_self foreign rfl authorized
      subst paid
      rw [escrowed_set stored, openAmount_open isOpen, openAmount_open (by exact isOpen)]
      change _ ≤ move s.balances ⟨gift.token, contributor, d.self, amount.value⟩ token d.self
      rw [move_apply, net_paid_in other]
      change _ + (if token = gift.token then total.value else 0) ≤ _
      split <;> omega
  | @unlocked env unlocker id gift total authorized stored isUnlocker gated remaining =>
      rw [escrowed_set stored]
      change s.escrowed token - openAmount token gift + openAmount token gift ≤ s.balances token d.self
      omega
  | @claimed env id claimant answer gift _ authorized stored isReceiver isOpen unexpired condition
      paid =>
      have nonneg := (sound.recorded id gift stored).total_nonneg
      have left := net_paid_out d gift.token claimant nonneg token
      subst paid
      rw [escrowed_set stored, openAmount_open isOpen, openAmount_closed (by simp)]
      change _ ≤ move s.balances ⟨gift.token, d.self, claimant, gift.totalAmount.value⟩ token d.self
      rw [move_apply]
      omega
  | @refunded env id caller gift authorized stored isParty isOpen expired =>
      have recorded := sound.recorded id gift stored
      have left := foldl_move_source_ge (fun t member => (refunds_out d recorded t member).2.2)
        s.balances token d.self
      rw [refunds_token_sum, ← recorded.total] at left
      rw [escrowed_set stored, openAmount_open isOpen, openAmount_closed (by simp)]
      change _ ≤ (refunds d gift).foldl move s.balances token d.self
      omega
  | @outside inToken holder change kept =>
      simp only [add]
      split
      next own =>
        have raised := kept own.2.symm
        exact le_add_of_le_of_nonneg before raised
      next => exact before

theorem step_recorded (recorded : ∀ id gift, s.gifts.get id = some gift → Recorded gift)
    (step : Step d s action after receipt) (id : Nat) (gift : GiftRecord Address)
    (present : after.gifts.get id = some gift) : Recorded gift := by
  cases step with
  | created _ positive _ _ record =>
      exact recorded_set recorded (record ▸ newGift_recorded positive ..) id gift present
  | contributed _ positive stored _ _ _ raised_eq total_eq =>
      exact recorded_set recorded
        ((recorded _ _ stored).raise positive raised_eq total_eq) id gift present
  | unlocked _ stored =>
      refine recorded_set recorded ?_ id gift present
      exact (recorded _ _ stored).of_same rfl rfl rfl
  | claimed _ stored =>
      refine recorded_set recorded ?_ id gift present
      exact (recorded _ _ stored).of_same rfl rfl rfl
  | refunded _ stored =>
      refine recorded_set recorded ?_ id gift present
      exact (recorded _ _ stored).of_same rfl rfl rfl
  | outside => exact recorded id gift present

theorem counted_set {gifts : SortedMap Nat (GiftRecord Address)} {count id : Nat}
    {new : GiftRecord Address} (old : ∀ id gift, gifts.get id = some gift → id ≤ count)
    (within : id ≤ count) (other : Nat) (found : GiftRecord Address)
    (present : (gifts.set id new).get other = some found) : other ≤ count := by
  rw [SortedMap.get_set] at present
  split at present
  next same => exact same ▸ within
  next => exact old other found present

theorem step_counted (counted : Counted s) (step : Step d s action after receipt) :
    Counted after := by
  intro id gift present
  cases step with
  | created _ _ _ next =>
      refine counted_set (fun other found earlier => ?_) (le_refl _) id gift present
      have below := counted other found earlier
      exact le_trans below (by simp [next])
  | contributed _ _ stored => exact counted_set counted (counted _ _ stored) id gift present
  | unlocked _ stored => exact counted_set counted (counted _ _ stored) id gift present
  | claimed _ stored => exact counted_set counted (counted _ _ stored) id gift present
  | refunded _ stored => exact counted_set counted (counted _ _ stored) id gift present
  | outside => exact counted id gift present

theorem step_sound (sound : Sound d s) (foreign : NotSelfPaid Call.payer d.self action)
    (step : Step d s action after receipt) : Sound d after :=
  ⟨step_solvent sound foreign step, step_recorded sound.recorded step,
    step_counted sound.counted step⟩

end Steps

section Runs

variable (d : Deployment Address)

theorem empty_sound : Sound d State.empty where
  solvent _ := le_refl 0
  recorded id gift present := by simp [State.empty] at present
  counted id gift present := by simp [State.empty] at present

theorem next_counted {s : State Address} (counted : Counted s)
    (action : Action Address (Call Address)) : Counted ((machine d).next s action) := by
  rcases next_cases (d := d) s action with ⟨receipt, _, step⟩ | ⟨_, unchanged⟩
  · exact step_counted counted step
  · rw [unchanged]
    exact counted

theorem run_counted (actions : List (Action Address (Call Address))) :
    Counted ((machine d).final State.empty actions) :=
  Runs.Machine.state_invariant Counted (fun _ _ => True) (empty_sound d).counted
    (fun _ action counted _ => next_counted d counted action) actions (fun _ _ => trivial)

theorem run_recorded (actions : List (Action Address (Call Address))) (id : Nat)
    (gift : GiftRecord Address)
    (stored : ((machine d).final State.empty actions).gifts.get id = some gift) :
    Recorded gift := by
  refine Runs.Machine.state_invariant (m := machine d)
    (fun s => ∀ id gift, s.gifts.get id = some gift → Recorded gift) (fun _ _ => True)
    (empty_sound d).recorded ?_ actions (fun _ _ => trivial) id gift stored
  intro s action recorded _
  rcases next_cases (d := d) s action with ⟨receipt, _, step⟩ | ⟨_, unchanged⟩
  · exact step_recorded recorded step
  · rw [unchanged]
    exact recorded

theorem next_sound (s : State Address) (action : Action Address (Call Address)) (sound : Sound d s)
    (foreign : NotSelfPaid Call.payer d.self action) : Sound d ((machine d).next s action) := by
  rcases next_cases (d := d) s action with ⟨receipt, _, step⟩ | ⟨_, unchanged⟩
  · exact step_sound sound foreign step
  · rw [unchanged]
    exact sound

theorem run_sound (actions : List (Action Address (Call Address)))
    (foreign : ∀ action ∈ actions, NotSelfPaid Call.payer d.self action) :
    Sound d ((machine d).final State.empty actions) :=
  Runs.Machine.state_invariant (Sound d) (fun _ action => NotSelfPaid Call.payer d.self action)
    (empty_sound d) (next_sound d) actions (Runs.Machine.met_of_calls foreign)

variable {d} {s : State Address} {env : Env Address}

theorem assertOpenAndUnexpired_ne_token {gift : GiftRecord Address} {refusal : Refusal} :
    assertOpenAndUnexpired env gift ≠ .error (.token refusal) :=
  bind_ne_error panicIf_ne_token fun _ _ => panicIf_ne_token

theorem getGift_ne_token {id : Nat} {refusal : Refusal} :
    getGift s id ≠ .error (.token refusal) := by
  unfold getGift required
  split <;> simp

theorem checkCondition_ne_token {gift : GiftRecord Address} {answer : Option (List UInt8)}
    {refusal : Refusal} : checkCondition d gift answer ≠ .error (.token refusal) := by
  unfold checkCondition
  split
  · simp
  · split
    · exact panicIf_ne_token
    · simp
  · exact panicIf_ne_token

theorem Sound.covers (sound : Sound d s) {id : Nat} {gift : GiftRecord Address}
    (stored : s.gifts.get id = some gift) (isOpen : gift.status = .open) :
    gift.totalAmount.value ≤ s.balances gift.token d.self := by
  calc
    gift.totalAmount.value = openAmount gift.token gift := by
      rw [openAmount_open isOpen, if_pos rfl]
    _ ≤ s.escrowed gift.token := openAmount_le_escrowed sound.recorded stored gift.token
    _ ≤ s.balances gift.token d.self := sound.solvent gift.token

theorem claim_funded (sound : Sound d s) (giftId : Nat) (claimant : Address)
    (answer : Option (List UInt8)) :
    claim d env s giftId claimant answer ≠ .error (.token .insufficient) := by
  apply bind_ne_error requireAuth_ne_token
  intro _ _
  apply bind_ne_error getGift_ne_token
  intro gift stored
  apply bind_ne_error panicIf_ne_token
  intro _ _
  apply bind_ne_error assertOpenAndUnexpired_ne_token
  intro _ live
  apply bind_ne_error checkCondition_ne_token
  intro _ _
  have isOpen := (assertOpenAndUnexpired_eq_ok.mp live).1
  have enough := sound.covers (getGift_eq_ok.mp stored) isOpen
  exact bind_ne_error (tokenTransfer_ne_insufficient enough) fun _ _ => by simp [pure, Except.pure]

theorem refund_funded (sound : Sound d s) (giftId : Nat) (caller : Address) :
    refund d env s giftId caller ≠ .error (.token .insufficient) := by
  apply bind_ne_error requireAuth_ne_token
  intro _ _
  apply bind_ne_error getGift_ne_token
  intro gift stored
  apply bind_ne_error panicIf_ne_token
  intro _ _
  apply bind_ne_error panicIf_ne_token
  intro _ notClosed
  apply bind_ne_error panicIf_ne_token
  intro _ _
  have isOpen := not_not.mp (panicIf_eq_ok.mp notClosed)
  have recorded := sound.recorded giftId gift (getGift_eq_ok.mp stored)
  have enough := sound.covers (getGift_eq_ok.mp stored) isOpen
  rw [recorded.total, ← refunds_sum d gift] at enough
  exact bind_ne_error (tokenPayAll_ne_insufficient (refunds_out d recorded) enough)
    fun _ _ => by simp [pure, Except.pure]

/-- In every reachable state the balances cover the open gifts, the records add up, and
neither payout can run short. -/
theorem escrow_solvency (d : Deployment Address) (actions : List (Action Address (Call Address)))
    (foreign : ∀ action ∈ actions, NotSelfPaid Call.payer d.self action) :
    let s := (machine d).final State.empty actions
    (∀ token, s.escrowed token ≤ s.balances token d.self) ∧
    (∀ id gift, s.gifts.get id = some gift → Recorded gift) ∧
    (∀ env giftId claimant answer,
      claim d env s giftId claimant answer ≠ .error (.token .insufficient)) ∧
    (∀ env giftId caller, refund d env s giftId caller ≠ .error (.token .insufficient)) := by
  have sound := run_sound d actions foreign
  refine ⟨sound.solvent, sound.recorded, ?_, ?_⟩
  · intro env giftId claimant answer
    exact claim_funded sound giftId claimant answer
  · intro env giftId caller
    exact refund_funded sound giftId caller

def sampleDeployment : Deployment Nat := ⟨0, fun _ => BytesN.ofNat 32 0⟩

def sampleEnv (timestamp : Nat) : Env Nat := ⟨fun who => decide (who ≠ 0), timestamp, fun _ => false⟩

def sampleAmount : I128 := ⟨100, by decide, by decide⟩

def sampleFunding : List (Action Nat (Call Nat)) :=
  [.outside 9 1 500, .outside 9 3 50,
    .invoke (sampleEnv 10) (.createGift 1 2 9 sampleAmount 1000 .none 1
      (BytesN.ofNat 32 0)),
    .invoke (sampleEnv 20) (.contribute 3 1 ⟨40, by decide, by decide⟩)]

theorem sampleFunding_foreign :
    ∀ action ∈ sampleFunding, NotSelfPaid Call.payer sampleDeployment.self action := by
  simp [sampleFunding, NotSelfPaid, Call.payer, sampleDeployment]

theorem escrow_solvency_sample :
    let s := (machine sampleDeployment).final State.empty sampleFunding
    (∀ token, s.escrowed token ≤ s.balances token 0) ∧
    (∀ id gift, s.gifts.get id = some gift → Recorded gift) ∧
    (∀ env giftId claimant answer,
      claim sampleDeployment env s giftId claimant answer ≠ .error (.token .insufficient)) ∧
    (∀ env giftId caller,
      refund sampleDeployment env s giftId caller ≠ .error (.token .insufficient)) :=
  escrow_solvency sampleDeployment sampleFunding sampleFunding_foreign

end Runs

end Giffy.Escrow
