import Giffy.Escrow.Finality

/-! When a claim succeeds, told by the history of the run. -/

namespace Giffy.Escrow

open TokenLedger

variable {Address : Type} [LinearOrder Address]

section Definitions

def unlocks (id : Nat) (entry : Entry Address) : Bool :=
  match entry.call, entry.outcome with
  | .invoke _ (.unlockStep _ giftId), .ok _ => giftId = id
  | _, _ => false

def SignedBy (who : Address) (entry : Entry Address) : Prop :=
  match entry.call with
  | .invoke env (.unlockStep unlocker _) => unlocker = who ∧ env.authorized who = true
  | _ => False

variable (d : Deployment Address) (past : List (Entry Address)) (env : Env Address) (id : Nat)
  (gift : GiftRecord Address) (claimant : Address) (answer : Option (List UInt8))

def ConditionMet : Prop :=
  match gift.condition with
  | .none => True
  | .answerHash expected => ∃ provided, answer = some provided ∧ d.sha256 provided = expected
  | .stepGate total =>
      past.countP (unlocks id) = total ∧
        ∀ entry ∈ past, unlocks id entry = true → SignedBy gift.stepUnlocker entry

structure Due : Prop where
  receiver : claimant = gift.receiver
  authorized : env.authorized claimant = true
  unsettled : ∀ entry ∈ past, settles id entry = false
  unexpired : env.timestamp < gift.expiresAt
  condition : ConditionMet d past id gift answer

structure Passes : Prop where
  authorized : env.authorized claimant = true
  receiver : claimant = gift.receiver
  isOpen : gift.status = .open
  unexpired : env.timestamp < gift.expiresAt
  condition : checkCondition d gift answer = .ok ()

def payout : Transfer Address := ⟨gift.token, d.self, claimant, gift.totalAmount.value⟩

end Definitions

section Unlocking

variable {d : Deployment Address} {past : List (Entry Address)} {s after : State Address}
  {receipt : Receipt Address} {action : Action Address (Call Address)} {id : Nat}
  {gift : GiftRecord Address} {entry : Entry Address}

/-- A record counts the successful unlocks in the history, all of them its unlocker's. -/
structure Unlocked (id : Nat) (past : List (Entry Address)) (gift : GiftRecord Address) :
    Prop where
  counted : past.countP (unlocks id) = gift.stepsCompleted
  signed : ∀ entry ∈ past, unlocks id entry = true → SignedBy gift.stepUnlocker entry

structure Tally (past : List (Entry Address)) (s : State Address) : Prop where
  stored : ∀ id gift, s.gifts.get id = some gift → Unlocked id past gift
  absent : ∀ id, s.gifts.get id = none → past.countP (unlocks id) = 0

theorem unlocks_other (other : concerns entry ≠ some id) : unlocks id entry = false := by
  rcases entry with ⟨s, action, outcome⟩
  rcases action with ⟨env, call⟩ | _
  · cases outcome with
    | error trap => cases call <;> rfl
    | ok receipt => cases call <;> simp_all [concerns, unlocks]
  · rfl

theorem countP_unlocks_skip (silent : unlocks id entry = false) :
    (past ++ [entry]).countP (unlocks id) = past.countP (unlocks id) := by
  simp [List.countP_append, silent]

theorem Unlocked.skip (unlocked : Unlocked id past gift) (silent : unlocks id entry = false)
    {changed : GiftRecord Address} (steps : changed.stepsCompleted = gift.stepsCompleted)
    (unlocker : changed.stepUnlocker = gift.stepUnlocker) :
    Unlocked id (past ++ [entry]) changed where
  counted := by rw [countP_unlocks_skip silent, unlocked.counted, steps]
  signed other member unlocking := by
    rw [unlocker]
    rcases List.mem_append.mp member with earlier | last
    · exact unlocked.signed other earlier unlocking
    · cases List.mem_singleton.mp last
      rw [silent] at unlocking
      cases unlocking

theorem Unlocked.advance (unlocked : Unlocked id past gift) (unlocking : unlocks id entry = true)
    (signed : SignedBy gift.stepUnlocker entry) :
    Unlocked id (past ++ [entry]) { gift with stepsCompleted := gift.stepsCompleted + 1 } where
  counted := by
    rw [List.countP_append, unlocked.counted]
    simp [unlocking]
  signed other member again := by
    rcases List.mem_append.mp member with earlier | last
    · exact unlocked.signed other earlier again
    · cases List.mem_singleton.mp last
      exact signed

theorem step_stored (tally : Tally past s) (counted : Counted s)
    (step : Step d s action after receipt) (present : after.gifts.get id = some gift) :
    Unlocked id (past ++ [⟨s, action, .ok receipt⟩]) gift := by
  by_cases about : concerns ⟨s, action, .ok receipt⟩ = some id
  · cases step with
    | created _ _ _ next record =>
        cases about
        cases (SortedMap.get_set_self ..).symm.trans present
        subst record
        have unused := tally.absent _ (counted.fresh next)
        constructor
        · rw [countP_unlocks_skip rfl, unused]
          rfl
        · intro other member unlocking
          rcases List.mem_append.mp member with earlier | last
          · exact absurd unlocking (List.countP_eq_zero.mp unused other earlier)
          · cases List.mem_singleton.mp last
            cases unlocking
    | contributed _ _ stored | claimed _ stored | refunded _ stored =>
        cases about
        cases (SortedMap.get_set_self ..).symm.trans present
        exact (tally.stored _ _ stored).skip rfl rfl rfl
    | unlocked authorized stored isUnlocker =>
        cases about
        cases (SortedMap.get_set_self ..).symm.trans present
        refine (tally.stored _ _ stored).advance (by simp [unlocks]) ?_
        exact ⟨isUnlocker, isUnlocker ▸ authorized⟩
    | outside => cases about
  · rw [step_frame step about] at present
    exact (tally.stored id gift present).skip (unlocks_other about) rfl rfl

theorem step_absent (tally : Tally past s) (step : Step d s action after receipt)
    (missing : after.gifts.get id = none) :
    (past ++ ([⟨s, action, .ok receipt⟩] : List (Entry Address))).countP (unlocks id) = 0 := by
  by_cases about : concerns ⟨s, action, .ok receipt⟩ = some id
  · cases step with
    | outside => cases about
    | created | contributed | unlocked | claimed | refunded =>
        cases about
        cases (SortedMap.get_set_self ..).symm.trans missing
  · rw [step_frame step about] at missing
    rw [countP_unlocks_skip (unlocks_other about)]
    exact tally.absent id missing

theorem next_tally (tally : Tally past s) (counted : Counted s)
    (action : Action Address (Call Address)) :
    Tally (past ++ [(machine d).record s action]) ((machine d).next s action) := by
  rcases next_cases (d := d) s action with ⟨receipt, ran, step⟩ | ⟨⟨trap, failed⟩, same⟩
  · rw [Runs.Machine.record, ran]
    exact ⟨fun _ _ => step_stored tally counted step, fun _ => step_absent tally step⟩
  · rw [Runs.Machine.record, failed, same]
    have silent : ∀ id, unlocks id (⟨s, action, .error trap⟩ : Entry Address) = false := by
      intro id
      apply unlocks_other
      rw [failed_concerns]
      intro same
      cases same
    constructor
    · intro id gift present
      exact (tally.stored id gift present).skip (silent id) rfl rfl
    · intro id missing
      rw [countP_unlocks_skip (silent id)]
      exact tally.absent id missing

theorem run_tally (d : Deployment Address) (actions : List (Action Address (Call Address))) :
    Tally ((machine d).trace State.empty actions) ((machine d).final State.empty actions) := by
  have start : Tally [] (State.empty : State Address) := by
    constructor
    · intro id gift present
      simp [State.empty] at present
    · intro id missing
      rfl
  have reached := Runs.Machine.run_invariant (m := machine d)
    (fun past s => Counted s ∧ Tally past s) (fun _ _ => True)
    ⟨(empty_sound d).counted, start⟩
    (fun _ _ action holds _ =>
      ⟨next_counted d holds.1 action, next_tally holds.2 holds.1 action⟩)
    actions (fun _ _ => trivial)
  exact reached.2

end Unlocking

section Success

variable {d : Deployment Address} {past : List (Entry Address)} {s : State Address}
  {env : Env Address} {id : Nat} {gift : GiftRecord Address} {claimant : Address}
  {answer : Option (List UInt8)}

theorem claim_ok_iff :
    (∃ receipt, (machine d).outcome s (.invoke env (.claim id claimant answer)) = .ok receipt) ↔
      ∃ gift, s.gifts.get id = some gift ∧ Passes d env gift claimant answer ∧
        gift.totalAmount.value ≤ s.balances gift.token d.self ∧
        env.refuses (payout d gift claimant) = false := by
  have unfolded : (∃ receipt,
      (machine d).outcome s (.invoke env (.claim id claimant answer)) = .ok receipt) ↔
      ∃ result, claim d env s id claimant answer = .ok result := by
    constructor
    · intro succeeds
      rcases succeeds with ⟨receipt, ran⟩
      exact ⟨_, Runs.Machine.outcome_eq_ok.mp ran⟩
    · intro succeeds
      rcases succeeds with ⟨⟨after, receipt⟩, ran⟩
      exact ⟨receipt, Runs.Machine.outcome_of_ok (m := machine d) ran⟩
  rw [unfolded]
  simp only [claim, bind_eq_ok, requireAuth_eq_ok, panicIf_eq_ok, getGift_eq_ok,
    assertOpenAndUnexpired_eq_ok, tokenTransfer_eq_ok, pure_eq_ok, not_not, exists_const, setGift]
  constructor
  · intro claimed
    rcases claimed with ⟨_, authorized, gift, stored, isReceiver, ⟨isOpen, unexpired⟩, _, condition,
      _, ⟨funded, taken, _⟩, _⟩
    exact ⟨gift, stored, ⟨authorized, isReceiver, isOpen, unexpired, condition⟩, funded, taken⟩
  · intro due
    rcases due with ⟨gift, stored, passes, funded, taken⟩
    exact ⟨_, passes.authorized, gift, stored, passes.receiver, ⟨passes.isOpen, passes.unexpired⟩,
      (), passes.condition, _, ⟨funded, taken, rfl⟩, rfl⟩

theorem Matches.open_iff (agrees : Matches id past gift) :
    gift.status = .open ↔ ∀ entry ∈ past, settles id entry = false := by
  have once := agrees.settled
  constructor
  · intro isOpen entry member
    rw [if_pos isOpen] at once
    simpa using List.countP_eq_zero.mp once entry member
  · intro unsettled
    by_contra closed
    rw [if_neg closed] at once
    have never : past.countP (settles id) = 0 :=
      List.countP_eq_zero.mpr fun entry member => by simp [unsettled entry member]
    omega

theorem checkCondition_iff (unlocked : Unlocked id past gift) :
    checkCondition d gift answer = .ok () ↔ ConditionMet d past id gift answer := by
  unfold checkCondition ConditionMet
  cases gift.condition with
  | none => simp
  | answerHash expected => cases answer <;> simp [panicIf_eq_ok]
  | stepGate total =>
      simp only [panicIf_eq_ok, not_not]
      rw [unlocked.counted]
      exact (and_iff_left unlocked.signed).symm

theorem claim_due_iff (sound : Sound d s) (history : History past s) (tally : Tally past s) :
    (∃ receipt, (machine d).outcome s (.invoke env (.claim id claimant answer)) = .ok receipt) ↔
      ∃ gift, s.gifts.get id = some gift ∧ Due d past env id gift claimant answer ∧
        env.refuses (payout d gift claimant) = false := by
  rw [claim_ok_iff]
  constructor
  · intro claimed
    rcases claimed with ⟨gift, stored, passes, _, taken⟩
    have unsettled := (history.stored id gift stored).open_iff.mp passes.isOpen
    have met := (checkCondition_iff (tally.stored id gift stored)).mp passes.condition
    exact ⟨gift, stored, ⟨passes.receiver, passes.authorized, unsettled, passes.unexpired, met⟩,
      taken⟩
  · intro owed
    rcases owed with ⟨gift, stored, due, taken⟩
    have isOpen := (history.stored id gift stored).open_iff.mpr due.unsettled
    have passes := (checkCondition_iff (tally.stored id gift stored)).mpr due.condition
    exact ⟨gift, stored, ⟨due.authorized, due.receiver, isOpen, due.unexpired, passes⟩,
      sound.covers stored isOpen, taken⟩

end Success

/-- In every reachable state a claim succeeds exactly when the gift is due to the claimant
and the token takes the payment, which the escrow can always cover; otherwise it fails and
changes nothing. Steps are never counted past their total. -/
theorem claim_succeeds_iff (d : Deployment Address) (actions : List (Action Address (Call Address)))
    (foreign : ∀ action ∈ actions, NotSelfPaid Call.payer d.self action) (env : Env Address)
    (id : Nat)
    (claimant : Address) (answer : Option (List UInt8)) :
    let s := (machine d).final State.empty actions
    let past := (machine d).trace State.empty actions
    let call : Action Address (Call Address) := .invoke env (.claim id claimant answer)
    let Entitled := ∃ gift, s.gifts.get id = some gift ∧
      Due d past env id gift claimant answer ∧ env.refuses (payout d gift claimant) = false
    ((∃ receipt, (machine d).outcome s call = .ok receipt) ↔ Entitled) ∧
    (¬Entitled → (∃ trap, (machine d).outcome s call = .error trap) ∧
      (machine d).next s call = s) ∧
    ∀ id gift total, s.gifts.get id = some gift → gift.condition = .stepGate total →
      gift.stepsCompleted ≤ total := by
  intro s past call Entitled
  rcases run_history d actions foreign with ⟨sound, history⟩
  have succeeds : (∃ receipt, (machine d).outcome s call = .ok receipt) ↔ Entitled :=
    claim_due_iff sound history (run_tally d actions)
  refine ⟨succeeds, ?_, ?_⟩
  · intro refused
    rcases next_cases (d := d) s call with ⟨receipt, ran, _⟩ | failed
    · exact absurd (succeeds.mp ⟨receipt, ran⟩) refused
    · exact failed
  · intro id gift total stored gated
    exact (run_progress d actions id gift stored).within total gated

def sampleSteps : List (Action Nat (Call Nat)) :=
  [.outside 9 1 500,
    .invoke (sampleEnv 10) (.createGift 1 2 9 sampleAmount 1000 (.stepGate 2) 4
      (BytesN.ofNat 32 0)),
    .invoke (sampleEnv 20) (.unlockStep 4 1), .invoke (sampleEnv 30) (.unlockStep 4 1)]

theorem claim_succeeds_iff_sample :
    let s := (machine sampleDeployment).final State.empty sampleSteps
    let past := (machine sampleDeployment).trace State.empty sampleSteps
    ∃ gift, s.gifts.get 1 = some gift ∧ Due sampleDeployment past (sampleEnv 999) 1 gift 2 none ∧
      gift.stepsCompleted ≤ 2 := by
  have holds := claim_succeeds_iff sampleDeployment sampleSteps
    (by simp [sampleSteps, NotSelfPaid, Call.payer, sampleDeployment]) (sampleEnv 999) 1 2 none
  rcases holds.1.mp ⟨⟨none, [⟨9, 0, 2, 100⟩], [.giftClaimed 1 2]⟩, rfl⟩ with ⟨gift, stored, due, _⟩
  cases stored.symm.trans (show _ = some _ from rfl)
  exact ⟨_, stored, due, holds.2.2 1 _ 2 stored rfl⟩

end Giffy.Escrow
