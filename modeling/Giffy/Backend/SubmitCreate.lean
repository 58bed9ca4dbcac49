import Giffy.Backend.OneGift

/-! Submitting a create transaction that comes back from the client: what the network runs,
and what the document then points to. -/

namespace Giffy.Backend

open Chain

section Creations

variable {Address : Type} [LT Address]

def createdBy (id : Nat) (entry : Escrow.Entry Address) : Option (CreateArgs Address) :=
  match entry.call, entry.outcome with
  | .invoke _ (.createGift sender receiver token initialAmount expiresAt condition stepUnlocker
      messageHash), .ok receipt =>
      if receipt.giftId = some id then
        some ⟨sender, receiver, token, initialAmount, expiresAt, condition, stepUnlocker,
          messageHash⟩
      else none
  | _, _ => none

def creation (id : Nat) (past : List (Escrow.Entry Address)) : Option (CreateArgs Address) :=
  past.findSome? (createdBy id)

theorem creation_append (id : Nat) (past : List (Escrow.Entry Address))
    (entry : Escrow.Entry Address) :
    creation id (past ++ [entry]) = (creation id past).or (createdBy id entry) := by
  simp [creation, List.findSome?_append]

structure Carries (record : Escrow.GiftRecord Address) (args : CreateArgs Address) : Prop where
  sender : record.sender = args.sender
  receiver : record.receiver = args.receiver
  token : record.token = args.token
  expiresAt : record.expiresAt = args.expiresAt
  condition : record.condition = args.condition

structure Written (past : List (Escrow.Entry Address)) (s : Escrow.State Address) : Prop where
  stored : ∀ id record, s.gifts.get id = some record →
    ∃ args, creation id past = some args ∧ Carries record args
  absent : ∀ id, s.gifts.get id = none → creation id past = none

end Creations

section Records

variable {Address : Type} [LinearOrder Address] {d : Escrow.Deployment Address}
  {past : List (Escrow.Entry Address)} {entry : Escrow.Entry Address}
  {s after : Escrow.State Address} {receipt : Escrow.Receipt Address}
  {action : Action Address (Escrow.Call Address)}

theorem Written.unchanged (written : Written past s) (silent : ∀ id, createdBy id entry = none)
    (same : after.gifts = s.gifts) : Written (past ++ [entry]) after := by
  constructor
  · intro id record stored
    rw [same] at stored
    rcases written.stored id record stored with ⟨args, made, carries⟩
    exact ⟨args, by rw [creation_append, made, Option.some_or], carries⟩
  · intro id missing
    rw [same] at missing
    rw [creation_append, written.absent id missing, silent, Option.none_or]

theorem Written.replaced (written : Written past s) (silent : ∀ id, createdBy id entry = none)
    {giftId : Nat} {old new : Escrow.GiftRecord Address} (found : s.gifts.get giftId = some old)
    (same : after.gifts = s.gifts.set giftId new)
    (kept : ∀ args, Carries old args → Carries new args) : Written (past ++ [entry]) after := by
  constructor
  · intro id record stored
    rw [same, SortedMap.get_set] at stored
    rw [creation_append, silent, Option.or_none]
    split at stored
    next here =>
      cases stored
      rcases written.stored giftId old found with ⟨args, made, carries⟩
      exact ⟨args, here ▸ made, kept args carries⟩
    next => exact written.stored id record stored
  · intro id missing
    rw [same, SortedMap.get_set] at missing
    rw [creation_append, silent, Option.or_none]
    split at missing
    next => cases missing
    next => exact written.absent id missing

theorem step_written (counted : Escrow.Counted s) (written : Written past s)
    (step : Escrow.Step d s action after receipt) :
    Written (past ++ [⟨s, action, .ok receipt⟩]) after := by
  cases step with
  | @created env sender receiver token amount expiresAt condition unlocker hash giftId gift payment
      authorized positive unexpired next record paid =>
      subst record
      have unmade := written.absent giftId (counted.fresh next)
      constructor
      · intro id record stored
        rw [SortedMap.get_set] at stored
        rw [creation_append]
        split at stored
        next here =>
          subst here
          cases stored
          rw [unmade, Option.none_or]
          exact ⟨⟨sender, receiver, token, amount, expiresAt, condition, unlocker, hash⟩,
            by simp [createdBy], rfl, rfl, rfl, rfl, rfl⟩
        next =>
          rcases written.stored id record stored with ⟨args, made, carries⟩
          exact ⟨args, by rw [made, Option.some_or], carries⟩
      · intro id missing
        rw [SortedMap.get_set] at missing
        split at missing
        next => cases missing
        next different =>
          rw [creation_append, written.absent id missing]
          simp [createdBy, different]
  | contributed _ _ found =>
      exact written.replaced (fun _ => rfl) found rfl fun _ carries => { carries with }
  | unlocked _ found =>
      exact written.replaced (fun _ => rfl) found rfl fun _ carries => { carries with }
  | claimed _ found =>
      exact written.replaced (fun _ => rfl) found rfl fun _ carries => { carries with }
  | refunded _ found =>
      exact written.replaced (fun _ => rfl) found rfl fun _ carries => { carries with }
  | outside => exact written.unchanged (fun _ => rfl) rfl

theorem next_written (counted : Escrow.Counted s) (written : Written past s)
    (action : Action Address (Escrow.Call Address)) :
    Written (past ++ [(Escrow.machine d).record s action]) ((Escrow.machine d).next s action) := by
  rcases Escrow.next_cases (d := d) s action with ⟨receipt, ran, step⟩ | ⟨⟨trap, failed⟩, same⟩
  · rw [Runs.Machine.record, ran]
    exact step_written counted written step
  · rw [Runs.Machine.record, failed]
    apply written.unchanged _ (congrArg Escrow.State.gifts same)
    intro id
    cases action with
    | outside => rfl
    | invoke env call => cases call <;> rfl

theorem run_written (d : Escrow.Deployment Address)
    (actions : List (Action Address (Escrow.Call Address))) :
    Escrow.Counted ((Escrow.machine d).final Escrow.State.empty actions) ∧
      Written ((Escrow.machine d).trace Escrow.State.empty actions)
        ((Escrow.machine d).final Escrow.State.empty actions) := by
  apply Runs.Machine.run_invariant (fun past s => Escrow.Counted s ∧ Written past s)
    (fun _ _ => True)
  · refine ⟨(Escrow.empty_sound d).counted, ?_, fun _ _ => rfl⟩
    intro id record stored
    simp [Escrow.State.empty] at stored
  · intro past s action holds _
    exact ⟨Escrow.next_counted d holds.1 action, next_written holds.1 holds.2 action⟩
  · intro _ _
    trivial

theorem creation_stored {actions : List (Action Address (Escrow.Call Address))} {id : Nat}
    {made : CreateArgs Address}
    (created : creation id ((Escrow.machine d).trace Escrow.State.empty actions) = some made) :
    ∃ record, ((Escrow.machine d).final Escrow.State.empty actions).gifts.get id = some record ∧
      Carries record made := by
  have written := (run_written d actions).2
  cases found : ((Escrow.machine d).final Escrow.State.empty actions).gifts.get id with
  | none =>
      rw [written.absent id found] at created
      cases created
  | some record =>
      rcases written.stored id record found with ⟨args, same, carries⟩
      cases created.symm.trans same
      exact ⟨record, rfl, carries⟩

theorem direct_creation {earlier : List (Action Address (Escrow.Call Address))}
    (later : List (Action Address (Escrow.Call Address))) {env : Env Address}
    {args : CreateArgs Address} {receipt : Escrow.Receipt Address}
    (ran : (Escrow.machine d).outcome ((Escrow.machine d).final Escrow.State.empty earlier)
      (.invoke env args.call) = .ok receipt) :
    ∃ id, receipt.giftId = some id ∧
      creation id ((Escrow.machine d).trace Escrow.State.empty
        (earlier ++ .invoke env args.call :: later)) = some args := by
  have accepted : Escrow.exec d ((Escrow.machine d).final Escrow.State.empty earlier)
      (.invoke env args.call) = .ok (_, receipt) := Runs.Machine.outcome_eq_ok.mp ran
  have step := Escrow.exec_step accepted
  rcases run_written d earlier with ⟨counted, written⟩
  generalize (Escrow.machine d).next _ (.invoke env args.call) = after at step
  have shape : args.call = .createGift args.sender args.receiver args.token args.initialAmount
    args.expiresAt args.condition args.stepUnlocker args.messageHash := rfl
  rw [shape] at step
  cases step with
  | @created _ _ _ _ _ _ _ _ _ id _ _ _ _ _ next =>
      refine ⟨id, rfl, ?_⟩
      have unmade := written.absent id (counted.fresh next)
      rw [creation] at unmade ⊢
      rw [Runs.Machine.trace_append, Runs.Machine.trace_cons, List.findSome?_append, unmade,
        Option.none_or, List.findSome?_cons, Runs.Machine.record, ran]
      simp [createdBy, CreateArgs.call]

end Records

section Service

variable {Address : Type}

/-- What the network runs of a signed transaction: a direct call of `create_gift`, or any other
operation, with its effects on the escrow and `String(_)` of the value it returns. -/
inductive Signed (Address : Type)
  | createGift (env : Env Address) (args : CreateArgs Address)
  | other (effects : List (Action Address (Escrow.Call Address))) (returned : Option Text)

def Signed.effects : Signed Address → List (Action Address (Escrow.Call Address))
  | .createGift env args => [.invoke env args.call]
  | .other effects _ => effects

structure Links where
  claimLinkBaseUrl : Text
  contributeLinkBaseUrl : Text

/-- `_.replace(/\/+$/, '')` -/
def withoutSlashes (base : Text) : Text := base.rdropWhile (· = '/')

def buildClaimUrl (links : Links) (rawToken : Text) : Text :=
  withoutSlashes links.claimLinkBaseUrl ++ '/' :: rawToken

def buildQrPayload (claimUrl : Text) : Text := claimUrl

def buildContributeUrl (links : Links) (giftId : Text) : Text :=
  withoutSlashes links.contributeLinkBaseUrl ++ '/' :: giftId ++ "/contribute".toList

def hashClaimToken (rt : Runtime) (rawToken : Text) : Text :=
  Hex.encode (rt.sha256 (utf8 rawToken)).data

structure SubmittedGift where
  claimUrl : Text
  qrPayload : Text
  contributeUrl : Option Text
  contractGiftId : Text
  txHash : Text
  status : String

inductive SubmitFailure
  | service (error : ServiceError)
  | chain (error : SubmitError)
  | database

variable [LinearOrder Address]

def Signed.returns (d : Escrow.Deployment Address) (s : Escrow.State Address) :
    Signed Address → Option (Option Text)
  | .createGift env args =>
      match (Escrow.machine d).outcome s (.invoke env args.call) with
      | .ok receipt => some (receipt.giftId.map Decimal.ofNat)
      | .error _ => none
  | .other _ returned => some returned

/-- One call of the service with a transaction of the client's choice: the document, the
answers of the RPC server, and the escrow's history before the transaction and from it to the
save. No other request writes the document meanwhile. -/
structure SubmitRun (p : Platform Address) where
  giftId : Text
  gift : GiftDocument
  signed : Signed Address
  answers : RpcAnswers Text
  hash : Text
  rawToken : Text
  now : Instant
  /-- whether the database takes this id; the unique index turns down one in use -/
  saves : Text → Bool
  earlier : List (Action Address (Escrow.Call Address))
  later : List (Action Address (Escrow.Call Address))
  genuine : ∀ i returned, answers.poll i = some (.success returned) →
    signed.returns p.escrow ((Escrow.machine p.escrow).final Escrow.State.empty earlier) =
      some returned

/-- `String(_)` of a return value that may be absent. -/
def returnText (returned : Option Text) : Text := returned.getD "undefined".toList

variable {p : Platform Address}

def SubmitRun.ledger (run : SubmitRun p) : List (Action Address (Escrow.Call Address)) :=
  run.earlier ++ run.signed.effects ++ run.later

def submitCreateTransaction (timeout : Nat) (links : Links) (run : SubmitRun p) :
    Except SubmitFailure SubmittedGift × GiftDocument :=
  if run.gift.status ≠ .pendingChain then
    (.error (.service (.giftNotDraft (if run.gift.status = .draft then
      "This gift has no built transaction to submit yet."
      else "This gift is already " ++ statusText run.gift.status ++ "."))), run.gift)
  else
    match submitSignedInvocation run.answers timeout with
    | .error failure => (.error (.chain failure), run.gift)
    | .ok returnValue =>
        let contractGiftId := returnText returnValue
        let claimUrl := buildClaimUrl links run.rawToken
        if run.saves contractGiftId then
          (.ok ⟨claimUrl, buildQrPayload claimUrl,
              if run.gift.isGroupGift then some (buildContributeUrl links run.giftId) else none,
              contractGiftId, run.hash, statusText .active⟩,
            savedSubmit run.gift run.gift contractGiftId run.hash
              (hashClaimToken p.rt run.rawToken) run.now)
        else (.error .database, run.gift)

def encoded (p : Platform Address) (gift : GiftDocument) : Option (CreateArgs Address) :=
  match buildCreateGiftTx p.sdk (createGiftParams p.rt gift) with
  | .ok built => readCreateArgs p.address built.args
  | .error _ => none

def Describes (p : Platform Address) (ledger : List (Action Address (Escrow.Call Address)))
    (contractGiftId : Option Text) (asked : CreateArgs Address) : Prop :=
  ∃ id record made, contractGiftId = some (Decimal.ofNat id) ∧
    ((Escrow.machine p.escrow).final Escrow.State.empty ledger).gifts.get id = some record ∧
    Carries record asked ∧
    creation id ((Escrow.machine p.escrow).trace Escrow.State.empty ledger) = some made ∧
    made.initialAmount = asked.initialAmount

/-- A call that sets the document to active leaves it describing its escrow record, and any
other call leaves it unchanged. -/
def ActiveDescribes (timeout : Nat) (links : Links) (run : SubmitRun p) : Prop :=
  let after := (submitCreateTransaction timeout links run).2
  (run.gift.status ≠ .active ∧ after.status = .active →
    ∃ asked, encoded p run.gift = some asked ∧ Describes p run.ledger after.contractGiftId asked) ∧
  (¬(run.gift.status ≠ .active ∧ after.status = .active) → after = run.gift)

structure CreateArgs.Agrees (args asked : CreateArgs Address) : Prop where
  sender : args.sender = asked.sender
  receiver : args.receiver = asked.receiver
  token : args.token = asked.token
  initialAmount : args.initialAmount = asked.initialAmount
  expiresAt : args.expiresAt = asked.expiresAt
  condition : args.condition = asked.condition

/-- The transaction creates a gift with the document's terms, or returns the id of one. -/
def Conveys (run : SubmitRun p) : Prop :=
  ∃ asked, encoded p run.gift = some asked ∧
    match run.signed with
    | .createGift _ args => args.Agrees asked
    | .other _ returned => ∃ id made, returnText returned = Decimal.ofNat id ∧
        creation id ((Escrow.machine p.escrow).trace Escrow.State.empty run.ledger) = some made ∧
        made.Agrees asked

/-- The document was pending, the success was seen in time and the save was taken. -/
structure Confirmed (timeout : Nat) (run : SubmitRun p) (returned : Option Text) : Prop where
  pending : run.gift.status = .pendingChain
  accepted : Accepted run.answers
  observed : Observed run.answers timeout returned
  saved : run.saves (returnText returned) = true

variable {timeout : Nat} {links : Links} {run : SubmitRun p} {returned : Option Text}

theorem Confirmed.after (confirmed : Confirmed timeout run returned) :
    (submitCreateTransaction timeout links run).2 =
      savedSubmit run.gift run.gift (returnText returned) run.hash
        (hashClaimToken p.rt run.rawToken) run.now := by
  have pending : ¬run.gift.status ≠ .pendingChain := not_not.mpr confirmed.pending
  have submitted := submitSignedInvocation_eq_ok.mpr ⟨confirmed.accepted, confirmed.observed⟩
  rw [submitCreateTransaction, if_neg pending, submitted]
  simp only [confirmed.saved, if_true]

theorem unconfirmed_after (unconfirmed : ∀ returned, ¬Confirmed timeout run returned)
    (links : Links) :
    (submitCreateTransaction timeout links run).2 = run.gift := by
  unfold submitCreateTransaction
  split
  next => rfl
  next pending =>
    split
    next => rfl
    next returned submitted =>
      rcases submitSignedInvocation_eq_ok.mp submitted with ⟨accepted, observed⟩
      have refused : ¬run.saves (returnText returned) = true := fun saved =>
        unconfirmed returned ⟨not_not.mp pending, accepted, observed, saved⟩
      simp only [refused]
      rfl

theorem savedPath_self (read : Option Text) (value : Text) :
    savedPath read read value = some value := by
  unfold savedPath
  split
  next same => exact same
  next => rfl

theorem Confirmed.named (confirmed : Confirmed timeout run returned) (links : Links) :
    (submitCreateTransaction timeout links run).2.contractGiftId = some (returnText returned) := by
  rw [confirmed.after]
  exact savedPath_self _ _

theorem Confirmed.returned_eq (confirmed : Confirmed timeout run returned) :
    run.signed.returns p.escrow
      ((Escrow.machine p.escrow).final Escrow.State.empty run.earlier) = some returned := by
  rcases confirmed.observed with ⟨i, seen, _⟩
  exact run.genuine i returned seen

theorem Confirmed.direct (confirmed : Confirmed timeout run returned) {env : Env Address}
    {args : CreateArgs Address} (direct : run.signed = .createGift env args) :
    ∃ id, returnText returned = Decimal.ofNat id ∧
      creation id ((Escrow.machine p.escrow).trace Escrow.State.empty run.ledger) = some args := by
  have returns := confirmed.returned_eq
  rw [direct, Signed.returns] at returns
  split at returns
  next receipt ran =>
    rcases direct_creation run.later ran with ⟨id, named, created⟩
    rw [named] at returns
    cases returns
    refine ⟨id, rfl, ?_⟩
    rw [SubmitRun.ledger, direct, Signed.effects, List.append_assoc]
    exact created
  next => cases returns

/-- For a confirmed call the document describes its record exactly when the transaction
conveys the document's terms. -/
theorem Confirmed.describes_iff (confirmed : Confirmed timeout run returned) :
    (∃ asked, encoded p run.gift = some asked ∧
      Describes p run.ledger (some (returnText returned)) asked) ↔ Conveys run := by
  have terms : ∀ {id : Nat} {made asked : CreateArgs Address},
      creation id ((Escrow.machine p.escrow).trace Escrow.State.empty run.ledger) = some made →
      returnText returned = Decimal.ofNat id →
      (Describes p run.ledger (some (returnText returned)) asked ↔ made.Agrees asked) := by
    intro id made asked created named
    rcases creation_stored created with ⟨record, stored, carries⟩
    constructor
    · intro describes
      rcases describes with ⟨other, found, opened, same, present, agrees, first, amount⟩
      rw [named, Option.some.injEq] at same
      cases Decimal.ofNat_injective same
      cases stored.symm.trans present
      cases created.symm.trans first
      exact ⟨carries.sender.symm.trans agrees.sender, carries.receiver.symm.trans agrees.receiver,
        carries.token.symm.trans agrees.token, amount, carries.expiresAt.symm.trans agrees.expiresAt,
        carries.condition.symm.trans agrees.condition⟩
    · intro agrees
      refine ⟨id, record, made, congrArg some named, stored, ?_, created, agrees.initialAmount⟩
      exact ⟨carries.sender.trans agrees.sender, carries.receiver.trans agrees.receiver,
        carries.token.trans agrees.token, carries.expiresAt.trans agrees.expiresAt,
        carries.condition.trans agrees.condition⟩
  cases signed : run.signed with
  | createGift env args =>
      rcases confirmed.direct signed with ⟨id, named, created⟩
      simp only [Conveys, signed]
      constructor
      · intro active
        rcases active with ⟨asked, read, describes⟩
        exact ⟨asked, read, (terms created named).mp describes⟩
      · intro active
        rcases active with ⟨asked, read, agrees⟩
        exact ⟨asked, read, (terms created named).mpr agrees⟩
  | other effects value =>
      have same := confirmed.returned_eq
      rw [signed, Signed.returns, Option.some.injEq] at same
      simp only [Conveys, signed, same]
      constructor
      · intro active
        rcases active with ⟨asked, read, describes⟩
        have described := describes
        rcases described with ⟨id, _, made, found, _, _, created, _⟩
        have named := Option.some.inj found
        exact ⟨asked, read, id, made, named, created, (terms created named).mp describes⟩
      · intro direct
        rcases direct with ⟨asked, read, id, made, named, created, agrees⟩
        exact ⟨asked, read, (terms created named).mpr agrees⟩

/-- A call keeps the document in step with the escrow exactly when it is not confirmed, or the
transaction is a direct creation with the document's terms, or another one that returns the id
of a gift with these terms. -/
theorem active_describes_iff (p : Platform Address) (timeout : Nat) (links : Links)
    (run : SubmitRun p) :
    ActiveDescribes timeout links run ↔
      ∀ returned, Confirmed timeout run returned → Conveys run := by
  constructor
  · intro describes returned confirmed
    apply confirmed.describes_iff.mp
    rw [← confirmed.named links]
    apply describes.1
    constructor
    · rw [confirmed.pending]
      simp
    · rw [confirmed.after]
      rfl
  · intro conveys
    by_cases confirmed : ∃ returned, Confirmed timeout run returned
    · rcases confirmed with ⟨returned, confirmed⟩
      have active : (submitCreateTransaction timeout links run).2.status = .active := by
        rw [confirmed.after]
        rfl
      constructor
      · intro _
        rw [confirmed.named links]
        exact confirmed.describes_iff.mpr (conveys returned confirmed)
      · intro inactive
        refine absurd ⟨?_, active⟩ inactive
        rw [confirmed.pending]
        simp
    · have same := unconfirmed_after (not_exists.mp confirmed) links
      constructor
      · intro activated
        rw [same] at activated
        exact absurd activated.2 activated.1
      · intro _
        exact same

end Service

section Samples

def sampleLinks : Links := ⟨"https://giffy.app/claim/".toList, "https://giffy.app/contribute".toList⟩

def sampleAnswers (returned : Option Text) : RpcAnswers Text :=
  .steady .pending (.success returned)

def samplePending : GiftDocument := { sampleDraft with status := .pendingChain }

def forgedArgs : CreateArgs Nat :=
  ⟨1, 1, 9, ⟨1, by decide, by decide⟩, 3600, .none, 1, BytesN.ofNat 32 0⟩

def sampleNow : Instant := ⟨5000, by decide⟩

def forgedRun : SubmitRun samplePlatform where
  giftId := []
  gift := samplePending
  signed := .createGift (Escrow.sampleEnv 5) forgedArgs
  answers := sampleAnswers (some (Decimal.ofNat 1))
  hash := []
  rawToken := []
  now := sampleNow
  saves _ := true
  earlier := samplePast
  later := []
  genuine i returned seen := by
    cases seen
    decide +kernel

/-- Account 1 sends a payment, which returns nothing and never meets the escrow. -/
def paymentRun : SubmitRun samplePlatform where
  giftId := []
  gift := samplePending
  signed := .other [] none
  answers := sampleAnswers none
  hash := []
  rawToken := []
  now := sampleNow
  saves _ := true
  earlier := samplePast
  later := []
  genuine i returned seen := by
    cases seen
    rfl

theorem sample_confirmed {run : SubmitRun samplePlatform} {returned : Option Text}
    (gift : run.gift = samplePending) (answers : run.answers = sampleAnswers returned)
    (saves : run.saves (returnText returned) = true) : Confirmed 30000 run returned := by
  refine ⟨gift ▸ rfl, ?_, ?_, saves⟩
  · rw [answers]
    refine ⟨.pending, rfl, ?_⟩
    intro code same
    cases same
  · rw [answers]
    refine ⟨0, rfl, ?_⟩
    intro i below
    cases below

/-- Both transactions make the document active: one with the id of a gift of one unit to the
sender, the other with an id that is no number at all. -/
theorem forged_transaction_activates :
    ((submitCreateTransaction 30000 sampleLinks forgedRun).2.status = .active ∧
      (submitCreateTransaction 30000 sampleLinks forgedRun).2.contractGiftId =
        some (Decimal.ofNat 1) ∧
      ¬ActiveDescribes 30000 sampleLinks forgedRun) ∧
    (submitCreateTransaction 30000 sampleLinks paymentRun).2.status = .active ∧
      (submitCreateTransaction 30000 sampleLinks paymentRun).2.contractGiftId =
        some "undefined".toList ∧
      ¬ActiveDescribes 30000 sampleLinks paymentRun := by
  have forged : Confirmed 30000 forgedRun (some (Decimal.ofNat 1)) := sample_confirmed rfl rfl rfl
  have payment : Confirmed 30000 paymentRun none := sample_confirmed rfl rfl rfl
  have activates : ∀ {run : SubmitRun samplePlatform} {returned : Option Text},
      Confirmed 30000 run returned →
        (submitCreateTransaction 30000 sampleLinks run).2.status = .active := by
    intro run returned confirmed
    rw [confirmed.after]
    rfl
  have unkept : ∀ {run : SubmitRun samplePlatform} {returned : Option Text},
      Confirmed 30000 run returned → ¬Conveys run → ¬ActiveDescribes 30000 sampleLinks run := by
    intro run returned confirmed other describes
    apply other
    apply confirmed.describes_iff.mp
    rw [← confirmed.named sampleLinks]
    refine describes.1 ⟨?_, activates confirmed⟩
    rw [confirmed.pending]
    simp
  refine ⟨⟨activates forged, forged.named _, unkept forged ?_⟩, activates payment, payment.named _,
    unkept payment ?_⟩
  · intro active
    rcases active with ⟨asked, read, agrees⟩
    have receiver : (encoded samplePlatform samplePending).map CreateArgs.receiver = some 2 := by
      decide +kernel
    rw [show encoded samplePlatform samplePending = some asked from read, Option.map_some,
      ← agrees.receiver] at receiver
    cases receiver
  · intro direct
    rcases direct with ⟨asked, _, id, made, _, created, _⟩
    cases created

end Samples

end Giffy.Backend
