import Giffy.Backend.ClaimService
import Giffy.Escrow.Claiming

/-! The backend's checks before a claim or a refund beside the contract's own. -/

namespace Giffy.Backend

open Chain

variable {Address : Type}

section Accounts

variable (p : Platform Address)

/-- The contract's reading of `new Address(_).toScVal()`. -/
def Platform.account (key : Text) : Option Address :=
  match p.sdk.address key with
  | some (.address name) => p.address name
  | _ => none

/-- Backend and host hash alike, and public keys name accounts one to one. -/
structure Platform.Agrees : Prop where
  sha256 : p.escrow.sha256 = p.rt.sha256
  distinct : ∀ key other who, p.sdk.isValidEd25519PublicKey key = true →
    p.sdk.isValidEd25519PublicKey other = true → p.account key = some who →
    p.account other = some who → key = other

variable {p}

theorem account_eq_some {key : Text} {who : Address} (found : p.account key = some who) :
    ∃ name, p.sdk.address key = some (.address name) ∧ p.address name = some who := by
  unfold Platform.account at found
  split at found
  next name encoded => exact ⟨name, encoded, found⟩
  next => cases found

theorem readCreateArgs_eq_some {address : Text → Option Address} {sender receiver token unlocker : ScVal}
    {amount : I128} {expiresAt : Nat} {condition : ScVal} {hash : List UInt8}
    {args : CreateArgs Address}
    (read : readCreateArgs address [sender, receiver, token, .i128 amount, .u64 expiresAt, condition,
      unlocker, .bytes hash] = some args) :
    (∃ name, receiver = .address name ∧ address name = some args.receiver) ∧
      args.expiresAt = expiresAt ∧ readCondition condition = some args.condition := by
  unfold readCreateArgs at read
  split at read
  next _ sender' receiver' token' amount' expiresAt' condition' unlocker' hash' same =>
    simp only [List.cons.injEq, ScVal.i128.injEq, ScVal.u64.injEq, and_true] at same
    rcases same with ⟨rfl, rfl, rfl, rfl, rfl, rfl, rfl, _⟩
    simp only [bind, Option.bind_eq_some_iff, pure, Option.some.injEq] at read
    rcases read with ⟨_, _, reader, found, _, _, _, conditioned, _, _, _, _, rfl⟩
    exact ⟨⟨receiver', rfl, found⟩, rfl, conditioned⟩
  next => cases read

theorem encoded_eq_some {gift : GiftDocument} {args : CreateArgs Address}
    (encodes : encoded p gift = some args) :
    p.account gift.receiverPublicKey = some args.receiver ∧
      args.expiresAt = gift.expiresAt.getTime / 1000 ∧
      ∃ condition, encodeCondition (toConditionInput gift) = .ok condition ∧
        readCondition condition = some args.condition := by
  unfold encoded at encodes
  split at encodes
  next built made =>
    simp only [buildCreateGiftTx, createGiftParams, scU64_eq_ok, bind_eq_ok, orThrow_eq_ok,
      pure_eq_ok] at made
    obtain ⟨_, _, receiver, found, _, _, _, _, _, ⟨_, rfl⟩, condition, conditioned, _, _, rfl⟩ :=
      made
    rcases readCreateArgs_eq_some encodes with ⟨⟨name, rfl, known⟩, expires, read⟩
    refine ⟨?_, expires, condition, conditioned, read⟩
    rw [Platform.account, found]
    exact known
  next => cases encodes

end Accounts

section Conditions

variable {rt : Runtime} {gift : GiftDocument} {body : ConditionBody}

def onChainCondition (rt : Runtime) : ConditionBody → Escrow.ClaimCondition
  | .none => .none
  | .trivia _ answer => .answerHash (rt.sha256 (utf8 (normalizeAnswer rt answer)))
  | .stepGate steps _ => .stepGate steps.length

theorem readBytes32_data (b : BytesN 32) : readBytes32 b.data = some b := by
  rw [readBytes32, dif_pos b.width]

theorem encoded_condition (drafted : gift.condition = toStoredCondition rt body) {encoding : ScVal}
    {condition : Escrow.ClaimCondition}
    (encodes : encodeCondition (toConditionInput gift) = .ok encoding)
    (read : readCondition encoding = some condition) : condition = onChainCondition rt body := by
  cases body with
  | none =>
      rw [toConditionInput, drafted] at encodes
      cases encodes
      cases read
      rfl
  | trivia question answer =>
      rw [toConditionInput, drafted] at encodes
      cases encodes
      simp only [readCondition, toStoredCondition, hashAnswer, Option.getD_some, Hex.decode_encode,
        readBytes32_data, Option.map_some, Option.some.injEq] at read
      exact read.symm
  | stepGate steps unlocker =>
      simp only [toConditionInput, drafted, toStoredCondition, encodeCondition, bind_eq_ok,
        scU32_eq_ok, pure_eq_ok, Option.map_some, Option.getD_some] at encodes
      rcases encodes with ⟨_, ⟨_, rfl⟩, rfl⟩
      cases read
      rfl

theorem hashAnswer_eq_iff {raw answer : Text} :
    hashAnswer rt answer = hashAnswer rt raw ↔
      rt.sha256 (utf8 (normalizeAnswer rt raw)) = rt.sha256 (utf8 (normalizeAnswer rt answer)) := by
  constructor
  · intro same
    exact (BytesN.ext (Hex.encode_injective same)).symm
  · intro same
    rw [hashAnswer, hashAnswer, same]

variable [LinearOrder Address]

theorem conditions_agree {d : Escrow.Deployment Address} {record : Escrow.GiftRecord Address}
    (sha256 : d.sha256 = rt.sha256)
    (cached : gift.condition =
      { toStoredCondition rt body with stepsCompleted := record.stepsCompleted })
    (condition : record.condition = onChainCondition rt body)
    (within : ∀ total, record.condition = .stepGate total → record.stepsCompleted ≤ total)
    {rawAnswer : Option Text} (answers : ∀ raw, rawAnswer = some raw → raw ≠ []) :
    Escrow.checkCondition d record ((answerPlaintext rt gift rawAnswer).map bufferFrom) = .ok () ↔
      (gift.condition.type = .trivia → verified rt gift rawAnswer = true) ∧
      (gift.condition.type = .stepGate → totalSteps gift ≤ gift.condition.stepsCompleted) := by
  cases body with
  | none => simp [Escrow.checkCondition, condition, onChainCondition, cached, toStoredCondition]
  | trivia question answer =>
      have isTrivia : gift.condition.type = .trivia := by rw [cached]; rfl
      have hashed : gift.condition.answerHash = some (hashAnswer rt answer) := by rw [cached]; rfl
      simp only [Escrow.checkCondition, condition, onChainCondition, answerPlaintext, isTrivia,
        if_true, forall_const, reduceCtorEq, false_imp_iff, and_true]
      cases rawAnswer with
      | none => simp [verified]
      | some raw =>
          have nonempty := answers raw rfl
          rw [verified_eq_true, hashed]
          simp only [Option.map_some, panicIf_eq_ok, not_not, sha256, Option.some.injEq,
            exists_eq_left', ne_eq, nonempty, not_false_eq_true, true_and, hashAnswer_eq_iff]
          rfl
  | stepGate steps unlocker =>
      have isGate : gift.condition.type = .stepGate := by rw [cached]; rfl
      have total : totalSteps gift = steps.length := by rw [totalSteps, cached]; rfl
      have done : gift.condition.stepsCompleted = record.stepsCompleted := by rw [cached]
      have atMost := within steps.length condition
      simp only [Escrow.checkCondition, condition, onChainCondition, panicIf_eq_ok, not_not, isGate,
        total, done, reduceCtorEq, false_imp_iff, true_and, forall_const]
      omega

end Conditions

section Reconciled

variable [LinearOrder Address]

/-- What no later write changes in the document of a draft that has this id. -/
structure Continues (draft : GiftDocument) (id : Nat) (document : GiftDocument) : Prop where
  receiver : document.receiverPublicKey = draft.receiverPublicKey
  expiresAt : document.expiresAt = draft.expiresAt
  named : document.contractGiftId = some (Decimal.ofNat id)
  condition : document.condition =
    { draft.condition with stepsCompleted := document.condition.stepsCompleted }

theorem savedSubmit_continues (draft : GiftDocument) (id : Nat) (txHash tokenHash : Text)
    (now : Instant) :
    Continues draft id (savedSubmit draft draft (Decimal.ofNat id) txHash tokenHash now) :=
  ⟨rfl, rfl, savedPath_self _ _, rfl⟩

theorem Continues.savedStatus {draft document : GiftDocument} {id : Nat}
    (continues : Continues draft id document) (onChain : Escrow.GiftRecord Address) :
    Continues draft id (savedStatus document onChain) where
  receiver := continues.receiver
  expiresAt := continues.expiresAt
  named := continues.named
  condition := by
    change { document.condition with stepsCompleted := onChain.stepsCompleted } = _
    rw [continues.condition]
    rfl

/-- A draft of a validated body, created on the chain with the arguments built for it and
anything before and after, and its document with the record as it is now. -/
structure CreatedGift (p : Platform Address) (settings : Settings) where
  body : CreateGiftBody
  input : CreateGiftInput
  parsed : createGiftSchema p.sdk settings body = .ok input
  draftedAt : Instant
  token : Text
  draft : GiftDocument
  drafted : createDraft p.rt draftedAt token input = .ok draft
  args : CreateArgs Address
  encodes : encoded p draft = some args
  earlier : List (Action Address (Escrow.Call Address))
  env : Env Address
  receipt : Escrow.Receipt Address
  ran : (Escrow.machine p.escrow).outcome
    ((Escrow.machine p.escrow).final Escrow.State.empty earlier) (.invoke env args.call) =
      .ok receipt
  id : Nat
  returned : receipt.giftId = some id
  later : List (Action Address (Escrow.Call Address))
  record : Escrow.GiftRecord Address
  stored : ((Escrow.machine p.escrow).final Escrow.State.empty
    (earlier ++ .invoke env args.call :: later)).gifts.get id = some record
  document : GiftDocument
  continues : Continues draft id document

variable {p : Platform Address} {settings : Settings} (made : CreatedGift p settings)

def CreatedGift.escrow : Escrow.State Address :=
  (Escrow.machine p.escrow).final Escrow.State.empty
    (made.earlier ++ .invoke made.env made.args.call :: made.later)

def CreatedGift.gift : GiftDocument := savedStatus made.document made.record

/-- The last second before the expiry, where it is not a whole one. -/
def FinalSecond (gift : GiftDocument) (now : Instant) : Prop :=
  gift.expiresAt.getTime / 1000 * 1000 ≤ now.getTime ∧ now.getTime < gift.expiresAt.getTime

theorem CreatedGift.carries : Carries made.record made.args := by
  rcases direct_creation made.later made.ran with ⟨id, named, created⟩
  cases named.symm.trans made.returned
  rcases creation_stored created with ⟨record, stored, carries⟩
  cases stored.symm.trans made.stored
  exact carries

theorem CreatedGift.id_lt : made.id < 2 ^ 64 := by
  have ran : Escrow.createGift p.escrow made.env _ made.args.sender made.args.receiver
      made.args.token made.args.initialAmount made.args.expiresAt made.args.condition
      made.args.stepUnlocker made.args.messageHash = .ok (_, made.receipt) :=
    Runs.Machine.outcome_eq_ok.mp made.ran
  simp only [Escrow.createGift, bind_eq_ok, Escrow.nextGiftId_eq_ok, pure_eq_ok,
    Prod.mk.injEq] at ran
  rcases ran with ⟨_, _, _, _, _, _, _, _, id, ⟨_, fits⟩, _, receipt⟩
  have same : made.receipt.giftId = some id := by rw [← receipt]
  cases same.symm.trans made.returned
  exact fits

theorem CreatedGift.drafted_parts :
    made.draft.receiverPublicKey = made.input.receiverPublicKey ∧
      made.draft.condition = toStoredCondition p.rt made.input.condition := by
  rcases createDraft_eq_ok made.drafted with ⟨_, _, _, _, same⟩
  rw [same]
  exact ⟨rfl, rfl⟩

theorem CreatedGift.condition_eq :
    made.record.condition = onChainCondition p.rt made.input.condition := by
  rcases encoded_eq_some made.encodes with ⟨_, _, encoding, encodes, read⟩
  rw [made.carries.condition]
  exact encoded_condition made.drafted_parts.2 encodes read

theorem CreatedGift.cached_condition :
    made.gift.condition = { toStoredCondition p.rt made.input.condition with
      stepsCompleted := made.record.stepsCompleted } := by
  have kept := (made.continues.savedStatus made.record).condition
  rw [made.drafted_parts.2] at kept
  exact kept

theorem CreatedGift.expiresAt_eq :
    made.record.expiresAt = made.gift.expiresAt.getTime / 1000 := by
  have kept : made.gift.expiresAt = made.draft.expiresAt := made.continues.expiresAt
  rw [made.carries.expiresAt, (encoded_eq_some made.encodes).2.1, kept]

theorem CreatedGift.status_active : made.gift.status = .active ↔ made.record.status = .open := by
  change mapContractStatus made.record.status = .active ↔ _
  cases made.record.status <;> simp [mapContractStatus]

theorem CreatedGift.receiver_iff (agrees : p.Agrees) {key : Text} {claimant : Address}
    (valid : p.sdk.isValidEd25519PublicKey key = true)
    (account : p.account key = some claimant) :
    key = made.gift.receiverPublicKey ↔ claimant = made.record.receiver := by
  have kept : made.gift.receiverPublicKey = made.draft.receiverPublicKey := made.continues.receiver
  have named := (encoded_eq_some made.encodes).1
  rw [← made.carries.receiver, ← kept] at named
  have known : p.sdk.isValidEd25519PublicKey made.gift.receiverPublicKey = true := by
    rw [kept, made.drafted_parts.1]
    exact (createGiftSchema_checked made.parsed).receiver
  constructor
  · intro same
    subst same
    exact Option.some.inj (account.symm.trans named)
  · intro same
    subst same
    exact agrees.distinct _ _ _ valid known account named

end Reconciled

section Agreement

variable [LinearOrder Address] {p : Platform Address} {settings : Settings}

def readClaimArgs (address : Text → Option Address) :
    List ScVal → Option (Nat × Address × Option (List UInt8))
  | [.u64 id, .address claimant, .void] => (address claimant).map fun who => (id, who, none)
  | [.u64 id, .address claimant, .bytes answer] =>
      (address claimant).map fun who => (id, who, some answer)
  | _ => none

theorem bigInt_ofNat (id : Nat) : bigInt (some (Decimal.ofNat id)) = .ok id := by
  rw [bigInt, if_pos (Decimal.isRun_ofNat id), Decimal.natural_ofNat]

theorem truthy_ofNat (id : Nat) : truthy (some (Decimal.ofNat id)) = true :=
  decide_eq_true Nat.toDigits_ne_nil

variable (made : CreatedGift p settings) {key : Text} {rawAnswer : Option Text}
  {claimant : Address} {now : Instant}

theorem CreatedGift.builds_iff {gifts : List GiftDocument} {rawToken : Text}
    (found : findGiftByToken p.rt gifts rawToken = .ok made.gift)
    (account : p.account key = some claimant) {built : Invocation} :
    buildClaimTransaction p.rt rawAnswer p.sdk now gifts rawToken key = .ok built ↔
      claimGates p.rt made.gift rawAnswer now key = .ok () ∧
      ∃ name, p.sdk.address key = some (.address name) ∧ built = ⟨key, "claim",
        [.u64 made.id, .address name, (((answerPlaintext p.rt made.gift rawAnswer).map
          fun text => ScVal.bytes (bufferFrom text)).getD .void)]⟩ := by
  rcases account_eq_some account with ⟨name, encoded, _⟩
  have named : made.gift.contractGiftId = some (Decimal.ofNat made.id) := made.continues.named
  simp only [buildClaimTransaction, bind_eq_ok, orApi_eq_ok, orService_eq_ok, orFail_eq_ok,
    buildClaimTx, scU64_eq_ok, orThrow_eq_ok, pure_eq_ok, found, encoded, Except.ok.injEq,
    exists_eq_left', named, bigInt_ofNat, Option.some.injEq]
  constructor
  · intro passes
    rcases passes with ⟨_, passed, _, ⟨_, rfl⟩, rfl⟩
    exact ⟨passed, name, rfl, rfl⟩
  · intro passes
    rcases passes with ⟨passed, other, same, rfl⟩
    cases same
    exact ⟨(), passed, _, ⟨made.id_lt, rfl⟩, rfl⟩

theorem CreatedGift.reads {name : Text} (encoded : p.sdk.address key = some (.address name))
    (account : p.account key = some claimant) (answer : Option Text) :
    readClaimArgs p.address [.u64 made.id, .address name,
      (answer.map fun text => ScVal.bytes (bufferFrom text)).getD .void] =
      some (made.id, claimant, answer.map bufferFrom) := by
  rcases account_eq_some account with ⟨other, same, known⟩
  cases encoded.symm.trans same
  cases answer <;> simp [readClaimArgs, known]

theorem CreatedGift.gates_iff (agrees : p.Agrees)
    (valid : buildClaimIssues p.sdk ⟨key, rawAnswer⟩ = [])
    (account : p.account key = some claimant) :
    claimGates p.rt made.gift rawAnswer now key = .ok () ↔
      now.getTime < made.gift.expiresAt.getTime ∧
      claimant = made.record.receiver ∧ made.record.status = .open ∧
      Escrow.checkCondition p.escrow made.record
        ((answerPlaintext p.rt made.gift rawAnswer).map bufferFrom) = .ok () := by
  rw [buildClaimIssues, List.append_eq_nil_iff, stellarPublicKey_eq_nil] at valid
  have answers : ∀ raw, rawAnswer = some raw → raw ≠ [] := by
    intro raw given empty
    subst given empty
    have short := (List.append_eq_nil_iff.mp valid.2).1
    rw [stringMin, check_eq_nil] at short
    exact absurd short (by decide)
  have named : made.gift.contractGiftId = some (Decimal.ofNat made.id) := made.continues.named
  have within := (Escrow.run_progress p.escrow _ made.id made.record made.stored).within
  rw [claimGates_eq_ok, made.status_active, made.receiver_iff agrees valid.1 account, named,
    truthy_ofNat, conditions_agree agrees.sha256 made.cached_condition made.condition_eq within
      answers]
  tauto

/-- A claim that the contract's checks would pass is not refused, a claim that is built passes
them unless the ledger's second is the one the gift expires in, and a refund that is not
refused has its status and its expiry. -/
theorem gates_agree (p : Platform Address) (agrees : p.Agrees) (settings : Settings)
    (made : CreatedGift p settings) (gifts : List GiftDocument) (rawToken : Text)
    (found : findGiftByToken p.rt gifts rawToken = .ok made.gift) (request : BuildClaimBody)
    (valid : buildClaimIssues p.sdk request = []) (claimant : Address)
    (account : p.account request.claimantPublicKey = some claimant) (now : Instant)
    (env : Env Address) (clock : env.timestamp = now.getTime / 1000)
    (signed : env.authorized claimant = true) :
    let answer := (answerPlaintext p.rt made.gift request.answer).map bufferFrom
    (Escrow.Passes p.escrow env made.record claimant answer →
      ∃ built, buildClaimTransaction p.rt request.answer p.sdk now gifts rawToken
        request.claimantPublicKey = .ok built) ∧
    (∀ built, buildClaimTransaction p.rt request.answer p.sdk now gifts rawToken
        request.claimantPublicKey = .ok built →
      readClaimArgs p.address built.args = some (made.id, claimant, answer) ∧
      (FinalSecond made.gift now ∨ Escrow.Passes p.escrow env made.record claimant answer)) ∧
    (assertRefundable now made.gift = .ok () →
      made.record.status = .open ∧ made.record.expiresAt ≤ env.timestamp) := by
  intro answer
  have gates : claimGates p.rt made.gift request.answer now request.claimantPublicKey = .ok () ↔ _ :=
    made.gates_iff agrees valid account
  have expires := made.expiresAt_eq
  refine ⟨?_, ?_, ?_⟩
  · intro passes
    rcases account_eq_some account with ⟨name, encoded, _⟩
    have early := passes.unexpired
    rw [clock, expires] at early
    have timely : now.getTime < made.gift.expiresAt.getTime := by omega
    exact ⟨_, (made.builds_iff found account).mpr
      ⟨gates.mpr ⟨timely, passes.receiver, passes.isOpen, passes.condition⟩, name, encoded, rfl⟩⟩
  · intro built builds
    rcases (made.builds_iff found account).mp builds with ⟨passed, name, encoded, rfl⟩
    refine ⟨made.reads encoded account _, ?_⟩
    rcases gates.mp passed with ⟨timely, receiver, isOpen, condition⟩
    by_cases early : now.getTime / 1000 < made.gift.expiresAt.getTime / 1000
    · right
      refine ⟨signed, receiver, isOpen, ?_, condition⟩
      rw [clock, expires]
      exact early
    · left
      constructor <;> omega
  · intro refundable
    rcases assertRefundable_eq_ok.mp refundable with ⟨status, late⟩
    constructor
    · rcases status with active | pending
      · exact made.status_active.mp active
      · change mapContractStatus made.record.status = .refundPending at pending
        cases found : made.record.status <;> rw [found] at pending <;> cases pending
    · rw [clock, expires]
      exact Nat.div_le_div_right late

deriving instance DecidableEq for CreateArgs

theorem samplePlatform_agrees : samplePlatform.Agrees where
  sha256 := rfl
  distinct key other who valid valid' account account' := by
    have sender : samplePlatform.account sampleSender = some 1 := by decide +kernel
    have receiver : samplePlatform.account sampleReceiver = some 2 := by decide +kernel
    have known : ∀ key, samplePlatform.sdk.isValidEd25519PublicKey key = true →
        key = sampleSender ∨ key = sampleReceiver := by
      intro key valid
      simpa [samplePlatform, sampleSdk] using valid
    rcases known key valid with rfl | rfl <;> rcases known other valid' with rfl | rfl
    · rfl
    · rw [account] at sender
      rw [account'] at receiver
      cases sender
      cases receiver
    · rw [account'] at sender
      rw [account] at receiver
      cases sender
      cases receiver
    · rfl

def sampleArgs : CreateArgs Nat :=
  ⟨1, 2, 9, ⟨10, by decide, by decide⟩, 3600, .none, 1, BytesN.ofNat 32 0⟩

def sampleToken : Text := "token".toList

theorem sampleDraft_drafted :
    createDraft sampleRuntime ⟨0, by decide⟩ [] (sampleInput "10") = .ok sampleDraft := rfl

def sampleCreated : CreatedGift samplePlatform sampleSettings where
  body := sampleBody "10"
  input := sampleInput "10"
  parsed := by decide +kernel
  draftedAt := sampleStart
  token := []
  draft := sampleDraft
  drafted := sampleDraft_drafted
  args := sampleArgs
  encodes := by decide +kernel
  earlier := samplePast
  env := Escrow.sampleEnv 5
  receipt := ⟨some 1, [⟨9, 1, 0, 10⟩], [.giftCreated 1 1 ⟨10, by decide, by decide⟩]⟩
  ran := rfl
  id := 1
  returned := rfl
  later := []
  record := Escrow.newGift 1 2 9 ⟨10, by decide, by decide⟩ 3600 .none 1 (BytesN.ofNat 32 0)
  stored := rfl
  document := savedSubmit sampleDraft sampleDraft (Decimal.ofNat 1) []
    (hashClaimToken sampleRuntime sampleToken) sampleNow
  continues := savedSubmit_continues _ _ _ _ _

theorem gates_agree_sample :
    ∃ built, buildClaimTransaction sampleRuntime none sampleSdk ⟨3599999, by decide⟩
        [sampleCreated.gift] sampleToken sampleReceiver = .ok built ∧
      readClaimArgs samplePlatform.address built.args = some (1, 2, none) := by
  obtain ⟨builds, reads, _⟩ := gates_agree samplePlatform samplePlatform_agrees sampleSettings
    sampleCreated [sampleCreated.gift] sampleToken rfl ⟨sampleReceiver, none⟩ (by decide +kernel) 2
    rfl ⟨3599999, by decide⟩ (Escrow.sampleEnv 3599) rfl rfl
  rcases builds ⟨rfl, rfl, rfl, by decide, rfl⟩ with ⟨built, passed⟩
  exact ⟨built, passed, (reads built passed).1⟩

end Agreement

end Giffy.Backend
