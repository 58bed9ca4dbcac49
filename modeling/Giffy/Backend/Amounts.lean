import Giffy.Backend.GiftService

/-! The amount of a request, from the form to the argument the contract is given. -/

namespace Giffy.Backend

open Chain

def FitsStroops (amount : Text) : Prop := Decimal.value amount * 10 ^ 7 < 2 ^ 127

instance (amount : Text) : Decidable (FitsStroops amount) :=
  inferInstanceAs (Decidable (_ < _))

def CarriesStroops (amount : Text) (argument : Option ScVal) : Prop :=
  ∃ carried : I128, argument = some (.i128 carried) ∧
    (carried.value : ℚ) = Decimal.value amount * 10 ^ 7

/-- Every transaction built from a draft of this request, first or again, before the draft
expires, carries the request's amount. -/
def CreateKeepsUnit (sdk : Sdk) (rt : Runtime) (input : CreateGiftInput) : Prop :=
  ∀ (now later : Instant) (token : Text) (status : GiftStatus) (gift : GiftDocument),
    createDraft rt now token input = .ok gift →
    status = .draft ∨ status = .pendingChain →
    later.getTime < gift.expiresAt.getTime →
    ∃ built saved,
      buildCreateTransaction sdk rt later { gift with status := status } = .ok (built, saved) ∧
      CarriesStroops input.amount built.args[3]?

def ContributeKeepsUnit (sdk : Sdk) (settings : Settings) (gift : GiftDocument)
    (input : ContributeBody) : Prop :=
  ∃ built,
    buildContributeTransaction sdk settings (some gift) input.contributorPublicKey input.amount =
      .ok built ∧
    CarriesStroops input.amount built.args[2]?

def ZeroRun (amount : Text) : Prop := 2 ≤ amount.length ∧ ∀ c ∈ amount, c = '0'

section Zero

theorem eq_zero_of_unscaled {x : ℚ} (same : x = x * 10 ^ 7) : x = 0 := by
  norm_num at same
  linarith

theorem zeroRun_of_unscaled {amount : Text} (decimal : Decimal.isDecimal 7 amount = true)
    (notPlain : Decimal.isPlainZero 7 amount = false) (noPoint : '.' ∉ amount)
    (zero : Decimal.value amount = 0) : ZeroRun amount := by
  rw [Decimal.isDecimal_of_integer noPoint, Decimal.isRun, Bool.and_eq_true] at decimal
  have nonempty : amount ≠ [] := by simpa using decimal.1
  rw [Decimal.value_of_integer noPoint, Nat.cast_eq_zero,
    Decimal.natural_eq_zero decimal.2] at zero
  rw [Decimal.isPlainZero_of_integer noPoint, decide_eq_false_iff_not] at notPlain
  constructor
  · by_contra short
    cases amount with
    | nil => exact nonempty rfl
    | cons c rest =>
        cases rest with
        | nil =>
            apply notPlain
            rw [zero c List.mem_cons_self]
        | cons => simp at short
  · exact zero

end Zero

section Encoding

variable {sdk : Sdk} {rt : Runtime} {settings : Settings}

theorem encodeCondition_stored {path : List String} {body : ConditionBody} {gift : GiftDocument}
    (checked : conditionInput sdk path body = [])
    (stored : gift.condition = toStoredCondition rt body) :
    ∃ encoded, encodeCondition (toConditionInput gift) = .ok encoded := by
  cases body with
  | none => exact ⟨_, by rw [toConditionInput, stored]; rfl⟩
  | trivia question answer => exact ⟨_, by rw [toConditionInput, stored]; rfl⟩
  | stepGate steps unlocker =>
      simp only [conditionInput, List.append_eq_nil_iff, check_eq_nil, decide_eq_true_eq] at checked
      have few : steps.length < 2 ^ 32 := lt_of_le_of_lt checked.1.1.2 (by decide)
      refine ⟨.vec [.symbol "StepGate", .u32 steps.length], ?_⟩
      rw [toConditionInput, stored]
      exact encodeCondition_stepGate few

theorem stepUnlocker_valid (rt : Runtime) {path : List String} {body : ConditionBody} {sender : Text}
    (checked : conditionInput sdk path body = [])
    (valid : sdk.isValidEd25519PublicKey sender = true) :
    sdk.isValidEd25519PublicKey ((toStoredCondition rt body).stepUnlockerPublicKey.getD sender) =
      true := by
  cases body with
  | none => exact valid
  | trivia question answer => exact valid
  | stepGate steps unlocker =>
      simp only [conditionInput, List.append_eq_nil_iff] at checked
      cases unlocker with
      | none => exact valid
      | some key => exact stellarPublicKey_eq_nil.mp checked.2

theorem scU64_instant (instant : Instant) :
    scU64 (instant.getTime / 1000) = .ok (.u64 (instant.getTime / 1000)) := by
  rw [scU64, if_pos]
  have inRange := instant.inRange
  omega

theorem draft_encodes (documented : sdk.Documented) (native : (sdk.address xlmTokenContract).isSome)
    {now : Instant} {token : Text} {input : CreateGiftInput} {gift : GiftDocument}
    (status : GiftStatus) {amount : I128} (checked : input.Checked sdk)
    (asset : input.assetCode = xlm) (drafted : createDraft rt now token input = .ok gift)
    (encoded : sdk.i128 input.amount = some amount) :
    ∃ built, buildCreateGiftTx sdk (createGiftParams rt { gift with status := status }) = .ok built ∧
      built.args[3]? = some (.i128 amount) := by
  rcases createDraft_eq_ok drafted with ⟨tokenContractId, resolved, expiresAt, _, rfl⟩
  rw [asset, resolveTokenContractId_xlm, Except.ok.injEq] at resolved
  subst resolved
  rcases documented.address_ok checked.sender with ⟨sender, senderOk⟩
  rcases documented.address_ok checked.receiver with ⟨receiver, receiverOk⟩
  rcases Option.isSome_iff_exists.mp native with ⟨contract, contractOk⟩
  obtain ⟨unlocker, unlockerOk⟩ :=
    documented.address_ok (stepUnlocker_valid rt checked.condition checked.sender)
  let params := createGiftParams rt ⟨input.senderPublicKey, input.receiverPublicKey,
    input.assetCode, input.assetIssuer, xlmTokenContract, input.amount, input.message, input.theme,
    none, token, status, none, none, none, expiresAt, input.isGroupGift, input.goalAmount, [],
    toStoredCondition rt input.condition⟩
  obtain ⟨condition, conditionOk⟩ : ∃ condition, encodeCondition params.condition = .ok condition :=
    encodeCondition_stored checked.condition rfl
  have made : buildCreateGiftTx sdk params = .ok ⟨input.senderPublicKey, "create_gift",
      [sender, receiver, contract, .i128 amount, .u64 (expiresAt.getTime / 1000), condition,
        unlocker, .bytes params.messageHash]⟩ := by
    simp only [buildCreateGiftTx, bind_eq_ok, pure_eq_ok]
    refine ⟨_, senderOk, _, receiverOk, _, orThrow_eq_ok.mpr contractOk, _,
      orThrow_eq_ok.mpr encoded, _, scU64_instant expiresAt, _, conditionOk, _, unlockerOk, rfl⟩
  exact ⟨_, made, rfl⟩

theorem draft_at_origin (rt : Runtime) {input : CreateGiftInput} (checked : input.Checked sdk)
    (asset : input.assetCode = xlm) :
    ∃ gift, createDraft rt ⟨0, by decide⟩ [] input = .ok gift ∧ 0 < gift.expiresAt.getTime := by
  have lasts := checked.lasts
  have bounded := checked.bounded
  rw [MIN_EXPIRY_SECONDS] at lasts
  rw [MAX_EXPIRY_SECONDS] at bounded
  have inRange : 0 + input.expiresInSeconds * 1000 ≤ 8640000000000000 := by omega
  have later : Instant.after ⟨0, by decide⟩ input.expiresInSeconds =
      some ⟨0 + input.expiresInSeconds * 1000, inRange⟩ := by
    rw [Instant.after, dif_pos inRange]
  have resolved : resolveTokenContractId input.assetCode input.assetIssuer =
      .ok xlmTokenContract := by
    rw [asset, resolveTokenContractId_xlm]
  refine ⟨_, by rw [createDraft, resolved, later]; rfl, ?_⟩
  change 0 < 0 + input.expiresInSeconds * 1000
  omega

theorem create_zeroRun (documented : sdk.Documented) {input : CreateGiftInput}
    (checked : input.Checked sdk) (asset : input.assetCode = xlm)
    (keeps : CreateKeepsUnit sdk rt input) : ZeroRun input.amount := by
  rcases draft_at_origin rt checked asset with ⟨gift, drafted, lasting⟩
  obtain ⟨built, saved, made, carried, argument, scaled⟩ :=
    keeps ⟨0, by decide⟩ ⟨0, by decide⟩ [] .draft gift drafted (Or.inl rfl) lasting
  rcases buildCreateTransaction_eq_ok.mp made with ⟨_, encodedCall, _⟩
  rcases buildCreateGiftTx_eq_ok encodedCall with ⟨amount, encoded, placed⟩
  rcases createDraft_eq_ok drafted with ⟨_, _, _, _, same⟩
  have own : sdk.i128 input.amount = some amount := by
    rw [same] at encoded
    exact encoded
  have unscaled := documented.i128_unscaled checked.decimal own
  have carriedSame : carried = amount := by
    rw [placed] at argument
    cases argument
    rfl
  rw [carriedSame, unscaled] at scaled
  exact zeroRun_of_unscaled checked.decimal checked.notPlainZero (documented.no_point own)
    (eq_zero_of_unscaled scaled)

theorem create_keeps_zero (documented : sdk.Documented)
    (native : (sdk.address xlmTokenContract).isSome) {input : CreateGiftInput}
    (checked : input.Checked sdk) (asset : input.assetCode = xlm) (zero : ZeroRun input.amount) :
    CreateKeepsUnit sdk rt input := by
  intro now later token status gift drafted open' early
  have run : Decimal.isRun input.amount = true := by
    apply Decimal.isRun_of_zeros _ zero.2
    intro empty
    have long := zero.1
    rw [empty] at long
    cases long
  have none : Decimal.value input.amount = 0 := Decimal.value_of_zeros zero.2
  have encoded : sdk.i128 input.amount = some I128.zero := by
    rw [documented.i128_of_digits _ run, I128.ofInt?_eq_some]
    rw [Decimal.value_of_integer (Decimal.no_point_of_zeros zero.2), Nat.cast_eq_zero] at none
    rw [none]
    rfl
  obtain ⟨built, made, placed⟩ :=
    draft_encodes documented native status checked asset drafted encoded
  refine ⟨built, _, buildCreateTransaction_eq_ok.mpr
    ⟨assertBuildable_eq_ok.mpr ⟨open', early⟩, made, rfl⟩, I128.zero, placed, ?_⟩
  rw [none, zero_mul]
  rfl

theorem contribute_loses_unit (documented : sdk.Documented) {gift : GiftDocument}
    {input : ContributeBody} (decimal : Decimal.isDecimal 7 input.amount = true) :
    ¬ContributeKeepsUnit sdk settings gift input := by
  intro keeps
  rcases keeps with ⟨built, made, carried, argument, scaled⟩
  rcases buildContributeTransaction_eq_ok made with ⟨enough, amount, encoded, placed⟩
  have carriedSame : carried = amount := by
    rw [placed] at argument
    cases argument
    rfl
  rw [carriedSame, documented.i128_unscaled decimal encoded] at scaled
  have none : number input.amount = 0 := by
    rw [number, eq_zero_of_unscaled scaled, Decimal.toBinary64_zero]
  rw [none] at enough
  exact absurd settings.minContributionAmount_pos (not_lt.mpr enough)

end Encoding

/-- A built create transaction carries the stroops of an accepted native amount exactly when
that amount is a run of two or more zeros, and a built contribution never does. -/
theorem amount_unit_iff (sdk : Sdk) (rt : Runtime) (settings : Settings)
    (documented : sdk.Documented) (native : (sdk.address xlmTokenContract).isSome) :
    (∀ body input, createGiftSchema sdk settings body = .ok input → input.assetCode = xlm →
      FitsStroops input.amount → (CreateKeepsUnit sdk rt input ↔ ZeroRun input.amount)) ∧
    ∀ body input gift, contributeSchema sdk body = .ok input → FitsStroops input.amount →
      ¬ContributeKeepsUnit sdk settings gift input := by
  constructor
  · intro body input parsed asset _
    have checked := createGiftSchema_checked parsed
    constructor
    · intro keeps
      exact create_zeroRun documented checked asset keeps
    · intro zero
      exact create_keeps_zero documented native checked asset zero
  · intro body input gift parsed _
    exact contribute_loses_unit documented (contributeSchema_decimal parsed)

def sampleSender : Text := "GC4TO5T5Y43OP2IMOL62T5Y6PYIW4R2V7EYUQ3PHEXGZGFMVLUBW4OS6".toList

def sampleReceiver : Text := "GD2MS5CHFG73PQSMUTVMO4XPSQDBSSDZLD2UKKMMFWGBW625BNNTDHXT".toList

def sampleSdk : Sdk where
  isValidEd25519PublicKey key := key = sampleSender || key = sampleReceiver
  address key :=
    if key = sampleSender ∨ key = sampleReceiver ∨ key = xlmTokenContract then some (.address key)
    else none
  i128 text := if Decimal.isRun text then I128.ofInt? (Decimal.natural text) else none

theorem sampleSdk_documented : sampleSdk.Documented := by
  constructor
  · intro key valid
    have known : key = sampleSender ∨ key = sampleReceiver := by
      simpa [sampleSdk] using valid
    change (if key = sampleSender ∨ key = sampleReceiver ∨ key = xlmTokenContract then
      some (ScVal.address key) else none).isSome = true
    rw [if_pos]
    · rfl
    · rcases known with same | same
      · exact Or.inl same
      · exact Or.inr (Or.inl same)
  · intro text run
    exact if_pos run
  · intro text point
    apply if_neg
    intro run
    rw [Decimal.isRun, Bool.and_eq_true, List.all_eq_true] at run
    have digit := run.2 '.' point
    cases digit

def sampleSettings : Settings := ⟨280, 1, by decide⟩

def sampleRuntime : Runtime := ⟨fun _ => BytesN.ofNat 32 0, id⟩

def sampleBody (amount : String) : CreateGiftBody :=
  ⟨sampleSender, sampleReceiver, xlm, none, amount.toList, "Happy birthday!".toList, .birthday,
    3600, none, none, none⟩

def sampleInput (amount : String) : CreateGiftInput :=
  ⟨sampleSender, sampleReceiver, xlm, none, amount.toList, "Happy birthday!".toList, .birthday,
    3600, false, none, .none⟩

theorem amount_unit_iff_sample :
    CreateKeepsUnit sampleSdk sampleRuntime (sampleInput "00") ∧
    ¬CreateKeepsUnit sampleSdk sampleRuntime (sampleInput "10") := by
  have both := amount_unit_iff sampleSdk sampleRuntime sampleSettings sampleSdk_documented
    (by decide +kernel)
  constructor
  · apply (both.1 (sampleBody "00") _ (by decide +kernel) rfl (by decide +kernel)).mpr
    constructor
    · decide
    · intro c member
      simpa [sampleInput] using member
  · intro keeps
    have zero := (both.1 (sampleBody "10") (sampleInput "10") (by decide +kernel) rfl
      (by decide +kernel)).mp keeps
    exact absurd (zero.2 '1' (by decide)) (by decide)

/-- A gift of ten is built as ten stroops. -/
theorem ten_built_as_ten_stroops :
    createGiftSchema sampleSdk sampleSettings (sampleBody "10") = .ok (sampleInput "10") ∧
    (sampleInput "10").assetCode = xlm ∧ FitsStroops (sampleInput "10").amount ∧
    Decimal.value (sampleInput "10").amount * 10 ^ 7 = 100000000 ∧
    (∃ gift built saved,
      createDraft sampleRuntime ⟨0, by decide⟩ [] (sampleInput "10") = .ok gift ∧
      buildCreateTransaction sampleSdk sampleRuntime ⟨0, by decide⟩ gift = .ok (built, saved) ∧
      built.args[3]? = some (.i128 ⟨10, by decide, by decide⟩)) ∧
    ¬CreateKeepsUnit sampleSdk sampleRuntime (sampleInput "10") := by
  have parsed : createGiftSchema sampleSdk sampleSettings (sampleBody "10") =
      .ok (sampleInput "10") := by decide +kernel
  have checked := createGiftSchema_checked parsed
  have built : ∃ gift built saved,
      createDraft sampleRuntime ⟨0, by decide⟩ [] (sampleInput "10") = .ok gift ∧
      buildCreateTransaction sampleSdk sampleRuntime ⟨0, by decide⟩ gift = .ok (built, saved) ∧
      built.args[3]? = some (.i128 ⟨10, by decide, by decide⟩) := by
    rcases draft_at_origin sampleRuntime checked rfl with ⟨gift, drafted, lasting⟩
    obtain ⟨built, made, placed⟩ := draft_encodes sampleSdk_documented
      (by decide +kernel) .draft checked rfl drafted
      (show sampleSdk.i128 _ = some ⟨10, by decide, by decide⟩ by decide +kernel)
    rcases createDraft_eq_ok drafted with ⟨_, _, _, _, rfl⟩
    exact ⟨_, built, _, drafted, buildCreateTransaction_eq_ok.mpr
      ⟨assertBuildable_eq_ok.mpr ⟨Or.inl rfl, lasting⟩, made, rfl⟩, placed⟩
  refine ⟨parsed, rfl, by decide +kernel, by decide +kernel, built, ?_⟩
  intro keeps
  have zero := create_zeroRun sampleSdk_documented checked rfl keeps
  exact absurd (zero.2 '1' (by decide)) (by decide)

end Giffy.Backend
