import Giffy.Chain.Accounts
import Giffy.Client.StellarAddress

/-! The browser's check for a trustline beside the chain layer's. -/

namespace Giffy.Client

open Chain (Sdk Asset Balance Loaded Thrown newAsset)

structure GiftableAsset where
  code : Text
  issuer : Option Text

def GIFTABLE_ASSETS : List GiftableAsset :=
  [⟨"XLM".toList, none⟩,
    ⟨"USDC".toList, some "GBBD47IF6LWK7P7MDEVSCWR7DPUWV3NY3DTQEVFL4NAT4AQH3ZLLFLA5".toList⟩]

inductive ResolveError
  | error (message : String)
  | sdk (thrown : Thrown)
deriving DecidableEq

/-- `known?.issuer`, where it is truthy. -/
def knownIssuer (assetCode : Text) : Option Text :=
  ((GIFTABLE_ASSETS.find? fun a => a.code = assetCode).bind GiftableAsset.issuer).filter (· ≠ [])

def resolveAsset (sdk : Sdk) (assetCode : Text) : Except ResolveError Asset :=
  if assetCode = "XLM".toList then .ok Asset.native
  else
    match knownIssuer assetCode with
    | none => .error (.error ("Unknown asset issuer for " ++ String.ofList assetCode ++ "."))
    | some issuer =>
        match newAsset sdk assetCode issuer with
        | .ok asset => .ok asset
        | .error thrown => .error (.sdk thrown)

def hasTrustline (horizon : Text → Loaded) (publicKey assetCode : Text) : Bool :=
  if assetCode = "XLM".toList then true
  else
    match horizon publicKey with
    | .account balances => balances.any fun b =>
        (b.assetType = .creditAlphanum4 || b.assetType = .creditAlphanum12) &&
          b.assetCode = some assetCode
    | .notFound => false
    | .failed _ => false

def OtherIssuersOnly (asset : Asset) (balances : List Balance) : Prop :=
  (∃ balance ∈ balances, balance.assetCode = some asset.code) ∧
    ∀ balance ∈ balances, balance.assetCode = some asset.code → balance.assetIssuer ≠ asset.issuer

section Checks

variable {sdk : Sdk} {horizon : Text → Loaded} {publicKey assetCode : Text} {asset : Asset}

theorem resolveAsset_eq_ok (lower : assetCode.map Char.toLower = "xlm".toList →
    assetCode = "XLM".toList) (resolved : resolveAsset sdk assetCode = .ok asset) :
    assetCode = "XLM".toList ∧ asset = Asset.native ∨
      assetCode ≠ "XLM".toList ∧ ∃ issuer, asset = ⟨assetCode, some issuer⟩ := by
  unfold resolveAsset at resolved
  split at resolved
  next isNative =>
    cases resolved
    exact Or.inl ⟨isNative, rfl⟩
  next notNative =>
    have notLower : assetCode.map Char.toLower ≠ "xlm".toList := by
      intro same
      exact notNative (lower same)
    split at resolved
    next => cases resolved
    next issuer _ =>
      split at resolved
      next made =>
        cases resolved
        exact Or.inr ⟨notNative, issuer, Chain.newAsset_eq_ok made notLower⟩
      next => cases resolved

theorem hasTrustline_native : hasTrustline horizon publicKey "XLM".toList = true := by
  rw [hasTrustline, if_pos rfl]

theorem hasTrustline_issued (issued : assetCode ≠ "XLM".toList) :
    hasTrustline horizon publicKey assetCode = true ↔
      ∃ balances, horizon publicKey = .account balances ∧
        ∃ balance ∈ balances, balance.assetCode = some assetCode := by
  rw [hasTrustline, if_neg issued]
  cases horizon publicKey with
  | notFound => simp
  | failed error => simp
  | account balances =>
      simp only [List.any_eq_true, Bool.and_eq_true, Bool.or_eq_true, decide_eq_true_eq,
        Loaded.account.injEq, exists_eq_left']
      apply exists_congr
      intro balance
      apply and_congr_right
      intro _
      constructor
      · intro passes
        exact passes.2
      · intro named
        exact ⟨Balance.credit_of_code named, named⟩

theorem issued_checks_iff {issuer : Text} (valid : sdk.isValidEd25519PublicKey publicKey = true)
    (issued : assetCode ≠ "XLM".toList) :
    (hasTrustline horizon publicKey assetCode = true ↔
      Chain.hasTrustline sdk horizon publicKey ⟨assetCode, some issuer⟩ = .ok true) ↔
      ¬∃ balances, horizon publicKey = .account balances ∧
        OtherIssuersOnly ⟨assetCode, some issuer⟩ balances := by
  rw [hasTrustline_issued issued, Chain.hasTrustline_issued valid rfl]
  constructor
  · intro agree differ
    rcases differ with ⟨balances, found, held, others⟩
    rcases agree.mp ⟨balances, found, held⟩ with ⟨balances', found', balance, member, code, own⟩
    cases found.symm.trans found'
    exact others balance member code own
  · intro agree
    constructor
    · intro holds
      rcases holds with ⟨balances, found, held⟩
      by_contra none
      apply agree
      refine ⟨balances, found, held, ?_⟩
      intro balance member code own
      exact none ⟨balances, found, balance, member, code, own⟩
    · intro holds
      rcases holds with ⟨balances, found, balance, member, code, _⟩
      exact ⟨balances, found, balance, member, code⟩

end Checks

/-- For the code and issuer a giftable asset resolves to, the browser and the chain layer agree
on an account exactly when it does not hold the code by other issuers only. -/
theorem trustline_checks_iff (sdk : Sdk) (horizon : Text → Loaded) (publicKey : Text)
    (valid : sdk.isValidEd25519PublicKey publicKey = true) (giftable : GiftableAsset)
    (listed : giftable ∈ GIFTABLE_ASSETS) (asset : Asset)
    (resolved : resolveAsset sdk giftable.code = .ok asset) :
    (hasTrustline horizon publicKey giftable.code = true ↔
      Chain.hasTrustline sdk horizon publicKey asset = .ok true) ↔
      ¬(asset.isNative = false ∧ ∃ balances, horizon publicKey = .account balances ∧
        OtherIssuersOnly asset balances) := by
  have lower : giftable.code.map Char.toLower = "xlm".toList → giftable.code = "XLM".toList := by
    have every : ∀ giftable ∈ GIFTABLE_ASSETS,
        giftable.code.map Char.toLower = "xlm".toList → giftable.code = "XLM".toList := by decide
    exact every giftable listed
  rcases resolveAsset_eq_ok lower resolved with ⟨native, rfl⟩ | ⟨issued, issuer, rfl⟩
  · have browser : hasTrustline horizon publicKey giftable.code = true := by
      rw [native]
      exact hasTrustline_native
    have chain : Chain.hasTrustline sdk horizon publicKey Asset.native = .ok true :=
      Chain.hasTrustline_native valid rfl
    apply iff_of_true (iff_of_true browser chain)
    intro differ
    cases differ.1
  · rw [issued_checks_iff valid issued]
    exact not_congr (and_iff_right rfl).symm

def sampleSdk : Sdk := ⟨isValidPublicKey, fun key => some (.address key), fun _ => none⟩

def sampleAccount : Text := "GC4TO5T5Y43OP2IMOL62T5Y6PYIW4R2V7EYUQ3PHEXGZGFMVLUBW4OS6".toList

def otherIssuer : Text := "GD2MS5CHFG73PQSMUTVMO4XPSQDBSSDZLD2UKKMMFWGBW625BNNTDHXT".toList

def usdcIssuer : Text := "GBBD47IF6LWK7P7MDEVSCWR7DPUWV3NY3DTQEVFL4NAT4AQH3ZLLFLA5".toList

def sampleHorizon (issuer publicKey : Text) : Loaded :=
  if publicKey = sampleAccount then
    .account [.native, .creditAlphanum4 "USDC".toList issuer, .liquidityPoolShares]
  else .notFound

theorem sampleAccount_valid : sampleSdk.isValidEd25519PublicKey sampleAccount = true := by
  decide +kernel

theorem usdc_resolves : resolveAsset sampleSdk "USDC".toList =
    .ok ⟨"USDC".toList, some usdcIssuer⟩ := by
  decide +kernel

theorem trustline_checks_iff_sample :
    hasTrustline (sampleHorizon usdcIssuer) sampleAccount "USDC".toList = true ↔
      Chain.hasTrustline sampleSdk (sampleHorizon usdcIssuer) sampleAccount
        ⟨"USDC".toList, some usdcIssuer⟩ = .ok true := by
  apply (trustline_checks_iff sampleSdk (sampleHorizon usdcIssuer) sampleAccount
    sampleAccount_valid ⟨"USDC".toList, some usdcIssuer⟩ (List.mem_cons_of_mem _ List.mem_cons_self)
    _ usdc_resolves).mpr
  intro differ
  rcases differ with ⟨_, balances, found, _, others⟩
  cases found
  exact others (.creditAlphanum4 "USDC".toList usdcIssuer)
    (List.mem_cons_of_mem _ List.mem_cons_self) rfl rfl

theorem other_issuer_passes :
    sampleSdk.isValidEd25519PublicKey sampleAccount = true ∧
    resolveAsset sampleSdk "USDC".toList = .ok ⟨"USDC".toList, some usdcIssuer⟩ ∧
    ¬(hasTrustline (sampleHorizon otherIssuer) sampleAccount "USDC".toList = true ↔
      Chain.hasTrustline sampleSdk (sampleHorizon otherIssuer) sampleAccount
        ⟨"USDC".toList, some usdcIssuer⟩ = .ok true) := by
  have browser : hasTrustline (sampleHorizon otherIssuer) sampleAccount "USDC".toList = true := by
    decide +kernel
  have chain : Chain.hasTrustline sampleSdk (sampleHorizon otherIssuer) sampleAccount
      ⟨"USDC".toList, some usdcIssuer⟩ = .ok false := by
    decide +kernel
  refine ⟨sampleAccount_valid, usdc_resolves, ?_⟩
  intro agree
  cases chain.symm.trans (agree.mp browser)

end Giffy.Client
