import Giffy.Chain.Assets

/-! The chain layer's questions to Horizon about an account. -/

namespace Giffy.Chain

inductive AssetType
  | native
  | creditAlphanum4
  | creditAlphanum12
  | liquidityPoolShares
deriving DecidableEq

/-- One of the balances Horizon lists for an account; only issued assets have a code and an
issuer. -/
inductive Balance
  | native
  | creditAlphanum4 (code issuer : Text)
  | creditAlphanum12 (code issuer : Text)
  | liquidityPoolShares
deriving DecidableEq

namespace Balance

def assetType : Balance → AssetType
  | native => .native
  | creditAlphanum4 _ _ => .creditAlphanum4
  | creditAlphanum12 _ _ => .creditAlphanum12
  | liquidityPoolShares => .liquidityPoolShares

def assetCode : Balance → Option Text
  | creditAlphanum4 code _ => some code
  | creditAlphanum12 code _ => some code
  | native => none
  | liquidityPoolShares => none

def assetIssuer : Balance → Option Text
  | creditAlphanum4 _ issuer => some issuer
  | creditAlphanum12 _ issuer => some issuer
  | native => none
  | liquidityPoolShares => none

theorem credit_of_code {balance : Balance} {code : Text} (named : balance.assetCode = some code) :
    balance.assetType = .creditAlphanum4 ∨ balance.assetType = .creditAlphanum12 := by
  cases balance with
  | native => cases named
  | creditAlphanum4 => exact Or.inl rfl
  | creditAlphanum12 => exact Or.inr rfl
  | liquidityPoolShares => cases named

end Balance

/-- What `loadAccount(_)` of Horizon comes to; a failure other than 404 with the error that
`parseHorizonError` makes of it. -/
inductive Loaded
  | account (balances : List Balance)
  | notFound
  | failed (error : Thrown)

section Accounts

variable (sdk : Sdk) (horizon : Text → Loaded)

def assertValidPublicKey (publicKey : Text) (label : String) : Except Thrown Unit :=
  if sdk.isValidEd25519PublicKey publicKey then .ok ()
  else .error (.chain ("Invalid " ++ label ++ ": not a well-formed Stellar address."))

def hasTrustline (publicKey : Text) (asset : Asset) : Except Thrown Bool := do
  assertValidPublicKey sdk publicKey "public key"
  if asset.isNative then .ok true
  else match horizon publicKey with
    | .notFound => .ok false
    | .failed error => .error error
    | .account balances => .ok (balances.any fun balance => balance.assetType ≠ .native &&
        balance.assetCode = some asset.code && balance.assetIssuer = asset.issuer)

variable {sdk horizon} {publicKey : Text} {asset : Asset}

theorem hasTrustline_native (valid : sdk.isValidEd25519PublicKey publicKey = true)
    (native : asset.isNative = true) : hasTrustline sdk horizon publicKey asset = .ok true := by
  rw [hasTrustline, assertValidPublicKey, if_pos valid, if_pos native]
  rfl

theorem hasTrustline_issued (valid : sdk.isValidEd25519PublicKey publicKey = true)
    (issued : asset.isNative = false) : hasTrustline sdk horizon publicKey asset = .ok true ↔
      ∃ balances, horizon publicKey = .account balances ∧ ∃ balance ∈ balances,
        balance.assetCode = some asset.code ∧ balance.assetIssuer = asset.issuer := by
  have notNative : ¬asset.isNative = true := by rw [issued]; exact Bool.false_ne_true
  cases found : horizon publicKey with
  | notFound =>
      have ran : hasTrustline sdk horizon publicKey asset = .ok false := by
        rw [hasTrustline, assertValidPublicKey, if_pos valid, if_neg notNative, found]
        rfl
      rw [ran]
      simp
  | failed error =>
      have ran : hasTrustline sdk horizon publicKey asset = .error error := by
        rw [hasTrustline, assertValidPublicKey, if_pos valid, if_neg notNative, found]
        rfl
      rw [ran]
      simp
  | account balances =>
      have ran : hasTrustline sdk horizon publicKey asset =
          .ok (balances.any fun balance => decide (balance.assetType ≠ AssetType.native) &&
            balance.assetCode = some asset.code && balance.assetIssuer = asset.issuer) := by
        rw [hasTrustline, assertValidPublicKey, if_pos valid, if_neg notNative, found]
        rfl
      rw [ran]
      simp only [Except.ok.injEq, List.any_eq_true, Bool.and_eq_true, decide_eq_true_eq,
        Loaded.account.injEq, exists_eq_left']
      apply exists_congr
      intro balance
      apply and_congr_right
      intro _
      constructor
      · intro same
        exact ⟨same.1.2, same.2⟩
      · intro same
        refine ⟨⟨?_, same.1⟩, same.2⟩
        rcases Balance.credit_of_code same.1 with credit | credit <;> rw [credit] <;> decide

end Accounts

end Giffy.Chain
