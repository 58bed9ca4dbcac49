import Giffy.Chain.Accounts
import Giffy.Chain.Errors
import Giffy.Foundation.TtlCache
import Mathlib.Data.List.DropRight

/-! The exchange with an anchor: its stellar.toml (SEP-1), authentication (SEP-10) and hosted
deposits (SEP-24). -/

namespace Giffy.Chain

def anchorError (message : String) : ChainFailure := .chain "ANCHOR_ERROR" message

def orAnchor {α : Type} : Except Thrown α → Except ChainFailure α
  | .ok x => .ok x
  | .error (.chain message) => .error (.chain "CHAIN_ERROR" message)
  | .error .sdk => .error .other

def present (field : Option Text) : Option Text := field.filter (· ≠ [])

section Toml

structure TomlCurrency where
  code : Option Text
  issuer : Option Text

/-- The fields the code reads of what `StellarToml.Resolver.resolve(_)` returns. -/
structure StellarToml where
  webAuthEndpoint : Option Text
  transferServerSep24 : Option Text
  signingKey : Option Text
  currencies : Option (List TomlCurrency)

structure Currency where
  code : Text
  issuer : Option Text
deriving DecidableEq

structure StellarTomlInfo where
  webAuthEndpoint : Text
  transferServerSep24 : Text
  signingKey : Text
  currencies : List Currency
deriving DecidableEq

def CACHE_TTL_MS : Nat := 60 * 60 * 1000

abbrev TomlCache := TtlCache.Cache Text StellarTomlInfo

/-- `.` matches no line terminator. -/
def isLineTerminator (c : Char) : Bool :=
  c = '\n' || c = '\r' || c = Char.ofNat 0x2028 || c = Char.ofNat 0x2029

/-- `_.replace(/\/.*$/, '')` -/
def withoutPath : Text → Text
  | [] => []
  | c :: rest => if c = '/' && rest.all (!isLineTerminator ·) then [] else c :: withoutPath rest

/-- `_.replace(/^https?:\/\//, '')` -/
def withoutScheme (homeDomain : Text) : Text :=
  if "https://".toList.isPrefixOf homeDomain then homeDomain.drop 8
  else if "http://".toList.isPrefixOf homeDomain then homeDomain.drop 7
  else homeDomain

def normalizeDomain (homeDomain : Text) : Text := withoutPath (withoutScheme homeDomain)

/-- `_.replace(/\/+$/, '')` -/
def stripTrailingSlash (url : Text) : Text := url.rdropWhile (· = '/')

def requiredField (domain : Text) (name : String) (field : Option Text) : Except ChainFailure Text :=
  match present field with
  | some value => .ok value
  | none =>
      .error (anchorError ("The anchor at " ++ String.ofList domain ++ " publishes no " ++ name ++ "."))

def currencies (toml : StellarToml) : List Currency :=
  (toml.currencies.getD []).filterMap fun currency =>
    (present currency.code).map fun code => ⟨code, present currency.issuer⟩

def tomlInfo (domain : Text) (toml : StellarToml) : Except ChainFailure StellarTomlInfo := do
  let webAuthEndpoint ← requiredField domain "WEB_AUTH_ENDPOINT (SEP-10)" toml.webAuthEndpoint
  let transferServerSep24 ←
    requiredField domain "TRANSFER_SERVER_SEP0024 (SEP-24)" toml.transferServerSep24
  let signingKey ← requiredField domain "SIGNING_KEY" toml.signingKey
  return ⟨stripTrailingSlash webAuthEndpoint, stripTrailingSlash transferServerSep24, signingKey,
    currencies toml⟩

/-- The end of `resolveStellarToml`, once the resolver has answered; `none` is a resolver that
throws. -/
def readToml (homeDomain : Text) (resolved : Option StellarToml) :
    Except ChainFailure StellarTomlInfo :=
  let domain := normalizeDomain homeDomain
  match resolved with
  | none => .error (anchorError
      ("Could not resolve the anchor's stellar.toml at " ++ String.ofList domain ++ "."))
  | some toml => tomlInfo domain toml

/-- The beginning of `resolveStellarToml`: a cached entry, or `none` to ask the resolver. -/
def cachedToml (cache : TomlCache) (now : Nat) (homeDomain : Text) :
    Except ChainFailure (Option StellarTomlInfo) :=
  if homeDomain = [] then .error (anchorError "An anchor home domain is required.")
  else .ok (TtlCache.get cache now (normalizeDomain homeDomain))

end Toml

section Replies

inductive Reply (Body : Type)
  | unreachable
  /-- the connection is lost in the body -/
  | cut
  /-- the first 200 code units of a body that is not JSON -/
  | notJson (status : Nat) (excerpt : Text)
  /-- the fields that are read of a JSON body, of the types the code declares for them; `none` is
  `null`, and an empty body is the empty object -/
  | json (status : Nat) (body : Option Body)

/-- `response.ok` -/
def isOk (status : Nat) : Bool := 200 ≤ status && status < 300

def readJson {Body : Type} (unreachable : String) : Reply Body → Except ChainFailure (Nat × Body)
  | .unreachable => .error (anchorError unreachable)
  | .cut => .error .other
  | .notJson status excerpt =>
      .error (anchorError ("The anchor returned a non-JSON response (HTTP " ++ toString status ++
        "): " ++ String.ofList excerpt))
  | .json _ none => .error .other
  | .json status (some body) => .ok (status, body)

def refusal (error : Option Text) (text : String) (status : Nat) : ChainFailure :=
  match error with
  | some message => anchorError (String.ofList message)
  | none => anchorError (text ++ " (HTTP " ++ toString status ++ ").")

structure ChallengeResponse where
  transaction : Option Text
  networkPassphrase : Option Text
  error : Option Text

structure TokenResponse where
  token : Option Text
  error : Option Text

structure InteractiveResponse where
  id : Option Text
  url : Option Text
  error : Option Text

structure TransactionFields where
  status : Option Text
  stellarTransactionId : Option Text
  message : Option Text

structure TransactionResponse where
  transaction : Option TransactionFields
  error : Option Text

/-- A request made to the anchor. -/
inductive AnchorCall
  | challenge (endpoint account homeDomain : Text)
  | token (endpoint signedXdr : Text)
  | deposit (server jwt assetCode account : Text)
  | transaction (server jwt id : Text)
deriving DecidableEq

/-- What the layer calls outside of itself: `new URL(_).host` and `WebAuth.readChallengeTx`, the
client account of what it returns, both with `none` where they throw, and the configured
network. -/
structure AnchorSdk extends Sdk where
  host : Text → Option Text
  readChallengeTx : Text → Text → Text → List Text → Text → Option Text
  networkPassphrase : Text

end Replies

section Exchange

variable (sdk : AnchorSdk)

def assertUrl (url : Text) : Except ChainFailure Text :=
  match sdk.host url with
  | some host => .ok host
  | none => .error .other

def challengeCall (webAuthEndpoint publicKey homeDomain : Text) :
    Except ChainFailure AnchorCall := do
  orAnchor (assertValidPublicKey sdk.toSdk publicKey "public key")
  let _ ← assertUrl sdk webAuthEndpoint
  return .challenge webAuthEndpoint publicKey homeDomain

def verifyChallenge (challengeXdr serverSigningKey publicKey homeDomain webAuthEndpoint : Text) :
    Except ChainFailure Unit :=
  match (sdk.host webAuthEndpoint).bind fun host =>
      sdk.readChallengeTx challengeXdr serverSigningKey sdk.networkPassphrase [homeDomain] host with
  | none => .error (anchorError
      "The SEP-10 challenge from the anchor failed verification and was not signed.")
  | some clientAccountID =>
      if clientAccountID = publicKey then .ok ()
      else .error (anchorError
        "The SEP-10 challenge was issued for a different account than the one requested.")

def assertNetwork (networkPassphrase : Option Text) : Except ChainFailure Unit :=
  match present networkPassphrase with
  | some other =>
      if other = sdk.networkPassphrase then .ok ()
      else .error (anchorError ("The anchor issued a challenge for a different Stellar network (" ++
        String.ofList other ++ ")."))
  | none => .ok ()

/-- The end of `requestChallenge`; without a signing key the challenge is passed on unread. -/
def challengeReply (webAuthEndpoint publicKey homeDomain serverSigningKey : Text)
    (reply : Reply ChallengeResponse) : Except ChainFailure Text := do
  let (status, body) ←
    readJson "Could not reach the anchor to request a SEP-10 challenge." reply
  match present body.transaction, isOk status with
  | some xdr, true => do
      assertNetwork sdk body.networkPassphrase
      if serverSigningKey ≠ [] then
        verifyChallenge sdk xdr serverSigningKey publicKey homeDomain webAuthEndpoint
      return xdr
  | _, _ => .error (refusal body.error "The anchor refused to issue a SEP-10 challenge" status)

def tokenReply (reply : Reply TokenResponse) : Except ChainFailure Text := do
  let (status, body) ←
    readJson "Could not reach the anchor to complete SEP-10 authentication." reply
  match present body.token, isOk status with
  | some token, true => return token
  | _, _ => .error (refusal body.error "The anchor rejected the signed SEP-10 challenge" status)

def depositCall (transferServerUrl jwt assetCode account : Text) :
    Except ChainFailure AnchorCall := do
  orAnchor (assertValidPublicKey sdk.toSdk account "public key")
  if jwt = [] then .error (anchorError "A SEP-10 JWT is required before initiating a deposit.")
  else return .deposit transferServerUrl jwt assetCode account

structure InteractiveDepositResult where
  id : Text
  interactiveUrl : Text

def depositReply (reply : Reply InteractiveResponse) :
    Except ChainFailure InteractiveDepositResult := do
  let (status, body) ← readJson "Could not reach the anchor to start a deposit." reply
  match present body.id, present body.url, isOk status with
  | some id, some url, true => return ⟨id, url⟩
  | _, _, _ => .error (refusal body.error "The anchor refused to start a deposit" status)

def transactionCall (transferServerUrl jwt transactionId : Text) :
    Except ChainFailure AnchorCall := do
  if jwt = [] then .error (anchorError "A SEP-10 JWT is required to read a deposit status.")
  else
    let _ ← assertUrl sdk (transferServerUrl ++ "/transaction".toList)
    return .transaction transferServerUrl jwt transactionId

structure Sep24TransactionStatus where
  status : Text
  stellarTransactionId : Option Text
  message : Option Text
deriving DecidableEq

def transactionReply (reply : Reply TransactionResponse) :
    Except ChainFailure Sep24TransactionStatus := do
  let (status, body) ← readJson "Could not reach the anchor to read the deposit status." reply
  match (body.transaction.bind fun fields => (present fields.status).map (Prod.mk fields)),
      isOk status with
  | some (fields, reported), true =>
      return ⟨reported, present fields.stellarTransactionId, present fields.message⟩
  | _, _ =>
      .error (refusal body.error "The anchor could not report this deposit's status" status)

end Exchange

end Giffy.Chain
