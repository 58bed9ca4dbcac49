import Giffy.Backend.ErrorHandler
import Giffy.Chain.Anchor
import Giffy.Foundation.Base64
import Giffy.Foundation.EventLog

/-! The on-ramp service: the stored sessions, the cached stellar.toml and the requests in
flight. Every leg of a request between two awaits is one action. -/

namespace Giffy.Backend.Onramp

open Chain

section Sessions

structure Session where
  id : BytesN 12
  senderPublicKey : Text
  anchorJwt : Text
  sessionTokenHash : Text
  anchorTransactionId : Option Text
  interactiveUrl : Option Text
  status : Text
  assetCode : Option Text
  expiresAt : Nat

def SESSION_TTL : Nat := 24 * 60 * 60 * 1000

def incomplete : Text := "incomplete".toList

structure Config where
  sdk : AnchorSdk
  rt : Runtime
  anchorHomeDomain : Text
  anchorHomeDomain_ne : anchorHomeDomain ≠ []

def sessionNotFoundError : ApiError :=
  ⟨"SESSION_NOT_FOUND", 404, "This on-ramp session is no longer valid. Please start again."⟩

end Sessions

section Schemas

inductive Request
  | challenge (publicKey : Text)
  | submitChallenge (publicKey signedXdr : Text)
  | initiateDeposit (sessionToken assetCode : Text)
  | status (id : Text)

/-- `^[A-Za-z0-9_-]{16,128}$` -/
def isSessionToken (token : Text) : Bool :=
  16 ≤ token.length && token.length ≤ 128 && isTokenText token

/-- `^[0-9a-f]{24}$` in either case. -/
def isObjectId (id : Text) : Bool := id.length = 24 && id.all fun c => (Hex.digitValue c).isSome

def requestIssues (sdk : Sdk) : Request → List Issue
  | .challenge publicKey => stellarPublicKey sdk ["body", "publicKey"] publicKey
  | .submitChallenge publicKey signedXdr =>
      stellarPublicKey sdk ["body", "publicKey"] publicKey ++
        stringMin ["body", "signedXdr"] 1 signedXdr
  | .initiateDeposit sessionToken code =>
      check ["body", "sessionToken"] (some "Invalid session token.") (isSessionToken sessionToken) ++
        assetCode ["body", "assetCode"] code
  | .status id => check ["params", "id"] (some "Invalid session id.") (isObjectId id)

end Schemas

section Requests

inductive Job
  | challenge (publicKey : Text)
  | token (publicKey signedXdr : Text)
  | deposit (session : Session) (sessionToken assetCode : Text)
  | poll (session : Session)

inductive Stage
  | read (job : Job)
  | fetching (job : Job)
  | calling (job : Job) (toml : StellarTomlInfo)
  | creating (session : Session) (sessionToken : Text)
  | savingDeposit (session : Session) (assetCode : Text) (started : InteractiveDepositResult)
  | savingStatus (session : Session) (result : Sep24TransactionStatus)
  | done

inductive Answer
  | challenge (xdr : Text)
  | session (sessionToken : Text)
  | deposit (sessionId interactiveUrl : Text)
  | status (result : Sep24TransactionStatus)
  | failed (response : Response)
deriving DecidableEq

/-- What the clients ask, what the service and the anchor tell each other and what is answered; `k`
is the number of the request. -/
inductive Event
  | asked (k : Nat) (request : Request)
  | resolved (time : Nat) (toml : StellarTomlInfo)
  | called (k time : Nat) (call : AnchorCall)
  /-- a token for the challenge signed for this key, and the session token minted for it -/
  | granted (time : Nat) (id : BytesN 12) (publicKey jwt sessionToken : Text)
  /-- a session passes the expiry check -/
  | admitted (time : Nat) (sessionToken publicKey jwt : Text)
  | opened (publicKey jwt : Text) (started : InteractiveDepositResult)
  | reported (k : Nat) (jwt transactionId : Text) (result : Sep24TransactionStatus)
  | answered (k : Nat) (answer : Answer)

structure World where
  now : Nat
  cache : TomlCache
  sessions : List Session
  minted : List (BytesN 12)
  requests : List Stage

inductive AnchorReply
  | challenge (reply : Reply ChallengeResponse)
  | token (reply : Reply TokenResponse)
  | deposit (reply : Reply InteractiveResponse)
  | transaction (reply : Reply TransactionResponse)

inductive Act
  /-- the clock may be set either way -/
  | tick (now : Nat)
  | arrive (request : Request)
  | resolve (k : Nat)
  | fetched (k : Nat) (toml : Option StellarToml)
  /-- with the random bytes and the document id that a new session would get -/
  | replied (k : Nat) (reply : AnchorReply) (random : BytesN 32) (id : BytesN 12)
  | create (k : Nat)
  | save (k : Nat)
  | broken (k : Nat)
  /-- the TTL index deletes an expired document -/
  | reap (id : BytesN 12)
  /-- the process starts anew, with an empty cache -/
  | restart

inductive Refused
  | notRunning

abbrev Moved := Except Refused (World × List Event)

end Requests

section Legs

variable (c : Config) (w : World)

def World.start (stage : Stage) : World := { w with requests := w.requests ++ [stage] }

def World.put (k : Nat) (stage : Stage) : World := { w with requests := w.requests.set k stage }

def World.answer (k : Nat) (answer : Answer) : World × List Event :=
  (w.put k .done, [.answered k answer])

def World.fail (k : Nat) (error : Caught) : World × List Event :=
  w.answer k (.failed (toResponse error))

def World.turnDown (response : Response) : World × List Event :=
  (w.start .done, [.answered w.requests.length (.failed response)])

def preceded (events : List Event) (moved : World × List Event) : World × List Event :=
  (moved.1, events ++ moved.2)

/-- What a request that its schema accepts starts with: it reads the session that it names. -/
def accepted : Request → World × List Event
  | .challenge publicKey => (w.start (.read (.challenge publicKey)), [])
  | .submitChallenge publicKey signedXdr => (w.start (.read (.token publicKey signedXdr)), [])
  | .initiateDeposit sessionToken assetCode =>
      match w.sessions.find? fun session =>
          session.sessionTokenHash = hashClaimToken c.rt sessionToken with
      | some session => (w.start (.read (.deposit session sessionToken assetCode)), [])
      | none => w.turnDown (toResponse (.api sessionNotFoundError))
  | .status id =>
      match w.sessions.find? fun session => session.id.data = Hex.decode id with
      | some session => (w.start (.read (.poll session)), [])
      | none => w.turnDown (toResponse (.api sessionNotFoundError))

def arrive (request : Request) : World × List Event :=
  preceded [.asked w.requests.length request]
    (match requestIssues c.sdk.toSdk request with
    | [] => accepted c w request
    | issues => w.turnDown (validationError issues))

def admission : Job → Option (List Event)
  | .deposit session sessionToken _ =>
      if session.expiresAt ≤ w.now then none
      else some [.admitted w.now sessionToken session.senderPublicKey session.anchorJwt]
  | .poll session => (present session.anchorTransactionId).map fun _ => []
  | _ => some []

def anchorCall (job : Job) (toml : StellarTomlInfo) : Except ChainFailure AnchorCall :=
  match job with
  | .challenge publicKey =>
      challengeCall c.sdk toml.webAuthEndpoint publicKey c.anchorHomeDomain
  | .token _ signedXdr => .ok (.token toml.webAuthEndpoint signedXdr)
  | .deposit session _ assetCode =>
      depositCall c.sdk toml.transferServerSep24 session.anchorJwt assetCode
        session.senderPublicKey
  | .poll session =>
      transactionCall c.sdk toml.transferServerSep24 session.anchorJwt
        (session.anchorTransactionId.getD [])

def call (k : Nat) (job : Job) (toml : StellarTomlInfo) : World × List Event :=
  match anchorCall c job toml with
  | .ok call => (w.put k (.calling job toml), [.called k w.now call])
  | .error failure => w.fail k (caught failure)

def resolve (k : Nat) : Moved :=
  match w.requests[k]? with
  | some (.read job) =>
      match admission w job with
      | none => .ok (w.fail k (.api sessionNotFoundError))
      | some admitted =>
          match cachedToml w.cache w.now c.anchorHomeDomain with
          | .error failure => .ok (preceded admitted (w.fail k (caught failure)))
          | .ok (some toml) => .ok (preceded admitted (call c w k job toml))
          | .ok none => .ok (w.put k (.fetching job), admitted)
  | _ => .error .notRunning

def remember (toml : StellarTomlInfo) : World :=
  { w with cache := TtlCache.set w.cache w.now CACHE_TTL_MS (normalizeDomain c.anchorHomeDomain) toml }

def fetched (k : Nat) (toml : Option StellarToml) : Moved :=
  match w.requests[k]? with
  | some (.fetching job) =>
      match readToml c.anchorHomeDomain toml with
      | .error failure => .ok (w.fail k (caught failure))
      | .ok toml => .ok (preceded [.resolved w.now toml] (call c (remember c w toml) k job toml))
  | _ => .error .notRunning

def newSession (publicKey jwt sessionToken : Text) (id : BytesN 12) : Session :=
  { id, senderPublicKey := publicKey, anchorJwt := jwt,
    sessionTokenHash := hashClaimToken c.rt sessionToken, anchorTransactionId := none,
    interactiveUrl := none, status := incomplete, assetCode := none,
    expiresAt := w.now + SESSION_TTL }

/-- What a job does with the anchor's reply; `none` for a reply to another call, or a document
id that the driver has handed out before. -/
def received (k : Nat) (toml : StellarTomlInfo) (random : BytesN 32) (id : BytesN 12) :
    Job → AnchorReply → Option (Except ChainFailure (World × List Event))
  | .challenge publicKey, .challenge reply => some do
      let xdr ← challengeReply c.sdk toml.webAuthEndpoint publicKey c.anchorHomeDomain
        toml.signingKey reply
      return w.answer k (.challenge xdr)
  | .token publicKey _, .token reply =>
      if id ∈ w.minted then none
      else some do
        let jwt ← tokenReply reply
        let sessionToken := Base64.encode random.data
        let session := newSession c w publicKey jwt sessionToken id
        return (({ w with minted := id :: w.minted }).put k (.creating session sessionToken),
          [.granted w.now id publicKey jwt sessionToken])
  | .deposit session _ assetCode, .deposit reply => some do
      let started ← depositReply reply
      return (w.put k (.savingDeposit session assetCode started),
        [.opened session.senderPublicKey session.anchorJwt started])
  | .poll session, .transaction reply => some do
      let result ← transactionReply reply
      let reported :=
        Event.reported k session.anchorJwt (session.anchorTransactionId.getD []) result
      if result.status ≠ session.status then
        return (w.put k (.savingStatus session result), [reported])
      else
        return (w.put k .done, [reported, .answered k (.status result)])
  | _, _ => none

def replied (k : Nat) (reply : AnchorReply) (random : BytesN 32) (id : BytesN 12) : Moved :=
  match w.requests[k]? with
  | some (.calling job toml) =>
      match received c w k toml random id job reply with
      | some (.ok moved) => .ok moved
      | some (.error failure) => .ok (w.fail k (caught failure))
      | none => .error .notRunning
  | _ => .error .notRunning

/-- The ids and the token hashes of the sessions are unique indexes. -/
def create (k : Nat) : Moved :=
  match w.requests[k]? with
  | some (.creating session sessionToken) =>
      if w.sessions.any fun other =>
          other.id = session.id || other.sessionTokenHash = session.sessionTokenHash then
        .ok (w.fail k .unrecognized)
      else
        .ok (({ w with sessions := w.sessions ++ [session] }).answer k (.session sessionToken))
  | _ => .error .notRunning

/-- A path whose value differs from the loaded one is written, another is not. -/
def modified {α : Type} [DecidableEq α] (loaded stored new : α) : α :=
  if new = loaded then stored else new

def savedDeposit (loaded : Session) (assetCode : Text) (started : InteractiveDepositResult)
    (stored : Session) : Session :=
  { stored with
    assetCode := modified loaded.assetCode stored.assetCode (some assetCode)
    anchorTransactionId :=
      modified loaded.anchorTransactionId stored.anchorTransactionId (some started.id)
    interactiveUrl :=
      modified loaded.interactiveUrl stored.interactiveUrl (some started.interactiveUrl) }

def savedStatus (status : Text) (stored : Session) : Session := { stored with status := status }

def changed (id : BytesN 12) (change : Session → Session) (sessions : List Session) :
    List Session :=
  sessions.map fun stored => if stored.id = id then change stored else stored

/-- `session.save()`: one that finds no document throws. -/
def write (k : Nat) (id : BytesN 12) (change : Session → Session) (answer : Answer) :
    World × List Event :=
  if w.sessions.any fun stored => stored.id = id then
    ({ w with sessions := changed id change w.sessions }).answer k answer
  else w.fail k .unrecognized

def save (k : Nat) : Moved :=
  match w.requests[k]? with
  | some (.savingDeposit session assetCode started) =>
      .ok (write w k session.id (savedDeposit session assetCode started)
        (.deposit (Hex.encode session.id.data) started.interactiveUrl))
  | some (.savingStatus session result) =>
      .ok (write w k session.id (savedStatus result.status) (.status result))
  | _ => .error .notRunning

def Stage.live : Stage → Bool
  | .done => false
  | _ => true

def broken (k : Nat) : Moved :=
  match w.requests[k]? with
  | some stage => if stage.live then .ok (w.fail k .unrecognized) else .error .notRunning
  | none => .error .notRunning

def reap (id : BytesN 12) : World :=
  { w with sessions := w.sessions.filter fun session =>
      !(session.id = id && session.expiresAt ≤ w.now) }

def restart : World :=
  { w with cache := TtlCache.empty, requests := w.requests.map fun _ => .done }

def exec : Act → Moved
  | .tick now => .ok ({ w with now := now }, [])
  | .arrive request => .ok (arrive c w request)
  | .resolve k => resolve c w k
  | .fetched k toml => fetched c w k toml
  | .replied k reply random id => replied c w k reply random id
  | .create k => create w k
  | .save k => save w k
  | .broken k => broken w k
  | .reap id => .ok (reap w id, [])
  | .restart => .ok (restart w, [])

abbrev machine : Runs.Machine World Act Refused (List Event) := ⟨exec c⟩

def World.empty (now : Nat) : World := ⟨now, TtlCache.empty, [], [], []⟩

end Legs

end Giffy.Backend.Onramp
