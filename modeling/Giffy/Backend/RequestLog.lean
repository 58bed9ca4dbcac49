import Giffy.Backend.ErrorHandler
import Giffy.Backend.ClaimService

/-! Which claim tokens the log of the server spells out. Only claim paths are read for tokens, and
percent-encoding is not undone; the `err` that `errorHandler` logs beside the path, with the body
of a malformed request, is left out. -/

namespace Giffy.Backend.RequestLog

open Chain

section Paths

def claimPath : Text := "/api/claim/".toList

def inSegment (c : Char) : Bool := c ≠ '/' && c ≠ '?'

/-- `url.replace(/^(\/api\/claim\/)[^/?]+/, '$1:token')` -/
def redactClaimToken (url : Text) : Text :=
  if claimPath.isPrefixOf url && (url.drop claimPath.length).takeWhile inSegment ≠ [] then
    claimPath ++ (":token".toList ++ (url.drop claimPath.length).dropWhile inSegment)
  else url

end Paths

section Lines

structure Request where
  method : String
  originalUrl : Text

inductive Outcome
  /-- `express.json` throws on its body, before it reaches the request logger -/
  | unread
  /-- by a route, the limiter, the validation or `notFoundHandler` -/
  | answered (status : Nat)
  | thrown (error : Caught)

inductive Level
  | info
  | warn
  | error

inductive Line
  | completed (level : Level) (method : String) (url : Text) (status : Nat)
  | failed (level : LogLevel) (status : Nat) (code : String) (method : String) (path : Text)

def Line.path : Line → Text
  | .completed _ _ url _ => url
  | .failed _ _ _ _ path => path

structure Served where
  request : Request
  outcome : Outcome

def customLogLevel (status : Nat) : Level :=
  if 500 ≤ status then .error else if 400 ≤ status then .warn else .info

def codeOf (response : Response) : String :=
  match response.body with
  | .error code _ _ => code
  | .preview _ => ""

variable (request : Request)

/-- The line of `requestLogger`; health checks have none. -/
def requestLogger (status : Nat) : List Line :=
  if request.originalUrl = "/api/health".toList then []
  else [.completed (customLogLevel status) request.method (redactClaimToken request.originalUrl)
    status]

def errorHandler (error : Caught) : Line :=
  .failed (logLevel error) (toResponse error).status (codeOf (toResponse error)) request.method
    request.originalUrl

def Served.lines (served : Served) : List Line :=
  match served.outcome with
  | .unread => [errorHandler served.request .unrecognized]
  | .answered status => requestLogger served.request status
  | .thrown error =>
      errorHandler served.request error :: requestLogger served.request (toResponse error).status

def Served.refused (served : Served) : Bool :=
  match served.outcome with
  | .answered _ => false
  | _ => true

def log (requests : List Served) : List Line := requests.flatMap Served.lines

end Lines

section Claims

inductive ClaimCall
  | preview
  | verifyAnswer (answer : Text)
  | buildTransaction (body : BuildClaimBody) (node : Except Caught Unit)
  | submit (signedXdr : Text) (node : Except Caught Unit)

def ClaimCall.method : ClaimCall → String
  | .preview => "GET"
  | _ => "POST"

def ClaimCall.path : ClaimCall → Text
  | .preview => []
  | .verifyAnswer _ => "/verify-answer".toList
  | .buildTransaction .. => "/build-transaction".toList
  | .submit .. => "/submit".toList

/-- A request of the client for a claim link, over the collection as it is then. -/
structure ClaimVisit where
  gifts : List GiftDocument
  now : Instant
  limited : Bool
  token : Text
  call : ClaimCall

variable (rt : Runtime) (sdk : Sdk)

def ClaimCall.valid : ClaimCall → Bool
  | .preview => true
  | .verifyAnswer answer => verifyAnswerIssues answer = []
  | .buildTransaction body _ => buildClaimIssues sdk body = []
  | .submit signedXdr _ => signedXdr ≠ []

def claimFailure : Failure → Caught
  | .api error => .api error
  | .service (.thrown (.chain message)) => .chain "CHAIN_ERROR" message
  | .service _ => .unrecognized

def ClaimVisit.thrown (visit : ClaimVisit) : Option Caught :=
  match visit.call with
  | .preview =>
      match resolveClaimToken rt visit.gifts visit.token with
      | .ok _ => none
      | .error error => some (.api error)
  | .verifyAnswer answer =>
      match verifyAnswer rt visit.gifts visit.token answer with
      | .ok _ => none
      | .error error => some (.api error)
  | .buildTransaction body node =>
      match buildClaimTransaction rt body.answer sdk visit.now visit.gifts visit.token
        body.claimantPublicKey, node with
      | .ok _, .ok _ => none
      | .ok _, .error error => some error
      | .error failure, _ => some (claimFailure failure)
  | .submit _ node =>
      match findGiftByToken rt visit.gifts visit.token >>= assertClaimable visit.now, node with
      | .ok _, .ok _ => none
      | .ok _, .error error => some error
      | .error error, _ => some (.api error)

def ClaimVisit.served (visit : ClaimVisit) : Served where
  request := ⟨visit.call.method, claimPath ++ (visit.token ++ visit.call.path)⟩
  outcome :=
    if visit.limited then .answered 429
    else if isWellFormedClaimToken visit.token && visit.call.valid sdk then
      match visit.thrown rt sdk with
      | none => .answered 200
      | some error => .thrown error
    else .answered 400

end Claims

section Segments

variable {url rest text segment : Text}

end Segments

section Disclosures

variable {request : Request} {served : Served} {status : Nat} {segment : Text}

end Disclosures

section Results

variable {rt : Runtime} {sdk : Sdk} {visit : ClaimVisit}

def sampleVisit : ClaimVisit where
  gifts := [{ sampleDraft with
    status := .active
    claimTokenHash := hashClaimToken sampleRuntime "token".toList }]
  now := sampleStart
  limited := false
  token := "token".toList
  call := .buildTransaction ⟨sampleSender, none⟩ (.ok ())

end Results

end Giffy.Backend.RequestLog
