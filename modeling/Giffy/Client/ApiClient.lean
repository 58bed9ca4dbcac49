import Giffy.Backend.ErrorHandler
import Giffy.Escrow.Contract

/-! What a user is told when the escrow contract refuses: from the error the contract panics with
to the text of the toast. -/

namespace Giffy

def Escrow.GiftEscrowError.discriminant : Escrow.GiftEscrowError → Nat
  | .giftNotFound => 1
  | .giftNotOpen => 2
  | .giftExpired => 3
  | .giftNotYetExpired => 4
  | .notReceiver => 5
  | .wrongAnswer => 6
  | .stepsNotComplete => 7
  | .notAuthorizedUnlocker => 8
  | .allStepsAlreadyComplete => 9
  | .invalidContributionAmount => 10
  | .invalidExpiry => 11
  | .notStepGated => 12
  | .notSenderOrContributor => 13

namespace Client

open Backend Chain TextSearch

section Host

/-- The text the host makes of a contract's error. -/
def hostError (code : Nat) : Text :=
  "HostError: ".toList ++ ("Error(Contract, #".toList ++ (Decimal.ofNat code ++ [')']))

def Plain (event : DiagnosticEvent) : Prop := ∀ values ∈ event, ∀ value ∈ values, value = .other

def Carries (events : List DiagnosticEvent) (code : Nat) : Prop :=
  ∃ before values more after, (∀ event ∈ before, Plain event) ∧ Plain (some values) ∧
    events = before ++ some (values ++ .contractError code :: more) :: after

inductive Reports (code : Nat) (err : Rejection) : Prop
  | simulated {after : Text} (text : err.error = some (hostError code ++ after))
  | failed (none : err.error = none) (carried : Carries (extractDiagnosticEvents err) code)
  | thrown {after : Text} (none : err.error = none)
      (plain : ∀ event ∈ extractDiagnosticEvents err, Plain event)
      (text : err.message = some (hostError code ++ after))

end Host

section Requests

structure ApiError where
  status : Nat
  code : String
  message : String
deriving DecidableEq

/-- `zodText` is zod's own text for an issue without one; no response is a `fetch` that throws. -/
def request (zodText : String → String) : Option Response → Except ApiError Body
  | none => .error ⟨0, "NETWORK_ERROR", "Could not reach the Giffy server. Is it running?"⟩
  | some response =>
      if 200 ≤ response.status ∧ response.status < 300 then .ok response.body
      else
        match response.body with
        | .error code message issues =>
            match issues.getD [] with
            | [] => .error ⟨response.status, code, message⟩
            | issue :: rest => .error ⟨response.status, code, " ".intercalate
                ((issue :: rest).map fun issue => issue.2.getD (zodText issue.1))⟩
        | .preview _ => .error ⟨response.status, "UNKNOWN",
            "Request failed (" ++ toString response.status ++ ")."⟩

def CONTRACT_ERROR_MESSAGES : String → Option String
  | "GIFT_NOT_FOUND" => some "This gift does not exist on-chain."
  | "GIFT_NOT_OPEN" => some "This gift is no longer open."
  | "GIFT_EXPIRED" => some "This gift's claim window has passed."
  | "GIFT_NOT_YET_EXPIRED" => some "This gift has not expired yet."
  | "NOT_RECEIVER" => some "Only the designated receiver can claim this gift."
  | "WRONG_ANSWER" => some "That answer isn't quite right — try again."
  | "STEPS_NOT_COMPLETE" => some "Not all unlock steps have been completed yet."
  | "NOT_AUTHORIZED_UNLOCKER" =>
      some "This account is not authorized to unlock steps for this gift."
  | "ALL_STEPS_ALREADY_COMPLETE" => some "All steps are already unlocked."
  | "INVALID_CONTRIBUTION_AMOUNT" => some "Amount must be greater than zero."
  | "INVALID_EXPIRY" => some "Expiry must be in the future."
  | "NOT_STEP_GATED" => some "This gift has no step-based condition."
  | "NOT_SENDER_OR_CONTRIBUTOR" => some "Only the sender or a contributor can trigger a refund."
  | _ => none

def describeTransactionError (err : ApiError) : String :=
  (CONTRACT_ERROR_MESSAGES err.code).getD err.message

end Requests

section Texts

theorem unspelled {c : Char} {rest : Text} (other : (c.toLower == 'e') = false) :
    contractErrorHere (c :: rest) = none := by
  have word : "Error(".toList = 'E' :: "rror(".toList := by decide
  have first : literal "Error(".toList (c :: rest) = none := by
    rw [word, literal]
    apply if_neg
    intro same
    rw [← same] at other
    cases other
  rw [contractErrorHere, first]
  rfl

/-- The error as the host writes it, at the front of a text. -/
theorem hostError_spelled (code : Nat) (after : Text) :
    Spelled ("Error(Contract, #".toList ++ (Decimal.ofNat code ++ ')' :: after))
      (Decimal.ofNat code) := by
  have words : "Error(Contract, #".toList =
      "Error(".toList ++ ("Contract".toList ++ [',', ' ', '#']) := by
    decide
  refine ⟨"Error(".toList, [], "Contract".toList, [], [' '], [], after, ?_, by decide, by decide,
    ?_, ?_, ?_, ?_, Decimal.isRun_ofNat code⟩
  · rw [words, List.append_assoc, List.append_assoc]
    rfl
  · intro c member
    cases member
  · intro c member
    cases member
  · intro c member
    rw [List.mem_singleton.mp member]
    decide
  · intro c member
    cases member

theorem unmatched_plain {front before rest : Text}
    (plain : (front.all fun c => !(c.toLower == 'e')) = true)
    (later : Unmatched contractErrorHere before rest) :
    Unmatched contractErrorHere (front ++ before) rest := by
  induction front with
  | nil => exact later
  | cons c front ih =>
      rw [List.all_cons, Bool.and_eq_true, Bool.not_eq_true'] at plain
      exact (ih plain.2).cons (unspelled plain.1)

theorem hostError_unmatched {error letters' : Text} (begins : error = 'E' :: letters')
    (rest : Text) : Unmatched contractErrorHere "HostError: ".toList (error ++ rest) := by
  subst begins
  have letters : "HostError: ".toList =
      ['H', 'o', 's', 't'] ++ 'E' :: (['r', 'r', 'o', 'r', ':', ' '] ++ []) := by decide
  have word : "Error(".toList = ['E', 'r', 'r', 'o', 'r', '('] := by decide
  have colon : contractErrorHere ('E' :: ((['r', 'r', 'o', 'r', ':', ' '] ++ []) ++
      ('E' :: letters' ++ rest))) = none := by
    have differs : literal "Error(".toList
        ('E' :: ((['r', 'r', 'o', 'r', ':', ' '] ++ []) ++ ('E' :: letters' ++ rest))) = none := by
      rw [word]
      simp [literal]
    rw [contractErrorHere, differs]
    rfl
  rw [letters]
  exact unmatched_plain (by decide) ((unmatched_plain (by decide) unmatched_nil).cons colon)

theorem append_four (first second third fourth rest : Text) :
    first ++ (second ++ (third ++ fourth)) ++ rest =
      first ++ (second ++ (third ++ (fourth ++ rest))) := by
  simp only [List.append_assoc]

theorem findCodeInString_hostError {code : Nat} (finite : code < firstInfinite) (after : Text) :
    findCodeInString (hostError code ++ after) = some code := by
  have number := Decimal.natural_ofNat code
  have unmatched := hostError_unmatched
    (by decide : "Error(Contract, #".toList = 'E' :: "rror(Contract, #".toList)
    (Decimal.ofNat code ++ ')' :: after)
  have found := findCodeInString_of_first unmatched (hostError_spelled code after)
    (lt_of_eq_of_lt number finite)
  calc
    findCodeInString (hostError code ++ after) = findCodeInString ("HostError: ".toList ++
        ("Error(Contract, #".toList ++ (Decimal.ofNat code ++ ')' :: after))) :=
      congrArg findCodeInString (append_four _ _ _ [')'] after)
    _ = some (Decimal.natural (Decimal.ofNat code)) := found
    _ = some code := congrArg some number

end Texts

section Refusals

variable {code : Nat} {err : Rejection}

theorem values_plain {values : List EventValue} (plain : ∀ value ∈ values, value = .other) :
    values.findSome? EventValue.code = none := by
  rw [List.findSome?_eq_none_iff]
  intro value member
  rw [plain value member]
  rfl

theorem event_plain {event : DiagnosticEvent} (plain : Plain event) :
    codeFromDiagnosticEvent event = none := by
  cases event with
  | none => rfl
  | some values => exact values_plain (plain values rfl)

theorem events_plain {events : List DiagnosticEvent} (plain : ∀ event ∈ events, Plain event) :
    events.findSome? codeFromDiagnosticEvent = none := by
  rw [List.findSome?_eq_none_iff]
  intro event member
  exact event_plain (plain event member)

theorem carries_code {events : List DiagnosticEvent} (carried : Carries events code) :
    events.findSome? codeFromDiagnosticEvent = some code := by
  rcases carried with ⟨before, values, more, after, plain, plain', rfl⟩
  have here : codeFromDiagnosticEvent (some (values ++ .contractError code :: more)) = some code := by
    rw [codeFromDiagnosticEvent, Option.bind_some, List.findSome?_append,
      values_plain (plain' values rfl), Option.none_or, List.findSome?_cons]
    rfl
  rw [List.findSome?_append, events_plain plain, Option.none_or, List.findSome?_cons, here]

theorem extract_reported (finite : code < firstInfinite) (reports : Reports code err) :
    extractContractErrorCode err = some code := by
  rw [extractContractErrorCode]
  cases reports with
  | simulated text =>
      rw [text, Option.bind_some, findCodeInString_hostError finite]
      rfl
  | failed none carried =>
      rw [none, Option.bind_none, carries_code carried]
      rfl
  | thrown none plain text =>
      rw [none, Option.bind_none, events_plain plain, text, Option.bind_some,
        findCodeInString_hostError finite]
      rfl

def clientError (zodText : String → String) (err : Rejection) : Except ApiError Body :=
  request zodText (some (toResponse (caught (contractFailure err))))

theorem clientError_reported (zodText : String → String) (finite : code < firstInfinite)
    (reports : Reports code err) {name : String} (named : CONTRACT_ERROR_CODES code = some name)
    (refused : ¬(200 ≤ chainErrorStatus name ∧ chainErrorStatus name < 300)) :
    clientError zodText err =
      .error ⟨chainErrorStatus name, name, parseContractError (some code)⟩ := by
  have failure : contractFailure err = .chain name (parseContractError (some code)) := by
    rw [contractFailure, extract_reported finite reports, Option.bind_some, named]
    rfl
  rw [clientError, failure]
  exact if_neg refused

structure Told (error : Escrow.GiftEscrowError) (told : ApiError) : Prop where
  code : CONTRACT_ERROR_CODES error.discriminant = some told.code
  message : Chain.CONTRACT_ERROR_MESSAGES error.discriminant = some told.message
  status : told.status = chainErrorStatus told.code
  shown : describeTransactionError told = told.message

theorem Told.unique {error : Escrow.GiftEscrowError} {told told' : ApiError} (tells : Told error told)
    (tells' : Told error told') : told = told' := by
  have code := Option.some.inj (tells.code.symm.trans tells'.code)
  have message := Option.some.inj (tells.message.symm.trans tells'.message)
  have status : told.status = told'.status := by rw [tells.status, tells'.status, code]
  cases told
  cases told'
  cases code
  cases message
  cases status
  rfl

theorem told_reported (zodText : String → String) (error : Escrow.GiftEscrowError)
    (reports : Reports error.discriminant err) :
    ∃ told, clientError zodText err = .error told ∧ Told error told := by
  have small : error.discriminant ≤ 13 := by cases error <;> decide
  have finite := lt_of_le_of_lt small (by decide +kernel : 13 < firstInfinite)
  cases error <;>
    exact ⟨_, clientError_reported zodText finite reports rfl (by decide), rfl, rfl, rfl, rfl⟩

theorem codes_differ {first second : Escrow.GiftEscrowError}
    (same : CONTRACT_ERROR_CODES first.discriminant = CONTRACT_ERROR_CODES second.discriminant) :
    first = second := by
  revert same
  cases first <;> cases second <;> decide

/-- Each error of the contract reaches the user as itself, whichever way it comes back, and two of
them are told apart. -/
theorem refusals_told_apart (zodText : String → String) (first second : Escrow.GiftEscrowError)
    (err err' : Rejection) (reports : Reports first.discriminant err)
    (reports' : Reports second.discriminant err') :
    (∃ told, clientError zodText err = .error told ∧ Told first told) ∧
      (clientError zodText err = clientError zodText err' ↔ first = second) := by
  rcases told_reported zodText first reports with ⟨told, sent, tells⟩
  rcases told_reported zodText second reports' with ⟨told', sent', tells'⟩
  refine ⟨⟨told, sent, tells⟩, ?_, ?_⟩
  · intro same
    rw [sent, sent', Except.error.injEq] at same
    subst same
    exact codes_differ (tells.code.trans tells'.code.symm)
  · intro same
    subst same
    rw [sent, sent', tells.unique tells']

def sampleSimulated : Rejection :=
  ⟨some (hostError 6 ++ "; event log".toList), none, none, none, none⟩

def sampleFailed : Rejection :=
  ⟨none, none, some [none, some [.other], some [.other, .contractError 5]], none, none⟩

theorem refusals_told_apart_sample :
    (∃ told, clientError id sampleSimulated = .error told ∧ Told .wrongAnswer told) ∧
      (clientError id sampleSimulated = clientError id sampleFailed ↔
        Escrow.GiftEscrowError.wrongAnswer = .notReceiver) := by
  have carried : Carries (extractDiagnosticEvents sampleFailed) 5 := by
    refine ⟨[none, some [.other]], [.other], [], [], ?_, ?_, rfl⟩
    · intro event member
      rcases List.mem_cons.mp member with rfl | member
      · intro values found
        cases found
      · rw [List.mem_singleton.mp member]
        intro values found value inside
        cases found
        exact List.mem_singleton.mp inside
    · intro values found value inside
      cases found
      exact List.mem_singleton.mp inside
  exact refusals_told_apart id .wrongAnswer .notReceiver sampleSimulated sampleFailed
    (.simulated rfl) (.failed rfl carried)

end Refusals

end Client

end Giffy
