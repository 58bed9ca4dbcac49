import Giffy.Backend.ClaimService

/-! What the claim-link route answers, and which tokens its answers tell apart. -/

namespace Giffy.Backend

section Responses

inductive Body
  /-- the issues with their paths joined; other errors have no such field -/
  | error (code message : String) (issues : Option (List (String × Option String)))
  | preview (gift : GiftPreviewDTO)
deriving DecidableEq

structure Response where
  status : Nat
  body : Body
deriving DecidableEq

inductive Caught
  | api (error : ApiError)
  | chain (code message : String)
  | invalid (issues : List Issue)
  | unrecognized

/-- The status of a chain error; 400 for a code not listed. -/
def chainErrorStatus : String → Nat
  | "GIFT_NOT_FOUND" => 404
  | "GIFT_NOT_OPEN" => 409
  | "GIFT_EXPIRED" => 410
  | "GIFT_NOT_YET_EXPIRED" => 409
  | "NOT_RECEIVER" => 403
  | "WRONG_ANSWER" => 409
  | "STEPS_NOT_COMPLETE" => 409
  | "NOT_AUTHORIZED_UNLOCKER" => 403
  | "ALL_STEPS_ALREADY_COMPLETE" => 409
  | "NOT_STEP_GATED" => 409
  | "NOT_SENDER_OR_CONTRIBUTOR" => 403
  | "ACCOUNT_NOT_FOUND" => 404
  | "BAD_SEQUENCE" => 409
  | "ANCHOR_ERROR" => 502
  | _ => 400

def validationError (issues : List Issue) : Response :=
  ⟨400, .error "VALIDATION_ERROR" "This request was rejected as invalid."
    (some (issues.map fun issue => (".".intercalate issue.path, issue.message)))⟩

def toResponse : Caught → Response
  | .api error => ⟨error.status, .error error.code error.message none⟩
  | .chain code message => ⟨chainErrorStatus code, .error code message none⟩
  | .invalid issues => validationError issues
  | .unrecognized =>
      ⟨500, .error "INTERNAL_ERROR" "Something went wrong on our end. Please try again." none⟩

end Responses

section Route

def claimTokenSchema (token : Text) : Except (List Issue) Text :=
  let issues := check ["params", "token"] (some "Invalid claim token.")
    (isWellFormedClaimToken token)
  if issues = [] then .ok token else .error issues

def validateRequest {α : Type} (parsed : Except (List Issue) α) (next : α → Response) : Response :=
  match parsed with
  | .ok input => next input
  | .error issues => validationError issues

variable (rt : Runtime) (gifts : List GiftDocument)

def preview (token : Text) : Response :=
  match resolveClaimToken rt gifts token with
  | .ok gift => ⟨200, .preview gift⟩
  | .error error => toResponse (.api error)

/-- `GET /api/claim/:token`, when the caller is over the limit or not. -/
def claimRoute (limited : Bool) (token : Text) : Response :=
  if limited then
    ⟨429, .error "RATE_LIMITED"
      "Too many requests. Please slow down and try again shortly." none⟩
  else validateRequest (claimTokenSchema token) (preview rt gifts)

def Unsubmitted (token : Text) : Prop :=
  ∀ gift ∈ gifts, gift.claimTokenHash = hashClaimToken rt token → ¬Submitted gift.status

end Route

section Answers

variable {rt : Runtime} {gifts : List GiftDocument} {token : Text}

theorem resolveClaimToken_unsubmitted (unsubmitted : Unsubmitted rt gifts token) :
    resolveClaimToken rt gifts token = .error giftNotFoundError := by
  unfold resolveClaimToken findGiftByToken
  split
  next =>
    cases found : gifts.find? fun gift => gift.claimTokenHash = hashClaimToken rt token with
    | none => rfl
    | some gift =>
        have hashed : gift.claimTokenHash = hashClaimToken rt token := by
          simpa using List.find?_some found
        have early : gift.status = .draft ∨ gift.status = .pendingChain := by
          have closed := unsubmitted gift (List.mem_of_find?_eq_some found) hashed
          rw [not_and_or, not_not, not_not] at closed
          exact closed
        simp only [bind, Except.bind, refuseIf, if_pos early]
  next => rfl

theorem claimRoute_malformed (malformed : isWellFormedClaimToken token = false) :
    claimRoute rt gifts false token =
      validationError [⟨["params", "token"], some "Invalid claim token."⟩] := by
  simp [claimRoute, claimTokenSchema, check, malformed, validateRequest]

theorem claimRoute_unknown (wellFormed : isWellFormedClaimToken token = true)
    (unsubmitted : Unsubmitted rt gifts token) :
    claimRoute rt gifts false token = toResponse (.api giftNotFoundError) := by
  simp [claimRoute, claimTokenSchema, check, wellFormed, validateRequest, preview,
    resolveClaimToken_unsubmitted unsubmitted]

/-- The schema's answer gives a malformed token away. -/
theorem answers_differ (issues : List Issue) :
    validationError issues ≠ toResponse (.api giftNotFoundError) := by
  intro same
  have status : (400 : Nat) = 404 := congrArg Response.status same
  cases status

end Answers

/-- Two tokens of no submitted gift get the same answer exactly when the limiter answers for
both, or both are well-formed, or neither is. -/
theorem unsubmitted_alike_iff (rt : Runtime) (gifts : List GiftDocument) (limited : Bool)
    (first second : Text) (unknown : Unsubmitted rt gifts first)
    (unknown' : Unsubmitted rt gifts second) :
    claimRoute rt gifts limited first = claimRoute rt gifts limited second ↔
      limited = true ∨ isWellFormedClaimToken first = isWellFormedClaimToken second := by
  cases limited with
  | true => exact iff_of_true rfl (Or.inl rfl)
  | false =>
      cases wellFormed : isWellFormedClaimToken first <;>
        cases wellFormed' : isWellFormedClaimToken second
      · rw [claimRoute_malformed wellFormed, claimRoute_malformed wellFormed']
        simp
      · rw [claimRoute_malformed wellFormed, claimRoute_unknown wellFormed' unknown']
        simp [answers_differ]
      · rw [claimRoute_unknown wellFormed unknown, claimRoute_malformed wellFormed']
        simp [(answers_differ _).symm]
      · rw [claimRoute_unknown wellFormed unknown, claimRoute_unknown wellFormed' unknown']
        simp

theorem sample_unsubmitted (token : Text) : Unsubmitted sampleRuntime [] token := by
  intro gift member
  cases member

theorem unsubmitted_alike_iff_sample :
    claimRoute sampleRuntime [] false "guess".toList =
        claimRoute sampleRuntime [] false "another_guess".toList ↔
      false = true ∨ isWellFormedClaimToken "guess".toList =
        isWellFormedClaimToken "another_guess".toList :=
  unsubmitted_alike_iff sampleRuntime [] false _ _ (sample_unsubmitted _) (sample_unsubmitted _)

theorem malformed_token_told_apart :
    Unsubmitted sampleRuntime [] "guess".toList ∧ Unsubmitted sampleRuntime [] "guess!".toList ∧
    claimRoute sampleRuntime [] false "guess".toList =
      ⟨404, .error "GIFT_NOT_FOUND" "This gift link isn't valid." none⟩ ∧
    claimRoute sampleRuntime [] false "guess!".toList =
      ⟨400, .error "VALIDATION_ERROR" "This request was rejected as invalid."
        (some [("params.token", some "Invalid claim token.")])⟩ :=
  ⟨sample_unsubmitted _, sample_unsubmitted _, by decide +kernel, by decide +kernel⟩

end Giffy.Backend
