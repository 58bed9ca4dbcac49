import Giffy.Backend.Amounts
import Giffy.Backend.OnrampSessions

/-! What the client is told does not depend on the anchor's tokens. -/

namespace Giffy.Backend.Onramp

open Chain EventLog

section Renaming

variable (f : Text → Text)

def Session.rename (session : Session) : Session := { session with anchorJwt := f session.anchorJwt }

def Job.rename : Job → Job
  | .deposit session sessionToken assetCode => .deposit (session.rename f) sessionToken assetCode
  | .poll session => .poll (session.rename f)
  | job => job

def Stage.rename : Stage → Stage
  | .read job => .read (job.rename f)
  | .fetching job => .fetching (job.rename f)
  | .calling job toml => .calling (job.rename f) toml
  | .creating session sessionToken => .creating (session.rename f) sessionToken
  | .savingDeposit session assetCode started => .savingDeposit (session.rename f) assetCode started
  | .savingStatus session result => .savingStatus (session.rename f) result
  | .done => .done

def World.rename (w : World) : World :=
  { w with
    sessions := w.sessions.map (Session.rename f)
    requests := w.requests.map (Stage.rename f) }

def renameCall : AnchorCall → AnchorCall
  | .deposit server jwt assetCode account => .deposit server (f jwt) assetCode account
  | .transaction server jwt id => .transaction server (f jwt) id
  | call => call

def Event.rename : Event → Event
  | .called k time call => .called k time (renameCall f call)
  | .granted time id publicKey jwt sessionToken => .granted time id publicKey (f jwt) sessionToken
  | .admitted time sessionToken publicKey jwt => .admitted time sessionToken publicKey (f jwt)
  | .opened publicKey jwt started => .opened publicKey (f jwt) started
  | .reported k jwt id result => .reported k (f jwt) id result
  | event => event

def renameToken : Reply TokenResponse → Reply TokenResponse
  | .json status body =>
      .json status (body.map fun fields => { fields with token := fields.token.map f })
  | reply => reply

def AnchorReply.rename : AnchorReply → AnchorReply
  | .token reply => .token (renameToken f reply)
  | reply => reply

def Act.rename : Act → Act
  | .replied k reply random id => .replied k (reply.rename f) random id
  | act => act

def relabel (moved : World × List Event) : World × List Event :=
  Prod.map (World.rename f) (List.map (Event.rename f)) moved

def Event.answer : Event → Option Answer
  | .answered _ answer => some answer
  | _ => none

end Renaming

section Legs

variable {c : Config} {f : Text → Text} {w : World}

@[simp] theorem rename_senderPublicKey (session : Session) :
    (session.rename f).senderPublicKey = session.senderPublicKey := rfl

@[simp] theorem rename_anchorJwt (session : Session) :
    (session.rename f).anchorJwt = f session.anchorJwt := rfl

@[simp] theorem rename_anchorTransactionId (session : Session) :
    (session.rename f).anchorTransactionId = session.anchorTransactionId := rfl

@[simp] theorem rename_now : (w.rename f).now = w.now := rfl

@[simp] theorem rename_cache : (w.rename f).cache = w.cache := rfl

@[simp] theorem rename_minted : (w.rename f).minted = w.minted := rfl

@[simp] theorem rename_sessions : (w.rename f).sessions = w.sessions.map (Session.rename f) := rfl

@[simp] theorem rename_requests : (w.rename f).requests = w.requests.map (Stage.rename f) := rfl

theorem relabel_put (k : Nat) (stage : Stage) (events : List Event) :
    relabel f (w.put k stage, events) =
      ((w.rename f).put k (stage.rename f), events.map (Event.rename f)) := by
  simp [relabel, World.rename, World.put, List.map_set]

theorem relabel_answer (k : Nat) (answer : Answer) :
    relabel f (w.answer k answer) = (w.rename f).answer k answer := relabel_put k .done _

theorem relabel_fail (k : Nat) (error : Caught) :
    relabel f (w.fail k error) = (w.rename f).fail k error := relabel_answer k _

theorem relabel_start (stage : Stage) :
    relabel f (w.start stage, []) = ((w.rename f).start (stage.rename f), []) := by
  simp [relabel, World.rename, World.start]

theorem relabel_preceded (first : List Event) (moved : World × List Event) :
    relabel f (preceded first moved) =
      preceded (first.map (Event.rename f)) (relabel f moved) := by
  simp [relabel, preceded]

theorem anchorCall_rename (faithful : ∀ jwt, f jwt = [] ↔ jwt = []) (job : Job)
    (toml : StellarTomlInfo) :
    anchorCall c (job.rename f) toml = (anchorCall c job toml).map (renameCall f) := by
  cases job with
  | challenge publicKey =>
      simp only [Job.rename, anchorCall, challengeCall]
      cases orAnchor (assertValidPublicKey c.sdk.toSdk publicKey "public key") with
      | error failure => rfl
      | ok _ => cases assertUrl c.sdk toml.webAuthEndpoint <;> rfl
  | token publicKey signedXdr => rfl
  | deposit session sessionToken assetCode =>
      simp only [Job.rename, anchorCall, depositCall, rename_senderPublicKey, rename_anchorJwt,
        faithful]
      cases orAnchor (assertValidPublicKey c.sdk.toSdk session.senderPublicKey "public key") with
      | error failure => rfl
      | ok _ =>
          by_cases missing : session.anchorJwt = []
          · simp only [missing]
            rfl
          · simp only [bind, Except.bind, if_neg missing]
            rfl
  | poll session =>
      simp only [Job.rename, anchorCall, transactionCall, rename_anchorJwt, faithful,
        rename_anchorTransactionId]
      by_cases missing : session.anchorJwt = []
      · simp only [missing]
        rfl
      · simp only [if_neg missing]
        cases assertUrl c.sdk (toml.transferServerSep24 ++ "/transaction".toList) <;> rfl

theorem call_rename (faithful : ∀ jwt, f jwt = [] ↔ jwt = []) (k : Nat) (job : Job)
    (toml : StellarTomlInfo) :
    call c (w.rename f) k (job.rename f) toml = relabel f (call c w k job toml) := by
  simp only [call, anchorCall_rename faithful]
  cases anchorCall c job toml with
  | ok call => exact (relabel_put k (.calling job toml) [.called k w.now call]).symm
  | error failure => exact (relabel_fail k (caught failure)).symm

theorem admit_rename (job : Job) :
    admission (w.rename f) (job.rename f) = (admission w job).map (List.map (Event.rename f)) := by
  cases job with
  | challenge | token => rfl
  | deposit session sessionToken assetCode =>
      change (if session.expiresAt ≤ w.now then none else some _) =
        (if session.expiresAt ≤ w.now then none else some _).map _
      by_cases expired : session.expiresAt ≤ w.now
      · rw [if_pos expired, if_pos expired, Option.map_none]
      · rw [if_neg expired, if_neg expired]
        rfl
  | poll session =>
      simp only [Job.rename, admission, rename_anchorTransactionId]
      cases present session.anchorTransactionId <;> rfl

theorem resolve_rename (faithful : ∀ jwt, f jwt = [] ↔ jwt = []) (k : Nat) :
    resolve c (w.rename f) k = (resolve c w k).map (relabel f) := by
  simp only [resolve, rename_requests, List.getElem?_map]
  cases running : w.requests[k]? with
  | none => rfl
  | some stage =>
      cases stage with
      | read job =>
          simp only [Option.map_some, Stage.rename, admit_rename, rename_cache, rename_now]
          cases admission w job with
          | none => simp [Except.map, relabel_fail]
          | some admitted =>
              simp only [Option.map_some]
              cases cachedToml w.cache w.now c.anchorHomeDomain with
              | error failure => simp [Except.map, relabel_preceded, relabel_fail]
              | ok hit =>
                  cases hit with
                  | none => simp [Except.map, relabel_put, Stage.rename]
                  | some toml => simp [Except.map, relabel_preceded, call_rename faithful]
      | fetching | calling | creating | savingDeposit | savingStatus | done => rfl

theorem fetched_rename (faithful : ∀ jwt, f jwt = [] ↔ jwt = []) (k : Nat)
    (toml : Option StellarToml) :
    fetched c (w.rename f) k toml = (fetched c w k toml).map (relabel f) := by
  simp only [fetched, rename_requests, List.getElem?_map]
  cases running : w.requests[k]? with
  | none => rfl
  | some stage =>
      cases stage with
      | fetching job =>
          simp only [Option.map_some, Stage.rename]
          cases readToml c.anchorHomeDomain toml with
          | error failure => simp [Except.map, relabel_fail]
          | ok info =>
              have same : remember c (w.rename f) info = (remember c w info).rename f := rfl
              simp [Except.map, relabel_preceded, same, call_rename faithful, Event.rename]
      | read | calling | creating | savingDeposit | savingStatus | done => rfl

theorem find_rename (p : Session → Bool) (same : ∀ session, p (Session.rename f session) = p session) :
    (w.rename f).sessions.find? p = (w.sessions.find? p).map (Session.rename f) := by
  have congruent : p ∘ Session.rename f = p := funext same
  rw [rename_sessions, List.find?_map, congruent]

theorem relabel_turnDown (response : Response) :
    relabel f (w.turnDown response) = (w.rename f).turnDown response := by
  simp [relabel, World.rename, World.turnDown, World.start, Stage.rename, Event.rename]

theorem accepted_rename (request : Request) :
    accepted c (w.rename f) request = relabel f (accepted c w request) := by
  cases request with
  | challenge publicKey | submitChallenge publicKey signedXdr =>
      simp only [accepted, relabel_start]
      rfl
  | initiateDeposit sessionToken assetCode =>
      simp only [accepted]
      rw [find_rename _ fun _ => rfl]
      cases w.sessions.find? fun session =>
          session.sessionTokenHash = hashClaimToken c.rt sessionToken with
      | none => exact (relabel_turnDown _).symm
      | some session =>
          simp only [Option.map_some, relabel_start]
          rfl
  | status id =>
      simp only [accepted]
      rw [find_rename _ fun _ => rfl]
      cases w.sessions.find? fun session => session.id.data = Hex.decode id with
      | none => exact (relabel_turnDown _).symm
      | some session =>
          simp only [Option.map_some, relabel_start]
          rfl

theorem arrive_rename (request : Request) :
    arrive c (w.rename f) request = relabel f (arrive c w request) := by
  rw [arrive, arrive, relabel_preceded, rename_requests, List.length_map]
  congr 1
  split
  next => exact accepted_rename request
  next => exact (relabel_turnDown _).symm

theorem tokenReply_rename (faithful : ∀ jwt, f jwt = [] ↔ jwt = []) (reply : Reply TokenResponse) :
    tokenReply (renameToken f reply) = (tokenReply reply).map f := by
  cases reply with
  | unreachable | cut | notJson => rfl
  | json status body =>
      cases body with
      | none => rfl
      | some fields =>
          have renamed : present (fields.token.map f) = (present fields.token).map f := by
            cases token : fields.token with
            | none => rfl
            | some jwt => by_cases empty : jwt = [] <;> simp [present, Option.filter, empty, faithful]
          simp only [renameToken, tokenReply, readJson, Option.map_some, renamed, bind, Except.bind]
          cases present fields.token <;> cases isOk status <;> rfl

section Replies

variable (faithful : ∀ jwt, f jwt = [] ↔ jwt = []) (k : Nat) (toml : StellarTomlInfo)
  (random : BytesN 32) (id : BytesN 12) (reply : AnchorReply)

theorem challenge_rename (publicKey : Text) :
    received c (w.rename f) k toml random id (.challenge publicKey) (reply.rename f) =
      (received c w k toml random id (.challenge publicKey) reply).map
        (Except.map (relabel f)) := by
  cases reply with
  | challenge reply =>
      simp only [AnchorReply.rename, received, Option.map_some]
      cases challengeReply c.sdk toml.webAuthEndpoint publicKey c.anchorHomeDomain
          toml.signingKey reply with
      | error failure => rfl
      | ok xdr => exact congrArg (some ∘ Except.ok) (relabel_answer k _).symm
  | token | deposit | transaction => rfl

include faithful in
theorem token_rename (publicKey signedXdr : Text) :
    received c (w.rename f) k toml random id (.token publicKey signedXdr) (reply.rename f) =
      (received c w k toml random id (.token publicKey signedXdr) reply).map
        (Except.map (relabel f)) := by
  cases reply with
  | token reply =>
      simp only [AnchorReply.rename, received, rename_minted, tokenReply_rename faithful]
      by_cases used : id ∈ w.minted
      · simp only [if_pos used, Option.map_none]
      · simp only [if_neg used, Option.map_some]
        cases tokenReply reply with
        | error failure => rfl
        | ok jwt =>
            let sessionToken := Base64.encode random.data
            let session := newSession c w publicKey jwt sessionToken id
            let minted : World := { w with minted := id :: w.minted }
            exact congrArg (some ∘ Except.ok) (relabel_put (w := minted) k
              (.creating session sessionToken) [.granted w.now id publicKey jwt sessionToken]).symm
  | challenge | deposit | transaction => rfl

theorem deposit_rename (session : Session) (sessionToken assetCode : Text) :
    received c (w.rename f) k toml random id (.deposit (session.rename f) sessionToken assetCode)
        (reply.rename f) =
      (received c w k toml random id (.deposit session sessionToken assetCode) reply).map
        (Except.map (relabel f)) := by
  cases reply with
  | deposit reply =>
      simp only [AnchorReply.rename, received, Option.map_some]
      cases depositReply reply with
      | error failure => rfl
      | ok started =>
          exact congrArg (some ∘ Except.ok)
            (relabel_put k (.savingDeposit session assetCode started)
              [.opened session.senderPublicKey session.anchorJwt started]).symm
  | challenge | token | transaction => rfl

theorem poll_rename (session : Session) :
    received c (w.rename f) k toml random id (.poll (session.rename f)) (reply.rename f) =
      (received c w k toml random id (.poll session) reply).map (Except.map (relabel f)) := by
  cases reply with
  | transaction reply =>
      simp only [AnchorReply.rename, received, Option.map_some]
      cases transactionReply reply with
      | error failure => rfl
      | ok result =>
          let reported :=
            Event.reported k session.anchorJwt (session.anchorTransactionId.getD []) result
          simp only [bind, Except.bind]
          by_cases advanced : result.status ≠ session.status
          · have advanced' : result.status ≠ (session.rename f).status := advanced
            rw [if_pos advanced, if_pos advanced']
            exact congrArg (some ∘ Except.ok)
              (relabel_put k (.savingStatus session result) [reported]).symm
          · have same : ¬result.status ≠ (session.rename f).status := advanced
            rw [if_neg advanced, if_neg same]
            exact congrArg (some ∘ Except.ok)
              (relabel_put k .done [reported, .answered k (.status result)]).symm
  | challenge | token | deposit => rfl

include faithful in
theorem received_rename (job : Job) :
    received c (w.rename f) k toml random id (job.rename f) (reply.rename f) =
      (received c w k toml random id job reply).map (Except.map (relabel f)) := by
  cases job with
  | challenge publicKey => exact challenge_rename k toml random id reply publicKey
  | token publicKey signedXdr => exact token_rename faithful k toml random id reply _ signedXdr
  | deposit session sessionToken assetCode =>
      exact deposit_rename k toml random id reply session sessionToken assetCode
  | poll session => exact poll_rename k toml random id reply session

end Replies

theorem replied_rename (faithful : ∀ jwt, f jwt = [] ↔ jwt = []) (k : Nat) (reply : AnchorReply)
    (random : BytesN 32) (id : BytesN 12) :
    replied c (w.rename f) k (reply.rename f) random id =
      (replied c w k reply random id).map (relabel f) := by
  simp only [replied, rename_requests, List.getElem?_map]
  cases running : w.requests[k]? with
  | none => rfl
  | some stage =>
      cases stage with
      | calling job toml =>
          simp only [Option.map_some, Stage.rename, received_rename faithful]
          cases received c w k toml random id job reply with
          | none => rfl
          | some took =>
              cases took with
              | ok moved => rfl
              | error failure => exact congrArg Except.ok (relabel_fail k _).symm
      | read | fetching | creating | savingDeposit | savingStatus | done => rfl

theorem create_rename (k : Nat) : create (w.rename f) k = (create w k).map (relabel f) := by
  simp only [create, rename_requests, List.getElem?_map]
  cases running : w.requests[k]? with
  | none => rfl
  | some stage =>
      cases stage with
      | creating session sessionToken =>
          simp only [Option.map_some, Stage.rename, rename_sessions, List.any_map]
          have same : ((fun other : Session => decide (other.id = (session.rename f).id) ||
                decide (other.sessionTokenHash = (session.rename f).sessionTokenHash)) ∘
              Session.rename f) =
              fun other => decide (other.id = session.id) ||
                decide (other.sessionTokenHash = session.sessionTokenHash) := rfl
          rw [same]
          split
          · simp [Except.map, relabel_fail]
          · simp only [Except.map, relabel_answer]
            simp [World.rename]
      | read | fetching | calling | savingDeposit | savingStatus | done => rfl

theorem write_rename (k : Nat) (id : BytesN 12) (change : Session → Session) (answer : Answer)
    (respects : ∀ session, change (session.rename f) = (change session).rename f) :
    write (w.rename f) k id change answer = relabel f (write w k id change answer) := by
  have any_same : (fun stored : Session => decide (stored.id = id)) ∘ Session.rename f =
      fun stored => decide (stored.id = id) := rfl
  have changed_same : changed id change (w.sessions.map (Session.rename f)) =
      (changed id change w.sessions).map (Session.rename f) := by
    rw [changed, changed, List.map_map, List.map_map]
    apply List.map_congr_left
    intro stored _
    change (if stored.id = id then change (stored.rename f) else stored.rename f) =
      (if stored.id = id then change stored else stored).rename f
    by_cases same : stored.id = id
    · rw [if_pos same, if_pos same, respects]
    · rw [if_neg same, if_neg same]
  simp only [write, rename_sessions, List.any_map, any_same]
  split
  · rw [relabel_answer, changed_same]
    rfl
  · rw [relabel_fail]

theorem save_rename (k : Nat) : save (w.rename f) k = (save w k).map (relabel f) := by
  simp only [save, rename_requests, List.getElem?_map]
  cases running : w.requests[k]? with
  | none => rfl
  | some stage =>
      cases stage with
      | savingDeposit session assetCode started =>
          exact congrArg Except.ok (write_rename k session.id _ _ fun _ => rfl)
      | savingStatus session result =>
          exact congrArg Except.ok (write_rename k session.id _ _ fun _ => rfl)
      | read | fetching | calling | creating | done => rfl

theorem broken_rename (k : Nat) : broken (w.rename f) k = (broken w k).map (relabel f) := by
  simp only [broken, rename_requests, List.getElem?_map]
  cases running : w.requests[k]? with
  | none => rfl
  | some stage =>
      have live : (stage.rename f).live = stage.live := by cases stage <;> rfl
      simp only [Option.map_some, live]
      split
      · simp [Except.map, relabel_fail]
      · rfl

theorem reap_rename (id : BytesN 12) : reap (w.rename f) id = (reap w id).rename f := by
  simp only [reap, World.rename, List.filter_map]
  rfl

theorem restart_rename : restart (w.rename f) = (restart w).rename f := by
  simp only [restart, World.rename, List.map_map]
  rfl

theorem exec_rename (faithful : ∀ jwt, f jwt = [] ↔ jwt = []) (w : World) (act : Act) :
    exec c (w.rename f) (act.rename f) = (exec c w act).map (relabel f) := by
  cases act with
  | tick now => rfl
  | arrive request => exact congrArg Except.ok (arrive_rename request)
  | resolve k => exact resolve_rename faithful k
  | fetched k toml => exact fetched_rename faithful k toml
  | replied k reply random id => exact replied_rename faithful k reply random id
  | create k => exact create_rename k
  | save k => exact save_rename k
  | broken k => exact broken_rename k
  | reap id =>
      simp only [exec, Act.rename, reap_rename]
      rfl
  | restart =>
      simp only [exec, Act.rename, restart_rename]
      rfl

end Legs

section Runs

variable (c : Config) {f : Text → Text}

def answers (now : Nat) (acts : List Act) : List Answer :=
  (history c now acts).filterMap Event.answer

/-- Had the anchor granted other tokens in the same replies, every client would have been told
the same. -/
theorem answers_ignore_tokens (faithful : ∀ jwt, f jwt = [] ↔ jwt = []) (now : Nat)
    (acts : List Act) : answers c now (acts.map (Act.rename f)) = answers c now acts := by
  have renamed : history c now (acts.map (Act.rename f)) =
      (history c now acts).map (Event.rename f) :=
    log_equivariant (m := machine c) (fun _ => id) (World.rename f) (Act.rename f) (Event.rename f)
      (List.map (Event.rename f)) (exec_rename faithful) (fun _ _ => rfl) (World.empty now) acts
  have seen : Event.answer ∘ Event.rename f = Event.answer := by
    funext event
    cases event <;> rfl
  rw [answers, renamed, List.filterMap_map, seen, answers]

def sampleConfig : Config where
  sdk :=
    { sampleSdk with
      host := some
      readChallengeTx := fun challengeXdr _ _ _ _ => some challengeXdr
      networkPassphrase := "Test SDF Network ; September 2015".toList }
  rt := sampleRuntime
  anchorHomeDomain := "https://anchor.example/".toList
  anchorHomeDomain_ne := by decide

def sampleToml : StellarToml :=
  ⟨some "https://anchor.example/auth/".toList, some "https://anchor.example/sep24".toList,
    some sampleReceiver, none⟩

def sampleId : BytesN 12 := BytesN.ofNat 12 7

def sampleRandom : BytesN 32 := BytesN.ofNat 32 1

/-- A wallet signs in, starts a deposit and polls it, with the anchor granting `jwt`. -/
def sampleOnramp (jwt : Text) : List Act :=
  [.arrive (.submitChallenge sampleSender "AAAA".toList), .resolve 0, .fetched 0 (some sampleToml),
    .replied 0 (.token (.json 200 (some ⟨some jwt, none⟩))) sampleRandom sampleId, .create 0,
    .arrive (.initiateDeposit (Base64.encode sampleRandom.data) "USDC".toList), .resolve 1,
    .replied 1 (.deposit (.json 200 (some ⟨some "t1".toList, some "https://a/1".toList, none⟩)))
      sampleRandom sampleId,
    .save 1, .arrive (.status (Hex.encode sampleId.data)), .resolve 2,
    .replied 2 (.transaction (.json 200 (some ⟨some ⟨some "completed".toList, none, none⟩, none⟩)))
      sampleRandom sampleId,
    .save 2]

def masked (jwt : Text) : Text := if jwt = [] then [] else "masked".toList

theorem masked_faithful (jwt : Text) : masked jwt = [] ↔ jwt = [] := by
  unfold masked
  split
  next empty => exact iff_of_true rfl empty
  next nonempty => exact iff_of_false (by decide) nonempty

theorem answers_ignore_tokens_sample :
    answers sampleConfig 0 ((sampleOnramp "secret".toList).map (Act.rename masked)) =
        answers sampleConfig 0 (sampleOnramp "secret".toList) ∧
      answers sampleConfig 0 (sampleOnramp "secret".toList) =
        [.session (Base64.encode sampleRandom.data),
          .deposit "000000000000000000000007".toList "https://a/1".toList,
          .status ⟨"completed".toList, none, none⟩] :=
  ⟨answers_ignore_tokens sampleConfig masked_faithful 0 _, by decide +kernel⟩

end Runs

end Giffy.Backend.Onramp
