import Giffy.Backend.Onramp

/-! Which credential goes where: every call to the anchor is made for one session, with its
own token, to endpoints the anchor has published. -/

namespace Giffy.Backend.Onramp

open Chain EventLog

section Definitions

/-- The call goes where the stellar.toml says. -/
def Directed (c : Config) (toml : StellarTomlInfo) : AnchorCall → Prop
  | .challenge endpoint _ homeDomain =>
      endpoint = toml.webAuthEndpoint ∧ homeDomain = c.anchorHomeDomain
  | .token endpoint _ => endpoint = toml.webAuthEndpoint
  | .deposit server _ _ _ => server = toml.transferServerSep24
  | .transaction server _ _ => server = toml.transferServerSep24

/-- A token is used for the account it was granted for, and for transactions it has opened. -/
def Entitled (past : List Event) : AnchorCall → Prop
  | .challenge .. => True
  | .token .. => True
  | .deposit _ jwt _ account => ∃ time sessionToken, .admitted time sessionToken account jwt ∈ past
  | .transaction _ jwt id => ∃ publicKey started, .opened publicKey jwt started ∈ past ∧ started.id = id

/-- The anchor's key has signed a challenge for the account the call of the request has named. -/
def Verified (c : Config) (past : List Event) (k : Nat) (xdr : Text) : Prop :=
  ∃ publicKey time toml host,
    (∃ sent, .called k sent (.challenge toml.webAuthEndpoint publicKey c.anchorHomeDomain) ∈ past) ∧
    .resolved time toml ∈ past ∧ toml.signingKey ≠ [] ∧
    c.sdk.host toml.webAuthEndpoint = some host ∧
    c.sdk.readChallengeTx xdr toml.signingKey c.sdk.networkPassphrase [c.anchorHomeDomain] host =
      some publicKey

structure Rooted (c : Config) (past : List Event) (session : Session) : Prop where
  granted : ∃ time sessionToken,
    .granted time session.id session.senderPublicKey session.anchorJwt sessionToken ∈ past ∧
    session.sessionTokenHash = hashClaimToken c.rt sessionToken ∧
    session.expiresAt = time + SESSION_TTL
  opened : ∀ id, session.anchorTransactionId = some id → ∃ started,
    .opened session.senderPublicKey session.anchorJwt started ∈ past ∧ started.id = id
  status : session.status = incomplete ∨ ∃ k id result,
    .reported k session.anchorJwt id result ∈ past ∧ result.status = session.status

def AsksFor (past : List Event) (k : Nat) (session : Session) : Prop :=
  ∃ id, .asked k (.status id) ∈ past ∧ session.id.data = Hex.decode id

/-- The anchor has reported the result to the request, for the deposit of the session. -/
def Polled (past : List Event) (k : Nat) (session : Session) (result : Sep24TransactionStatus) :
    Prop :=
  ∃ id, session.anchorTransactionId = some id ∧ .reported k session.anchorJwt id result ∈ past

def Warranted (c : Config) (past : List Event) : Event → Prop
  | .asked .. => True
  | .resolved _ toml => toml.signingKey ≠ []
  | .called _ now call => Entitled past call ∧
      ∃ time toml, .resolved time toml ∈ past ∧ now < time + CACHE_TTL_MS ∧ Directed c toml call
  | .granted _ id _ jwt _ => jwt ≠ [] ∧ (∀ event ∈ past, ∀ time publicKey other sessionToken,
      event ≠ .granted time id publicKey other sessionToken) ∧
      ∃ k time endpoint signedXdr, .called k time (.token endpoint signedXdr) ∈ past
  | .admitted now sessionToken publicKey jwt => ∃ time id minted,
      .granted time id publicKey jwt minted ∈ past ∧ now < time + SESSION_TTL ∧
      hashClaimToken c.rt minted = hashClaimToken c.rt sessionToken
  | .opened publicKey jwt _ =>
      ∃ k time server assetCode, .called k time (.deposit server jwt assetCode publicKey) ∈ past
  | .reported k jwt id _ => ∃ time server, .called k time (.transaction server jwt id) ∈ past
  | .answered k (.challenge xdr) => Verified c past k xdr
  | .answered _ (.session sessionToken) =>
      ∃ time id publicKey jwt, .granted time id publicKey jwt sessionToken ∈ past
  | .answered _ (.deposit id interactiveUrl) => ∃ time session publicKey jwt sessionToken started,
      id = Hex.encode (BytesN.data session) ∧
      .granted time session publicKey jwt sessionToken ∈ past ∧
      .opened publicKey jwt started ∈ past ∧ started.interactiveUrl = interactiveUrl
  | .answered k (.status result) =>
      ∃ session, Rooted c past session ∧ AsksFor past k session ∧ Polled past k session result
  | .answered _ (.failed _) => True

def JobRooted (c : Config) (past : List Event) (k : Nat) : Job → Prop
  | .deposit session sessionToken _ => Rooted c past session ∧
      session.sessionTokenHash = hashClaimToken c.rt sessionToken
  | .poll session => Rooted c past session ∧ AsksFor past k session
  | _ => True

def Admitted (past : List Event) : Job → Prop
  | .deposit session _ _ => ∃ time sessionToken,
      .admitted time sessionToken session.senderPublicKey session.anchorJwt ∈ past
  | .poll session => ∃ id, session.anchorTransactionId = some id
  | _ => True

def Job.call (c : Config) (toml : StellarTomlInfo) : Job → AnchorCall
  | .challenge publicKey => .challenge toml.webAuthEndpoint publicKey c.anchorHomeDomain
  | .token _ signedXdr => .token toml.webAuthEndpoint signedXdr
  | .deposit session _ assetCode =>
      .deposit toml.transferServerSep24 session.anchorJwt assetCode session.senderPublicKey
  | .poll session => .transaction toml.transferServerSep24 session.anchorJwt
      (session.anchorTransactionId.getD [])

def StageRooted (c : Config) (past : List Event) (k : Nat) : Stage → Prop
  | .read job => JobRooted c past k job
  | .fetching job => JobRooted c past k job ∧ Admitted past job
  | .calling job toml => JobRooted c past k job ∧ Admitted past job ∧ toml.signingKey ≠ [] ∧
      (∃ time, .resolved time toml ∈ past) ∧ ∃ time, .called k time (job.call c toml) ∈ past
  | .creating session sessionToken => Rooted c past session ∧ ∃ time,
      .granted time session.id session.senderPublicKey session.anchorJwt sessionToken ∈ past
  | .savingDeposit session _ started => Rooted c past session ∧
      .opened session.senderPublicKey session.anchorJwt started ∈ past
  | .savingStatus session result =>
      Rooted c past session ∧ AsksFor past k session ∧ Polled past k session result
  | .done => True

def Event.grant : Event → Option (BytesN 12)
  | .granted _ id _ _ _ => some id
  | _ => none

structure Known (c : Config) (past : List Event) (w : World) : Prop where
  sessions : ∀ session ∈ w.sessions, Rooted c past session
  requests : ∀ k stage, w.requests[k]? = some stage → StageRooted c past k stage
  cached : TtlCache.Learned
    (fun _ toml time => .resolved time toml ∈ past ∧ toml.signingKey ≠ []) CACHE_TTL_MS w.cache
  minted : ∀ event ∈ past, ∀ id, event.grant = some id → id ∈ w.minted
  single : ∀ event ∈ past, ∀ other ∈ past, ∀ id,
    event.grant = some id → other.grant = some id → event = other

end Definitions

section Growth

variable {c : Config} {past more : List Event}

theorem Rooted.grow {session : Session} (rooted : Rooted c past session) (kept : past ⊆ more) :
    Rooted c more session where
  granted := by
    rcases rooted.granted with ⟨time, sessionToken, granted, rest⟩
    exact ⟨time, sessionToken, kept granted, rest⟩
  opened id named := by
    rcases rooted.opened id named with ⟨started, opened, same⟩
    exact ⟨started, kept opened, same⟩
  status := by
    rcases rooted.status with fresh | ⟨k, id, result, reported, same⟩
    · exact Or.inl fresh
    · exact Or.inr ⟨k, id, result, kept reported, same⟩

variable {k : Nat}

theorem AsksFor.grow {session : Session} (asks : AsksFor past k session) (kept : past ⊆ more) :
    AsksFor more k session := by
  rcases asks with ⟨id, asked, same⟩
  exact ⟨id, kept asked, same⟩

theorem Polled.grow {session : Session} {result : Sep24TransactionStatus}
    (polled : Polled past k session result) (kept : past ⊆ more) :
    Polled more k session result := by
  rcases polled with ⟨id, named, reported⟩
  exact ⟨id, named, kept reported⟩

theorem JobRooted.grow {job : Job} (rooted : JobRooted c past k job) (kept : past ⊆ more) :
    JobRooted c more k job := by
  cases job with
  | challenge | token => trivial
  | deposit => exact ⟨rooted.1.grow kept, rooted.2⟩
  | poll => exact ⟨rooted.1.grow kept, rooted.2.grow kept⟩

theorem Admitted.grow {job : Job} (admitted : Admitted past job) (kept : past ⊆ more) :
    Admitted more job := by
  cases job with
  | challenge | token => trivial
  | deposit =>
      rcases admitted with ⟨time, sessionToken, passed⟩
      exact ⟨time, sessionToken, kept passed⟩
  | poll => exact admitted

theorem StageRooted.grow {stage : Stage} (rooted : StageRooted c past k stage)
    (kept : past ⊆ more) : StageRooted c more k stage := by
  cases stage with
  | read => exact JobRooted.grow rooted kept
  | fetching => exact ⟨rooted.1.grow kept, rooted.2.grow kept⟩
  | calling =>
      rcases rooted with ⟨job, admitted, signed, ⟨time, resolved⟩, asked, called⟩
      exact ⟨job.grow kept, admitted.grow kept, signed, ⟨time, kept resolved⟩, asked, kept called⟩
  | creating =>
      rcases rooted with ⟨session, time, granted⟩
      exact ⟨session.grow kept, time, kept granted⟩
  | savingDeposit => exact ⟨rooted.1.grow kept, kept rooted.2⟩
  | savingStatus =>
      rcases rooted with ⟨session, asks, polled⟩
      exact ⟨session.grow kept, asks.grow kept, polled.grow kept⟩
  | done => trivial

variable {w : World}

theorem Known.grow (known : Known c past w) {new : List Event}
    (quiet : ∀ event ∈ new, event.grant = none) : Known c (past ++ new) w := by
  have kept : past ⊆ past ++ new := List.subset_append_left past new
  have old : ∀ event ∈ past ++ new, ∀ id, event.grant = some id → event ∈ past := by
    intro event member id grants
    rcases List.mem_append.mp member with before | after
    · exact before
    · rw [quiet event after] at grants
      cases grants
  constructor
  · intro session member
    exact (known.sessions session member).grow kept
  · intro k stage running
    exact (known.requests k stage running).grow kept
  · apply known.cached.mono
    intro _ toml time learned
    exact ⟨kept learned.1, learned.2⟩
  · intro event member id grants
    exact known.minted event (old event member id grants) id grants
  · intro event member other member' id grants grants'
    exact known.single event (old event member id grants) other (old other member' id grants') id
      grants grants'

theorem Known.put (known : Known c past w) (k : Nat) (stage : Stage)
    (rooted : StageRooted c past k stage) : Known c past (w.put k stage) where
  sessions := known.sessions
  requests i other running := by
    rw [World.put, List.getElem?_set] at running
    split at running
    next same =>
      subst same
      split at running
      · cases running
        exact rooted
      · cases running
    next => exact known.requests i other running
  cached := known.cached
  minted := known.minted
  single := known.single

theorem Known.start (known : Known c past w) (stage : Stage)
    (rooted : StageRooted c past w.requests.length stage) : Known c past (w.start stage) where
  sessions := known.sessions
  requests i other running := by
    rw [World.start, List.getElem?_append] at running
    split at running
    next => exact known.requests i other running
    next above =>
      rcases List.getElem?_eq_some_iff.mp running with ⟨bound, same⟩
      have last : i = w.requests.length := by simp at bound; omega
      subst last
      simp at same
      exact same ▸ rooted
  cached := known.cached
  minted := known.minted
  single := known.single

theorem Known.store (known : Known c past w) {sessions : List Session}
    (rooted : ∀ session ∈ sessions, Rooted c past session) :
    Known c past { w with sessions := sessions } where
  sessions := rooted
  requests := known.requests
  cached := known.cached
  minted := known.minted
  single := known.single

end Growth

section Moves

variable {c : Config} {past : List Event} {w : World}

/-- A leg leaves a world the longer log vouches for, and publishes warranted events. -/
def Moves (c : Config) (past : List Event) (moved : World × List Event) : Prop :=
  Known c (past ++ moved.2) moved.1 ∧ Justified (fun front => Warranted c (past ++ front)) moved.2

theorem Moves.quiet (known : Known c past w) : Moves c past (w, []) := by
  constructor
  · rwa [List.append_nil]
  · exact justified_nil

theorem Moves.one {event : Event} (warranted : Warranted c past event)
    (known : Known c (past ++ [event]) w) : Moves c past (w, [event]) := by
  constructor
  · exact known
  · apply justified_singleton
    rwa [List.append_nil]

/-- Events that grant nothing, before those of the rest of a leg. -/
theorem Moves.after {first : List Event} {moved : World × List Event}
    (justified : Justified (fun front => Warranted c (past ++ front)) first)
    (rest : Moves c (past ++ first) moved) : Moves c past (preceded first moved) := by
  constructor
  · have known := rest.1
    rwa [List.append_assoc] at known
  · apply justified.append
    have after := rest.2
    simpa only [List.append_assoc] using after

theorem Moves.first {event : Event} {moved : World × List Event}
    (warranted : Warranted c past event) (rest : Moves c (past ++ [event]) moved) :
    Moves c past (preceded [event] moved) := by
  apply Moves.after _ rest
  apply justified_singleton
  rwa [List.append_nil]

theorem Moves.answer (known : Known c past w) (k : Nat) {answer : Answer}
    (warranted : Warranted c past (.answered k answer)) : Moves c past (w.answer k answer) := by
  apply Moves.one warranted
  apply Known.put _ k .done trivial
  apply known.grow
  intro event member
  rw [List.mem_singleton.mp member]
  rfl

theorem Moves.fail (known : Known c past w) (k : Nat) (error : Caught) :
    Moves c past (w.fail k error) := Moves.answer known k trivial

theorem Moves.goOn (known : Known c past w) (k : Nat) {stage : Stage} {event : Event}
    (quiet : event.grant = none) (warranted : Warranted c past event)
    (rooted : StageRooted c (past ++ [event]) k stage) : Moves c past (w.put k stage, [event]) := by
  apply Moves.one warranted
  apply Known.put _ k _ rooted
  apply known.grow
  intro other member
  rw [List.mem_singleton.mp member]
  exact quiet

end Moves

section Exchange

variable {c : Config} {past : List Event} {w : World}

end Exchange

section Legs

variable {c : Config} {past : List Event} {w : World}

theorem Known.grant (known : Known c past w) {id : BytesN 12} (unused : id ∉ w.minted)
    (publicKey jwt sessionToken : Text) :
    Known c (past ++ [.granted w.now id publicKey jwt sessionToken])
      { w with minted := id :: w.minted } := by
  have kept := List.subset_append_left past [Event.granted w.now id publicKey jwt sessionToken]
  have fresh : ∀ event ∈ past, event.grant ≠ some id := by
    intro event member grants
    exact unused (known.minted event member id grants)
  constructor
  · intro session member
    exact (known.sessions session member).grow kept
  · intro k stage running
    exact (known.requests k stage running).grow kept
  · apply known.cached.mono
    intro _ toml time learned
    exact ⟨kept learned.1, learned.2⟩
  · intro event member other grants
    rcases List.mem_append.mp member with old | new
    · exact List.mem_cons_of_mem id (known.minted event old other grants)
    · rw [List.mem_singleton.mp new] at grants
      cases grants
      exact List.mem_cons_self
  · intro event member other member' same grants grants'
    rcases List.mem_append.mp member with old | new <;>
      rcases List.mem_append.mp member' with old' | new'
    · exact known.single event old other old' same grants grants'
    · rw [List.mem_singleton.mp new'] at grants'
      cases grants'
      exact absurd grants (fresh event old)
    · rw [List.mem_singleton.mp new] at grants
      cases grants
      exact absurd grants' (fresh other old')
    · rw [List.mem_singleton.mp new, List.mem_singleton.mp new']

section Replies

variable (known : Known c past w) (k : Nat) {toml : StellarTomlInfo} {reply : AnchorReply}
  {random : BytesN 32} {id : BytesN 12} {moved : World × List Event}
include known

end Replies

end Legs

section Runs

variable (c : Config)

def history (now : Nat) (acts : List Act) : List Event :=
  log (fun _ => id) ((machine c).trace (World.empty now) acts)

end Runs

end Giffy.Backend.Onramp
