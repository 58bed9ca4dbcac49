import Giffy.Backend.PoolLeaves
import Giffy.Backend.PoolRoutes

/-! The receiver's half of a sealed gift, and the whole way from the sender's button to the
receiver's account. -/

namespace Giffy.Client

open Pool hiding depth
open Chain Circuit TokenLedger PoolRoutes

section Requests

variable {α : Type} (fetchError : String)

/-- A request as the browser sees it; no answer is a `fetch` that throws. -/
def getJson : Option (Except PoolRoutes.Refusal α) → Except String α
  | none => .error fetchError
  | some (.ok value) => .ok value
  | some (.error refusal) =>
      if refusal.status = 404 then .error "Sealed gifts are not enabled on this server."
      else if refusal.status = 409 then
        .error "The deposit indexer is catching up — try again shortly."
      else .error s!"Pool request failed ({refusal.status})."

def postJson : Option (Except PoolRoutes.Refusal α) → Except String α
  | none => .error fetchError
  | some (.ok value) => .ok value
  | some (.error refusal) =>
      .error ((refusal.message.map String.ofList).getD s!"Pool request failed ({refusal.status}).")

end Requests

inductive SealedClaimPhase
  | proving
  | signing
  | submitting
  | done
  | error
deriving DecidableEq

inductive ClaimUpdate
  | setPhase (phase : SealedClaimPhase)
  | setTxHash (txHash : Text)
  | setError (message : Option String)
deriving DecidableEq

/-- `StrKey.decodeEd25519PublicKey` and the digest of the browser. -/
structure Browser where
  decodeKey : Text → Except String (BytesN 32)
  sha256 : List UInt8 → BytesN 32

structure ClaimRun where
  secretHex : Option Text
  publicKey : Option Text
  leaves : Except String PoolLeaves
  buildWithdrawTx : WithdrawBody → Except String Text
  signXdr : Text → Except String Text
  submitPoolTx : Text → Except String PoolReceipt

section Hook

variable (browser : Browser) (hash2 : Fr → Fr → Fr) (prover : WithdrawCircuit → Proof)

def recipientFieldFromPublicKey (publicKey : Text) : Except String Text := do
  let raw ← browser.decodeKey publicKey
  return toHex32 ((browser.sha256 raw.data).value % frModulus)

def thrown {α : Type} : Except ClientError α → Except String α
  | .ok value => .ok value
  | .error (.thrown message) => .error message
  | .error .panicked => .error "unreachable"

/-- `prepareWithdraw`, with the request it makes for the leaves. -/
def fetchAndProve (run : ClaimRun) (secretHex recipientSignal : Text) :
    Except String SealedClaim := do
  let _ ← thrown (fromWasm (noteCommitmentHex hash2 secretHex))
  let pool ← run.leaves
  thrown (prepareWithdraw hash2 prover pool.commitments secretHex recipientSignal)

def withdrawBody (publicKey recipientSignal : Text) (proof : SorobanProof) : WithdrawBody :=
  ⟨publicKey, proof.root, proof.nullifier, publicKey, recipientSignal,
    ⟨⟨proof.a, proof.b, proof.c⟩, []⟩, []⟩

def abandonClaim (message : String) : List ClaimUpdate :=
  [.setError (some message), .setPhase .error]

def signAndSubmit (run : ClaimRun) (xdr : Text) : List ClaimUpdate :=
  .setPhase .signing ::
  match run.signXdr xdr with
  | .error message => abandonClaim message
  | .ok signed =>
      .setPhase .submitting ::
      match run.submitPoolTx signed with
      | .error message => abandonClaim message
      | .ok res => [.setTxHash res.txHash, .setPhase .done]

def proveAndBuild (run : ClaimRun) (secretHex publicKey : Text) : Except String Text := do
  let recipientSignal ← recipientFieldFromPublicKey browser publicKey
  let claim ← fetchAndProve hash2 prover run secretHex recipientSignal
  run.buildWithdrawTx (withdrawBody publicKey recipientSignal claim.proof)

def claim (run : ClaimRun) : List ClaimUpdate :=
  match run.secretHex, run.publicKey with
  | some secretHex, some publicKey =>
      .setError none :: .setPhase .proving ::
      match proveAndBuild browser hash2 prover run secretHex publicKey with
      | .error message => abandonClaim message
      | .ok xdr => signAndSubmit run xdr
  | _, _ => []

/-- The page of a link, with a wallet connected and the requests answered by the routes. -/
def openedLink (link key : Text) (fetchError : String) (poolId : Option Text)
    (found : List PoolIndexer.Leaf) (node : Node) (signXdr : Text → Except String Text)
    (submitPoolTx : Text → Except String PoolReceipt) : ClaimRun where
  secretHex := decodeSealedClaimSecret (fragment link)
  publicKey := some key
  leaves := getJson fetchError (some (leaves poolId found))
  buildWithdrawTx body := postJson fetchError (some (withdrawRoute poolId node body))
  signXdr
  submitPoolTx

end Hook

section Sender

variable {hash2 : Fr → Fr → Fr} {timeout : Nat} {origin link : Text} {sender : DepositRun}
  {note : ShieldedNote}

theorem shown_landed (minted : generateNote hash2 sender.buf = .ok note)
    (shown : .setClaimLink link ∈ deposit hash2 timeout origin sender) :
    link = encodeSealedClaimLink origin note.secretHex ∧ sender.lands = true := by
  cases connected : sender.publicKey with
  | none => simp [deposit, connected] at shown
  | some publicKey =>
      cases built : sender.buildDepositTx publicKey note.commitmentHex with
      | error message => simp [deposit, connected, minted, built, abandon] at shown
      | ok xdr =>
          cases wallet : sender.signXdr xdr with
          | error message => simp [deposit, connected, minted, built, wallet, abandon] at shown
          | ok signed =>
              cases posted : postSubmit timeout sender with
              | error message =>
                  simp [deposit, connected, minted, built, wallet, posted, abandon] at shown
              | ok res =>
                  have arrived : sender.requestArrives = true := by
                    by_contra lost
                    rw [postSubmit, if_neg lost] at posted
                    cases posted
                  have confirmed := (postSubmit_eq_ok arrived).mp ⟨res, posted⟩
                  rcases confirmed.observed with ⟨value, n, success, _⟩
                  constructor
                  · simpa [deposit, connected, minted, built, wallet, posted] using shown
                  · exact sender.success_lands n value success

end Sender

section Delivery

attribute [local irreducible] MerkleTree.root treeRoot

variable {Address : Type} [DecidableEq Address]

structure Payable (d : Deployment Address) (prover : WithdrawCircuit → Proof) (s : State Address)
    (pool : Instance Address) (env : Env Address) (recipient : Address) : Prop where
  ready : s.storage = some pool
  verifier : pool.config.verifier = d.verifier
  complete : ∀ secret siblings indexBits signal,
    let assigned := assign d.hash2 secret siblings indexBits signal
    verify d.bls pool.vk (prover assigned.1)
      [Fr.toBytes assigned.2.1, Fr.toBytes assigned.2.2, Fr.toBytes signal] = some true
  funded : pool.config.denom.value ≤ s.balances pool.config.token d.self
  unrefused : env.refuses ⟨pool.config.token, d.self, recipient, pool.config.denom.value⟩ = false

def payout (d : Deployment Address) (pool : Instance Address) (recipient : Address) :
    Transfer Address :=
  ⟨pool.config.token, d.self, recipient, pool.config.denom.value⟩

variable {d : Deployment Address} {prover : WithdrawCircuit → Proof} {pool : Instance Address}
  {env : Env Address} {recipient : Address}

/-- What the browser prepares from the first leaves of the pool is paid by the contract. -/
theorem prepared_paid {actions : List (Action Address (Call Address))}
    (payable : Payable d prover ((machine d).final State.empty actions) pool env recipient)
    {secretHex : Text} {secret : Fr} (named : frFromHex secretHex = some secret) {k : Nat}
    (listed : k ≤ (commitments ((machine d).trace State.empty actions)).length)
    (recent : (commitments ((machine d).trace State.empty actions)).length - k ≤ rootHistory - 1)
    (deposited : Fr.toBytes (note d.hash2 secret) ∈
      (commitments ((machine d).trace State.empty actions)).take k)
    (unspent : Fr.toBytes (d.hash2 secret 1) ∉
      ((machine d).final State.empty actions).nullifiers) (signal : BytesN 32) :
    ∃ (args : WithdrawArgs) (index : Nat) (after : State Address) (receipt : Receipt Address),
      args.recipientSignal = signal ∧
      prepareWithdraw d.hash2 prover
          (((commitments ((machine d).trace State.empty actions)).take k).map hexOf) secretHex
          (hexOf signal) =
        .ok ⟨⟨hexOf args.proof.a, hexOf args.proof.b, hexOf args.proof.c, hexOf args.root,
          hexOf args.nullifier⟩, index⟩ ∧
      withdraw d env ((machine d).final State.empty actions) args.root args.nullifier recipient
        args.recipientSignal args.proof = .ok (after, receipt) ∧
      receipt.transfers = [payout d pool recipient] := by
  have grown := (run_follows d actions).grown pool payable.ready
  let leaves := (commitments ((machine d).trace State.empty actions)).take k
  have room : leaves.length ≤ 2 ^ depth := le_trans (List.length_take_le' k _) grown.room
  obtain ⟨siblings, indexBits, index, path, sameRoot, _, _, prepared⟩ :=
    prepareWithdraw_eq prover room named deposited signal
  have known : treeRoot d.hash2 leaves ∈ pool.roots := by
    rw [grown.roots]
    exact recent_root_mem d.hash2 listed recent
  let proof := prover (assign d.hash2 secret siblings indexBits (toFr signal)).1
  have accepted : callVerifier d pool.config.verifier pool.vk proof
      [treeRoot d.hash2 leaves, Fr.toBytes (d.hash2 secret 1), signal] = .ok true := by
    have canonical : verify d.bls pool.vk proof
        [Fr.toBytes (assignedRoot d.hash2 secret siblings indexBits (toFr signal)),
          Fr.toBytes (d.hash2 secret 1), Fr.toBytes (toFr signal)] = some true :=
      payable.complete secret siblings indexBits (toFr signal)
    have raw : verify d.bls pool.vk proof
        [treeRoot d.hash2 leaves, Fr.toBytes (d.hash2 secret 1), signal] =
        verify d.bls pool.vk proof
          [treeRoot d.hash2 leaves, Fr.toBytes (d.hash2 secret 1), Fr.toBytes (toFr signal)] := by
      apply verify_congr
      simp [toFr]
    rw [sameRoot] at canonical
    rw [callVerifier, if_pos payable.verifier, required_eq_ok, raw, canonical]
  exact ⟨⟨treeRoot d.hash2 leaves, Fr.toBytes (d.hash2 secret 1), signal, proof⟩, index, _, _, rfl,
    prepared, withdraw_eq_ok payable.ready known unspent accepted payable.funded payable.unrefused,
    rfl⟩

end Delivery

section Way

variable {Address : Type} [DecidableEq Address] {setup : PoolIndexer.Setup Address}
  {w : PoolIndexer.World Address} {found : List PoolIndexer.Leaf} {served : PoolLeaves}

theorem leaves_eq_ok {poolId : Text}
    (listed : leaves (some poolId) found = .ok served) :
    isShieldedPoolConfigured (some poolId) = true ∧
      PoolIndexer.getOrderedCommitments poolId found = .ok ⟨served.commitments, served.count⟩ := by
  unfold leaves ensureEnabled at listed
  by_cases configured : isShieldedPoolConfigured (some poolId) = true
  · rw [if_pos configured] at listed
    refine ⟨configured, ?_⟩
    simp only [bind, Except.bind, Option.getD_some] at listed
    split at listed
    next read ran =>
      cases listed
      exact ran
    next => cases listed
  · rw [if_neg configured] at listed
    cases listed

theorem served_hexOf (genuine : PoolIndexer.Genuine setup w) (read : found ⊆ w.leaves)
    (listed : leaves (some setup.poolId) found = .ok served) :
    served.count ≤ (commitments (w.past setup)).length ∧
      served.commitments = ((commitments (w.past setup)).take served.count).map hexOf := by
  rcases genuine.served read (leaves_eq_ok listed).2 with ⟨_, shorter, values⟩
  refine ⟨shorter, values.trans ?_⟩
  apply List.map_congr_left
  intro commitment _
  exact toHex_bytes32 commitment

theorem recipientField_eq {browser : Browser} {key : Text} {raw : BytesN 32}
    (decoded : browser.decodeKey key = .ok raw) :
    recipientFieldFromPublicKey browser key =
      .ok (hexOf (Fr.toBytes (toFr (browser.sha256 raw.data)))) := by
  have below : (browser.sha256 raw.data).value % frModulus < frModulus :=
    Nat.mod_lt _ (by decide)
  rw [recipientFieldFromPublicKey, decoded]
  change Except.ok (toHex32 _) = _
  rw [toHex32_eq below, ZMod.natCast_mod]
  rfl

theorem proveAndBuild_eq {browser : Browser} {hash2 : Fr → Fr → Fr}
    {prover : WithdrawCircuit → Proof} {run : ClaimRun} {secretHex key commitment : Text}
    {raw : BytesN 32} {claim : SealedClaim} (decoded : browser.decodeKey key = .ok raw)
    (committed : noteCommitmentHex hash2 secretHex = some commitment)
    (answered : run.leaves = .ok served)
    (prepared : prepareWithdraw hash2 prover served.commitments secretHex
      (hexOf (Fr.toBytes (toFr (browser.sha256 raw.data)))) = .ok claim) :
    proveAndBuild browser hash2 prover run secretHex key =
      run.buildWithdrawTx
        (withdrawBody key (hexOf (Fr.toBytes (toFr (browser.sha256 raw.data)))) claim.proof) := by
  rw [proveAndBuild, recipientField_eq decoded]
  change (fetchAndProve hash2 prover run secretHex _ >>= fun claim =>
    run.buildWithdrawTx (withdrawBody key _ claim.proof)) = _
  have proved : fetchAndProve hash2 prover run secretHex
      (hexOf (Fr.toBytes (toFr (browser.sha256 raw.data)))) = .ok claim := by
    rw [fetchAndProve, committed, answered]
    exact congrArg thrown prepared
  rw [proved]
  rfl

theorem spells_hexOf {size : Nat} (b : BytesN size) : Spells (hexOf b) b := lower_hexOf b

structure Delivers (setup : PoolIndexer.Setup Address) (w : PoolIndexer.World Address)
    (address : Text → Option Address) (env : Env Address) (pool : Instance Address) (key : Text)
    (recipient : Address) (args : WithdrawArgs) (built : PoolInvocation) : Prop where
  source : built.sourcePublicKey = key
  call : readCall address built = some (.withdraw args.root args.nullifier recipient
    args.recipientSignal args.proof)
  paid : ∃ after receipt, withdraw setup.pool env (w.pool setup) args.root args.nullifier recipient
    args.recipientSignal args.proof = .ok (after, receipt) ∧
      receipt.transfers = [payout setup.pool pool recipient]

/-- Whoever opens the page with a note among the served leaves is built the withdrawal of it. -/
theorem opened_delivered {browser : Browser} {prover : WithdrawCircuit → Proof}
    {address : Text → Option Address} {node : Node} {key : Text} {recipient : Address}
    {raw : BytesN 32} {env : Env Address} {pool : Instance Address} {run : ClaimRun}
    {fetchError : String} {secret : Fr} (names : Named address node)
    (genuine : PoolIndexer.Genuine setup w) (read : found ⊆ w.leaves)
    (listed : leaves (some setup.poolId) found = .ok served) (shape : keyPattern key = true)
    (owner : account address node key = some recipient) (decoded : browser.decodeKey key = .ok raw)
    (opened : run.secretHex = some (frToHex secret)) (connected : run.publicKey = some key)
    (answered : run.leaves = .ok served)
    (builds : ∀ body, run.buildWithdrawTx body =
      postJson fetchError (some (withdrawRoute (some setup.poolId) node body)))
    (deposited : Fr.toBytes (note setup.pool.hash2 secret) ∈
      (commitments (w.past setup)).take served.count)
    (recent : (commitments (w.past setup)).length - served.count ≤ rootHistory - 1)
    (unspent : Fr.toBytes (setup.pool.hash2 secret 1) ∉ (w.pool setup).nullifiers)
    (payable : Payable setup.pool prover (w.pool setup) pool env recipient) :
    ∃ args built, args.recipientSignal = Fr.toBytes (toFr (browser.sha256 raw.data)) ∧
      Delivers setup w address env pool key recipient args built ∧
      ∀ xdr, node.simulate built = .ok xdr →
        claim browser setup.pool.hash2 prover run =
          .setError none :: .setPhase .proving :: signAndSubmit run xdr := by
  rcases served_hexOf genuine read listed with ⟨shorter, values⟩
  have named : frFromHex (frToHex secret) = some secret := frFromHex_frToHex secret
  have committed : noteCommitmentHex setup.pool.hash2 (frToHex secret) =
      some (frToHex (note setup.pool.hash2 secret)) := by
    rw [noteCommitmentHex, named]
    rfl
  rcases prepared_paid payable named shorter recent deposited unspent
    (Fr.toBytes (toFr (browser.sha256 raw.data))) with
    ⟨args, index, after, receipt, signal, prepared, paid, transfers⟩
  rw [PoolIndexer.World.past] at values
  rw [← values] at prepared
  let body := withdrawBody key (hexOf args.recipientSignal) ⟨hexOf args.proof.a, hexOf args.proof.b,
    hexOf args.proof.c, hexOf args.root, hexOf args.nullifier⟩
  have asks : body.Asks address node recipient args :=
    ⟨shape, shape, owner, spells_hexOf _, spells_hexOf _, spells_hexOf _, spells_hexOf _,
      spells_hexOf _, spells_hexOf _, rfl, rfl⟩
  rcases account_eq_some.mp owner with ⟨name, encoded, known⟩
  let built : PoolInvocation := ⟨key, "withdraw",
    [.scVal (.bytes args.root.data), .scVal (.bytes args.nullifier.data), .scVal (.address name),
      .scVal (.bytes args.recipientSignal.data),
      .scMap [("a", args.proof.a.data), ("b", args.proof.b.data), ("c", args.proof.c.data)]]⟩
  have call : readCall address built = some (.withdraw args.root args.nullifier recipient
      args.recipientSignal args.proof) :=
    readCall_withdraw.mpr ⟨name, known, rfl, rfl⟩
  refine ⟨args, built, signal, ⟨rfl, call, after, receipt, paid, transfers⟩, ?_⟩
  intro xdr simulated
  have routed : withdrawRoute (some setup.poolId) node body = .ok xdr :=
    (withdrawRoute_iff names body xdr).mpr
      ⟨(leaves_eq_ok listed).1, recipient, args, built, asks, rfl, call, simulated⟩
  have made : proveAndBuild browser setup.pool.hash2 prover run (frToHex secret) key = .ok xdr := by
    rw [proveAndBuild_eq decoded committed answered prepared, builds, ← signal]
    exact congrArg (fun answer => postJson fetchError (some answer)) routed
  rw [claim, opened, connected]
  simp only [made]

/-- The link that the sender's page shows opens the gift, once its note is among the served leaves
and as long as the pool can pay it: whoever opens it with a wallet is built the withdrawal that pays
that wallet, and is asked to sign it. -/
theorem sealed_gift_delivered (setup : PoolIndexer.Setup Address)
    (others : List PoolIndexer.Leaf) (foreign : ∀ leaf ∈ others, leaf.poolId ≠ setup.poolId)
    (lastLedger : Option Nat) (acts : List (PoolIndexer.Act Address))
    (answers : ∀ entry ∈ (PoolIndexer.machine setup).trace
      (PoolIndexer.World.fresh Address others lastLedger) acts,
      PoolIndexer.GenuineAnswer entry.before entry.call)
    (w : PoolIndexer.World Address) (ran : w = (PoolIndexer.machine setup).final
      (PoolIndexer.World.fresh Address others lastLedger) acts)
    (found : List PoolIndexer.Leaf) (read : found ⊆ w.leaves) (served : PoolLeaves)
    (listed : leaves (some setup.poolId) found = .ok served)
    (sender : DepositRun) (timeout : Nat) (origin link : Text) (plain : '#' ∉ origin)
    (shown : .setClaimLink link ∈ deposit setup.pool.hash2 timeout origin sender)
    (secret : Fr) (minted : secret = (sender.buf.value % frModulus : ℕ))
    (indexed : sender.lands = true → Fr.toBytes (note setup.pool.hash2 secret) ∈
      (commitments (w.past setup)).take served.count)
    (recent : (commitments (w.past setup)).length - served.count ≤ rootHistory - 1)
    (unspent : Fr.toBytes (setup.pool.hash2 secret 1) ∉ (w.pool setup).nullifiers)
    (browser : Browser) (prover : WithdrawCircuit → Proof) (address : Text → Option Address)
    (node : Node) (names : Named address node) (key : Text) (shape : keyPattern key = true)
    (recipient : Address) (owner : account address node key = some recipient) (raw : BytesN 32)
    (decoded : browser.decodeKey key = .ok raw) (env : Env Address) (pool : Instance Address)
    (payable : Payable setup.pool prover (w.pool setup) pool env recipient)
    (fetchError : String) (signXdr : Text → Except String Text)
    (submitPoolTx : Text → Except String PoolReceipt) :
    ∃ args built, args.recipientSignal = Fr.toBytes (toFr (browser.sha256 raw.data)) ∧
      Delivers setup w address env pool key recipient args built ∧
      ∀ xdr, node.simulate built = .ok xdr →
        let run := openedLink link key fetchError (some setup.poolId) found node signXdr submitPoolTx
        claim browser setup.pool.hash2 prover run =
          .setError none :: .setPhase .proving :: signAndSubmit run xdr := by
  have genuine : PoolIndexer.Genuine setup w := by
    rw [ran]
    exact Runs.Machine.state_invariant (PoolIndexer.Genuine setup) PoolIndexer.GenuineAnswer
      (PoolIndexer.genuine_fresh foreign lastLedger)
      (fun _ act holds answer => holds.next act answer) acts answers
  rcases shown_landed (generateNote_eq setup.pool.hash2 sender.buf) shown with ⟨written, lands⟩
  have below : sender.buf.value % frModulus < frModulus := Nat.mod_lt _ (by decide)
  have fragment_eq : fragment link = "#s=".toList ++ frToHex secret := by
    rw [written, fragment_link plain, toHex32_eq below, minted]
  have opened : decodeSealedClaimSecret (fragment link) = some (frToHex secret) := by
    rw [fragment_eq]
    exact decode_hexOf _
  have answered : getJson fetchError (some (leaves (some setup.poolId) found)) = .ok served := by
    rw [listed]
    rfl
  exact opened_delivered names genuine read listed shape owner decoded opened rfl answered
    (fun _ => rfl) (indexed lands) recent unspent payable

def sentRun : DepositRun :=
  { lateRun with
    answers := .steady .pending (.success none)
    success_lands := fun _ _ _ => rfl
    failed_stays := fun _ _ found => by cases found }

def sampleOrigin : Text := "https://giffy.app".toList

def sampleLink : Text := encodeSealedClaimLink sampleOrigin (toHex32 77)

theorem sentRun_shown :
    .setClaimLink sampleLink ∈ deposit Pool.sampleDeployment.hash2 30000 sampleOrigin sentRun := by
  have minted : generateNote Pool.sampleDeployment.hash2 sentRun.buf = .ok lateNote := by
    decide +kernel
  have sent : sentRun.Sent lateNote := by
    constructor
    · exact ⟨_, [], [], rfl, rfl, rfl⟩
    · rfl
    · intro code same
      cases same
  apply (link_shown_iff minted sent).mpr
  constructor
  · exact ⟨.pending, rfl, nofun⟩
  · exact ⟨none, 0, rfl, fun i before => absurd before (Nat.not_lt_zero i)⟩
  · rfl

def sampleBrowser : Browser where
  decodeKey key :=
    if key = Backend.sampleReceiver then .ok (BytesN.ofNat 32
      0xf4c9744729bfb7c24ca4eac772ef940619487958f545298c2d8c1b7b5d0b5b31)
    else .error "invalid encoded string"
  sha256 _ := BytesN.ofNat 32 0x1c32bb01918487a4560cf7ca2e75046d5991b56b5adce63b28bbdb6d7ffa9611

def sampleWorld : PoolIndexer.World Nat :=
  (PoolIndexer.machine PoolIndexer.sampleSetup).final (PoolIndexer.World.fresh Nat [] none)
    PoolIndexer.sampleSyncs

theorem sampleWorld_ready :
    (sampleWorld.pool PoolIndexer.sampleSetup).storage.isSome = true := by
  decide +kernel

def sampleServed : PoolLeaves :=
  ⟨"POOL".toList, 2, [toHex (BytesN.ofNat 32 77).data, toHex (BytesN.ofNat 32 78).data]⟩

theorem sampleWorld_served :
    leaves (some PoolIndexer.sampleSetup.poolId) sampleWorld.leaves = .ok sampleServed := by
  rw [sampleWorld, PoolIndexer.sampleSyncs_leaves]
  rfl

theorem sampleWorld_payable :
    Payable PoolIndexer.sampleSetup.pool sampleProver (sampleWorld.pool PoolIndexer.sampleSetup)
      ((sampleWorld.pool PoolIndexer.sampleSetup).storage.get sampleWorld_ready) sampleEnv 2 := by
  have vk : ((sampleWorld.pool PoolIndexer.sampleSetup).storage.get sampleWorld_ready).vk =
      sampleKey := by
    decide +kernel
  constructor
  · exact (Option.some_get sampleWorld_ready).symm
  · decide +kernel
  · intro secret siblings indexBits signal
    rw [vk]
    exact sampleProver_complete secret siblings indexBits signal
  · decide +kernel
  · rfl

theorem sealed_gift_delivered_sample :
    ∃ args built, args.recipientSignal =
        Fr.toBytes (toFr (sampleBrowser.sha256 (BytesN.ofNat 32
          0xf4c9744729bfb7c24ca4eac772ef940619487958f545298c2d8c1b7b5d0b5b31).data)) ∧
      Delivers PoolIndexer.sampleSetup sampleWorld sampleAddress sampleEnv
        ((sampleWorld.pool PoolIndexer.sampleSetup).storage.get sampleWorld_ready)
        Backend.sampleReceiver 2 args built ∧
      ∀ xdr, sampleNode.simulate built = .ok xdr →
        let run := openedLink sampleLink Backend.sampleReceiver "Failed to fetch"
          (some PoolIndexer.sampleSetup.poolId) sampleWorld.leaves sampleNode .ok
          fun _ => .ok ⟨"SUCCESS", []⟩
        claim sampleBrowser PoolIndexer.sampleSetup.pool.hash2 sampleProver run =
          .setError none :: .setPhase .proving :: signAndSubmit run xdr :=
  sealed_gift_delivered PoolIndexer.sampleSetup [] (by simp) none PoolIndexer.sampleSyncs
    (by decide +kernel) sampleWorld rfl sampleWorld.leaves (List.Subset.refl _) sampleServed
    sampleWorld_served sentRun 30000 sampleOrigin sampleLink (by decide) sentRun_shown 77
    (by decide +kernel) (fun _ => by decide +kernel) (by decide +kernel) (by decide +kernel)
    sampleBrowser sampleProver sampleAddress sampleNode sampleNode_named Backend.sampleReceiver
    (by decide) 2 (by decide) _ rfl sampleEnv _ sampleWorld_payable "Failed to fetch" .ok
    fun _ => .ok ⟨"SUCCESS", []⟩

end Way

end Giffy.Client
