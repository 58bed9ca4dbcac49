import Giffy.Backend.Amounts
import Giffy.Backend.ErrorHandler
import Giffy.Backend.PoolIndexer
import Giffy.Client.SealedLink
import Giffy.Client.StellarAddress

/-! The routes of the sealed-gift pool: the bodies they accept, the invocations they build and the
calls the contract reads in these. -/

namespace Giffy.PoolRoutes

open Backend Chain Client

section Schemas

/-- `^[0-9a-fA-F]{n}$`, two digits a byte -/
def hex (path : List String) (bytes : Nat) (value : Text) : List Issue :=
  check path (some s!"expected {bytes}-byte hex") (value.length = 2 * bytes && value.all isHexChar)

/-- A key by its shape; its checksum is not looked at. -/
def pubkey (path : List String) (value : Text) : List Issue :=
  check path (some "invalid Stellar public key") (keyPattern value)

/-- `.strict()`: a key that the object should not have is an issue. -/
def strict (path : List String) (unknownKeys : List String) : List Issue :=
  check path none unknownKeys.isEmpty

structure DepositBody where
  fromPublicKey : Text
  commitment : Text
  unknownKeys : List String

structure WithdrawProofInput where
  a : Text
  b : Text
  c : Text

structure ProofBody extends WithdrawProofInput where
  unknownKeys : List String

structure WithdrawBody where
  sourcePublicKey : Text
  root : Text
  nullifier : Text
  recipient : Text
  recipientSignal : Text
  proof : ProofBody
  unknownKeys : List String

def depositSchema (body : DepositBody) : List Issue :=
  pubkey ["fromPublicKey"] body.fromPublicKey ++ hex ["commitment"] 32 body.commitment ++
    strict [] body.unknownKeys

def withdrawSchema (body : WithdrawBody) : List Issue :=
  pubkey ["sourcePublicKey"] body.sourcePublicKey ++ hex ["root"] 32 body.root ++
    hex ["nullifier"] 32 body.nullifier ++ pubkey ["recipient"] body.recipient ++
    hex ["recipientSignal"] 32 body.recipientSignal ++ hex ["proof", "a"] 96 body.proof.a ++
    hex ["proof", "b"] 192 body.proof.b ++ hex ["proof", "c"] 96 body.proof.c ++
    strict ["proof"] body.proof.unknownKeys ++ strict [] body.unknownKeys

end Schemas

section Builders

/-- An argument of a call of the pool; a contract's struct is a map of its fields. -/
inductive PoolArg
  | scVal (value : ScVal)
  | scMap (fields : List (String × List UInt8))

structure PoolInvocation where
  sourcePublicKey : Text
  method : String
  args : List PoolArg

def scBytes (hex : Text) : PoolArg := .scVal (.bytes (hexToBuf hex))

/-- The SDK and the RPC server: `simulate` is the assembled transaction of an invocation, the
error its simulation ends in, or `none` when a request throws. -/
structure Node where
  sdk : Sdk
  simulate : PoolInvocation → Except (Option Rejection) Text

variable (node : Node)

def buildPoolInvocation (invocation : PoolInvocation) : Except ChainFailure Text :=
  match node.simulate invocation with
  | .ok xdr => .ok xdr
  | .error (some simulated) => .error (contractFailure simulated)
  | .error none => .error .other

/-- `new Address(_).toScVal()` -/
def scAddress (key : Text) : Except ChainFailure PoolArg :=
  match node.sdk.address key with
  | some value => .ok (.scVal value)
  | none => .error .other

def depositInvocation (fromPublicKey commitmentHex : Text) : Except ChainFailure PoolInvocation := do
  let source ← scAddress node fromPublicKey
  return ⟨fromPublicKey, "deposit", [source, scBytes commitmentHex]⟩

structure BuildWithdrawParams where
  sourcePublicKey : Text
  rootHex : Text
  nullifierHex : Text
  recipientPublicKey : Text
  recipientSignalHex : Text
  proof : WithdrawProofInput

def withdrawInvocation (params : BuildWithdrawParams) : Except ChainFailure PoolInvocation := do
  let proof : PoolArg := .scMap
    [("a", hexToBuf params.proof.a), ("b", hexToBuf params.proof.b), ("c", hexToBuf params.proof.c)]
  let recipient ← scAddress node params.recipientPublicKey
  return ⟨params.sourcePublicKey, "withdraw",
    [scBytes params.rootHex, scBytes params.nullifierHex, recipient,
      scBytes params.recipientSignalHex, proof]⟩

def buildPoolDepositTx (fromPublicKey commitmentHex : Text) : Except ChainFailure Text := do
  let invocation ← depositInvocation node fromPublicKey commitmentHex
  buildPoolInvocation node invocation

def buildPoolWithdrawTx (params : BuildWithdrawParams) : Except ChainFailure Text := do
  let invocation ← withdrawInvocation node params
  buildPoolInvocation node invocation

end Builders

section Routes

structure Refusal where
  status : Nat
  code : String
  message : Option Text
  issues : Option (List Issue)
deriving DecidableEq

def poolDisabled : Refusal :=
  ⟨404, "POOL_DISABLED", some "Sealed gifts are not enabled.".toList, none⟩

def invalid (issues : List Issue) : Refusal := ⟨400, "VALIDATION", none, some issues⟩

def refused : ChainFailure → Refusal
  | .chain code message => ⟨chainErrorStatus code, code, some message.toList, none⟩
  | .other => ⟨500, "INTERNAL_ERROR",
      some "Something went wrong on our end. Please try again.".toList, none⟩

structure PoolLeaves where
  poolId : Text
  count : Nat
  commitments : List Text

variable (poolId : Option Text)

def isShieldedPoolConfigured : Bool := truthy poolId

def ensureEnabled : Except Refusal Text :=
  if isShieldedPoolConfigured poolId then .ok (poolId.getD []) else .error poolDisabled

/-- `found` is what the query of the cache returns. -/
def leaves (found : List PoolIndexer.Leaf) : Except Refusal PoolLeaves := do
  let id ← ensureEnabled poolId
  match PoolIndexer.getOrderedCommitments id found with
  | .ok served => return ⟨id, served.count, served.commitments⟩
  | .error gap => .error ⟨409, "INDEXER_BEHIND", some gap.message, none⟩

/-- The handler of a body runs only when the pool is configured and the schema finds nothing. -/
def accepted {α : Type} (issues : List Issue) (handle : Except ChainFailure α) :
    Except Refusal α := do
  let _ ← ensureEnabled poolId
  if issues = [] then
    match handle with
    | .ok built => return built
    | .error failure => .error (refused failure)
  else .error (invalid issues)

variable (node : Node)

def depositRoute (body : DepositBody) : Except Refusal Text :=
  accepted poolId (depositSchema body)
    (buildPoolDepositTx node body.fromPublicKey body.commitment)

def buildWithdrawParams (d : WithdrawBody) : BuildWithdrawParams :=
  ⟨d.sourcePublicKey, d.root, d.nullifier, d.recipient, d.recipientSignal,
    d.proof.toWithdrawProofInput⟩

def withdrawRoute (body : WithdrawBody) : Except Refusal Text :=
  accepted poolId (withdrawSchema body) (buildPoolWithdrawTx node (buildWithdrawParams body))

end Routes

section Reading

variable {Address : Type} (address : Text → Option Address)

/-- The contract takes a fixed-width argument only at its own width. -/
def readBytes (size : Nat) (data : List UInt8) : Option (BytesN size) :=
  if width : data.length = size then some ⟨data, width⟩ else none

def readProof : List (String × List UInt8) → Option Pool.Proof
  | [("a", a), ("b", b), ("c", c)] => do
      return ⟨← readBytes 96 a, ← readBytes 192 b, ← readBytes 96 c⟩
  | _ => none

def readCall (invocation : PoolInvocation) : Option (Pool.Call Address) :=
  match invocation.method, invocation.args with
  | "deposit", [.scVal (.address key), .scVal (.bytes commitment)] => do
      return .deposit (← address key) (← readBytes 32 commitment)
  | "withdraw", [.scVal (.bytes root), .scVal (.bytes nullifier), .scVal (.address key),
      .scVal (.bytes recipientSignal), .scMap proof] => do
      return .withdraw (← readBytes 32 root) (← readBytes 32 nullifier) (← address key)
        (← readBytes 32 recipientSignal) (← readProof proof)
  | _, _ => none

def account (node : Node) (key : Text) : Option Address :=
  match node.sdk.address key with
  | some (.address name) => address name
  | _ => none

def Spells {size : Nat} (text : Text) (b : BytesN size) : Prop := toLowerCase text = hexOf b

structure DepositBody.Asks (node : Node) (body : DepositBody) (source : Address)
    (commitment : BytesN 32) : Prop where
  key : keyPattern body.fromPublicKey = true
  source : account address node body.fromPublicKey = some source
  commitment : Spells body.commitment commitment
  strict : body.unknownKeys = []

structure WithdrawBody.Asks (node : Node) (body : WithdrawBody) (recipient : Address)
    (args : WithdrawArgs) : Prop where
  sourceKey : keyPattern body.sourcePublicKey = true
  key : keyPattern body.recipient = true
  recipient : account address node body.recipient = some recipient
  root : Spells body.root args.root
  nullifier : Spells body.nullifier args.nullifier
  recipientSignal : Spells body.recipientSignal args.recipientSignal
  a : Spells body.proof.a args.proof.a
  b : Spells body.proof.b args.proof.b
  c : Spells body.proof.c args.proof.c
  proofStrict : body.proof.unknownKeys = []
  strict : body.unknownKeys = []

end Reading

section Texts

theorem isHexChar_toLower (c : Char) : isHexChar c.toLower = isHexChar c := by
  rw [isHexChar, Hex.digitValue_toLower, isHexChar]

theorem hex_eq_nil {path : List String} {bytes : Nat} {value : Text} :
    hex path bytes value = [] ↔ ∃ b : BytesN bytes, Spells value b := by
  rw [hex, check_eq_nil, Bool.and_eq_true, decide_eq_true_eq, List.all_eq_true]
  constructor
  · intro passes
    rcases passes with ⟨length, digits⟩
    have written := Hex.encode_decode length digits
    have width : (Hex.decode value).length = bytes := by
      have doubled := congrArg List.length written
      rw [Hex.encode_length, List.length_map, length] at doubled
      omega
    exact ⟨⟨Hex.decode value, width⟩, written.symm⟩
  · intro spelled
    rcases spelled with ⟨b, spells⟩
    have lower : value.map Char.toLower = Hex.encode b.data := spells
    constructor
    · calc
        value.length = (value.map Char.toLower).length := by rw [List.length_map]
        _ = 2 * bytes := by rw [lower, Hex.encode_length, b.width]
    · intro c member
      rw [← isHexChar_toLower]
      have inside : c.toLower ∈ Hex.encode b.data := by
        rw [← lower]
        exact List.mem_map_of_mem member
      apply Hex.encode_chars (P := fun c => isHexChar c = true) _ b.data _ inside
      intro n bound
      rw [isHexChar, Hex.digitValue_digit bound]
      rfl

theorem strict_eq_nil {path unknownKeys : List String} :
    strict path unknownKeys = [] ↔ unknownKeys = [] := by
  rw [strict, check_eq_nil, List.isEmpty_iff]

theorem hexToBuf_spelled {size : Nat} {text : Text} {b : BytesN size} (spells : Spells text b) :
    hexToBuf text = b.data := by
  have plain : hexToBuf text = Hex.decode text := by
    unfold hexToBuf
    split
    next rest =>
      have inside : 'x' ∈ Hex.encode b.data := by
        have lower : ('0' :: 'x' :: rest).map Char.toLower = Hex.encode b.data := spells
        rw [← lower]
        simp
      have never := Hex.encode_chars (P := fun c => c ≠ 'x') (fun _ => Hex.digit_ne_x) b.data 'x'
        inside
      exact absurd rfl never
    next => rfl
  calc
    hexToBuf text = Hex.decode (toLowerCase text) := by rw [plain, toLowerCase, Hex.decode_lower]
    _ = b.data := by rw [spells, hexOf, Hex.decode_encode]

theorem readBytes_eq_some {size : Nat} {data : List UInt8} {b : BytesN size} :
    readBytes size data = some b ↔ data = b.data := by
  unfold readBytes
  by_cases width : data.length = size
  · rw [dif_pos width, Option.some.injEq]
    constructor
    · intro same
      rw [← same]
    · intro same
      exact BytesN.ext same
  · rw [dif_neg width]
    constructor
    · intro read
      cases read
    · intro same
      rw [same] at width
      exact absurd b.width width

theorem readProof_eq_some {fields : List (String × List UInt8)} {proof : Pool.Proof} :
    readProof fields = some proof ↔
      fields = [("a", proof.a.data), ("b", proof.b.data), ("c", proof.c.data)] := by
  constructor
  · intro read
    unfold readProof at read
    split at read
    next a b c =>
      simp only [Option.bind_eq_bind, Option.bind_eq_some_iff, readBytes_eq_some,
        Option.pure_def, Option.some.injEq] at read
      rcases read with ⟨_, rfl, _, rfl, _, rfl, rfl⟩
      rfl
    next => cases read
  · intro same
    subst same
    simp [readProof, readBytes_eq_some.mpr rfl]

end Texts

section Calls

variable {Address : Type} {address : Text → Option Address} {invocation : PoolInvocation}
  {source recipient : Address} {commitment : BytesN 32} {args : WithdrawArgs}

theorem readCall_deposit :
    readCall address invocation = some (.deposit source commitment) ↔
      ∃ name, address name = some source ∧ invocation.method = "deposit" ∧
        invocation.args = [.scVal (.address name), .scVal (.bytes commitment.data)] := by
  constructor
  · intro read
    unfold readCall at read
    split at read
    next name data method args =>
      simp only [Option.bind_eq_bind, Option.bind_eq_some_iff, readBytes_eq_some, Option.pure_def,
        Option.some.injEq, Pool.Call.deposit.injEq] at read
      rcases read with ⟨_, known, _, rfl, rfl, rfl⟩
      exact ⟨name, known, method, args⟩
    next =>
      simp only [Option.bind_eq_bind, Option.bind_eq_some_iff, Option.pure_def, Option.some.injEq,
        reduceCtorEq, and_false, exists_false] at read
    next => cases read
  · intro shaped
    rcases shaped with ⟨name, known, method, args⟩
    simp [readCall, method, args, known, readBytes_eq_some.mpr rfl]

theorem readCall_withdraw :
    readCall address invocation = some (.withdraw args.root args.nullifier recipient
        args.recipientSignal args.proof) ↔
      ∃ name, address name = some recipient ∧ invocation.method = "withdraw" ∧
        invocation.args = [.scVal (.bytes args.root.data), .scVal (.bytes args.nullifier.data),
          .scVal (.address name), .scVal (.bytes args.recipientSignal.data),
          .scMap [("a", args.proof.a.data), ("b", args.proof.b.data), ("c", args.proof.c.data)]] := by
  constructor
  · intro read
    unfold readCall at read
    split at read
    next =>
      simp only [Option.bind_eq_bind, Option.bind_eq_some_iff, Option.pure_def, Option.some.injEq,
        reduceCtorEq, and_false, exists_false] at read
    next root nullifier name signal fields method shaped =>
      simp only [Option.bind_eq_bind, Option.bind_eq_some_iff, readBytes_eq_some,
        readProof_eq_some, Option.pure_def, Option.some.injEq, Pool.Call.withdraw.injEq] at read
      rcases read with ⟨_, rfl, _, rfl, _, known, _, rfl, _, rfl, rfl, rfl, rfl, rfl, rfl⟩
      exact ⟨name, known, method, shaped⟩
    next => cases read
  · intro shaped
    rcases shaped with ⟨name, known, method, shape⟩
    simp [readCall, method, shape, known, readBytes_eq_some.mpr rfl, readProof_eq_some.mpr rfl]

end Calls

section Exactness

variable {Address : Type} (address : Text → Option Address) (node : Node) (poolId : Option Text)

/-- The SDK encodes keys as the addresses they name, and no account has two names. -/
structure Named : Prop where
  named : ∀ key value, node.sdk.address key = some value →
    ∃ name who, value = .address name ∧ address name = some who
  distinct : ∀ name other who, address name = some who → address other = some who → name = other

variable {address node poolId}

theorem accepted_eq_ok {α : Type} {issues : List Issue} {handle : Except ChainFailure α} {x : α} :
    accepted poolId issues handle = .ok x ↔
      isShieldedPoolConfigured poolId = true ∧ issues = [] ∧ handle = .ok x := by
  unfold accepted ensureEnabled
  cases isShieldedPoolConfigured poolId with
  | false => exact iff_of_false nofun fun all => Bool.false_ne_true all.1
  | true =>
      by_cases clean : issues = []
      · cases handle with
        | ok built => simp [clean, bind, Except.bind, pure, Except.pure]
        | error failure => simp [clean, bind, Except.bind]
      · simp [clean, bind, Except.bind]

theorem buildPoolInvocation_eq_ok {invocation : PoolInvocation} {xdr : Text} :
    buildPoolInvocation node invocation = .ok xdr ↔ node.simulate invocation = .ok xdr := by
  unfold buildPoolInvocation
  cases node.simulate invocation with
  | ok built => simp
  | error failure => cases failure <;> simp

theorem scAddress_eq_ok {key : Text} {arg : PoolArg} :
    scAddress node key = .ok arg ↔ ∃ value, node.sdk.address key = some value ∧ arg = .scVal value := by
  unfold scAddress
  cases node.sdk.address key with
  | none => simp
  | some value => simp [eq_comm]

theorem account_eq_some {key : Text} {who : Address} :
    account address node key = some who ↔
      ∃ name, node.sdk.address key = some (.address name) ∧ address name = some who := by
  unfold account
  split
  next name encoded => simp [encoded]
  next other =>
    apply iff_of_false nofun
    intro found
    rcases found with ⟨name, encoded, _⟩
    exact other name encoded

theorem Named.encodes (names : Named address node) {key : Text} {value : ScVal}
    (encoded : node.sdk.address key = some value) :
    ∃ name who, value = .address name ∧ address name = some who ∧
      account address node key = some who := by
  rcases names.named key value encoded with ⟨name, who, rfl, known⟩
  exact ⟨name, who, rfl, known, account_eq_some.mpr ⟨name, encoded, known⟩⟩

theorem depositSchema_eq_nil {body : DepositBody} :
    depositSchema body = [] ↔ keyPattern body.fromPublicKey = true ∧
      (∃ commitment : BytesN 32, Spells body.commitment commitment) ∧ body.unknownKeys = [] := by
  rw [depositSchema, List.append_eq_nil_iff, List.append_eq_nil_iff, pubkey, check_eq_nil,
    hex_eq_nil, strict_eq_nil, and_assoc]

theorem depositRoute_iff (names : Named address node) (body : DepositBody) (xdr : Text) :
    depositRoute poolId node body = .ok xdr ↔
      isShieldedPoolConfigured poolId = true ∧ ∃ source commitment built,
        body.Asks address node source commitment ∧
        built.sourcePublicKey = body.fromPublicKey ∧
        readCall address built = some (.deposit source commitment) ∧
        node.simulate built = .ok xdr := by
  rw [depositRoute, accepted_eq_ok, depositSchema_eq_nil]
  apply and_congr_right
  intro _
  simp only [buildPoolDepositTx, depositInvocation, bind_eq_ok, scAddress_eq_ok,
    buildPoolInvocation_eq_ok, pure_eq_ok]
  constructor
  · rintro ⟨⟨key, ⟨commitment, spells⟩, strict⟩, built, ⟨_, ⟨value, encoded, rfl⟩, rfl⟩, simulated⟩
    rcases names.encodes encoded with ⟨name, who, rfl, known, found⟩
    refine ⟨who, commitment, _, ⟨key, found, spells, strict⟩, rfl, ?_, simulated⟩
    exact readCall_deposit.mpr ⟨name, known, rfl, by rw [scBytes, hexToBuf_spelled spells]⟩
  · rintro ⟨who, commitment, built, asks, source, read, simulated⟩
    rcases account_eq_some.mp asks.source with ⟨name, encoded, known⟩
    rcases readCall_deposit.mp read with ⟨other, same, method, args⟩
    cases names.distinct name other who known same
    refine ⟨⟨asks.key, ⟨commitment, asks.commitment⟩, asks.strict⟩, built,
      ⟨_, ⟨_, encoded, rfl⟩, ?_⟩, simulated⟩
    rw [scBytes, hexToBuf_spelled asks.commitment]
    cases built
    cases source
    cases method
    cases args
    rfl

theorem withdrawSchema_eq_nil {body : WithdrawBody} :
    withdrawSchema body = [] ↔
      keyPattern body.sourcePublicKey = true ∧ keyPattern body.recipient = true ∧
      body.proof.unknownKeys = [] ∧ body.unknownKeys = [] ∧
      ∃ args : WithdrawArgs, Spells body.root args.root ∧ Spells body.nullifier args.nullifier ∧
        Spells body.recipientSignal args.recipientSignal ∧ Spells body.proof.a args.proof.a ∧
        Spells body.proof.b args.proof.b ∧ Spells body.proof.c args.proof.c := by
  simp only [withdrawSchema, List.append_eq_nil_iff, pubkey, check_eq_nil, hex_eq_nil,
    strict_eq_nil]
  constructor
  · rintro ⟨⟨⟨⟨⟨⟨⟨⟨⟨source, root, rootIs⟩, nullifier, nullifierIs⟩, key⟩, signal, signalIs⟩, a, aIs⟩,
      b, bIs⟩, c, cIs⟩, proofStrict⟩, strict⟩
    exact ⟨source, key, proofStrict, strict, ⟨root, nullifier, signal, ⟨a, b, c⟩⟩, rootIs,
      nullifierIs, signalIs, aIs, bIs, cIs⟩
  · rintro ⟨source, key, proofStrict, strict, args, root, nullifier, signal, a, b, c⟩
    exact ⟨⟨⟨⟨⟨⟨⟨⟨⟨source, _, root⟩, _, nullifier⟩, key⟩, _, signal⟩, _, a⟩, _, b⟩, _, c⟩,
      proofStrict⟩, strict⟩

theorem withdrawRoute_iff (names : Named address node) (body : WithdrawBody) (xdr : Text) :
    withdrawRoute poolId node body = .ok xdr ↔
      isShieldedPoolConfigured poolId = true ∧ ∃ recipient args built,
        body.Asks address node recipient args ∧
        built.sourcePublicKey = body.sourcePublicKey ∧
        readCall address built = some (.withdraw args.root args.nullifier recipient
          args.recipientSignal args.proof) ∧
        node.simulate built = .ok xdr := by
  rw [withdrawRoute, accepted_eq_ok, withdrawSchema_eq_nil]
  apply and_congr_right
  intro _
  simp only [buildPoolWithdrawTx, withdrawInvocation, buildWithdrawParams, bind_eq_ok,
    scAddress_eq_ok, buildPoolInvocation_eq_ok, pure_eq_ok]
  constructor
  · rintro ⟨⟨source, key, proofStrict, strict, args, root, nullifier, signal, a, b, c⟩, built,
      ⟨_, ⟨value, encoded, rfl⟩, rfl⟩, simulated⟩
    rcases names.encodes encoded with ⟨name, who, rfl, known, found⟩
    refine ⟨who, args, _, ⟨source, key, found, root, nullifier, signal, a, b, c, proofStrict,
      strict⟩, rfl, ?_, simulated⟩
    apply readCall_withdraw.mpr
    refine ⟨name, known, rfl, ?_⟩
    simp only [scBytes, hexToBuf_spelled root, hexToBuf_spelled nullifier, hexToBuf_spelled signal,
      hexToBuf_spelled a, hexToBuf_spelled b, hexToBuf_spelled c]
  · rintro ⟨who, args, built, asks, source, read, simulated⟩
    rcases account_eq_some.mp asks.recipient with ⟨name, encoded, known⟩
    rcases readCall_withdraw.mp read with ⟨other, same, method, shaped⟩
    cases names.distinct name other who known same
    refine ⟨⟨asks.sourceKey, asks.key, asks.proofStrict, asks.strict, args, asks.root,
      asks.nullifier, asks.recipientSignal, asks.a, asks.b, asks.c⟩, built,
      ⟨_, ⟨_, encoded, rfl⟩, ?_⟩, simulated⟩
    simp only [scBytes, hexToBuf_spelled asks.root, hexToBuf_spelled asks.nullifier,
      hexToBuf_spelled asks.recipientSignal, hexToBuf_spelled asks.a, hexToBuf_spelled asks.b,
      hexToBuf_spelled asks.c]
    cases built
    cases source
    cases method
    cases shaped
    rfl

/-- A transaction is built for a body exactly when the body spells a call and has no key beside it,
and then it is the transaction of that call as the contract reads it, whatever the case of the
digits. -/
theorem routes_exact (names : Named address node) (poolId : Option Text) :
    (∀ body xdr, depositRoute poolId node body = .ok xdr ↔
      isShieldedPoolConfigured poolId = true ∧ ∃ source commitment built,
        body.Asks address node source commitment ∧
        built.sourcePublicKey = body.fromPublicKey ∧
        readCall address built = some (.deposit source commitment) ∧
        node.simulate built = .ok xdr) ∧
    ∀ body xdr, withdrawRoute poolId node body = .ok xdr ↔
      isShieldedPoolConfigured poolId = true ∧ ∃ recipient args built,
        body.Asks address node recipient args ∧
        built.sourcePublicKey = body.sourcePublicKey ∧
        readCall address built = some (.withdraw args.root args.nullifier recipient
          args.recipientSignal args.proof) ∧
        node.simulate built = .ok xdr :=
  ⟨depositRoute_iff names, withdrawRoute_iff names⟩

def sampleAddress (name : Text) : Option Nat :=
  if name = sampleSender then some 1
  else if name = sampleReceiver then some 2
  else if name = xlmTokenContract then some 9
  else none

def sampleNode : Node := ⟨Backend.sampleSdk, fun invocation => .ok invocation.method.toList⟩

theorem sampleNode_named : Named sampleAddress sampleNode := by
  constructor
  · intro key value encoded
    change (if key = sampleSender ∨ key = sampleReceiver ∨ key = xlmTokenContract then
      some (ScVal.address key) else none) = some value at encoded
    split at encoded
    next known =>
      cases encoded
      rcases known with rfl | rfl | rfl
      · exact ⟨_, 1, rfl, rfl⟩
      · exact ⟨_, 2, rfl, by decide⟩
      · exact ⟨_, 9, rfl, by decide⟩
    next => cases encoded
  · intro name other who found same
    unfold sampleAddress at found same
    grind

def sampleDepositBody : DepositBody := ⟨sampleSender, List.replicate 62 '0' ++ "4D".toList, []⟩

theorem routes_exact_sample :
    ∃ source commitment built, sampleDepositBody.Asks sampleAddress sampleNode source commitment ∧
      built.sourcePublicKey = sampleSender ∧
      readCall sampleAddress built = some (.deposit source commitment) ∧
      sampleNode.simulate built = .ok "deposit".toList :=
  (((routes_exact sampleNode_named (some "POOL".toList)).1 sampleDepositBody "deposit".toList).mp
    (by decide +kernel)).2

end Exactness

end Giffy.PoolRoutes
