import Giffy.Foundation.Runs
import Giffy.Pool.Verifier

/-! The shielded pool contract: its storage, its entry points and the runs of calls
made to it. -/

namespace Giffy.Pool

open TokenLedger

def depth : Nat := 8

def rootHistory : Nat := 32

inductive PoolError
  | alreadyInitialized
  | notInitialized
  | treeFull
  | unknownRoot
  | nullifierUsed
  | invalidProof
deriving DecidableEq, Repr

structure Config (Address : Type) where
  token : Address
  denom : I128
  verifier : Address

/-- The keys that `initialize` writes together. -/
structure Instance (Address : Type) where
  config : Config Address
  vk : VerifyingKey
  nextIndex : Nat
  frontier : List (BytesN 32)
  zeros : List (BytesN 32)
  roots : List (BytesN 32)

structure State (Address : Type) where
  storage : Option (Instance Address)
  nullifiers : Finset (BytesN 32)
  balances : Balances Address

inductive Event
  | deposit (leafIndex : Nat) (commitment : BytesN 32)
  | withdraw (nullifier : BytesN 32)
deriving DecidableEq

structure Receipt (Address : Type) where
  leafIndex : Option Nat
  transfers : List (Transfer Address)
  events : List Event

structure Deployment (Address : Type) where
  self : Address
  verifier : Address
  hash2 : Fr → Fr → Fr
  bls : Bls12381

abbrev Effect (Address : Type) := State Address × Receipt Address

def zeroBytes : BytesN 32 := BytesN.ofNat 32 0

def toFr (b : BytesN 32) : Fr := Fr.fromBytes b

def h2 (hash2 : Fr → Fr → Fr) (a b : BytesN 32) : BytesN 32 := Fr.toBytes (hash2 (toFr a) (toFr b))

section Loops

variable (hash2 : Fr → Fr → Fr)

def pushZero (zeros : List (BytesN 32)) (i : Nat) : Option (List (BytesN 32)) := do
  let z ← zeros[i]?
  return zeros ++ [h2 hash2 z z]

def buildZeros : Option (List (BytesN 32)) := (List.range depth).foldlM (pushZero hash2) [zeroBytes]

structure Insertion where
  frontier : List (BytesN 32)
  cur : BytesN 32
  index : Nat

def insertPass (zeros : List (BytesN 32)) (at_ : Insertion) (i : Nat) : Option Insertion :=
  if at_.index &&& 1 = 0 then do
    let zero ← zeros[i]?
    guard (i < at_.frontier.length)
    return ⟨at_.frontier.set i at_.cur, h2 hash2 at_.cur zero, at_.index >>> 1⟩
  else do
    let left ← at_.frontier[i]?
    return ⟨at_.frontier, h2 hash2 left at_.cur, at_.index >>> 1⟩

def insertLeaf (zeros frontier : List (BytesN 32)) (index : Nat) (commitment : BytesN 32) :
    Option Insertion :=
  (List.range depth).foldlM (insertPass hash2 zeros) ⟨frontier, commitment, index⟩

/-- `while roots.len() > ROOT_HISTORY { roots.pop_front() }` -/
def trimRoots (roots : List (BytesN 32)) : List (BytesN 32) :=
  match roots with
  | [] => []
  | oldest :: rest => if rootHistory < (oldest :: rest).length then trimRoots rest else oldest :: rest

end Loops

variable {Address : Type} [DecidableEq Address] (d : Deployment Address)

section EntryPoints

variable (env : Env Address) (s : State Address)

def initializePool (config : Config Address) (vk : VerifyingKey) :
    Except (Trap PoolError) (Effect Address) := do
  panicIf (s.storage.isSome = true) .alreadyInitialized
  let zeros ← required (buildZeros d.hash2) .malformed
  let frontier ← required ((List.range depth).mapM fun i => zeros[i]?) .malformed
  let initialRoot ← required zeros[depth]? .malformed
  return ({ s with storage := some ⟨config, vk, 0, frontier, zeros, [initialRoot]⟩ }, ⟨none, [], []⟩)

def getInstance : Except (Trap PoolError) (Instance Address) :=
  required s.storage (.contract .notInitialized)

def deposit (source : Address) (commitment : BytesN 32) :
    Except (Trap PoolError) (Effect Address) := do
  requireAuth env source
  let pool ← getInstance s
  let payment : Transfer Address := ⟨pool.config.token, source, d.self, pool.config.denom.value⟩
  let balances ← tokenTransfer env s.balances payment
  let leafIndex := pool.nextIndex
  panicIf (2 ^ depth ≤ leafIndex) .treeFull
  let inserted ← required (insertLeaf d.hash2 pool.zeros pool.frontier leafIndex commitment)
    .malformed
  let pool :=
    { pool with
      nextIndex := leafIndex + 1
      frontier := inserted.frontier
      roots := trimRoots (pool.roots ++ [inserted.cur]) }
  return ({ s with storage := some pool, balances },
    ⟨some leafIndex, [payment], [.deposit leafIndex commitment]⟩)

/-- The cross-contract call; the verifier is the only contract that answers it. -/
def callVerifier (verifier : Address) (vk : VerifyingKey) (proof : Proof)
    (signals : List (BytesN 32)) : Except (Trap PoolError) Bool :=
  if verifier = d.verifier then required (verify d.bls vk proof signals) .malformed
  else .error .malformed

def withdraw (root nullifier : BytesN 32) (recipient : Address) (recipientSignal : BytesN 32)
    (proof : Proof) : Except (Trap PoolError) (Effect Address) := do
  let pool ← getInstance s
  panicIf (root ∉ pool.roots) .unknownRoot
  panicIf (nullifier ∈ s.nullifiers) .nullifierUsed
  let ok ← callVerifier d pool.config.verifier pool.vk proof [root, nullifier, recipientSignal]
  panicIf (ok = false) .invalidProof
  let s := { s with nullifiers := insert nullifier s.nullifiers }
  let payment : Transfer Address := ⟨pool.config.token, d.self, recipient, pool.config.denom.value⟩
  let balances ← tokenTransfer env s.balances payment
  return ({ s with balances }, ⟨none, [payment], [.withdraw nullifier]⟩)

def root : Option (BytesN 32) := do
  let pool ← s.storage
  pool.roots[pool.roots.length - 1]?

def nextIndex : Option Nat := do
  let pool ← s.storage
  return pool.nextIndex

end EntryPoints

inductive Call (Address : Type)
  | initializePool (config : Config Address) (vk : VerifyingKey)
  | deposit (source : Address) (commitment : BytesN 32)
  | withdraw (root nullifier : BytesN 32) (recipient : Address) (recipientSignal : BytesN 32)
      (proof : Proof)

def invoke (env : Env Address) (s : State Address) :
    Call Address → Except (Trap PoolError) (Effect Address)
  | .initializePool config vk => initializePool d s config vk
  | .deposit source commitment => deposit d env s source commitment
  | .withdraw root nullifier recipient recipientSignal proof =>
      withdraw d env s root nullifier recipient recipientSignal proof

def exec (s : State Address) : Action Address (Call Address) → Except (Trap PoolError) (Effect Address)
  | .invoke env call => invoke d env s call
  | .outside token holder change => do
      let balances ← outsideChange d.self s.balances token holder change
      return ({ s with balances }, ⟨none, [], []⟩)

abbrev machine : Runs.Machine (State Address) (Action Address (Call Address)) (Trap PoolError)
    (Receipt Address) := ⟨exec d⟩

abbrev Entry (Address : Type) :=
  Runs.Record (State Address) (Action Address (Call Address)) (Trap PoolError) (Receipt Address)

def State.empty : State Address := ⟨none, ∅, fun _ _ => 0⟩

end Giffy.Pool
