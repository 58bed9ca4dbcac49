import Giffy.Foundation.Bytes
import Giffy.Foundation.TokenLedger
import Mathlib.Data.ZMod.Basic

/-! What the contracts see of the host: fixed-width values, the BLS12-381 scalar
field, authorization, ledger time, token calls and traps. -/

namespace Giffy

open TokenLedger

structure BytesN (size : Nat) where
  data : List UInt8
  width : data.length = size
deriving DecidableEq

namespace BytesN

def value {size : Nat} (b : BytesN size) : Nat := Bytes.value b.data

def ofNat (size n : Nat) : BytesN size := ⟨Bytes.encode size n, Bytes.encode_length size n⟩

@[ext] theorem ext {size : Nat} {left right : BytesN size} (same : left.data = right.data) :
    left = right := by
  cases left
  cases right
  cases same
  rfl

theorem value_injective {size : Nat} {left right : BytesN size}
    (same : left.value = right.value) : left = right :=
  ext (Bytes.value_injective (left.width.trans right.width.symm) same)

theorem value_ofNat {size n : Nat} (bound : n < 256 ^ size) : (ofNat size n).value = n :=
  Bytes.value_encode_of_lt bound

theorem ofNat_value {size : Nat} (b : BytesN size) : ofNat size b.value = b :=
  value_injective (value_ofNat (by simpa [value, b.width] using Bytes.value_lt b.data))

end BytesN

/-- The order of the BLS12-381 scalar field. -/
def frModulus : Nat := 0x73eda753299d7d483339d80809a1d80553bda402fffe5bfeffffffff00000001

instance : NeZero frModulus := ⟨by decide⟩

abbrev Fr := ZMod frModulus

namespace Fr

/-- The host reads 32 big-endian bytes modulo the field order. -/
def fromBytes (b : BytesN 32) : Fr := (b.value : Fr)

def toBytes (x : Fr) : BytesN 32 := BytesN.ofNat 32 x.val

theorem val_lt_width (x : Fr) : x.val < 256 ^ 32 :=
  lt_trans (ZMod.val_lt x) (by decide)

theorem value_toBytes (x : Fr) : (toBytes x).value = x.val := BytesN.value_ofNat (val_lt_width x)

@[simp] theorem fromBytes_toBytes (x : Fr) : fromBytes (toBytes x) = x := by
  rw [fromBytes, value_toBytes, ZMod.natCast_val, ZMod.cast_id', id]

theorem toBytes_injective : Function.Injective toBytes :=
  Function.LeftInverse.injective fromBytes_toBytes

theorem fromBytes_eq_iff {left right : BytesN 32} :
    fromBytes left = fromBytes right ↔ left.value ≡ right.value [MOD frModulus] :=
  ZMod.natCast_eq_natCast_iff _ _ _

theorem toBytes_fromBytes {b : BytesN 32} (canonical : b.value < frModulus) :
    toBytes (fromBytes b) = b := by
  calc
    toBytes (fromBytes b) = BytesN.ofNat 32 b.value := by
      rw [toBytes, fromBytes, ZMod.val_natCast_of_lt canonical]
    _ = b := BytesN.ofNat_value b

end Fr

structure I128 where
  value : Int
  lower : -(2 ^ 127) ≤ value
  upper : value < 2 ^ 127
deriving DecidableEq

namespace I128

def ofInt? (n : Int) : Option I128 :=
  if bounds : -(2 ^ 127) ≤ n ∧ n < 2 ^ 127 then some ⟨n, bounds.1, bounds.2⟩ else none

def zero : I128 := ⟨0, by decide, by decide⟩

theorem ofInt?_eq_some {n : Int} {a : I128} : ofInt? n = some a ↔ a.value = n := by
  unfold ofInt?
  split
  next bounds =>
    rw [Option.some.injEq]
    constructor
    · intro same
      rw [← same]
    · intro same
      cases a
      cases same
      rfl
  next outside =>
    refine iff_of_false (by simp) fun same => outside ?_
    rw [← same]
    exact ⟨a.lower, a.upper⟩

end I128

inductive Trap (Error : Type)
  | contract (error : Error)
  | unauthorized
  | arithmetic
  | malformed
  | token (refusal : Refusal)
deriving DecidableEq, Repr

/-- What one call finds: who signed it, the ledger time, and which transfers the tokens
would turn down. -/
structure Env (Address : Type) where
  authorized : Address → Bool
  timestamp : Nat
  refuses : Transfer Address → Bool

inductive Action (Address Call : Type)
  | invoke (env : Env Address) (call : Call)
  | outside (token holder : Address) (change : Int)

section Payers

variable {Address Call : Type} (payer : Call → Option Address) (self : Address)

/-- The contract address does not sign where it would be the payer. -/
def NotSelfPaid : Action Address Call → Prop
  | .invoke env call => payer call = some self → env.authorized self = false
  | .outside .. => True

instance [DecidableEq Address] : DecidablePred (NotSelfPaid payer self)
  | .invoke .. => inferInstanceAs (Decidable (_ → _))
  | .outside .. => isTrue trivial

end Payers

section Checks

variable {Error Address : Type}

def requireAuth (env : Env Address) (who : Address) : Except (Trap Error) Unit :=
  if env.authorized who then .ok () else .error .unauthorized

def panicIf (condition : Prop) [Decidable condition] (error : Error) : Except (Trap Error) Unit :=
  if condition then .error (.contract error) else .ok ()

def required {α : Type} (value : Option α) (trap : Trap Error) : Except (Trap Error) α :=
  match value with
  | some a => .ok a
  | none => .error trap

def checkedAdd (a b : I128) : Except (Trap Error) I128 :=
  required (I128.ofInt? (a.value + b.value)) .arithmetic

def tokenTransfer [DecidableEq Address] (env : Env Address) (balances : Balances Address)
    (t : Transfer Address) : Except (Trap Error) (Balances Address) :=
  match transfer env.refuses balances t with
  | .ok after => .ok after
  | .error refusal => .error (.token refusal)

def tokenPayAll [DecidableEq Address] (env : Env Address) (balances : Balances Address)
    (transfers : List (Transfer Address)) : Except (Trap Error) (Balances Address) :=
  match payAll env.refuses balances transfers with
  | .ok after => .ok after
  | .error refusal => .error (.token refusal)

/-- No token lowers a contract's balance without its authorization. -/
def outsideChange [DecidableEq Address] (self : Address) (balances : Balances Address)
    (token holder : Address) (change : Int) : Except (Trap Error) (Balances Address) :=
  if holder = self ∧ change < 0 then .error .unauthorized
  else .ok (add balances token holder change)

theorem bind_eq_ok {ε α β : Type} {x : Except ε α} {f : α → Except ε β} {b : β} :
    (x >>= f) = .ok b ↔ ∃ a, x = .ok a ∧ f a = .ok b := by
  cases x <;> simp [bind, Except.bind]

theorem bind_ne_error {ε α β : Type} {x : Except ε α} {f : α → Except ε β} {err : ε}
    (first : x ≠ .error err) (rest : ∀ a, x = .ok a → f a ≠ .error err) :
    (x >>= f) ≠ .error err := by
  cases x with
  | ok a => exact rest a rfl
  | error other =>
      intro same
      cases same
      exact first rfl

theorem pure_eq_ok {ε α : Type} {a b : α} : (pure a : Except ε α) = .ok b ↔ a = b := by
  simp [pure, Except.pure]

theorem requireAuth_ne_token {env : Env Address} {who : Address} {refusal : Refusal} :
    (requireAuth env who : Except (Trap Error) Unit) ≠ .error (.token refusal) := by
  unfold requireAuth
  split <;> simp

theorem panicIf_ne_token {condition : Prop} [Decidable condition] {error : Error}
    {refusal : Refusal} : panicIf condition error ≠ .error (.token refusal) := by
  unfold panicIf
  split <;> simp

theorem requireAuth_eq_ok {env : Env Address} {who : Address} {u : Unit} :
    (requireAuth env who : Except (Trap Error) Unit) = .ok u ↔ env.authorized who = true := by
  unfold requireAuth
  split <;> simp_all

theorem panicIf_eq_ok {condition : Prop} [Decidable condition] {error : Error} {u : Unit} :
    panicIf condition error = .ok u ↔ ¬condition := by
  unfold panicIf
  split <;> simp_all

theorem required_eq_ok {α : Type} {value : Option α} {trap : Trap Error} {a : α} :
    required value trap = .ok a ↔ value = some a := by
  cases value <;> simp [required]

theorem checkedAdd_eq_ok {a b sum : I128} :
    (checkedAdd a b : Except (Trap Error) I128) = .ok sum ↔ sum.value = a.value + b.value := by
  rw [checkedAdd, required_eq_ok, I128.ofInt?_eq_some]

theorem tokenTransfer_eq_ok [DecidableEq Address] {env : Env Address}
    {before after : Balances Address} {t : Transfer Address} :
    (tokenTransfer env before t : Except (Trap Error) (Balances Address)) = .ok after ↔
      t.amount ≤ before t.token t.source ∧ env.refuses t = false ∧ after = move before t := by
  rw [← transfer_eq_ok, tokenTransfer]
  cases transfer env.refuses before t <;> simp

theorem outsideChange_eq_ok [DecidableEq Address] {self token holder : Address} {change : Int}
    {before after : Balances Address} :
    (outsideChange self before token holder change : Except (Trap Error) (Balances Address)) =
      .ok after ↔ (holder = self → 0 ≤ change) ∧ after = add before token holder change := by
  unfold outsideChange
  split
  next lowered => simp [lowered.1, not_le.mpr lowered.2]
  next allowed =>
    rw [not_and, not_lt] at allowed
    rw [Except.ok.injEq, eq_comm]
    exact ⟨fun same => ⟨allowed, same⟩, And.right⟩

theorem tokenPayAll_eq_ok [DecidableEq Address] {env : Env Address}
    {before after : Balances Address} {transfers : List (Transfer Address)}
    (paid : (tokenPayAll env before transfers : Except (Trap Error) (Balances Address)) =
      .ok after) : after = transfers.foldl move before := by
  rw [tokenPayAll] at paid
  cases ran : payAll env.refuses before transfers with
  | ok balances =>
      apply payAll_eq_ok
      rw [ran]
      simpa [ran] using paid
  | error refusal => simp [ran] at paid

theorem tokenPayAll_unrefused [DecidableEq Address] {env : Env Address}
    {before after : Balances Address} {transfers : List (Transfer Address)}
    (paid : (tokenPayAll env before transfers : Except (Trap Error) (Balances Address)) =
      .ok after) : ∀ t ∈ transfers, env.refuses t = false := by
  rw [tokenPayAll] at paid
  cases ran : payAll env.refuses before transfers with
  | ok balances => exact payAll_unrefused ran
  | error refusal => simp [ran] at paid

theorem tokenTransfer_ne_insufficient [DecidableEq Address] {env : Env Address}
    {before : Balances Address} {t : Transfer Address}
    (enough : t.amount ≤ before t.token t.source) :
    (tokenTransfer env before t : Except (Trap Error) (Balances Address)) ≠
      .error (.token .insufficient) := by
  have funded := transfer_ne_insufficient env.refuses enough
  rw [tokenTransfer]
  cases ran : transfer env.refuses before t <;> simp_all

theorem tokenPayAll_ne_insufficient [DecidableEq Address] {env : Env Address}
    {token source : Address} {transfers : List (Transfer Address)} {balances : Balances Address}
    (out : ∀ t ∈ transfers, t.token = token ∧ t.source = source ∧ 0 ≤ t.amount)
    (enough : (transfers.map Transfer.amount).sum ≤ balances token source) :
    (tokenPayAll env balances transfers : Except (Trap Error) (Balances Address)) ≠
      .error (.token .insufficient) := by
  have funded := payAll_ne_insufficient env.refuses out enough
  rw [tokenPayAll]
  cases ran : payAll env.refuses balances transfers <;> simp_all

theorem tokenPayAll_ok [DecidableEq Address] {env : Env Address} {token source : Address}
    {transfers : List (Transfer Address)} {balances : Balances Address}
    (out : ∀ t ∈ transfers, t.token = token ∧ t.source = source ∧ 0 ≤ t.amount)
    (enough : (transfers.map Transfer.amount).sum ≤ balances token source)
    (allowed : ∀ t ∈ transfers, env.refuses t = false) :
    ∃ after, (tokenPayAll env balances transfers : Except (Trap Error) (Balances Address)) =
      .ok after := by
  rw [tokenPayAll]
  cases ran : payAll env.refuses balances transfers with
  | ok after => exact ⟨after, rfl⟩
  | error refusal =>
      cases refusal with
      | insufficient => exact absurd ran (payAll_ne_insufficient env.refuses out enough)
      | refused => exact absurd ran (payAll_ne_refused allowed)

end Checks

end Giffy
