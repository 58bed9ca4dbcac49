import Mathlib.Algebra.BigOperators.Group.List.Basic
import Mathlib.Algebra.Order.BigOperators.Group.List
import Mathlib.Algebra.Order.Group.Int
import Mathlib.Algebra.Ring.Int.Defs

/-! Token balances and transfers between holders. -/

namespace TokenLedger

structure Transfer (Address : Type) where
  token : Address
  source : Address
  recipient : Address
  amount : Int
deriving DecidableEq, Repr

abbrev Balances (Address : Type) := Address → Address → Int

inductive Refusal
  | insufficient
  | refused
deriving DecidableEq, Repr

variable {Address : Type} [DecidableEq Address]

def add (balances : Balances Address) (token holder : Address) (change : Int) : Balances Address :=
  fun t h => if t = token ∧ h = holder then balances t h + change else balances t h

def move (balances : Balances Address) (t : Transfer Address) : Balances Address :=
  add (add balances t.token t.source (-t.amount)) t.token t.recipient t.amount

/-- A token moves exactly the amount or traps; `refuses` are its reasons other than the
balance. -/
def transfer (refuses : Transfer Address → Bool) (balances : Balances Address)
    (t : Transfer Address) : Except Refusal (Balances Address) :=
  if balances t.token t.source < t.amount then .error .insufficient
  else if refuses t then .error .refused
  else .ok (move balances t)

def payAll (refuses : Transfer Address → Bool) :
    Balances Address → List (Transfer Address) → Except Refusal (Balances Address)
  | balances, [] => .ok balances
  | balances, t :: rest =>
      match transfer refuses balances t with
      | .error refusal => .error refusal
      | .ok after => payAll refuses after rest

def net (token holder : Address) (t : Transfer Address) : Int :=
  (if token = t.token ∧ holder = t.recipient then t.amount else 0) -
    (if token = t.token ∧ holder = t.source then t.amount else 0)

theorem move_apply (balances : Balances Address) (t : Transfer Address) (token holder : Address) :
    move balances t token holder = balances token holder + net token holder t := by
  unfold move add net
  split <;> split <;> omega

theorem net_of_other_source {token holder : Address} {t : Transfer Address}
    (different : holder ≠ t.source) :
    net token holder t = if token = t.token ∧ holder = t.recipient then t.amount else 0 := by
  simp [net, different]

theorem net_source_ge (token holder : Address) {t : Transfer Address} (nonneg : 0 ≤ t.amount) :
    -(if token = t.token then t.amount else 0) ≤ net token holder t := by
  unfold net
  have taken : (if token = t.token ∧ holder = t.source then t.amount else 0) ≤
      if token = t.token then t.amount else 0 := by
    by_cases inToken : token = t.token
    · simp only [inToken, true_and, if_true]
      split <;> omega
    · simp [inToken]
  have given : 0 ≤ if token = t.token ∧ holder = t.recipient then t.amount else 0 := by
    split <;> omega
  omega

theorem move_solvent {holder : Address} {payment : Transfer Address} {balances : Balances Address}
    (nonneg : 0 ≤ payment.amount)
    (funded : payment.amount ≤ balances payment.token payment.source)
    (solvent : ∀ token, 0 ≤ balances token holder) (token : Address) :
    0 ≤ move balances payment token holder := by
  have before := solvent token
  rw [move_apply]
  by_cases paying : holder = payment.source
  · have least := net_source_ge token holder nonneg
    by_cases inToken : token = payment.token
    · rw [if_pos inToken] at least
      rw [← paying, ← inToken] at funded
      omega
    · rw [if_neg inToken] at least
      omega
  · rw [net_of_other_source paying]
    split <;> omega

theorem add_ge {token holder kept : Address} {change : Int}
    (raised : holder = kept → 0 ≤ change) (balances : Balances Address) (other : Address) :
    balances other kept ≤ add balances token holder change other kept := by
  unfold add
  split
  next own =>
    have gain := raised own.2.symm
    omega
  next => exact le_rfl

theorem transfer_eq_ok {refuses : Transfer Address → Bool} {before after : Balances Address}
    {t : Transfer Address} :
    transfer refuses before t = .ok after ↔
      t.amount ≤ before t.token t.source ∧ refuses t = false ∧ after = move before t := by
  unfold transfer
  split
  next lacking => simp [not_le.mpr lacking]
  next enough =>
    cases refused : refuses t
    · simp [not_lt.mp enough, eq_comm]
    · simp

theorem transfer_ne_insufficient (refuses : Transfer Address → Bool) {before : Balances Address}
    {t : Transfer Address} (enough : t.amount ≤ before t.token t.source) :
    transfer refuses before t ≠ .error .insufficient := by
  rw [transfer, if_neg (not_lt.mpr enough)]
  split <;> simp

theorem payAll_eq_ok {refuses : Transfer Address → Bool} {before after : Balances Address}
    {transfers : List (Transfer Address)} (paid : payAll refuses before transfers = .ok after) :
    after = transfers.foldl move before := by
  induction transfers generalizing before with
  | nil => simpa [payAll, eq_comm] using paid
  | cons t rest ih =>
      rw [payAll] at paid
      cases first : transfer refuses before t with
      | error refusal => simp [first] at paid
      | ok middle =>
          rcases transfer_eq_ok.mp first with ⟨_, _, rfl⟩
          exact ih (by simpa [first] using paid)

theorem payAll_unrefused {refuses : Transfer Address → Bool} {before after : Balances Address}
    {transfers : List (Transfer Address)} (paid : payAll refuses before transfers = .ok after) :
    ∀ t ∈ transfers, refuses t = false := by
  induction transfers generalizing before with
  | nil => simp
  | cons t rest ih =>
      rw [payAll] at paid
      cases first : transfer refuses before t with
      | error refusal => simp [first] at paid
      | ok middle =>
          rw [first] at paid
          intro u member
          rcases List.mem_cons.mp member with rfl | later
          · exact (transfer_eq_ok.mp first).2.1
          · exact ih paid u later

theorem payAll_ne_refused {refuses : Transfer Address → Bool} {before : Balances Address}
    {transfers : List (Transfer Address)} (allowed : ∀ t ∈ transfers, refuses t = false) :
    payAll refuses before transfers ≠ .error .refused := by
  induction transfers generalizing before with
  | nil => simp [payAll]
  | cons t rest ih =>
      rw [payAll, transfer, allowed t List.mem_cons_self]
      have later := fun u member => allowed u (List.mem_cons_of_mem t member)
      by_cases lacking : before t.token t.source < t.amount
      · simp [lacking]
      · simpa [lacking] using ih later

theorem foldl_move_source_ge {transfers : List (Transfer Address)}
    (nonneg : ∀ t ∈ transfers, 0 ≤ t.amount) (balances : Balances Address)
    (token holder : Address) :
    balances token holder - (transfers.map fun t => if token = t.token then t.amount else 0).sum ≤
      transfers.foldl move balances token holder := by
  induction transfers generalizing balances with
  | nil => simp
  | cons t rest ih =>
      have tail := ih (fun u member => nonneg u (List.mem_cons_of_mem _ member)) (move balances t)
      have head := net_source_ge token holder (nonneg t List.mem_cons_self)
      rw [move_apply] at tail
      rw [List.foldl_cons, List.map_cons, List.sum_cons]
      omega

theorem foldl_move_source {source : Address} {transfers : List (Transfer Address)}
    (out : ∀ t ∈ transfers, t.source = source ∧ t.recipient ≠ source) (balances : Balances Address)
    (token : Address) :
    transfers.foldl move balances token source =
      balances token source - (transfers.map fun t => if token = t.token then t.amount else 0).sum := by
  induction transfers generalizing balances with
  | nil => simp
  | cons t rest ih =>
      rcases out t List.mem_cons_self with ⟨own, other⟩
      have spent : net token source t = -(if token = t.token then t.amount else 0) := by
        simp [net, own, Ne.symm other]
      rw [List.foldl_cons, List.map_cons, List.sum_cons,
        ih (fun u member => out u (List.mem_cons_of_mem _ member)), move_apply, spent]
      omega

theorem payAll_ne_insufficient (refuses : Transfer Address → Bool) {token source : Address}
    {transfers : List (Transfer Address)} {balances : Balances Address}
    (out : ∀ t ∈ transfers, t.token = token ∧ t.source = source ∧ 0 ≤ t.amount)
    (enough : (transfers.map Transfer.amount).sum ≤ balances token source) :
    payAll refuses balances transfers ≠ .error .insufficient := by
  induction transfers generalizing balances with
  | nil => simp [payAll]
  | cons t rest ih =>
      rcases out t List.mem_cons_self with ⟨inToken, fromSource, nonneg⟩
      have later : ∀ u ∈ rest, u.token = token ∧ u.source = source ∧ 0 ≤ u.amount :=
        fun u member => out u (List.mem_cons_of_mem _ member)
      have restNonneg : 0 ≤ (rest.map Transfer.amount).sum := by
        apply List.sum_nonneg
        intro x member
        rcases List.mem_map.mp member with ⟨u, inside, rfl⟩
        exact (later u inside).2.2
      rw [List.map_cons, List.sum_cons] at enough
      have first : t.amount ≤ balances t.token t.source := by
        rw [inToken, fromSource]
        omega
      rw [payAll]
      cases moved : transfer refuses balances t with
      | error refusal =>
          have other := transfer_ne_insufficient refuses first
          simpa [moved] using other
      | ok middle =>
          rcases transfer_eq_ok.mp moved with ⟨_, _, rfl⟩
          have left := net_source_ge token source nonneg
          apply ih later
          rw [move_apply]
          rw [inToken, if_pos rfl] at left
          omega

end TokenLedger
