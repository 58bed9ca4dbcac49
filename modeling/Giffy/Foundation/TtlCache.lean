import Mathlib.Logic.Function.Basic

/-! A cache whose entries are good for a fixed time after they were stored. -/

namespace TtlCache

universe u v

structure Entry (Value : Type v) where
  value : Value
  expiresAt : Nat

abbrev Cache (Key : Type u) (Value : Type v) := Key → Option (Entry Value)

variable {Key : Type u} {Value : Type v}

def empty : Cache Key Value := fun _ => none

def get (cache : Cache Key Value) (now : Nat) (key : Key) : Option Value :=
  match cache key with
  | some entry => if now < entry.expiresAt then some entry.value else none
  | none => none

def set [DecidableEq Key] (cache : Cache Key Value) (now ttl : Nat) (key : Key) (value : Value) :
    Cache Key Value :=
  Function.update cache key (some ⟨value, now + ttl⟩)

/-- Every entry holds a value learned for its key, and expires that long after. -/
def Learned (learned : Key → Value → Nat → Prop) (ttl : Nat) (cache : Cache Key Value) : Prop :=
  ∀ key entry, cache key = some entry →
    ∃ time, learned key entry.value time ∧ entry.expiresAt = time + ttl

variable {learned more : Key → Value → Nat → Prop} {ttl now : Nat} {cache : Cache Key Value}

theorem Learned.mono (holds : Learned learned ttl cache)
    (grown : ∀ key value time, learned key value time → more key value time) :
    Learned more ttl cache := by
  intro key entry found
  rcases holds key entry found with ⟨time, known, expires⟩
  exact ⟨time, grown _ _ _ known, expires⟩

theorem Learned.set [DecidableEq Key] (holds : Learned learned ttl cache) {key : Key}
    {value : Value} (known : learned key value now) :
    Learned learned ttl (set cache now ttl key value) := by
  intro other entry found
  by_cases same : other = key
  · subst same
    rw [TtlCache.set, Function.update_self, Option.some.injEq] at found
    subst found
    exact ⟨now, known, rfl⟩
  · rw [TtlCache.set, Function.update_of_ne same] at found
    exact holds other entry found

theorem Learned.get (holds : Learned learned ttl cache) {key : Key} {value : Value}
    (hit : get cache now key = some value) :
    ∃ time, learned key value time ∧ now < time + ttl := by
  unfold TtlCache.get at hit
  split at hit
  next entry found =>
    split at hit
    next live =>
      cases hit
      rcases holds key entry found with ⟨time, known, expires⟩
      rw [expires] at live
      exact ⟨time, known, live⟩
    next => cases hit
  next => cases hit

end TtlCache
