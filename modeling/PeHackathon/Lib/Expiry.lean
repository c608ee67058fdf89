import Mathlib.Logic.Function.Basic
import Mathlib.Tactic.Common

/-!
# Stores whose entries expire

`Expiring K V`: for each key a value and the time it expires at, if any. The clock counts
milliseconds and is an argument of every read: an entry is there until its time and absent after it.
`ttl` tells the time left in seconds, rounded, so it is 0 in the last half second (`ttl_pos`).
-/

namespace Lib

/-- A value and the time it expires at. -/
structure Timed (α : Type) where
  value : α
  expires : Option Nat

def Timed.live {α : Type} (e : Timed α) (now : Nat) : Bool :=
  match e.expires with
  | none => true
  | some t => now ≤ t

def Expiring (K : Type) (V : K → Type) : Type := (k : K) → Option (Timed (V k))

namespace Expiring

variable {K : Type} {V : K → Type}

def empty : Expiring K V := fun _ => none

/-- The entry under a key, unless it has expired. -/
def entry (s : Expiring K V) (now : Nat) (k : K) : Option (Timed (V k)) :=
  (s k).filter (·.live now)

def get (s : Expiring K V) (now : Nat) (k : K) : Option (V k) := (s.entry now k).map (·.value)

/-- The seconds left, rounded: `-2` without an entry, `-1` for one that does not expire. -/
def ttl (s : Expiring K V) (now : Nat) (k : K) : Int :=
  match s.entry now k with
  | none => -2
  | some e =>
    match e.expires with
    | none => -1
    | some t => (t - now + 500) / 1000

section Write

variable [DecidableEq K]

def put (s : Expiring K V) (k : K) (v : V k) (expires : Option Nat) : Expiring K V :=
  Function.update s k (some { value := v, expires })

def delete (s : Expiring K V) (k : K) : Expiring K V := Function.update s k none

variable (s : Expiring K V) {k k' : K} (v : V k) (expires : Option Nat) (now : Nat)

@[simp] theorem put_self : s.put k v expires k = some { value := v, expires } :=
  Function.update_self ..

theorem put_ne (h : k' ≠ k) : s.put k v expires k' = s k' := Function.update_of_ne h ..

@[simp] theorem delete_self : s.delete k k = none := Function.update_self ..

theorem delete_ne (h : k' ≠ k) : s.delete k k' = s k' := Function.update_of_ne h ..

theorem put_put (v' : V k) (expires' : Option Nat) :
    (s.put k v expires).put k v' expires' = s.put k v' expires' := Function.update_idem ..

theorem entry_put_self :
    (s.put k v expires).entry now k =
      if Timed.live { value := v, expires } now then some { value := v, expires } else none := by
  rw [entry, put_self, Option.filter_some]

theorem entry_put_ne (h : k' ≠ k) : (s.put k v expires).entry now k' = s.entry now k' := by
  rw [entry, put_ne s v expires h, entry]

theorem entry_delete_self : (s.delete k).entry now k = none := by
  rw [entry, delete_self, Option.filter_none]

theorem entry_delete_ne (h : k' ≠ k) : (s.delete k).entry now k' = s.entry now k' := by
  rw [entry, delete_ne s h, entry]

end Write

variable {s : Expiring K V} {now : Nat} {k : K}

/-- A time left is told while there is an entry that expires, but not in its last half second. -/
theorem ttl_pos : 0 < s.ttl now k ↔
    ∃ v t, s.entry now k = some { value := v, expires := some t } ∧ now + 500 ≤ t := by
  unfold ttl
  cases he : s.entry now k with
  | none => simp
  | some e =>
    obtain ⟨v, expires⟩ := e
    cases expires with
    | none => simp
    | some t =>
      have hlive : Timed.live { value := v, expires := some t } now = true :=
        (Option.filter_eq_some_iff.1 he).2
      have hle : now ≤ t := by simpa [Timed.live] using hlive
      simp
      omega

end Expiring

end Lib
