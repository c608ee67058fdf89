import Mathlib.Tactic.Common

/-!
# Text columns

What PostgreSQL stores of a text. In a `VARCHAR(n)` a longer value is an error, unless the
characters beyond `n` are all spaces, which are cut off without one. A text with a NUL character
never reaches the server: the adapter raises.
-/

namespace PeHackathon

/-- Whether the adapter can send the text. -/
def sendable (s : String) : Bool := !s.toList.contains '\x00'

/-- What a `VARCHAR(n)` column stores for a text. -/
def varchar (n : Nat) (s : String) : Option String :=
  if sendable s then
    if s.length ≤ n then some s
    else if (s.toList.drop n).all (· == ' ') then some (String.ofList (s.toList.take n))
    else none
  else none

/-- What a `TEXT` column stores for a text. -/
def textColumn (s : String) : Option String := if sendable s then some s else none

theorem varchar_eq_some {n : Nat} {s t : String} (h : varchar n s = some t) :
    sendable t ∧ t.length ≤ n ∧ (t = s ∨ n < s.length) := by
  unfold varchar at h
  split at h
  · rename_i hs
    split at h
    · rename_i hle
      cases h
      exact ⟨hs, hle, .inl rfl⟩
    · rename_i hlt
      split at h
      · cases h
        refine ⟨?_, ?_, .inr (by omega)⟩
        · simp only [sendable, Bool.not_eq_true', String.toList_ofList] at hs ⊢
          rw [List.contains_eq_mem] at hs ⊢
          simp only [decide_eq_false_iff_not] at hs ⊢
          exact fun hm => hs (List.mem_of_mem_take hm)
        · rw [String.length_ofList, List.length_take]
          omega
      · cases h
  · cases h

theorem varchar_of_fits {n : Nat} {s : String} (hs : sendable s) (h : s.length ≤ n) :
    varchar n s = some s := by
  simp [varchar, hs, h]

/-- A stored value fits its column. -/
theorem varchar_idem {n : Nat} {s t : String} (h : varchar n s = some t) :
    varchar n t = some t :=
  varchar_of_fits (varchar_eq_some h).1 (varchar_eq_some h).2.1

/-- A stored value that does not fill its column is stored as it is. -/
theorem varchar_of_short {n : Nat} {s t : String} (h : varchar n s = some t)
    (hshort : t.length < n) : s = t := by
  unfold varchar at h
  split at h
  · split at h
    · exact Option.some.inj h
    · rename_i hlong
      split at h
      · cases h
        rw [String.length_ofList, List.length_take, String.length_toList] at hshort
        omega
      · cases h
  · cases h

/-- The text is over-long and only spaces stand beyond the limit: PostgreSQL cuts them off. -/
def CutAt (n : Nat) (s : String) : Prop := n < s.length ∧ (varchar n s).isSome

instance (n : Nat) (s : String) : Decidable (CutAt n s) := inferInstanceAs (Decidable (_ ∧ _))

theorem varchar_of_not_cut {n : Nat} {s t : String} (h : varchar n s = some t)
    (hcut : ¬ CutAt n s) : t = s :=
  (varchar_eq_some h).2.2.resolve_right fun hlt => hcut ⟨hlt, by rw [h]; rfl⟩

/-- The text can be sent, and is no longer than its column. -/
def Fits (n : Nat) (s : String) : Prop := sendable s = true ∧ s.length ≤ n

instance (n : Nat) (s : String) : Decidable (Fits n s) := inferInstanceAs (Decidable (_ ∧ _))

/-- A text that is not cut is stored exactly if it fits. -/
theorem varchar_uncut {n : Nat} {s : String} (hcut : ¬ CutAt n s) :
    varchar n s = if Fits n s then some s else none := by
  by_cases hfits : Fits n s
  · rw [if_pos hfits]
    exact varchar_of_fits hfits.1 hfits.2
  · rw [if_neg hfits]
    cases hs : varchar n s with
    | none => rfl
    | some t =>
      obtain ⟨hsend, hle, -⟩ := varchar_eq_some hs
      rw [varchar_of_not_cut hs hcut] at hsend hle
      exact absurd ⟨hsend, hle⟩ hfits

/-- A stored value is not cut again. -/
theorem not_cutAt_of_stored {n : Nat} {s : String} (h : varchar n s = some s) : ¬ CutAt n s :=
  fun hcut => absurd (varchar_eq_some h).2.1 (Nat.not_le_of_lt hcut.1)

end PeHackathon
