import PeHackathon.Js.Text

/-!
# Texts by their code units

Texts with the same UTF-16 code units are the same, so the order in which JavaScript sorts texts is
a linear one.
-/

namespace PeHackathon.Js

/-- The code units of a character. -/
def charUnits (c : Char) : List Nat :=
  if c.toNat < 0x10000 then [c.toNat]
  else [0xD800 + (c.toNat - 0x10000) / 0x400, 0xDC00 + (c.toNat - 0x10000) % 0x400]

theorem utf16_eq (s : String) : utf16 s = s.toList.flatMap charUnits := rfl

/-- A character is read off the front of its units. -/
theorem charUnits_append {c d : Char} {l l' : List Nat} (h : charUnits c ++ l = charUnits d ++ l') :
    c = d ∧ l = l' := by
  have hvalid : ∀ c : Char, c.toNat < 0xD800 ∨ 0xDFFF < c.toNat ∧ c.toNat < 0x110000 :=
    fun c => c.valid
  have hc := hvalid c
  have hd := hvalid d
  have hinj : c.toNat = d.toNat → c = d := fun h => Char.ext (UInt32.toNat_inj.1 h)
  unfold charUnits at h
  split at h <;> split at h <;> simp only [List.cons_append, List.nil_append, List.cons.injEq] at h
  · exact ⟨hinj h.1, h.2⟩
  · exact absurd h.1 (by omega)
  · exact absurd h.1 (by omega)
  · exact ⟨hinj (by omega), h.2.2⟩

theorem utf16_injective : Function.Injective utf16 := by
  intro s t h
  rw [utf16_eq, utf16_eq] at h
  refine String.toList_injective ?_
  have hne : ∀ c : Char, charUnits c ≠ [] := fun c => by
    unfold charUnits
    split <;> exact List.cons_ne_nil _ _
  generalize s.toList = cs at h ⊢
  generalize t.toList = ds at h ⊢
  induction cs generalizing ds with
  | nil =>
    cases ds with
    | nil => rfl
    | cons d ds => exact absurd (List.append_eq_nil_iff.1 h.symm).1 (hne d)
  | cons c cs ih =>
    cases ds with
    | nil => exact absurd (List.append_eq_nil_iff.1 h).1 (hne c)
    | cons d ds =>
      rw [List.flatMap_cons, List.flatMap_cons] at h
      obtain ⟨rfl, hrest⟩ := charUnits_append h
      rw [ih ds hrest]

end PeHackathon.Js
