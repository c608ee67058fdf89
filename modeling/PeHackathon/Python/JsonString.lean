import PeHackathon.Python.JsonText

/-!
# Strings in JSON text

The reader takes a string letter by letter (`SpellsChar`), so a text is read back when each of its
letters is spelled in a way the reader takes: `jsonString_text` for what `json.dumps` writes,
`jsonString_plain` for letters that stand for themselves.
-/

namespace PeHackathon

section Strings

variable {c : Char} {s : List Char} {fuel : Nat} {rest : List Char}

/-- The reader takes a spelling of a character for the character. -/
def SpellsChar (spelling : List Char) (c : Char) : Prop :=
  ∀ fuel rest, jsonString (fuel + 1) (spelling ++ rest) = (jsonString fuel rest).map fun r =>
    (c :: r.1, r.2)

/-- **A spelled string is read**, up to its closing quote. -/
theorem jsonString_spelled {spell : Char → List Char} (hs : ∀ c ∈ s, SpellsChar (spell c) c)
    (hfuel : s.length < fuel) :
    jsonString fuel (s.flatMap spell ++ '"' :: rest) = some (s, rest) := by
  induction s generalizing fuel with
  | nil =>
    cases fuel with
    | zero => exact absurd hfuel (Nat.not_lt_zero _)
    | succ fuel => rfl
  | cons c s ih =>
    rw [List.forall_mem_cons] at hs
    cases fuel with
    | zero => exact absurd hfuel (Nat.not_lt_zero _)
    | succ fuel =>
      rw [List.flatMap_cons, List.append_assoc, hs.1, ih hs.2 (by simpa using hfuel)]
      rfl

/-- A character that stands for itself between quotes. -/
def PlainChar (c : Char) : Prop := c ≠ '"' ∧ c ≠ '\\' ∧ 32 ≤ c.toNat

instance (c : Char) : Decidable (PlainChar c) := inferInstanceAs (Decidable (_ ∧ _))

theorem PlainChar.spells (h : PlainChar c) : SpellsChar [c] c := by
  intro fuel rest
  rw [List.singleton_append, jsonString, if_neg h.1, if_neg h.2.1, if_neg (by have := h.2.2; omega)]
  cases jsonString fuel rest <;> rfl

theorem hexDigit?_digitChar : ∀ n < 16, hexDigit? (Nat.digitChar n) = some n := by decide

/-- The four digits of an escape, after its `\u`. -/
theorem hex4?_unicode {n : Nat} (hn : n < 0x10000) :
    hex4? ((unicodeEscape n).tail.tail ++ rest) = some (n, rest) := by
  simp only [unicodeEscape, List.tail_cons, List.cons_append, List.nil_append, hex4?]
  rw [hexDigit?_digitChar _ (Nat.mod_lt _ (by decide)),
    hexDigit?_digitChar _ (Nat.mod_lt _ (by decide)),
    hexDigit?_digitChar _ (Nat.mod_lt _ (by decide)),
    hexDigit?_digitChar _ (Nat.mod_lt _ (by decide))]
  simp only [Option.bind_eq_bind, Option.bind_some, Option.some.injEq, Prod.mk.injEq, and_true]
  omega

theorem jsonEscape_unicode {n : Nat} (hn : n < 0x10000) :
    jsonEscape ((unicodeEscape n).tail ++ rest) =
      if isHighSurrogate n then jsonLowHalf n rest else some (codeChar n, rest) := by
  have hshape : (unicodeEscape n).tail ++ rest = 'u' :: ((unicodeEscape n).tail.tail ++ rest) := rfl
  rw [hshape, jsonEscape, if_pos rfl, hex4?_unicode hn]
  rfl

theorem jsonLowHalf_unicode {high low : Nat} (hlow : isLowSurrogate low = true) :
    jsonLowHalf high (unicodeEscape low ++ rest) =
      some (Char.ofNat (0x10000 + (high - 0xd800) * 1024 + (low - 0xdc00)), rest) := by
  have hlt : low < 0x10000 := by
    simp only [isLowSurrogate, Bool.and_eq_true, decide_eq_true_eq] at hlow
    omega
  have hshape :
      unicodeEscape low ++ rest = '\\' :: 'u' :: ((unicodeEscape low).tail.tail ++ rest) := rfl
  rw [hshape, jsonLowHalf, hex4?_unicode hlt]
  simp [hlow]

/-- A character read from an escape. -/
theorem jsonString_escape {e : List Char} {rest' : List Char} (h : jsonEscape e = some (c, rest')) :
    jsonString (fuel + 1) ('\\' :: e) = (jsonString fuel rest').map fun r => (c :: r.1, r.2) := by
  rw [jsonString, if_neg (by decide), if_pos rfl, h, Option.bind_eq_bind, Option.bind_some]
  dsimp only
  cases jsonString fuel rest' <;> rfl

theorem char_toNat_range (c : Char) : c.toNat < 0xd800 ∨ 0xdfff < c.toNat ∧ c.toNat < 0x110000 := by
  have := c.valid
  unfold UInt32.isValidChar Nat.isValidChar at this
  change _ ∨ 0xdfff < c.val.toNat ∧ _
  exact this

theorem isHighSurrogate_char (c : Char) : isHighSurrogate c.toNat = false := by
  have := char_toNat_range c
  simp only [isHighSurrogate, Bool.and_eq_false_iff, decide_eq_false_iff_not]
  omega

theorem isLowSurrogate_char (c : Char) : isLowSurrogate c.toNat = false := by
  have := char_toNat_range c
  simp only [isLowSurrogate, Bool.and_eq_false_iff, decide_eq_false_iff_not]
  omega

theorem unicodeEscape_spells (hbmp : c.toNat < 0x10000) : SpellsChar (unicodeEscape c.toNat) c := by
  intro fuel rest
  refine jsonString_escape (e := (unicodeEscape c.toNat).tail ++ rest) ?_
  rw [jsonEscape_unicode hbmp, isHighSurrogate_char, codeChar, isHighSurrogate_char,
    isLowSurrogate_char]
  simp [Char.ofNat_toNat]

/-- The escapes of one letter are read. -/
theorem shortEscape_spells {e : Char} (h : (c, e) ∈ jsonEscapes) : SpellsChar ['\\', e] c := by
  intro fuel rest
  refine jsonString_escape (e := e :: rest) ?_
  simp only [jsonEscapes, List.mem_cons, Prod.mk.injEq, List.not_mem_nil, or_false] at h
  rcases h with ⟨rfl, rfl⟩ | ⟨rfl, rfl⟩ | ⟨rfl, rfl⟩ | ⟨rfl, rfl⟩ | ⟨rfl, rfl⟩ | ⟨rfl, rfl⟩ | ⟨rfl,
    rfl⟩ | ⟨rfl, rfl⟩ <;>
    rfl

/-- What `json.dumps` writes for a character is read as the character. -/
theorem jsonEscapeChar_spells (c : Char) : SpellsChar (jsonEscapeChar c) c := by
  unfold jsonEscapeChar
  dsimp only
  split
  · rename_i e he
    split at he
    · cases he
    · -- one of the letters that have a short escape
      refine shortEscape_spells ?_
      obtain ⟨before, after, hsplit, -⟩ := List.lookup_eq_some_iff.1 he
      rw [hsplit]
      exact List.mem_append_right _ List.mem_cons_self
  · rename_i hnone
    split
    · rename_i hascii
      rw [Bool.and_eq_true, decide_eq_true_eq, decide_eq_true_eq] at hascii
      refine PlainChar.spells ⟨?_, ?_, hascii.1⟩
      · rintro rfl
        simp [jsonEscapes] at hnone
      · rintro rfl
        simp [jsonEscapes] at hnone
    · split
      · rename_i hbmp
        exact unicodeEscape_spells hbmp
      · rename_i hbmp
        intro fuel rest
        have hrange := char_toNat_range c
        rw [List.append_assoc]
        refine jsonString_escape (e := (unicodeEscape (0xd800 + (c.toNat - 0x10000) / 1024)).tail ++
          (unicodeEscape (0xdc00 + (c.toNat - 0x10000) % 1024) ++ rest)) ?_
        have hhigh : isHighSurrogate (0xd800 + (c.toNat - 0x10000) / 1024) = true := by
          simp only [isHighSurrogate, Bool.and_eq_true, decide_eq_true_eq]
          omega
        have hlow : isLowSurrogate (0xdc00 + (c.toNat - 0x10000) % 1024) = true := by
          simp only [isLowSurrogate, Bool.and_eq_true, decide_eq_true_eq]
          omega
        rw [jsonEscape_unicode (by omega), hhigh, if_pos rfl, jsonLowHalf_unicode hlow]
        have hback : 0x10000 + (0xd800 + (c.toNat - 0x10000) / 1024 - 0xd800) * 1024 +
            (0xdc00 + (c.toNat - 0x10000) % 1024 - 0xdc00) = c.toNat := by omega
        rw [hback, Char.ofNat_toNat]

theorem jsonString_text (s : List Char) (hfuel : s.length < fuel) :
    jsonString fuel (s.flatMap jsonEscapeChar ++ '"' :: rest) = some (s, rest) :=
  jsonString_spelled (fun c _ => jsonEscapeChar_spells c) hfuel

theorem jsonString_plain (hs : ∀ c ∈ s, PlainChar c) (hfuel : s.length < fuel) :
    jsonString fuel (s ++ '"' :: rest) = some (s, rest) := by
  have hself : s.flatMap (fun c => [c]) = s := by simp
  have : jsonString fuel (s.flatMap (fun c => [c]) ++ '"' :: rest) = some (s, rest) :=
    jsonString_spelled (fun c hc => (hs c hc).spells) hfuel
  rwa [hself] at this

end Strings

end PeHackathon
