import PeHackathon.Python.JsonRoundTrip

/-!
# JSON text that is not written by `json.dumps`

Texts pasted together from strings. An object of strings between quotes is read as it is meant when
every character stands for itself (`jsonLoads_interpolated`), and a list of strings as `repr` writes
it when each string is one that `repr` puts between double quotes, without the escapes JSON does not
have (`jsonItems_repr`).
-/

namespace PeHackathon

/-! ## An object of strings -/

/-- `"key":"value"` for each field, with commas between. -/
def interpolatedFields : List (String × String) → List Char
  | [] => []
  | [(key, value)] => '"' :: (key.toList ++ '"' :: ':' :: '"' :: (value.toList ++ ['"']))
  | (key, value) :: f :: fields =>
    '"' :: (key.toList ++ '"' :: ':' :: '"' ::
      (value.toList ++ '"' :: ',' :: interpolatedFields (f :: fields)))

/-- The object the text is meant to be. -/
def stringFields (fields : List (String × String)) : List (String × Json) :=
  fields.map fun f => (f.1, .str f.2)

/-- Every character stands for itself. -/
def PlainText (s : String) : Prop := ∀ c ∈ s.toList, PlainChar c

theorem plainText_iff {s : String} :
    (s.toList.all fun c => decide (PlainChar c)) = true ↔ PlainText s := by
  rw [List.all_eq_true]
  exact forall₂_congr fun c _ => decide_eq_true_iff

instance (s : String) : Decidable (PlainText s) := decidable_of_iff _ plainText_iff

section Interpolated

variable {fuel : Nat} {s : String} {rest : List Char} {fields : List (String × String)}

theorem PlainText.jsonString (h : PlainText s) :
    jsonString ((s.toList ++ '"' :: rest).length + 1) (s.toList ++ '"' :: rest) =
      some (s.toList, rest) :=
  jsonString_plain h (by rw [List.length_append]; omega)

theorem PlainText.jsonValue (h : PlainText s) :
    jsonValue (fuel + 1) ('"' :: (s.toList ++ '"' :: rest)) = some (.str s, rest) := by
  rw [PeHackathon.jsonValue, if_pos rfl, h.jsonString, Option.bind_eq_bind, Option.bind_some]
  dsimp only
  rw [String.ofList_toList]

theorem interpolatedFields_head (f : String × String) (fields : List (String × String)) :
    ∃ l, interpolatedFields (f :: fields) = '"' :: l := by
  cases fields with
  | nil => exact ⟨_, rfl⟩
  | cons g fields => exact ⟨_, rfl⟩

theorem jsonFields_interpolated (f : String × String)
    (hplain : ∀ g ∈ f :: fields, PlainText g.1 ∧ PlainText g.2) (hfuel : fields.length + 2 ≤ fuel) :
    jsonFields fuel (interpolatedFields (f :: fields) ++ '\x7d' :: rest) =
      some (stringFields (f :: fields), rest) := by
  induction fields generalizing f fuel with
  | nil =>
    obtain ⟨fuel, rfl⟩ : ∃ n, fuel = n + 2 :=
      ⟨fuel - 2, by simp only [List.length_nil] at hfuel; omega⟩
    obtain ⟨hkey, hvalue⟩ := hplain f List.mem_cons_self
    obtain ⟨key, value⟩ := f
    have hshape : interpolatedFields [(key, value)] ++ '\x7d' :: rest =
        '"' :: (key.toList ++ '"' :: ':' :: '"' :: (value.toList ++ '"' :: '\x7d' :: rest)) := by
      simp [interpolatedFields]
    rw [hshape]
    exact jsonFields_last hkey.jsonString (skipSpace_cons rfl) hvalue.jsonValue
  | cons g fields ih =>
    obtain ⟨fuel, rfl⟩ : ∃ n, fuel = n + 2 := ⟨fuel - 2, by rw [List.length_cons] at hfuel; omega⟩
    rw [List.length_cons] at hfuel
    obtain ⟨hkey, hvalue⟩ := hplain f List.mem_cons_self
    have hrest : jsonFields (fuel + 1) (interpolatedFields (g :: fields) ++ '\x7d' :: rest) =
        some (stringFields (g :: fields), rest) :=
      ih g (fun g' hg' => hplain g' (List.mem_cons_of_mem f hg')) (by omega)
    obtain ⟨l, hl⟩ := interpolatedFields_head g fields
    obtain ⟨key, value⟩ := f
    have hshape : interpolatedFields ((key, value) :: g :: fields) ++ '\x7d' :: rest =
        '"' :: (key.toList ++ '"' :: ':' :: '"' ::
          (value.toList ++ '"' :: ',' ::
            (interpolatedFields (g :: fields) ++ '\x7d' :: rest))) := by
      simp [interpolatedFields]
    rw [hshape]
    refine jsonFields_next hkey.jsonString (skipSpace_cons rfl) hvalue.jsonValue ?_ hrest
    rw [hl, List.cons_append, skipSpace_cons rfl]

theorem length_interpolatedFields (fields : List (String × String)) :
    fields.length ≤ (interpolatedFields fields).length := by
  induction fields with
  | nil => exact Nat.le_refl _
  | cons f fields ih =>
    cases fields with
    | nil => simp [interpolatedFields]
    | cons g fields =>
      simp only [List.length_cons] at ih
      simp only [interpolatedFields, List.length_cons, List.length_append]
      omega

/-- **An object pasted from plain strings** is the object it is meant to be. -/
theorem jsonLoads_interpolated (hne : fields ≠ [])
    (hplain : ∀ f ∈ fields, PlainText f.1 ∧ PlainText f.2)
    (hs : s.toList = '\x7b' :: interpolatedFields fields ++ ['\x7d']) :
    jsonLoads s = some (.obj (pyDict (stringFields fields))) := by
  obtain ⟨f, fields, rfl⟩ := List.exists_cons_of_ne_nil hne
  obtain ⟨l, hl⟩ := interpolatedFields_head f fields
  have hlength : s.length = (interpolatedFields (f :: fields)).length + 2 := by
    rw [← String.length_toList, hs]
    simp
  have hcount := length_interpolatedFields (f :: fields)
  rw [List.length_cons] at hcount
  have hfields :
      jsonFields s.length ('"' :: (l ++ ['\x7d'])) = some (stringFields (f :: fields), []) := by
    rw [← List.cons_append, ← hl]
    exact jsonFields_interpolated f hplain (by omega)
  rw [jsonLoads, hs, hl, List.cons_append, List.cons_append, skipSpace_cons rfl,
    jsonValue_obj hfields]
  rfl

/-- The pieces of a text with two fields. -/
theorem interpolated_pair {a b c key value key' value' : String}
    (ha : a.toList = '\x7b' :: '"' :: (key.toList ++ ['"', ':', '"']))
    (hb : b.toList = '"' :: ',' :: '"' :: (key'.toList ++ ['"', ':', '"']))
    (hc : c.toList = ['"', '\x7d']) :
    (a ++ value ++ b ++ value' ++ c).toList = '\x7b' ::
      interpolatedFields [(key, value), (key', value')] ++ ['\x7d'] := by
  simp only [String.toList_append, ha, hb, hc, interpolatedFields, List.append_assoc,
    List.cons_append, List.nil_append]

theorem interpolated_first {a rest key value : String} {f : String × String}
    (ha : a.toList = '\x7b' :: '"' :: (key.toList ++ ['"', ':', '"']))
    (hrest : rest.toList = '"' :: ',' :: interpolatedFields [f] ++ ['\x7d']) :
    (a ++ value ++ rest).toList = '\x7b' :: interpolatedFields [(key, value), f] ++ ['\x7d'] := by
  simp only [String.toList_append, ha, hrest, interpolatedFields, List.append_assoc,
    List.cons_append, List.nil_append]

end Interpolated

/-! ## A list of strings as `repr` writes it -/

/-- `repr` writes the character in a way that JSON reads: not as `\xNN`, and not as `\UNNNNNNNN`. -/
def ReprReads (printable : Char → Bool) (c : Char) : Prop :=
  c = '\n' ∨ c = '\r' ∨ c = '\t' ∨ (32 ≤ c.toNat ∧ c.toNat < 127) ∨
    (160 < c.toNat ∧ c.toNat ≠ 0xad ∧ (c.toNat < 0x10000 ∨ printable c = true))

/-- `repr` puts the string between double quotes, and JSON reads every character. -/
structure ReprQuoted (printable : Char → Bool) (s : String) : Prop where
  single : '\'' ∈ s.toList
  noDouble : '"' ∉ s.toList
  reads : ∀ c ∈ s.toList, ReprReads printable c

section Repr

variable {printable : Char → Bool} {fuel : Nat} {c : Char} {s : String} {rest : List Char}

theorem pyReprChar_spells (hquote : c ≠ '"') (h : ReprReads printable c) :
    SpellsChar (pyReprChar printable '"' c) c := by
  unfold pyReprChar
  split
  · rename_i hc
    subst hc
    exact shortEscape_spells (by decide)
  rename_i hback
  split
  · rename_i hc
    subst hc
    exact shortEscape_spells (by decide)
  rename_i hn
  split
  · rename_i hc
    subst hc
    exact shortEscape_spells (by decide)
  rename_i hr
  split
  · rename_i hc
    subst hc
    exact shortEscape_spells (by decide)
  rename_i ht
  -- no character that is left has an escape of one letter
  have hleft : (32 ≤ c.toNat ∧ c.toNat < 127) ∨
      (160 < c.toNat ∧ c.toNat ≠ 0xad ∧ (c.toNat < 0x10000 ∨ printable c = true)) := by
    rcases h with h | h | h | h
    · exact absurd h hn
    · exact absurd h hr
    · exact absurd h ht
    · exact h
  have hplain : PlainChar c := ⟨hquote, hback, by omega⟩
  rw [if_neg
    (by simp only [Bool.or_eq_true, Bool.and_eq_true, decide_eq_true_eq, beq_iff_eq]; omega)]
  split
  · exact hplain.spells
  · rename_i hwide
    rw [Bool.or_eq_true, decide_eq_true_eq, not_or] at hwide
    have hbmp : c.toNat < 0x10000 := by
      rcases hleft with h | ⟨-, -, h | h⟩
      · omega
      · exact h
      · exact absurd h hwide.2
    rw [if_pos hbmp]
    exact unicodeEscape_spells hbmp

theorem ReprQuoted.quote (h : ReprQuoted printable s) : pyReprQuote s = '"' := by
  have hdouble : s.toList.contains '"' = false := by
    rw [List.contains_eq_mem, decide_eq_false_iff_not]
    exact h.noDouble
  have hsingle : s.toList.contains '\'' = true := by
    rw [List.contains_eq_mem, decide_eq_true_eq]
    exact h.single
  rw [pyReprQuote, hdouble, hsingle]
  rfl

theorem ReprQuoted.toList (h : ReprQuoted printable s) :
    (pyReprStr printable s).toList = '"' ::
      (s.toList.flatMap (pyReprChar printable '"') ++ ['"']) := by
  rw [pyReprStr, h.quote, String.toList_ofList]
  rfl

theorem pyReprChar_ne_nil (printable : Char → Bool) (q c : Char) :
    pyReprChar printable q c ≠ [] := by
  unfold pyReprChar
  repeat' split
  all_goals exact List.cons_ne_nil _ _

theorem length_le_repr (printable : Char → Bool) (q : Char) (l : List Char) :
    l.length ≤ (l.flatMap (pyReprChar printable q)).length := by
  induction l with
  | nil => exact Nat.le_refl _
  | cons c l ih =>
    have := List.length_pos_iff.2 (pyReprChar_ne_nil printable q c)
    rw [List.flatMap_cons, List.length_append, List.length_cons]
    omega

/-- **A string in double quotes** is read as the string. -/
theorem ReprQuoted.jsonValue (h : ReprQuoted printable s) :
    jsonValue (fuel + 1) ((pyReprStr printable s).toList ++ rest) = some (.str s, rest) := by
  have hread : jsonString ((s.toList.flatMap (pyReprChar printable '"') ++ '"' :: rest).length + 1)
      (s.toList.flatMap (pyReprChar printable '"') ++ '"' :: rest) = some (s.toList, rest) := by
    refine jsonString_spelled (fun c hc => pyReprChar_spells ?_ (h.reads c hc)) ?_
    · rintro rfl
      exact h.noDouble hc
    · have := length_le_repr printable '"' s.toList
      rw [List.length_append]
      omega
  rw [h.toList, List.cons_append, List.append_assoc, List.singleton_append, PeHackathon.jsonValue,
    if_pos rfl, hread, Option.bind_eq_bind, Option.bind_some]
  dsimp only
  rw [String.ofList_toList]

/-- The items of `str(l)`. -/
def reprItems (printable : Char → Bool) (l : List String) : List Char :=
  [',', ' '].intercalate (l.map fun s => (pyReprStr printable s).toList)

theorem pyReprStrList_toList (l : List String) :
    (pyReprStrList printable l).toList = '[' :: (reprItems printable l ++ [']']) := by
  simp [pyReprStrList, reprItems, String.toList_append, List.map_map, Function.comp_def]

theorem reprItems_head {l : List String} (h : ReprQuoted printable s) :
    ∃ l', reprItems printable (s :: l) = '"' :: l' := by
  cases l with
  | nil =>
    exact ⟨_, by rw [reprItems, List.map_cons, List.map_nil, List.intercalate_singleton, h.toList]⟩
  | cons t l =>
    exact ⟨_, by
      rw [reprItems, List.map_cons, List.map_cons, List.intercalate_cons_cons, h.toList]; rfl⟩

theorem jsonItems_repr {l : List String} (hl : ∀ t ∈ s :: l, ReprQuoted printable t)
    (hfuel : l.length + 2 ≤ fuel) :
    jsonItems fuel (reprItems printable (s :: l) ++ ']' :: rest) =
      some ((s :: l).map Json.str, rest) := by
  induction l generalizing s fuel with
  | nil =>
    obtain ⟨fuel, rfl⟩ : ∃ n, fuel = n + 2 :=
      ⟨fuel - 2, by simp only [List.length_nil] at hfuel; omega⟩
    rw [reprItems, List.map_cons, List.map_nil, List.intercalate_singleton]
    exact jsonItems_last (hl s List.mem_cons_self).jsonValue
  | cons t l ih =>
    obtain ⟨fuel, rfl⟩ : ∃ n, fuel = n + 2 := ⟨fuel - 2, by rw [List.length_cons] at hfuel; omega⟩
    rw [List.length_cons] at hfuel
    have hrest : jsonItems (fuel + 1) (reprItems printable (t :: l) ++ ']' :: rest) =
        some ((t :: l).map Json.str, rest) :=
          ih (fun t' ht' => hl t' (List.mem_cons_of_mem s ht')) (by omega)
    have hhead : ∃ l', reprItems printable (t :: l) = '"' :: l' :=
      reprItems_head (hl t (List.mem_cons_of_mem s List.mem_cons_self))
    obtain ⟨l', hl'⟩ := hhead
    have hshape : reprItems printable (s :: t :: l) ++ ']' :: rest =
        (pyReprStr printable s).toList ++ ',' :: ' ' ::
          (reprItems printable (t :: l) ++ ']' :: rest) := by
      simp [reprItems, List.intercalate_cons_cons]
    rw [hshape]
    refine jsonItems_next (hl s List.mem_cons_self).jsonValue ?_ hrest
    rw [hl', List.cons_append, skipSpace_cons rfl]

theorem length_reprItems (l : List String) : l.length ≤ (reprItems printable l).length := by
  have hpos : ∀ s, 0 < (pyReprStr printable s).toList.length := fun s => by simp [pyReprStr]
  induction l with
  | nil => exact Nat.zero_le _
  | cons s l ih =>
    cases l with
    | nil =>
      rw [reprItems, List.map_cons, List.map_nil, List.intercalate_singleton]
      exact hpos s
    | cons t l =>
      unfold reprItems at ih ⊢
      rw [List.map_cons] at ih
      rw [List.map_cons, List.map_cons, List.intercalate_cons_cons, List.length_append,
        List.length_append, List.length_cons]
      have := hpos s
      omega

/-- **The list of strings** is read as the array of them. -/
theorem jsonValue_repr {l : List String} (hne : l ≠ []) (hl : ∀ t ∈ l, ReprQuoted printable t)
    (hfuel : l.length + 2 ≤ fuel) :
    jsonValue fuel ((pyReprStrList printable l).toList ++ rest) =
      some (.arr (l.map Json.str), rest) := by
  obtain ⟨s, l, rfl⟩ := List.exists_cons_of_ne_nil hne
  obtain ⟨fuel, rfl⟩ : ∃ n, fuel = n + 1 := ⟨fuel - 1, by omega⟩
  rw [List.length_cons] at hfuel
  have hhead : ∃ l', reprItems printable (s :: l) = '"' :: l' :=
    reprItems_head (hl s List.mem_cons_self)
  obtain ⟨l', hl'⟩ := hhead
  rw [pyReprStrList_toList, List.cons_append, List.append_assoc, List.singleton_append]
  exact jsonValue_arr (jsonItems_repr hl (by omega)) ⟨'"', l', hl', rfl, by decide⟩

/-- An object with one field, whose value is read. -/
theorem jsonLoads_field {a value c key : String} {x : Json} (hkey : PlainText key)
    (ha : a.toList = '\x7b' :: '"' :: (key.toList ++ ['"', ':'])) (hc : c.toList = ['\x7d'])
    (hvalue : ∀ n, value.toList.length ≤ n → jsonValue n (value.toList ++ ['\x7d']) =
      some (x, ['\x7d'])) :
    jsonLoads (a ++ value ++ c) = some (.obj [(key, x)]) := by
  have hs : (a ++ value ++ c).toList = '\x7b' :: '"' ::
      (key.toList ++ '"' :: ':' :: (value.toList ++ ['\x7d'])) := by
    simp only [String.toList_append, ha, hc, List.append_assoc, List.cons_append, List.nil_append]
  have hlength : (a ++ value ++ c).length = key.toList.length + value.toList.length + 5 := by
    rw [← String.length_toList, hs]
    simp only [List.length_cons, List.length_append, List.length_nil]
    omega
  have hread := hvalue (key.toList.length + value.toList.length + 4) (by omega)
  have hfields : jsonFields (a ++ value ++ c).length
      ('"' :: (key.toList ++ '"' :: ':' :: (value.toList ++ ['\x7d']))) =
        some ([(key, x)], []) := by
    rw [hlength]
    exact jsonFields_last hkey.jsonString (skipSpace_value hread) hread
  rw [jsonLoads, hs, skipSpace_cons rfl, jsonValue_obj hfields]
  rfl

end Repr

end PeHackathon
