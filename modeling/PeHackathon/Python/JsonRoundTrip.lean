import PeHackathon.Python.JsonNumber
import PeHackathon.Python.JsonString

/-!
# Reading back what `json.dumps` writes

`jsonLoads_dumps`: what is written is read back, floats up to their digits (`Json.reread`). The
induction is on the value, and says of every part that it is read at the head of any text that
closes it (`Rereads`).
-/

namespace PeHackathon

mutual

/-- What is read back for a value: a float for its digits, and the last of two fields with one
key. -/
def Json.reread : Json → Json
  | .float f => ((jsonValue 1 (jsonFloatText f)).map Prod.fst).getD .null
  | .arr l => .arr (Json.rereadAll l)
  | .obj fields => .obj (pyDict (Json.rereadFields fields))
  | x => x

def Json.rereadAll : List Json → List Json
  | [] => []
  | x :: l => x.reread :: Json.rereadAll l

def Json.rereadFields : List (String × Json) → List (String × Json)
  | [] => []
  | (key, x) :: fields => (key, x.reread) :: Json.rereadFields fields

end

section Values

variable {fuel : Nat} {rest : List Char}

theorem jsonValue_word {w : List Char × Json} (hw : w ∈ jsonWords) :
    jsonValue (fuel + 1) (w.1 ++ rest) = some (w.2, rest) := by
  simp only [jsonWords, List.mem_cons, List.not_mem_nil, or_false] at hw
  rcases hw with rfl | rfl | rfl | rfl | rfl | rfl <;> simp [jsonValue, jsonWord, jsonWords]

theorem jsonValue_float (f : Float) (hrest : Closes rest) :
    jsonValue (fuel + 1) (jsonFloatText f ++ rest) = some ((Json.float f).reread, rest) := by
  rcases jsonFloatText_cases f with ⟨x, hx⟩ | ⟨g, hg⟩
  · have hword : jsonValue 1 (jsonFloatText f ++ []) = some (.float x, []) := jsonValue_word hx
    rw [List.append_nil] at hword
    rw [jsonValue_word hx, Json.reread, hword]
    rfl
  · have hnumber : jsonValue 1 (jsonFloatText f ++ []) = some (.float g, []) :=
      jsonValue_number hg closes_nil
    rw [List.append_nil] at hnumber
    rw [jsonValue_number hg hrest, Json.reread, hnumber]
    rfl

/-- No value starts with a space or a closing bracket. -/
theorem jsonValue_head {l : List Char} {r : Json × List Char} (h : jsonValue fuel l = some r) :
    ∃ c l', l = c :: l' ∧ isJsonSpace c = false ∧ c ≠ ']' := by
  cases fuel with
  | zero => cases h
  | succ fuel =>
    cases l with
    | nil => cases h
    | cons c l =>
      refine ⟨c, l, rfl, ?_, ?_⟩
      · rw [← Bool.not_eq_true]
        intro hc
        simp only [isJsonSpace, Bool.or_eq_true, beq_iff_eq] at hc
        rcases hc with ((rfl | rfl) | rfl) | rfl <;>
          simp [jsonValue, jsonWord, jsonWords, jsonNumber, jsonUnsigned, Char.isDigit] at h
      · rintro rfl
        simp [jsonValue, jsonWord, jsonWords, jsonNumber, jsonUnsigned, Char.isDigit] at h

theorem skipSpace_cons {c : Char} {l : List Char} (h : isJsonSpace c = false) :
    skipSpace (c :: l) = c :: l := by
  rw [skipSpace, List.dropWhile_cons, h]
  rfl

theorem skipSpace_value {l : List Char} {r : Json × List Char} (h : jsonValue fuel l = some r) :
    skipSpace l = l := by
  obtain ⟨c, l', rfl, hc, -⟩ := jsonValue_head h
  exact skipSpace_cons hc

theorem jsonEscapeChar_ne_nil (c : Char) : jsonEscapeChar c ≠ [] := by
  unfold jsonEscapeChar
  dsimp only
  split
  · exact List.cons_ne_nil _ _
  · split
    · exact List.cons_ne_nil _ _
    · split
      · exact List.cons_ne_nil _ _
      · exact List.cons_ne_nil _ _

theorem length_le_escaped (s : List Char) : s.length ≤ (s.flatMap jsonEscapeChar).length := by
  induction s with
  | nil => exact Nat.le_refl _
  | cons c s ih =>
    have := List.length_pos_iff.2 (jsonEscapeChar_ne_nil c)
    rw [List.flatMap_cons, List.length_append, List.length_cons]
    omega

/-- A string between its quotes is read. -/
theorem jsonString_stringText (s : List Char) :
    jsonString ((s.flatMap jsonEscapeChar ++ '"' :: rest).length + 1)
      (s.flatMap jsonEscapeChar ++ '"' :: rest) =
      some (s, rest) := by
  refine jsonString_text s ?_
  have := length_le_escaped s
  rw [List.length_append]
  omega

theorem jsonStringText_append (s : List Char) :
    jsonStringText s ++ rest = '"' :: (s.flatMap jsonEscapeChar ++ '"' :: rest) := by
  simp [jsonStringText]

/-- A word is a value that is read back. -/
theorem jsonValue_null :
    jsonValue (fuel + 1) (Json.null.text ++ rest) = some (Json.null.reread, rest) :=
  jsonValue_word (w := (Json.null.text, .null)) (by simp [jsonWords, Json.text])

theorem jsonValue_bool (b : Bool) :
    jsonValue (fuel + 1) ((Json.bool b).text ++ rest) = some ((Json.bool b).reread, rest) := by
  cases b with
  | true =>
    exact jsonValue_word (w := ((Json.bool true).text, .bool true)) (by simp [jsonWords, Json.text])
  | false =>
    exact jsonValue_word (w := ((Json.bool false).text, .bool false))
      (by simp [jsonWords, Json.text])

theorem jsonValue_int (i : Int) (hfit : (Json.int i).intsFit = true) (hrest : Closes rest) :
    jsonValue (fuel + 1) ((Json.int i).text ++ rest) = some ((Json.int i).reread, rest) := by
  rw [Json.intsFit, decide_eq_true_eq] at hfit
  exact jsonValue_number (jsonIntText_number i hfit) hrest

theorem jsonValue_str (s : String) :
    jsonValue (fuel + 1) ((Json.str s).text ++ rest) = some ((Json.str s).reread, rest) := by
  rw [Json.text, jsonStringText_append, jsonValue, if_pos rfl, jsonString_stringText]
  change some (Json.str (String.ofList s.toList), rest) = some (Json.str s, rest)
  rw [String.ofList_toList]

/-- An array is read if its items are. -/
theorem jsonValue_arr {items : List Char} {l : List Json}
    (h : jsonItems fuel (items ++ ']' :: rest) = some (l, rest)) (hhead : ∃ c l', items = c :: l' ∧
      isJsonSpace c = false ∧ c ≠ ']') :
    jsonValue (fuel + 1) ('[' :: (items ++ ']' :: rest)) = some (.arr l, rest) := by
  obtain ⟨c, l', rfl, hspace, hc⟩ := hhead
  rw [jsonValue, if_neg (by decide), if_pos rfl, List.cons_append, skipSpace_cons hspace]
  split
  · rename_i heq
    cases heq
    exact absurd rfl hc
  · rw [← List.cons_append, h]
    rfl

/-- An object is read if its fields are. -/
theorem jsonValue_obj {l : List Char} {fields : List (String × Json)}
    (h : jsonFields fuel ('"' :: l) = some (fields, rest)) :
    jsonValue (fuel + 1) ('\x7b' :: '"' :: l) = some (.obj (pyDict fields), rest) := by
  rw [jsonValue, if_neg (by decide), if_neg (by decide), if_pos rfl, skipSpace_cons rfl]
  change (jsonFields fuel ('"' :: l)).bind _ = _
  rw [h]
  rfl

theorem jsonItems_last {l : List Char} {x : Json} (h : jsonValue fuel l = some (x, ']' :: rest)) :
    jsonItems (fuel + 1) l = some ([x], rest) := by
  rw [jsonItems, h]
  rfl

theorem jsonItems_next {l l' : List Char} {x : Json} {items : List Json}
    (h : jsonValue fuel l = some (x, ',' :: ' ' :: l')) (hspace : skipSpace l' = l')
    (hl' : jsonItems fuel l' = some (items, rest)) :
    jsonItems (fuel + 1) l = some (x :: items, rest) := by
  have hskip : skipSpace (' ' :: l') = l' := hspace
  rw [jsonItems, h, Option.bind_eq_bind, Option.bind_some]
  dsimp only
  rw [skipSpace_cons rfl]
  change (jsonItems fuel (skipSpace (' ' :: l'))).bind _ = _
  rw [hskip, hl']
  rfl

theorem jsonFields_last {ks l l' : List Char} {key : String} {x : Json}
    (hkey : jsonString (ks.length + 1) ks = some (key.toList, ':' :: l)) (hspace : skipSpace l = l')
    (h : jsonValue fuel l' = some (x, '\x7d' :: rest)) :
    jsonFields (fuel + 1) ('"' :: ks) = some ([(key, x)], rest) := by
  rw [jsonFields, if_pos rfl, hkey, Option.bind_eq_bind, Option.bind_some]
  dsimp only
  rw [skipSpace_cons rfl]
  change (jsonValue fuel (skipSpace l)).bind _ = _
  rw [hspace, h, Option.bind_some]
  dsimp only
  rw [skipSpace_cons rfl, String.ofList_toList]
  rfl

theorem jsonFields_next {ks l l' next next' : List Char} {key : String} {x : Json}
    {fields : List (String × Json)}
    (hkey : jsonString (ks.length + 1) ks = some (key.toList, ':' :: l)) (hspace : skipSpace l = l')
    (h : jsonValue fuel l' = some (x, ',' :: next)) (hnext : skipSpace next = next')
    (hfields : jsonFields fuel next' = some (fields, rest)) :
    jsonFields (fuel + 1) ('"' :: ks) = some ((key, x) :: fields, rest) := by
  rw [jsonFields, if_pos rfl, hkey, Option.bind_eq_bind, Option.bind_some]
  dsimp only
  rw [skipSpace_cons rfl]
  change (jsonValue fuel (skipSpace l)).bind _ = _
  rw [hspace, h, Option.bind_some]
  dsimp only
  rw [skipSpace_cons rfl]
  change (jsonFields fuel (skipSpace next)).bind _ = _
  rw [hnext, hfields, String.ofList_toList]
  rfl

theorem fieldsText_head (f : String × Json) (fields : List (String × Json)) :
    ∃ l, Json.fieldsText (f :: fields) = '"' :: l := by
  cases fields with
  | nil => exact ⟨_, rfl⟩
  | cons g fields => exact ⟨_, rfl⟩

/-- A value is read back if it is read at all. -/
def Rereads (x : Json) (fuel : Nat) : Prop :=
  ∀ rest, Closes rest → jsonValue (fuel + 1) (x.text ++ rest) = some (x.reread, rest)

theorem Rereads.skipSpace {x : Json} (h : Rereads x fuel) (rest : List Char) :
    skipSpace (x.text ++ rest) = x.text ++ rest := by
  have hread := h [] closes_nil
  rw [List.append_nil] at hread
  obtain ⟨c, l', hl', hc, -⟩ := jsonValue_head hread
  rw [hl', List.cons_append, skipSpace_cons hc]

mutual

/-- **A value is read back**, whatever closes it. -/
theorem rereads (x : Json) (fuel : Nat) (hfit : x.intsFit = true) (hfuel : x.text.length ≤ fuel) :
    Rereads x fuel := by
  intro rest hrest
  match x with
  | .null => exact jsonValue_null
  | .bool b => exact jsonValue_bool b
  | .int i => exact jsonValue_int i hfit hrest
  | .float f => exact jsonValue_float f hrest
  | .str s => exact jsonValue_str s
  | .arr [] => rfl
  | .arr (y :: l) =>
    rw [Json.text, List.length_append, List.length_cons, List.length_singleton] at hfuel
    obtain ⟨hitems, hhead⟩ := jsonItems_text y l fuel hfit hfuel
    rw [Json.text, List.cons_append, List.cons_append, List.append_assoc]
    exact jsonValue_arr (hitems rest) hhead
  | .obj [] => rfl
  | .obj (f :: fields) =>
    rw [Json.text, List.length_append, List.length_cons, List.length_singleton] at hfuel
    have hfields := jsonFields_text f fields fuel hfit hfuel rest
    obtain ⟨l, hl⟩ := fieldsText_head f fields
    rw [Json.text, List.cons_append, List.cons_append, List.append_assoc]
    rw [hl] at hfields ⊢
    exact jsonValue_obj hfields

theorem jsonItems_text (x : Json) (l : List Json) (fuel : Nat)
    (hfit : Json.intsFitAll (x :: l) = true) (hfuel : (Json.itemsText (x :: l)).length + 2 ≤ fuel) :
    (∀ rest, jsonItems fuel (Json.itemsText (x :: l) ++ ']' :: rest) =
      some (Json.rereadAll (x :: l), rest)) ∧
      ∃ c l', Json.itemsText (x :: l) = c :: l' ∧ isJsonSpace c = false ∧ c ≠ ']' := by
  obtain ⟨fuel, rfl⟩ : ∃ n, fuel = n + 2 := ⟨fuel - 2, by omega⟩
  rw [Json.intsFitAll, Bool.and_eq_true] at hfit
  match l with
  | [] =>
    rw [Json.itemsText] at hfuel ⊢
    have hx := rereads x fuel hfit.1 (by omega)
    refine ⟨fun rest => jsonItems_last (hx _ (closes_cons (.inr (.inl rfl)))), ?_⟩
    have hread := hx [] closes_nil
    rw [List.append_nil] at hread
    exact jsonValue_head hread
  | y :: l =>
    rw [Json.itemsText, List.length_append, List.length_cons, List.length_cons] at hfuel
    have hx := rereads x fuel hfit.1 (by omega)
    obtain ⟨hitems, c, l', hl', hc, hne⟩ := jsonItems_text y l (fuel + 1) hfit.2 (by omega)
    rw [Json.itemsText]
    constructor
    · intro rest
      rw [List.append_assoc]
      refine jsonItems_next (hx _ (closes_cons (.inl rfl))) ?_ (hitems rest)
      change skipSpace (Json.itemsText (y :: l) ++ ']' :: rest) = Json.itemsText (y :: l) ++
        ']' :: rest
      rw [hl', List.cons_append, skipSpace_cons hc]
    · have hread := hx [] closes_nil
      rw [List.append_nil] at hread
      obtain ⟨c, l', hl', hc, hne⟩ := jsonValue_head hread
      exact ⟨c, _, by rw [hl']; rfl, hc, hne⟩

theorem jsonFields_text (f : String × Json) (fields : List (String × Json)) (fuel : Nat)
    (hfit : Json.intsFitFields (f :: fields) = true)
    (hfuel : (Json.fieldsText (f :: fields)).length + 2 ≤ fuel) (rest : List Char) :
    jsonFields fuel (Json.fieldsText (f :: fields) ++ '\x7d' :: rest) =
      some (Json.rereadFields (f :: fields), rest) := by
  obtain ⟨fuel, rfl⟩ : ∃ n, fuel = n + 2 := ⟨fuel - 2, by omega⟩
  obtain ⟨key, x⟩ := f
  rw [Json.intsFitFields, Bool.and_eq_true] at hfit
  match fields with
  | [] =>
    rw [Json.fieldsText, List.length_append, List.length_cons, List.length_cons] at hfuel
    have hx := rereads x fuel hfit.1 (by omega)
    rw [Json.fieldsText, List.append_assoc, jsonStringText_append]
    exact jsonFields_last (jsonString_stringText key.toList) (hx.skipSpace _)
      (hx _ (closes_cons (.inr (.inr rfl))))
  | g :: fields =>
    rw [Json.fieldsText, List.length_append, List.length_cons, List.length_cons, List.length_append,
      List.length_cons, List.length_cons] at hfuel
    have hx := rereads x fuel hfit.1 (by omega)
    have hfields := jsonFields_text g fields (fuel + 1) hfit.2 (by omega) rest
    obtain ⟨l, hl⟩ := fieldsText_head g fields
    rw [Json.fieldsText, List.append_assoc, jsonStringText_append, List.cons_append,
      List.cons_append, List.append_assoc]
    refine jsonFields_next (jsonString_stringText key.toList) (hx.skipSpace _)
      (hx _ (closes_cons (.inl rfl))) ?_ hfields
    change skipSpace (Json.fieldsText (g :: fields) ++ '\x7d' :: rest) = Json.fieldsText
      (g :: fields) ++ '\x7d' :: rest
    rw [hl]
    rfl

end

/-- **What is written is read back.** -/
theorem jsonLoads_dumps {x : Json} {s : String} (h : x.dumps = some s) :
    jsonLoads s = some x.reread := by
  unfold Json.dumps at h
  split at h
  · rename_i hfit
    cases h
    have hread := rereads x x.text.length hfit (Nat.le_refl _) [] closes_nil
    rw [List.append_nil] at hread
    unfold jsonLoads
    rw [String.toList_ofList, String.length_ofList, skipSpace_value hread, hread]
    rfl
  · cases h

end Values

end PeHackathon
