import PeHackathon.Python.JsonBytes
import PeHackathon.Python.JsonRoundTrip

/-!
# Reading the bytes of a JSON text

`json.loads` of bytes tells the encoding from the first of them. `jsonLoadsBytes_jsonBytes`: what
`jsonBytes` writes is read back, each value as `PyValue.json` has it. The induction is on the value,
as for `jsonLoads_dumps`; the letters that are not escaped here stand for themselves.
-/

namespace PeHackathon

open PyText

/-! ## Texts without surrogates -/

namespace PyText

/-- The characters of a text without surrogates. -/
def chars (s : PyText) : List Char := s.map fun n : CodePoint => Char.ofNat n.val

variable {s t : PyText}

theorem chars_append (s t : PyText) : (s ++ t).chars = s.chars ++ t.chars := List.map_append

theorem chars_ofChars (l : List Char) : (ofChars l).chars = l := by
  rw [chars, ofChars, List.map_map]
  refine (List.map_congr_left fun c _ => ?_).trans (List.map_id l)
  exact Char.ofNat_toNat c

theorem length_chars (s : PyText) : s.chars.length = s.length := List.length_map _

theorem Encodable.valid {n : CodePoint} (h : (isHighSurrogate n || isLowSurrogate n) = false) :
    n.val.isValidChar := by
  have hlt := n.isLt
  simp only [isHighSurrogate, isLowSurrogate, Bool.or_eq_false_iff, Bool.and_eq_false_iff,
    decide_eq_false_iff_not] at h
  unfold Nat.isValidChar
  omega

theorem toNat_ofNat {n : CodePoint} (h : (isHighSurrogate n || isLowSurrogate n) = false) :
    (Char.ofNat n).toNat = n := by
  rw [Char.ofNat, dif_pos (Encodable.valid h)]
  rfl

theorem encodePoint_eq {n : CodePoint} (h : (isHighSurrogate n || isLowSurrogate n) = false) :
    encodePoint n = some (String.utf8EncodeChar (Char.ofNat n)) := by
  rw [encodePoint, if_neg (by simp [h])]

/-- The bytes of a text are those of its characters. -/
theorem encode_eq {bytes : List UInt8} (h : s.encode = some bytes) :
    s.Encodable ∧ bytes = s.chars.flatMap String.utf8EncodeChar := by
  have hencodable : s.Encodable := encode_isSome_iff.1 (Option.isSome_of_eq_some h)
  refine ⟨hencodable, ?_⟩
  have hmap :
      s.mapM encodePoint = some (s.map fun n : CodePoint => String.utf8EncodeChar
        (Char.ofNat n.val)) := by
    clear h
    induction s with
    | nil => rfl
    | cons n s ih =>
      rw [Encodable, List.forall_mem_cons] at hencodable
      rw [List.mapM_cons, encodePoint_eq hencodable.1, ih hencodable.2]
      rfl
  rw [encode, hmap] at h
  rw [← Option.some.inj h, chars, List.flatMap_map]
  rfl

end PyText

/-! ## Strings -/

/-- What stands for a character between quotes. -/
def plainSpelling (c : Char) : List Char := chars (jsonPlainPoint ⟨c.toNat, toNat_lt_points c⟩)

theorem plainSpelling_spells (c : Char) : SpellsChar (plainSpelling c) c := by
  unfold plainSpelling jsonPlainPoint
  dsimp only
  rw [Char.ofNat_toNat]
  split
  · rename_i e he
    rw [chars_ofChars]
    split at he
    · cases he
    · refine shortEscape_spells ?_
      obtain ⟨before, after, hsplit, -⟩ := List.lookup_eq_some_iff.1 he
      rw [hsplit]
      exact List.mem_append_right _ List.mem_cons_self
  · rename_i hnone
    split
    · rename_i hcontrol
      rw [chars_ofChars]
      exact unicodeEscape_spells (Nat.lt_trans hcontrol (by decide))
    · rename_i hcontrol
      change SpellsChar [Char.ofNat c.toNat] c
      rw [Char.ofNat_toNat]
      refine PlainChar.spells ⟨?_, ?_, Nat.not_lt.1 hcontrol⟩
      · rintro rfl
        simp [jsonEscapes] at hnone
      · rintro rfl
        simp [jsonEscapes] at hnone

theorem plainSpelling_ne_nil (c : Char) : plainSpelling c ≠ [] := by
  intro h
  have hread := plainSpelling_spells c 0 ['"']
  rw [h] at hread
  cases hread

theorem length_le_spelled (s : List Char) : s.length ≤ (s.flatMap plainSpelling).length := by
  induction s with
  | nil => exact Nat.le_refl _
  | cons c s ih =>
    have := List.length_pos_iff.2 (plainSpelling_ne_nil c)
    rw [List.flatMap_cons, List.length_append, List.length_cons]
    omega

/-- A text without surrogates, between its quotes. -/
theorem chars_jsonPlainText {s : PyText} (h : s.Encodable) :
    (jsonPlainText s).chars = '"' :: s.chars.flatMap plainSpelling ++ ['"'] := by
  have hspell : chars (s.flatMap jsonPlainPoint) = s.chars.flatMap plainSpelling := by
    rw [chars, List.map_flatMap, chars, List.flatMap_map]
    refine List.flatMap_congr fun n hn => ?_
    have hn : (⟨(Char.ofNat n).toNat, toNat_lt_points _⟩ : CodePoint) = n :=
      Fin.ext (toNat_ofNat (h n hn))
    rw [plainSpelling, hn]
    rfl
  rw [jsonPlainText, chars_append, chars_append, hspell, chars_ofChars]
  rfl

section Strings

variable {s : PyText} {rest : List Char} {fuel : Nat}

theorem jsonString_spelling (s : List Char) (rest : List Char) :
    jsonString ((s.flatMap plainSpelling ++ '"' :: rest).length + 1)
      (s.flatMap plainSpelling ++ '"' :: rest) =
      some (s, rest) := by
  refine jsonString_spelled (fun c _ => plainSpelling_spells c) ?_
  have := length_le_spelled s
  rw [List.length_append]
  omega

theorem jsonValue_plainText (h : s.Encodable) :
    jsonValue (fuel + 1) ((jsonPlainText s).chars ++ rest) =
      some (.str (String.ofList s.chars), rest) := by
  rw [chars_jsonPlainText h, List.cons_append, List.cons_append, List.append_assoc,
    List.singleton_append, jsonValue, if_pos rfl, jsonString_spelling]
  rfl

/-- A surrogate is written as it is. -/
theorem encodable_of_jsonPlainText (h : (jsonPlainText s).Encodable) : s.Encodable := by
  have hpoints := (encodable_append.1 (encodable_append.1 h).1).2
  intro n hn
  by_contra hsurrogate
  refine hsurrogate (hpoints n (List.mem_flatMap.2 ⟨n, hn, ?_⟩))
  have hlarge : 0xd800 ≤ n.val ∧ n.val ≤ 0xdfff := by
    simp only [isHighSurrogate, isLowSurrogate, Bool.or_eq_false_iff, Bool.and_eq_false_iff,
      decide_eq_false_iff_not] at hsurrogate
    omega
  have hdefault : Char.ofNat n = Char.ofNat 0xd800 := by
    rw [Char.ofNat, Char.ofNat, dif_neg, dif_neg] <;> unfold Nat.isValidChar <;> omega
  unfold jsonPlainPoint
  rw [hdefault, if_neg (by omega), if_neg (by omega)]
  exact List.mem_singleton_self n

end Strings

/-! ## Values -/

/-- The text of a key, without quotes. -/
def PyValue.keyPlain : PyValue → Option PyText
  | .str s => some s
  | x => x.plainText

theorem keyText_eq (x : PyValue) : x.keyText = x.keyPlain.map jsonPlainText := by
  cases x <;> rfl

def PyValue.keyString (x : PyValue) : String := String.ofList (chars (x.keyPlain.getD []))

mutual

/-- What is read back for a value. -/
def PyValue.json : PyValue → Json
  | .null => .null
  | .bool b => .bool b
  | .int i => .int i
  | .float f => (Json.float f).reread
  | .str s => .str (String.ofList s.chars)
  | .list l => .arr (PyValue.jsonAll l)
  | .dict items => .obj (pyDict (PyValue.jsonPairs items))
  | .enclosing => .null
  | .object => .null

def PyValue.jsonAll : List PyValue → List Json
  | [] => []
  | x :: l => x.json :: PyValue.jsonAll l

def PyValue.jsonPairs : List (PyValue × PyValue) → List (String × Json)
  | [] => []
  | (key, x) :: items => (key.keyString, x.json) :: PyValue.jsonPairs items

end

section Values

variable {x : PyValue} {text : PyText} {depth fuel : Nat} {rest : List Char}

theorem jsonValue_plain (h : x.plainText = some text) (hrest : Closes rest) :
    jsonValue (fuel + 1) (text.chars ++ rest) = some (x.json, rest) := by
  cases x with
  | null =>
    cases h
    rw [chars_ofChars, PyValue.json]
    exact jsonValue_null
  | bool b =>
    cases h
    rw [chars_ofChars, PyValue.json]
    exact jsonValue_bool b
  | int i =>
    rw [PyValue.plainText, jsonIntText?] at h
    split at h
    · rename_i hfit
      cases h
      rw [chars_ofChars, PyValue.json]
      exact jsonValue_number (jsonIntText_number i hfit) hrest
    · cases h
  | float f =>
    cases h
    rw [chars_ofChars, PyValue.json]
    exact jsonValue_float f hrest
  | str s => cases h
  | list l => cases h
  | dict items => cases h
  | enclosing => cases h
  | object => cases h

theorem itemsText_cons {l : List PyValue} (h : PyValue.itemsText depth (x :: l) = some text) :
    ∃ head tail, x.jsonText depth = some head ∧ PyValue.itemsText depth l = some tail ∧
      text = head ++ (if l.isEmpty then [] else ofChars [',', ' ']) ++ tail := by
  rw [PyValue.itemsText] at h
  obtain ⟨head, hhead, h⟩ := Option.bind_eq_some_iff.1 h
  obtain ⟨tail, htail, h⟩ := Option.bind_eq_some_iff.1 h
  exact ⟨head, tail, hhead, htail, (Option.some.inj h).symm⟩

theorem pairsText_cons {key : PyValue} {items : List (PyValue × PyValue)}
    (h : PyValue.pairsText depth ((key, x) :: items) = some text) :
    ∃ name head tail, key.keyPlain = some name ∧ x.jsonText depth = some head ∧
      PyValue.pairsText depth items = some tail ∧
      text = jsonPlainText name ++ ofChars [':', ' '] ++ head ++
        (if items.isEmpty then [] else ofChars [',', ' ']) ++ tail := by
  rw [PyValue.pairsText] at h
  obtain ⟨keyText, hkey, h⟩ := Option.bind_eq_some_iff.1 h
  obtain ⟨head, hhead, h⟩ := Option.bind_eq_some_iff.1 h
  obtain ⟨tail, htail, h⟩ := Option.bind_eq_some_iff.1 h
  rw [keyText_eq] at hkey
  obtain ⟨name, hname, rfl⟩ := Option.map_eq_some_iff.1 hkey
  exact ⟨name, head, tail, hname, hhead, htail, (Option.some.inj h).symm⟩

/-- The text is read as `y` where it stands before what closes it. -/
def ReadAs (text : PyText) (y : Json) (fuel : Nat) : Prop :=
  ∀ rest, Closes rest → jsonValue (fuel + 1) (text.chars ++ rest) = some (y, rest)

theorem ReadAs.head {y : Json} (h : ReadAs text y fuel) :
    ∃ c l, text.chars = c :: l ∧ isJsonSpace c = false ∧ c ≠ ']' := by
  have hread := h [] closes_nil
  rw [List.append_nil] at hread
  exact jsonValue_head hread

theorem ReadAs.skipSpace {y : Json} (h : ReadAs text y fuel) (rest : List Char) :
    skipSpace (text.chars ++ rest) = text.chars ++ rest := by
  obtain ⟨c, l, hl, hc, -⟩ := h.head
  rw [hl, List.cons_append, skipSpace_cons hc]

theorem encodable_parts {s t u : PyText} (h : (s ++ t ++ u).Encodable) :
    s.Encodable ∧ u.Encodable :=
  ⟨(encodable_append.1 (encodable_append.1 h).1).1, (encodable_append.1 h).2⟩

mutual

/-- **A value is read back**, whatever closes it. -/
theorem PyValue.readAs (x : PyValue) (depth fuel : Nat) (text : PyText)
    (h : x.jsonText depth = some text) (hencodable : text.Encodable) (hfuel : text.length ≤ fuel) :
    ReadAs text x.json fuel := by
  intro rest hrest
  match x, depth with
  | .str s, _ =>
    rw [PyValue.jsonText] at h
    cases h
    rw [PyValue.json]
    exact jsonValue_plainText (encodable_of_jsonPlainText hencodable)
  | .list _, 0 =>
    rw [PyValue.jsonText] at h
    cases h
  | .list [], _ + 1 =>
    rw [PyValue.jsonText, PyValue.itemsText] at h
    cases h
    rw [PyValue.json, PyValue.jsonAll]
    rfl
  | .list (y :: l), depth + 1 =>
    rw [PyValue.jsonText] at h
    obtain ⟨items, hitems, h⟩ := Option.bind_eq_some_iff.1 h
    cases h
    rw [List.length_append, List.length_append] at hfuel
    have hinner := (encodable_append.1 (encodable_append.1 hencodable).1).2
    have hlength : (ofChars ['[']).length = 1 ∧ (ofChars [']']).length = 1 := ⟨rfl, rfl⟩
    obtain ⟨hread, hhead⟩ := PyValue.items_readAs y l depth fuel items hitems hinner (by omega)
    rw [PyValue.json, chars_append, chars_append, chars_ofChars, chars_ofChars, List.append_assoc,
      List.append_assoc]
    exact jsonValue_arr (hread rest) hhead
  | .dict _, 0 =>
    rw [PyValue.jsonText] at h
    cases h
  | .dict [], _ + 1 =>
    rw [PyValue.jsonText, PyValue.pairsText] at h
    cases h
    rw [PyValue.json, PyValue.jsonPairs]
    rfl
  | .dict (f :: items), depth + 1 =>
    rw [PyValue.jsonText] at h
    obtain ⟨fields, hfields, h⟩ := Option.bind_eq_some_iff.1 h
    cases h
    rw [List.length_append, List.length_append] at hfuel
    have hinner := (encodable_append.1 (encodable_append.1 hencodable).1).2
    have hlength : (ofChars ['\x7b']).length = 1 ∧ (ofChars ['\x7d']).length = 1 := ⟨rfl, rfl⟩
    obtain ⟨hread, l, hl⟩ :=
      PyValue.pairs_readAs f items depth fuel fields hfields hinner (by omega)
    have hread := hread rest
    rw [PyValue.json, chars_append, chars_append, chars_ofChars, chars_ofChars, List.append_assoc,
      List.append_assoc]
    rw [hl] at hread ⊢
    exact jsonValue_obj hread
  | .null, _ => exact jsonValue_plain (by simpa [PyValue.jsonText] using h) hrest
  | .bool b, _ => exact jsonValue_plain (by simpa [PyValue.jsonText] using h) hrest
  | .int i, _ => exact jsonValue_plain (by simpa [PyValue.jsonText] using h) hrest
  | .float f, _ => exact jsonValue_plain (by simpa [PyValue.jsonText] using h) hrest
  | .enclosing, _ => exact jsonValue_plain (by simpa [PyValue.jsonText] using h) hrest
  | .object, _ => exact jsonValue_plain (by simpa [PyValue.jsonText] using h) hrest
termination_by 2 * fuel + 1

theorem PyValue.items_readAs (x : PyValue) (l : List PyValue) (depth fuel : Nat) (text : PyText)
    (h : PyValue.itemsText depth (x :: l) = some text) (hencodable : text.Encodable)
    (hfuel : text.length + 2 ≤ fuel) :
    (∀ rest, jsonItems fuel (text.chars ++ ']' :: rest) = some (PyValue.jsonAll (x :: l), rest)) ∧
      ∃ c l', text.chars = c :: l' ∧ isJsonSpace c = false ∧ c ≠ ']' := by
  obtain ⟨fuel, rfl⟩ : ∃ n, fuel = n + 2 := ⟨fuel - 2, by omega⟩
  obtain ⟨head, tail, hhead, htail, rfl⟩ := itemsText_cons h
  obtain ⟨henc, henc'⟩ := encodable_parts hencodable
  rw [List.length_append, List.length_append] at hfuel
  have hx := PyValue.readAs x depth fuel head hhead henc (by omega)
  obtain ⟨c, l', hl', hc, hne⟩ := hx.head
  refine ⟨fun rest => ?_, c, l' ++ chars ((if l.isEmpty then [] else ofChars [',', ' ']) ++ tail),
    ?_, hc, hne⟩
  · match l with
    | [] =>
      rw [PyValue.itemsText] at htail
      cases htail
      have hempty : head ++ (if ([] : List PyValue).isEmpty then [] else ofChars [',', ' ']) ++
        [] = head := by simp
      rw [hempty, PyValue.jsonAll, PyValue.jsonAll]
      exact jsonItems_last (hx _ (closes_cons (.inr (.inl rfl))))
    | y :: l =>
      obtain ⟨hitems, c, l', hl', hc, hne⟩ :=
          PyValue.items_readAs y l depth (fuel + 1) tail htail henc' (by
        have hlength : (if (y :: l).isEmpty then [] else ofChars [',', ' ']).length = 2 := rfl
        omega)
      have hsep : (if (y :: l).isEmpty then [] else ofChars [',', ' ']) = ofChars [',', ' '] := rfl
      rw [hsep, chars_append, chars_append, chars_ofChars, List.append_assoc, List.append_assoc,
        PyValue.jsonAll]
      refine jsonItems_next (hx _ (closes_cons (.inl rfl))) ?_ (hitems rest)
      change skipSpace (tail.chars ++ ']' :: rest) = tail.chars ++ ']' :: rest
      rw [hl', List.cons_append, skipSpace_cons hc]
  · rw [List.append_assoc, chars_append, hl']
    rfl
termination_by 2 * fuel

theorem PyValue.pairs_readAs (f : PyValue × PyValue) (items : List (PyValue × PyValue))
    (depth fuel : Nat) (text : PyText) (h : PyValue.pairsText depth (f :: items) = some text)
    (hencodable : text.Encodable) (hfuel : text.length + 2 ≤ fuel) :
    (∀ rest, jsonFields fuel (text.chars ++ '\x7d' :: rest) =
      some (PyValue.jsonPairs (f :: items), rest)) ∧
      ∃ l, text.chars = '"' :: l := by
  obtain ⟨fuel, rfl⟩ : ∃ n, fuel = n + 2 := ⟨fuel - 2, by omega⟩
  obtain ⟨key, x⟩ := f
  obtain ⟨name, head, tail, hname, hhead, htail, rfl⟩ := pairsText_cons h
  obtain ⟨henc, henc'⟩ := encodable_parts hencodable
  obtain ⟨hencKey, hencHead⟩ := encodable_parts henc
  rw [List.length_append, List.length_append, List.length_append, List.length_append] at hfuel
  have hcolon : (ofChars [':', ' ']).length = 2 := rfl
  have hencName := encodable_of_jsonPlainText hencKey
  have hx := PyValue.readAs x depth fuel head hhead hencHead (by omega)
  have hkey : key.keyString = String.ofList name.chars := by
    rw [PyValue.keyString, hname, Option.getD_some]
  refine ⟨fun rest => ?_, ?_⟩
  · have hstring : ∀ rest, jsonString ((name.chars.flatMap plainSpelling ++ '"' :: rest).length + 1)
        (name.chars.flatMap plainSpelling ++ '"' :: rest) = some ((String.ofList name.chars).toList,
          rest) := by
      intro rest
      rw [String.toList_ofList]
      exact jsonString_spelling name.chars rest
    match items with
    | [] =>
      rw [PyValue.pairsText] at htail
      cases htail
      have hempty : jsonPlainText name ++ ofChars [':', ' '] ++ head ++
          (if ([] : List (PyValue × PyValue)).isEmpty then [] else ofChars [',', ' ']) ++ [] =
          jsonPlainText name ++ ofChars [':', ' '] ++ head := by simp
      rw [hempty, PyValue.jsonPairs, PyValue.jsonPairs, hkey, chars_append, chars_append,
        chars_jsonPlainText hencName, chars_ofChars]
      simp only [List.append_assoc, List.cons_append, List.nil_append]
      exact jsonFields_last (hstring _) (hx.skipSpace _) (hx _ (closes_cons (.inr (.inr rfl))))
    | g :: items =>
      obtain ⟨hfields, l, hl⟩ := PyValue.pairs_readAs g items depth (fuel + 1) tail htail henc' (by
        have hlength : (if (g :: items).isEmpty then [] else ofChars [',', ' ']).length = 2 := rfl
        omega)
      have hsep : (if (g :: items).isEmpty then [] else ofChars [',', ' ']) = ofChars [',', ' '] :=
        rfl
      rw [hsep, PyValue.jsonPairs, hkey, chars_append, chars_append, chars_append, chars_append,
        chars_jsonPlainText hencName, chars_ofChars, chars_ofChars]
      simp only [List.append_assoc, List.cons_append, List.nil_append]
      refine jsonFields_next (hstring _) (hx.skipSpace _) (hx _ (closes_cons (.inl rfl))) ?_
        (hfields rest)
      rw [hl]
      rfl
  · simp only [List.append_assoc]
    rw [chars_append, chars_jsonPlainText hencName]
    exact ⟨_, rfl⟩
termination_by 2 * fuel

end

/-- **What is written is read back.** -/
theorem jsonLoads_jsonText (h : x.jsonText depth = some text) (hencodable : text.Encodable) :
    jsonLoads (String.ofList text.chars) = some x.json := by
  have hread := x.readAs depth text.length text h hencodable (Nat.le_refl _) [] closes_nil
  rw [List.append_nil] at hread
  unfold jsonLoads
  rw [String.toList_ofList, String.length_ofList, length_chars, skipSpace_value hread, hread]
  rfl

end Values

/-! ## Bytes -/

inductive JsonEncoding
  | utf8
  | utf8Sig
  | utf16
  | utf16Le
  | utf16Be
  | utf32
  | utf32Le
  | utf32Be
  deriving DecidableEq

/-- `json.detect_encoding`. -/
def detectEncoding (b : List UInt8) : JsonEncoding :=
  if [0x00, 0x00, 0xfe, 0xff].isPrefixOf b || [0xff, 0xfe, 0x00, 0x00].isPrefixOf b then .utf32
  else if [0xfe, 0xff].isPrefixOf b || [0xff, 0xfe].isPrefixOf b then .utf16
  else if [0xef, 0xbb, 0xbf].isPrefixOf b then .utf8Sig
  else
    match b with
    | b₀ :: b₁ :: b₂ :: b₃ :: _ =>
      if b₀ = 0 then if b₁ ≠ 0 then .utf16Be else .utf32Be
      else if b₁ = 0 then if b₂ ≠ 0 ∨ b₃ ≠ 0 then .utf16Le else .utf32Le
      else .utf8
    | [b₀, b₁] => if b₀ = 0 then .utf16Be else if b₁ = 0 then .utf16Le else .utf8
    | _ => .utf8

/-- `json.loads` of bytes; `none` if it raises. What is read from bytes that are not UTF-8 is left
open. -/
def jsonLoadsBytes (other : List UInt8 → Option Json) (b : List UInt8) : Option Json :=
  match detectEncoding b, String.fromUTF8? b.toByteArray with
  | .utf8, some s => jsonLoads s
  | _, _ => other b

theorem detectEncoding_ascii {b₀ b₁ : UInt8} (h₀ : b₀ ≠ 0) (h₀' : b₀ < 0x80) (h₁ : b₁ ≠ 0)
    (rest : List UInt8) :
    detectEncoding (b₀ :: b₁ :: rest) = .utf8 := by
  have hlarge : ∀ n : UInt8, 0x80 ≤ n → (n == b₀) = false := fun n hn =>
    beq_eq_false_iff_ne.2 fun h => absurd (h ▸ hn) (UInt8.not_le.2 h₀')
  have hzero : ((0 : UInt8) == b₀) = false := beq_eq_false_iff_ne.2 h₀.symm
  unfold detectEncoding
  simp only [List.isPrefixOf, hlarge 0xfe (by decide), hlarge 0xff (by decide),
    hlarge 0xef (by decide), hzero, Bool.false_and, Bool.or_self, Bool.false_eq_true, if_false]
  match rest with
  | [] =>
    dsimp only
    rw [if_neg h₀, if_neg h₁]
  | [_] => rfl
  | _ :: _ :: _ =>
    dsimp only
    rw [if_neg h₀, if_neg h₁]

theorem fromUTF8_chars (l : List Char) :
    String.fromUTF8? (l.flatMap String.utf8EncodeChar).toByteArray = some (String.ofList l) := by
  unfold String.fromUTF8?
  rw [dif_pos ⟨l, rfl⟩]
  rfl

/-- The text of a `dict` begins with a brace, and then a quote or the other brace. -/
theorem dict_head {items : List (PyValue × PyValue)} {depth : Nat} {text : PyText}
    (h : (PyValue.dict items).jsonText depth = some text) :
    ∃ c l, text.chars = '\x7b' :: c :: l ∧ (c = '"' ∨ c = '\x7d') := by
  cases depth with
  | zero =>
    rw [PyValue.jsonText] at h
    cases h
  | succ depth =>
    rw [PyValue.jsonText] at h
    obtain ⟨fields, hfields, h⟩ := Option.bind_eq_some_iff.1 h
    cases h
    rw [chars_append, chars_append, chars_ofChars]
    cases items with
    | nil =>
      rw [PyValue.pairsText] at hfields
      cases hfields
      exact ⟨_, _, rfl, .inr rfl⟩
    | cons f items =>
      obtain ⟨name, head, tail, -, -, -, rfl⟩ := pairsText_cons hfields
      exact ⟨_, _, rfl, .inl rfl⟩

/-- **The bytes of a `dict` are read back.** -/
theorem jsonLoadsBytes_jsonBytes {items : List (PyValue × PyValue)} {depth : Nat} {b : List UInt8}
    (other : List UInt8 → Option Json) (h : jsonBytes depth (.dict items) = some b) :
    jsonLoadsBytes other b = some (.obj (pyDict (PyValue.jsonPairs items))) := by
  obtain ⟨text, htext, h⟩ := Option.bind_eq_some_iff.1 h
  obtain ⟨hencodable, rfl⟩ := encode_eq h
  have hutf8 : detectEncoding (text.chars.flatMap String.utf8EncodeChar) = .utf8 := by
    obtain ⟨c, l, hchars, rfl | rfl⟩ := dict_head htext
    · rw [hchars]
      exact detectEncoding_ascii (by decide) (by decide) (by decide) _
    · rw [hchars]
      exact detectEncoding_ascii (by decide) (by decide) (by decide) _
  have hloads := jsonLoads_jsonText htext hencodable
  rw [PyValue.json] at hloads
  unfold jsonLoadsBytes
  rw [hutf8, fromUTF8_chars]
  exact hloads

end PeHackathon
