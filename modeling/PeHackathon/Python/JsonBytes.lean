import PeHackathon.Python.JsonText

/-!
# `json.dumps` of any value

`jsonBytes` is `json.dumps(x, ensure_ascii=False).encode("utf-8")` for an `x` that nothing has
checked. The encoder raises `TypeError` for an object or a key it does not know, `ValueError` for an
integer of more than 4300 digits and for a list or dict inside itself, and `RecursionError` where
lists and dicts are nested too deep; `encode` raises for a lone surrogate. A `dict` of texts and
numbers is encoded (`jsonBytes_plain`).
-/

namespace PeHackathon

/-- A code point, which may be a surrogate. -/
abbrev CodePoint := Fin 0x110000

/-- A `str` that nothing has checked: a lone surrogate may be in it. -/
abbrev PyText := List CodePoint

theorem toNat_lt_points (c : Char) : c.toNat < 0x110000 := by
  have hvalid : c.toNat < 0xd800 ∨ 0xdfff < c.toNat ∧ c.toNat < 0x110000 := c.valid
  omega

namespace PyText

def ofChars (l : List Char) : PyText := l.map fun c => ⟨c.toNat, toNat_lt_points c⟩

def ofString (s : String) : PyText := ofChars s.toList

/-- The bytes of one code point; `none` for a surrogate. -/
def encodePoint (n : CodePoint) : Option (List UInt8) :=
  if isHighSurrogate n || isLowSurrogate n then none
    else some (String.utf8EncodeChar (Char.ofNat n))

/-- `s.encode("utf-8")`; `none` if it raises `UnicodeEncodeError`. -/
def encode (s : PyText) : Option (List UInt8) := (s.mapM encodePoint).map List.flatten

end PyText

/-- A value. -/
inductive PyValue
  | null
  | bool (b : Bool)
  | int (i : Int)
  | float (f : Float)
  | str (s : PyText)
  /-- A list or a tuple. -/
  | list (l : List PyValue)
  | dict (items : List (PyValue × PyValue))
  /-- A list or dict that this place is inside of. -/
  | enclosing
  /-- Of a class that the encoder does not know. -/
  | object

/-! ## The encoder -/

/-- One code point between quotes, where only quotes, backslashes and control characters are
escaped. -/
def jsonPlainPoint (n : CodePoint) : PyText :=
  match if n.val = 0x2f then none else jsonEscapes.lookup (Char.ofNat n) with
  | some e => PyText.ofChars ['\\', e]
  | none => if n.val < 32 then PyText.ofChars (unicodeEscape n) else [n]

def jsonPlainText (s : PyText) : PyText :=
  PyText.ofChars ['"'] ++ s.flatMap jsonPlainPoint ++ PyText.ofChars ['"']

/-- `int.__repr__`; `none` if it raises. -/
def jsonIntText? (i : Int) : Option PyText :=
  if (Nat.toDigits 10 i.natAbs).length ≤ 4300 then some (PyText.ofChars (jsonIntText i)) else none

/-- The texts of the values that hold no others; `none` if there is none. -/
def PyValue.plainText : PyValue → Option PyText
  | .null => some (PyText.ofChars ['n', 'u', 'l', 'l'])
  | .bool b => some (PyText.ofChars (if b then ['t', 'r', 'u', 'e'] else ['f', 'a', 'l', 's', 'e']))
  | .int i => jsonIntText? i
  | .float f => some (PyText.ofChars (jsonFloatText f))
  | _ => none

/-- A key between quotes. -/
def PyValue.keyText : PyValue → Option PyText
  | .str s => some (jsonPlainText s)
  | x => x.plainText.map jsonPlainText

mutual

/-- The text of a value, where lists and dicts may be nested `depth` deep. -/
def PyValue.jsonText : Nat → PyValue → Option PyText
  | _, .str s => some (jsonPlainText s)
  | 0, .list _ => none
  | depth + 1, .list l => do
    let text ← PyValue.itemsText depth l
    some (PyText.ofChars ['['] ++ text ++ PyText.ofChars [']'])
  | 0, .dict _ => none
  | depth + 1, .dict items => do
    let text ← PyValue.pairsText depth items
    some (PyText.ofChars ['\x7b'] ++ text ++ PyText.ofChars ['\x7d'])
  | _, x => x.plainText

def PyValue.itemsText : Nat → List PyValue → Option PyText
  | _, [] => some []
  | depth, x :: l => do
    let text ← x.jsonText depth
    let rest ← PyValue.itemsText depth l
    some (text ++ (if l.isEmpty then [] else PyText.ofChars [',', ' ']) ++ rest)

def PyValue.pairsText : Nat → List (PyValue × PyValue) → Option PyText
  | _, [] => some []
  | depth, (key, x) :: items => do
    let keyText ← key.keyText
    let text ← x.jsonText depth
    let rest ← PyValue.pairsText depth items
    some (keyText ++ PyText.ofChars [':', ' '] ++ text ++
      (if items.isEmpty then [] else PyText.ofChars [',', ' ']) ++ rest)

end

/-- `json.dumps(x, ensure_ascii=False).encode("utf-8")`; `none` if it raises. -/
def jsonBytes (depth : Nat) (x : PyValue) : Option (List UInt8) :=
  (x.jsonText depth).bind PyText.encode

/-! ## What can be encoded -/

namespace PyText

/-- `encode` does not raise. -/
def Encodable (s : PyText) : Prop := ∀ n ∈ s, (isHighSurrogate n || isLowSurrogate n) = false

variable {s t : PyText}

theorem encode_isSome_iff : s.encode.isSome = true ↔ s.Encodable := by
  have hmap : (s.mapM encodePoint).isSome = true ↔ s.Encodable := by
    induction s with
    | nil => exact iff_of_true rfl fun n hn => absurd hn List.not_mem_nil
    | cons n s ih =>
      rw [Encodable, List.forall_mem_cons, List.mapM_cons]
      rw [Encodable] at ih
      rw [← ih, encodePoint]
      cases isHighSurrogate n || isLowSurrogate n with
      | true => simp
      | false => cases s.mapM encodePoint <;> simp
  rw [encode, Option.isSome_map, hmap]

theorem encodable_append : (s ++ t).Encodable ↔ s.Encodable ∧ t.Encodable := List.forall_mem_append

/-- No character is a surrogate. -/
theorem encodable_ofChars (l : List Char) : (ofChars l).Encodable := by
  intro n hn
  obtain ⟨c, -, rfl⟩ := List.mem_map.1 hn
  have hvalid : c.toNat < 0xd800 ∨ 0xdfff < c.toNat ∧ c.toNat < 0x110000 := c.valid
  simp only [isHighSurrogate, isLowSurrogate, Bool.or_eq_false_iff, Bool.and_eq_false_iff,
    decide_eq_false_iff_not]
  omega

end PyText

open PyText

theorem jsonPlainText_encodable {s : PyText} (h : s.Encodable) : (jsonPlainText s).Encodable := by
  refine encodable_append.2 ⟨encodable_append.2 ⟨encodable_ofChars _, ?_⟩, encodable_ofChars _⟩
  intro n hn
  obtain ⟨m, hm, hn⟩ := List.mem_flatMap.1 hn
  unfold jsonPlainPoint at hn
  split at hn
  · exact encodable_ofChars _ n hn
  · split at hn
    · exact encodable_ofChars _ n hn
    · rw [List.mem_singleton.1 hn]
      exact h m hm

/-- A value that holds no others, and that the encoder knows. -/
def PyValue.Plain : PyValue → Prop
  | .str s => s.Encodable
  | x => x.plainText.isSome = true

theorem plainText_encodable {x : PyValue} {text : PyText} (h : x.plainText = some text) :
    text.Encodable := by
  cases x with
  | int i =>
    rw [PyValue.plainText, jsonIntText?] at h
    split at h
    · exact Option.some.inj h ▸ encodable_ofChars _
    · cases h
  | null => exact Option.some.inj h ▸ encodable_ofChars _
  | bool b => exact Option.some.inj h ▸ encodable_ofChars _
  | float f => exact Option.some.inj h ▸ encodable_ofChars _
  | str s => cases h
  | list l => cases h
  | dict items => cases h
  | enclosing => cases h
  | object => cases h

theorem jsonText_of_plain {x : PyValue} {text : PyText} (h : x.plainText = some text)
    (depth : Nat) :
    x.jsonText depth = some text := by
  cases x with
  | str s => cases h
  | list l => cases h
  | dict items => cases h
  | _ => rw [PyValue.jsonText, h] <;> simp

theorem PyValue.Plain.jsonText {x : PyValue} (h : x.Plain) (depth : Nat) :
    ∃ text, x.jsonText depth = some text ∧ text.Encodable := by
  unfold Plain at h
  split at h
  · exact ⟨_, by rw [PyValue.jsonText], jsonPlainText_encodable h⟩
  · obtain ⟨text, htext⟩ := Option.isSome_iff_exists.1 h
    exact ⟨text, jsonText_of_plain htext depth, plainText_encodable htext⟩

/-- A `dict` with texts as keys and such values is encoded. -/
theorem jsonBytes_plain {items : List (PyText × PyValue)} (hkeys : ∀ kv ∈ items, kv.1.Encodable)
    (hvalues : ∀ kv ∈ items, kv.2.Plain) (depth : Nat) :
    (jsonBytes (depth + 1) (.dict (items.map fun kv => (.str kv.1, kv.2)))).isSome = true := by
  have hpairs :
      ∃ text, PyValue.pairsText depth (items.map fun kv => (.str kv.1, kv.2)) = some text ∧
      text.Encodable := by
    induction items with
    | nil =>
      exact ⟨[], by rw [List.map_nil, PyValue.pairsText], fun n hn => absurd hn List.not_mem_nil⟩
    | cons kv items ih =>
      rw [List.forall_mem_cons] at hkeys hvalues
      obtain ⟨rest, hrest, hrest'⟩ := ih hkeys.2 hvalues.2
      obtain ⟨text, htext, htext'⟩ := hvalues.1.jsonText depth
      rw [List.map_cons, PyValue.pairsText, hrest, htext, PyValue.keyText]
      refine ⟨_, rfl, encodable_append.2 ⟨encodable_append.2 ⟨encodable_append.2 ⟨?_, htext'⟩, ?_⟩,
        hrest'⟩⟩
      · exact encodable_append.2 ⟨jsonPlainText_encodable hkeys.1, encodable_ofChars _⟩
      · split
        · exact fun n hn => absurd hn List.not_mem_nil
        · exact encodable_ofChars _
  obtain ⟨text, htext, hencodable⟩ := hpairs
  rw [jsonBytes, PyValue.jsonText, htext]
  change (PyText.encode _).isSome = true
  rw [encode_isSome_iff]
  exact encodable_append.2 ⟨encodable_append.2 ⟨encodable_ofChars _, hencodable⟩,
    encodable_ofChars _⟩

end PeHackathon
