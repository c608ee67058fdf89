import Mathlib.Algebra.Group.Int.Defs
import Mathlib.Algebra.Group.Nat.Defs
import Mathlib.Tactic.Common

/-!
# Python values that come from JSON

`Json` is what `json.loads` returns: `int` and `float` are apart, and an object is a `dict` in
insertion order. A `str` is a Lean `String`, so one with a lone surrogate is not represented; a
database adapter cannot encode such a string either.
-/

namespace PeHackathon

inductive Json
  | null
  | bool (b : Bool)
  | int (i : Int)
  | float (f : Float)
  | str (s : String)
  | arr (l : List Json)
  | obj (fields : List (String × Json))

/-- A `dict` whose keys are strings. -/
abbrev JsonObject := List (String × Json)

namespace JsonObject

/-- `d.get(key)`, with `none` for a missing key. -/
def get? (d : JsonObject) (key : String) : Option Json :=
  (d.find? fun kv => kv.1 == key).map Prod.snd

/-- `key in d`. -/
def has (d : JsonObject) (key : String) : Bool := (d.get? key).isSome

/-- `d.get(key)`, with `None` for a missing key. -/
def getNone (d : JsonObject) (key : String) : Json := (d.get? key).getD .null

/-- `list(d.keys())`. -/
def keys (d : JsonObject) : List String := d.map Prod.fst

end JsonObject

namespace Json

/-- `isinstance(x, int)`, with the value: a `bool` is an `int`. -/
def asInt : Json → Option Int
  | .int i => some i
  | .bool b => some (if b then 1 else 0)
  | _ => none

end Json

/-! ## Truth and membership -/

/-- `bool(x)`. -/
def pyTruthy : Json → Bool
  | .null => false
  | .bool b => b
  | .int i => i != 0
  | .float f => f != 0
  | .str s => s != ""
  | .arr l => !l.isEmpty
  | .obj fields => !fields.isEmpty

/-- `needle in text`. -/
def pySubstring (needle text : String) : Bool :=
  text.toList.tails.any fun l => needle.toList.isPrefixOf l

/-- `key in x`; `none` if it raises. -/
def pyContains : Json → String → Option Bool
  | .obj fields, key => some (JsonObject.has fields key)
  | .arr l, key => some (l.any fun x => match x with | .str s => s == key | _ => false)
  | .str s, key => some (pySubstring key s)
  | _, _ => none

/-- `x[key]`; `none` if it raises. -/
def pyItem : Json → String → Option Json
  | .obj fields, key => JsonObject.get? fields key
  | _, _ => none

/-! ## Text -/

/-- `c.isspace()`. -/
def pyIsSpace (c : Char) : Bool :=
  let n := c.toNat
  (9 ≤ n && n ≤ 13) || (28 ≤ n && n ≤ 32) || n == 0x85 || n == 0xa0 || n == 0x1680 ||
    (0x2000 ≤ n && n ≤ 0x200a) || n == 0x2028 || n == 0x2029 || n == 0x202f || n == 0x205f ||
    n == 0x3000

/-- `s.strip()`. -/
def pyStrip (s : String) : String :=
  String.ofList ((s.toList.dropWhile pyIsSpace).reverse.dropWhile pyIsSpace).reverse

/-- The first of `s.split()`; `none` if there is none. -/
def pyFirstWord (s : String) : Option String :=
  let word := (s.toList.dropWhile pyIsSpace).takeWhile fun c => !pyIsSpace c
  if word.isEmpty then none else some (String.ofList word)

/-- `s.lower()` on ASCII letters. No other character lowers to an ASCII letter but the Kelvin sign,
so comparisons with words without `k` are exact. -/
def pyLower (s : String) : String := String.ofList (s.toList.map Char.toLower)

/-- `s.replace(old, new)`, where `skip` characters of an `old` are still to be passed over. -/
def pyReplaceFrom (old new : List Char) : Nat → List Char → List Char
  | _, [] => []
  | skip + 1, _ :: rest => pyReplaceFrom old new skip rest
  | 0, c :: rest =>
    if old.isPrefixOf (c :: rest) then new ++ pyReplaceFrom old new (old.length - 1) rest
    else c :: pyReplaceFrom old new 0 rest

/-- `s.replace(old, new)` for an `old` that is not empty. -/
def pyReplace (s old new : String) : String :=
  String.ofList (pyReplaceFrom old.toList new.toList 0 s.toList)

/-- Two hexadecimal digits, as in `\x1f`. -/
def hexByte (n : Nat) : List Char := [Nat.digitChar (n / 16 % 16), Nat.digitChar (n % 16)]

/-- `\uXXXX` for a number below `0x10000`. -/
def unicodeEscape (n : Nat) : List Char :=
  ['\\', 'u', Nat.digitChar (n / 4096 % 16), Nat.digitChar (n / 256 % 16),
    Nat.digitChar (n / 16 % 16), Nat.digitChar (n % 16)]

/-- One character of `repr(s)` between quotes `q`. `printable` is `str.isprintable`, which is asked
about the characters beyond U+00FF. -/
def pyReprChar (printable : Char → Bool) (q c : Char) : List Char :=
  if c = '\\' then ['\\', '\\']
  else if c = q then ['\\', q]
  else if c = '\n' then ['\\', 'n']
  else if c = '\r' then ['\\', 'r']
  else if c = '\t' then ['\\', 't']
  else if c.toNat < 32 || (127 ≤ c.toNat && c.toNat ≤ 160) || c.toNat == 0xad then
    ['\\', 'x'] ++ hexByte c.toNat
  else if c.toNat < 256 || printable c then [c]
  else if c.toNat < 0x10000 then unicodeEscape c.toNat
  else ['\\', 'U', '0', '0'] ++ hexByte (c.toNat / 0x10000) ++ hexByte (c.toNat / 256) ++
    hexByte c.toNat

/-- The quote of `repr(s)`. -/
def pyReprQuote (s : String) : Char :=
  if s.toList.contains '\'' && !s.toList.contains '"' then '"' else '\''

/-- `repr(s)`. -/
def pyReprStr (printable : Char → Bool) (s : String) : String :=
  let q := pyReprQuote s
  String.ofList ([q] ++ s.toList.flatMap (pyReprChar printable q) ++ [q])

/-- `str(l)` for a list of strings. -/
def pyReprStrList (printable : Char → Bool) (l : List String) : String :=
  "[" ++ ", ".intercalate (l.map (pyReprStr printable)) ++ "]"

end PeHackathon
