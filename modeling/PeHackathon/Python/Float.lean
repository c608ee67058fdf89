import PeHackathon.Python.Number

/-!
# Floats and keys in Python

`float(x)` of what `json.loads` returns, and what a `dict` makes of such a value as a key.
-/

namespace PeHackathon

/-! ## `float` -/

/-- A run of digits between which single underscores may stand, after a first digit, and what
follows. -/
def pyDigitRunRest : List Char → List Nat × List Char
  | [] => ([], [])
  | '_' :: c :: rest =>
    match pyDecimal? c with
    | some d => (d :: (pyDigitRunRest rest).1, (pyDigitRunRest rest).2)
    | none => ([], '_' :: c :: rest)
  | c :: rest =>
    match pyDecimal? c with
    | some d => (d :: (pyDigitRunRest rest).1, (pyDigitRunRest rest).2)
    | none => ([], c :: rest)

def pyDigitRun : List Char → List Nat × List Char
  | [] => ([], [])
  | c :: rest =>
    match pyDecimal? c with
    | some d => (d :: (pyDigitRunRest rest).1, (pyDigitRunRest rest).2)
    | none => ([], c :: rest)

def digitsValue (ds : List Nat) : Nat := ds.foldl (fun (n : Nat) d => 10 * n + d) 0

/-- The exponent at the end of a number, as in `e-7`. -/
def pyExponent : List Char → Option Int
  | [] => some 0
  | c :: rest =>
    if c = 'e' ∨ c = 'E' then
      let run := pyDigitRun (pySign rest).2
      if run.1 = [] ∨ run.2 ≠ [] then none else some ((pySign rest).1 * digitsValue run.1)
    else none

/-- A decimal number without a sign: its digits as an integer, and the power of ten they count. -/
def pyDecimalNumber (text : List Char) : Option (Nat × Int) :=
  let whole := pyDigitRun text
  let frac := match whole.2 with
    | '.' :: rest => pyDigitRun rest
    | rest => ([], rest)
  if whole.1 = [] ∧ frac.1 = [] then none
  else (pyExponent frac.2).map fun e => (digitsValue (whole.1 ++ frac.1), e - frac.1.length)

/-- `m * 10 ^ e`, rounded as `Float` rounds it. -/
def floatOfDecimal (m : Nat) (e : Int) : Float := Float.ofScientific m (e < 0) e.natAbs

/-- `float(s)`. -/
def pyFloatOfStr (s : String) : Except PyError Float :=
  let text := ((s.toList.dropWhile pyIntSpace).reverse.dropWhile pyIntSpace).reverse
  let sign : Float := Float.ofInt (pySign text).1
  let number := (pySign text).2
  if String.ofList (number.map Char.toLower) ∈ ["inf", "infinity"] then .ok (sign / 0)
  else if String.ofList (number.map Char.toLower) = "nan" then .ok (0 / 0)
  else
    match pyDecimalNumber number with
    | none => .error .valueError
    | some (m, e) => .ok (sign * floatOfDecimal m e)

/-- `float(x)`. From `2^1024 - 2^970` on an integer is out of range. -/
def pyFloat : Json → Except PyError Float
  | .bool b => .ok (if b then 1 else 0)
  | .int i => if i.natAbs < 2 ^ 1024 - 2 ^ 970 then .ok (Float.ofInt i) else .error .overflowError
  | .float f => .ok f
  | .str s => pyFloatOfStr s
  | _ => .error .typeError

example : pyDecimalNumber "1_0.25E-1".toList = some (1025, -3) := by decide

/-! ## Keys -/

/-- A hashable value up to `==`: `True`, `1` and `1.0` are one key, and so is every `NaN` that comes
from JSON, since the decoder has one object for it. -/
inductive HashKey
  | null
  | int (i : Int)
  | float (bits : UInt64)
  | str (s : String)
  deriving DecidableEq

/-- The integer a `float` is equal to. -/
def pyFloatInt? (f : Float) : Option Int :=
  let parts := FloatParts.ofBits (f.toBits.toNat % 2 ^ 63)
  match pyIntOfFloat f with
  | .ok i => if parts.mant * 2 ^ parts.exp.toNat % 2 ^ (-parts.exp).toNat = 0 then some i else none
  | .error _ => none

/-- The key `x` is; a `list` and a `dict` are not hashable. -/
def Json.hashKey : Json → Except PyError HashKey
  | .null => .ok .null
  | .bool b => .ok (.int (if b then 1 else 0))
  | .int i => .ok (.int i)
  | .float f => .ok (((pyFloatInt? f).map .int).getD (.float f.toBits))
  | .str s => .ok (.str s)
  | .arr _ | .obj _ => .error .typeError

end PeHackathon
