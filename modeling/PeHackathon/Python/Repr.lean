import Mathlib.Data.Nat.Log
import PeHackathon.Python.Json

/-!
# Texts of Python values

`str(x)` and `repr(x)` of what `json.loads` returns. The text of a `float` is the shortest one that
reads back as the same number. The characters beyond U+00FF are taken to be printable.
-/

namespace PeHackathon

/-! ## Floats -/

/-- A positive finite `float` is `mant * 2 ^ exp`, and the numbers nearest to it lie within
`(4 * mant - below, 4 * mant + 2) * 2 ^ exp / 4`. -/
structure FloatParts where
  mant : Nat
  exp : Int
  below : Nat

def FloatParts.ofBits (bits : Nat) : FloatParts :=
  let exp : Nat := bits / 2 ^ 52 % 2048
  let frac : Nat := bits % 2 ^ 52
  if exp = 0 then { mant := frac, exp := -1074, below := 2 }
  else
    { mant := 2 ^ 52 + frac
      exp := (exp : Int) - 1075
      -- the numbers below a power of two are half as far apart
      below := if frac = 0 ∧ 1 < exp then 1 else 2 }

/-- `a * 2 ^ exp / 4`, over `10 ^ point`, as a fraction. -/
def FloatParts.scaled (f : FloatParts) (a : Nat) (point : Int) : Nat × Nat :=
  let num := a * 2 ^ f.exp.toNat * 10 ^ (-point).toNat
  let den := 4 * 2 ^ (-f.exp).toNat * 10 ^ point.toNat
  (num, den)

/-- Whether `d * 10 ^ point` reads back as the number: ties go to an even mantissa. -/
def FloatParts.readsBack (f : FloatParts) (d : Nat) (point : Int) : Bool :=
  let (lo, den) := f.scaled (4 * f.mant - f.below) point
  let (hi, _) := f.scaled (4 * f.mant + 2) point
  if f.mant % 2 = 0 then lo ≤ d * den && d * den ≤ hi else lo < d * den && d * den < hi

/-- The multiple of `10 ^ point` that reads back, the nearer one if there are two. -/
def FloatParts.digitsAt? (f : FloatParts) (point : Int) : Option Nat :=
  let (num, den) := f.scaled (4 * f.mant) point
  let d := num / den
  match f.readsBack d point, f.readsBack (d + 1) point with
  | false, false => none
  | true, false => some d
  | false, true => some (d + 1)
  | true, true =>
    let twice := 2 * (num % den)
    some (if twice < den || (twice = den && d % 2 = 0) then d else d + 1)

/-- The number of digits before the point, which may be negative. -/
def FloatParts.magnitude (f : FloatParts) : Int :=
  let (num, den) := f.scaled (4 * f.mant) 0
  if den ≤ num then (Nat.log 10 (num / den) : Int) + 1
  else -(Nat.log 10 ((den - 1) / num) : Int)

/-- The shortest digits, without zeros at the end, and where the point stands. -/
def FloatParts.shortest (f : FloatParts) : List Char × Int :=
  let magnitude := f.magnitude
  match (List.range 17).findSome? fun n : Nat =>
      (f.digitsAt? (magnitude - n - 1)).map fun d => (d, magnitude - n - 1) with
  | none => (['0'], 0)
  | some (d, point) =>
    let ds := Nat.toDigits 10 d
    ((ds.reverse.dropWhile (· = '0')).reverse, point + ds.length)

/-- `repr` of a positive number from its digits and the place of the point. -/
def floatText (ds : List Char) (point : Int) : List Char :=
  if -4 < point ∧ point ≤ 16 then
    if point ≤ 0 then ['0', '.'] ++ List.replicate (-point).toNat '0' ++ ds
    else if ds.length ≤ point.toNat then ds ++ List.replicate (point.toNat - ds.length) '0' ++
      ['.', '0']
    else ds.take point.toNat ++ ['.'] ++ ds.drop point.toNat
  else
    let e := (point - 1).natAbs
    let expDigits := Nat.toDigits 10 e
    ds.take 1 ++ (if 1 < ds.length then '.' :: ds.drop 1 else []) ++ ['e'] ++
      (if point - 1 < 0 then ['-'] else ['+']) ++
      (if expDigits.length < 2 then '0' :: expDigits else expDigits)

/-- `repr(f)`. -/
def pyReprFloat (f : Float) : String :=
  let bits := f.toBits.toNat
  let sign := if 2 ^ 63 ≤ bits then ['-'] else []
  let bits := bits % 2 ^ 63
  if f.isNaN then "nan"
  else if bits / 2 ^ 52 = 2047 then String.ofList (sign ++ ['i', 'n', 'f'])
  else if bits = 0 then String.ofList (sign ++ ['0', '.', '0'])
  else
    let (ds, point) := (FloatParts.ofBits bits).shortest
    String.ofList (sign ++ floatText ds point)

/-! ## Values -/

mutual

/-- `repr(x)`. -/
def Json.repr : Json → String
  | .null => "None"
  | .bool b => if b then "True" else "False"
  | .int i => toString i
  | .float f => pyReprFloat f
  | .str s => pyReprStr (fun _ => true) s
  | .arr l => "[" ++ ", ".intercalate (Json.reprList l) ++ "]"
  | .obj fields => "\x7b" ++ ", ".intercalate (Json.reprFields fields) ++ "\x7d"

def Json.reprList : List Json → List String
  | [] => []
  | x :: l => x.repr :: Json.reprList l

def Json.reprFields : List (String × Json) → List String
  | [] => []
  | (key, x) :: fields =>
    (pyReprStr (fun _ => true) key ++ ": " ++ x.repr) :: Json.reprFields fields

end

/-- `str(x)`. -/
def Json.pyStr : Json → String
  | .str s => s
  | x => x.repr

end PeHackathon
