import PeHackathon.Python.Json

/-!
# Values whose type nothing has checked

`x.get(key)` raises unless `x` is a `dict`, `x.strip()` unless it is a `str`, and a loop over `x` or
a slice of it unless there is one. An exception is its text.
-/

namespace PeHackathon

/-- `type(x).__name__`. -/
def pyTypeName : Json → String
  | .null => "NoneType"
  | .bool _ => "bool"
  | .int _ => "int"
  | .float _ => "float"
  | .str _ => "str"
  | .arr _ => "list"
  | .obj _ => "dict"

/-- What `x.name` raises. -/
def noAttribute (x : Json) (name : String) : String :=
  "'" ++ pyTypeName x ++ "' object has no attribute '" ++ name ++ "'"

/-- `x or y`. -/
def pyOr (x y : Json) : Json := if pyTruthy x then x else y

/-- `x.get(key, default)`. -/
def pyGet (x : Json) (key : String) (default : Json) : Except String Json :=
  match x with
  | .obj fields => .ok ((JsonObject.get? fields key).getD default)
  | x => .error (noAttribute x "get")

/-- `x` as the `str` whose method `name` is called. -/
def pyStrFor (x : Json) (name : String) : Except String String :=
  match x with
  | .str s => .ok s
  | x => .error (noAttribute x name)

/-- The turns of `for y in x`: the keys of a `dict`, and the characters of a `str`. -/
def pyIter : Json → Except String (List Json)
  | .arr l => .ok l
  | .obj fields => .ok (fields.map fun kv => .str kv.1)
  | .str s => .ok (s.toList.map fun c => .str (String.ofList [c]))
  | x => .error ("'" ++ pyTypeName x ++ "' object is not iterable")

/-- `x[:n]`. -/
def pySlice (x : Json) (n : Nat) : Except String Json :=
  match x with
  | .str s => .ok (.str (String.ofList (s.toList.take n)))
  | .arr l => .ok (.arr (l.take n))
  | .obj _ => .error "unhashable type: 'slice'"
  | x => .error ("'" ++ pyTypeName x ++ "' object is not subscriptable")

/-- `x == s` for a text `s`. -/
def pyIsText (x : Json) (s : String) : Bool :=
  match x with
  | .str t => t == s
  | _ => false

end PeHackathon
