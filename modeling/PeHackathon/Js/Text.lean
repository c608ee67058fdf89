import Mathlib.Algebra.Group.Nat.Defs
import Mathlib.Data.Int.Order.Basic
import Mathlib.Data.List.DropRight
import Mathlib.Tactic.Common

/-!
# Strings and integers of JavaScript

`trim`, `toUpperCase`, `toLowerCase` and `parseInt` as ECMAScript defines them. The two case
mappings are exact on the letters that come from or go to ASCII, among them those that only Unicode
maps to ASCII (`ß`, `ı`, `ſ`, the ligatures, the Kelvin sign); every other character is left as it
is, since texts are only compared with ASCII words.
-/

namespace PeHackathon.Js

/-- White space and line terminators: what `trim` cuts and `\s` matches. -/
def isSpace (c : Char) : Bool :=
  c.toNat ∈ [0x09, 0x0A, 0x0B, 0x0C, 0x0D, 0x20, 0xA0, 0x1680, 0x2028, 0x2029, 0x202F,
    0x205F, 0x3000, 0xFEFF] || (0x2000 ≤ c.toNat && c.toNat ≤ 0x200A)

def trimChars (cs : List Char) : List Char :=
  ((cs.dropWhile isSpace).reverse.dropWhile isSpace).reverse

def trim (s : String) : String := String.ofList (trimChars s.toList)

def upperChar (c : Char) : List Char :=
  if 'a' ≤ c ∧ c ≤ 'z' then [Char.ofNat (c.toNat - 32)]
  else match c.toNat with
    | 0xDF => ['S', 'S']
    | 0x131 => ['I']
    | 0x17F => ['S']
    | 0x149 => [Char.ofNat 0x2BC, 'N']
    | 0x1F0 => ['J', Char.ofNat 0x30C]
    | 0x1E96 => ['H', Char.ofNat 0x331]
    | 0x1E97 => ['T', Char.ofNat 0x308]
    | 0x1E98 => ['W', Char.ofNat 0x30A]
    | 0x1E99 => ['Y', Char.ofNat 0x30A]
    | 0x1E9A => ['A', Char.ofNat 0x2BE]
    | 0xFB00 => ['F', 'F']
    | 0xFB01 => ['F', 'I']
    | 0xFB02 => ['F', 'L']
    | 0xFB03 => ['F', 'F', 'I']
    | 0xFB04 => ['F', 'F', 'L']
    | 0xFB05 => ['S', 'T']
    | 0xFB06 => ['S', 'T']
    | _ => [c]

def toUpperCase (s : String) : String := String.ofList (s.toList.flatMap upperChar)

def lowerChar (c : Char) : List Char :=
  if 'A' ≤ c ∧ c ≤ 'Z' then [Char.ofNat (c.toNat + 32)]
  else match c.toNat with
    | 0x130 => ['i', Char.ofNat 0x307]
    | 0x212A => ['k']
    | _ => [c]

def toLowerCase (s : String) : String := String.ofList (s.toList.flatMap lowerChar)

/-- `s.includes(part)`. -/
def includes (s part : String) : Bool := s.toList.tails.any part.toList.isPrefixOf

/-- `s.startsWith(part)`. -/
def startsWith (s part : String) : Bool := part.toList.isPrefixOf s.toList

/-- `s.replace(/\s+/g, "-")`. -/
def spacesToDashes (s : String) : String :=
  String.ofList ((s.toList.splitBy fun a b => isSpace a == isSpace b).flatMap fun run =>
    if run.all isSpace then ['-'] else run)

/-- The code units of a text. -/
def utf16 (s : String) : List Nat :=
  s.toList.flatMap fun c =>
    if c.toNat < 0x10000 then [c.toNat]
    else [0xD800 + (c.toNat - 0x10000) / 0x400, 0xDC00 + (c.toNat - 0x10000) % 0x400]

/-- `s.length`. -/
def utf16Length (s : String) : Nat := (utf16 s).length

/-- `s.indexOf(c)` of a text whose first `c` is known. -/
theorem idxOf?_of_first {c : Char} {before : List Char} (h : c ∉ before) (after : List Char) :
    (before ++ c :: after).idxOf? c = some before.length := by
  induction before with
  | nil => rw [List.nil_append, List.idxOf?_cons, if_pos (beq_self_eq_true c), List.length_nil]
  | cons a before ih =>
    rw [List.mem_cons, not_or] at h
    have hne : ¬ (a == c) = true := fun heq => h.1 (beq_iff_eq.1 heq).symm
    rw [List.cons_append, List.idxOf?_cons, if_neg hne, ih h.2, Option.map_some, List.length_cons]

/-! ## `trim` -/

section Trim

variable {cs l r : List Char}

theorem trimChars_eq (cs : List Char) : trimChars cs = (cs.dropWhile isSpace).rdropWhile isSpace :=
  rfl

/-- What `trim` cuts. -/
theorem exists_trimChars (cs : List Char) : ∃ l r, cs = l ++ (trimChars cs ++ r) ∧
    (∀ c ∈ l, isSpace c = true) ∧ ∀ c ∈ r, isSpace c = true := by
  refine ⟨cs.takeWhile isSpace, (cs.dropWhile isSpace).rtakeWhile isSpace, ?_,
    fun c hc => List.mem_takeWhile_imp hc, fun c hc => List.mem_rtakeWhile_imp hc⟩
  rw [trimChars_eq, List.rdropWhile_append_rtakeWhile, List.takeWhile_append_dropWhile]

theorem trimChars_append_left (hl : ∀ c ∈ l, isSpace c = true) (cs : List Char) :
    trimChars (l ++ cs) = trimChars cs := by
  rw [trimChars_eq, List.dropWhile_append_of_pos hl, trimChars_eq]

theorem rdropWhile_append (cs : List Char) (hr : ∀ c ∈ r, isSpace c = true) :
    (cs ++ r).rdropWhile isSpace = cs.rdropWhile isSpace := by
  rw [List.rdropWhile, List.reverse_append, List.dropWhile_append_of_pos fun c hc =>
    hr c (List.mem_reverse.1 hc)]
  rfl

theorem trimChars_append_right (hr : ∀ c ∈ r, isSpace c = true) (cs : List Char) :
    trimChars (cs ++ r) = trimChars cs := by
  rw [trimChars_eq, List.dropWhile_append, trimChars_eq]
  split
  · rename_i hnil
    rw [List.isEmpty_iff.1 hnil, List.dropWhile_eq_nil_iff.2 hr]
  · exact rdropWhile_append _ hr

theorem trimChars_eq_nil : trimChars cs = [] ↔ ∀ c ∈ cs, isSpace c = true := by
  constructor
  · intro h
    obtain ⟨l, r, hcs, hl, hr⟩ := exists_trimChars cs
    rw [h, List.nil_append] at hcs
    rw [hcs]
    exact fun c hc => (List.mem_append.1 hc).elim (hl c) (hr c)
  · intro h
    have hcs := trimChars_append_right h []
    rw [List.nil_append] at hcs
    exact hcs

/-- A text between two characters that stay. -/
theorem trimChars_eq_self (hfirst : ∀ c, cs.head? = some c → isSpace c = false)
    (hlast : ∀ c, cs.getLast? = some c → isSpace c = false) : trimChars cs = cs := by
  have hleft : cs.dropWhile isSpace = cs := by
    cases cs with
    | nil => rfl
    | cons c cs => rw [List.dropWhile_cons_of_neg (by rw [hfirst c rfl]; exact Bool.false_ne_true)]
  rw [trimChars_eq, hleft, List.rdropWhile_eq_self_iff]
  intro hne
  rw [hlast _ (List.getLast?_eq_some_getLast hne)]
  exact Bool.false_ne_true

end Trim

/-! ## Integers -/

/-- A number `parseInt` can answer. Integers are exact, where JavaScript rounds those over
`2^53`. -/
inductive ParsedInt
  | nan
  | infinite (negative : Bool)
  | int (n : Int)
  deriving DecidableEq, Repr

/-- Integers from `2^1024 - 2^970` on round to infinity. -/
def infinityFrom : Nat := (2 ^ 256) ^ 4 - 4 * (2 ^ 242) ^ 4

def digitsToNat (ds : List Char) : Nat := ds.foldl (fun n d => 10 * n + (d.toNat - 48)) 0

/-- `parseInt(s, 10)`. -/
def parseInt (s : String) : ParsedInt :=
  let unsigned := s.toList.dropWhile isSpace
  let (negative, rest) : Bool × List Char := match unsigned with
    | '-' :: rest => (true, rest)
    | '+' :: rest => (false, rest)
    | rest => (false, rest)
  let digits := rest.takeWhile Char.isDigit
  if digits = [] then .nan
  else if infinityFrom ≤ digitsToNat digits then .infinite negative
  else .int (if negative then -(digitsToNat digits : Int) else digitsToNat digits)

/-- `Number.isFinite(n) && n >= least ? n : otherwise`. -/
def ParsedInt.atLeast (n : ParsedInt) (least otherwise : Nat) : Nat :=
  match n with
  | .int n => if (least : Int) ≤ n then n.toNat else otherwise
  | _ => otherwise

theorem ParsedInt.least_le_atLeast {n : ParsedInt} {least otherwise : Nat} (h : least ≤ otherwise) :
    least ≤ n.atLeast least otherwise := by
  unfold atLeast
  split
  · split <;> omega
  · exact h

/-- `Math.round(a / b)` for a positive integer `b`: halves go up. -/
def roundDiv (a : Int) (b : Nat) : Int := (2 * a + b) / (2 * b)

end PeHackathon.Js
