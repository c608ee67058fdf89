import PeHackathon.Python.Repr

/-!
# Integers in Python

`int(x)` of what `json.loads` returns, and `s.isdigit()`. Digits are those of Unicode 15.1.
-/

namespace PeHackathon

/-- An exception, by its class. -/
inductive PyError
  | typeError
  | valueError
  | overflowError
  | attributeError
  deriving DecidableEq, Repr

/-! ## Digits -/

/-- The zeros of the ranges of ten decimal digits. -/
def decimalZeros : List Nat :=
  [0x30, 0x660, 0x6f0, 0x7c0, 0x966, 0x9e6, 0xa66, 0xae6, 0xb66, 0xbe6, 0xc66, 0xce6, 0xd66, 0xde6,
    0xe50, 0xed0, 0xf20, 0x1040, 0x1090, 0x17e0, 0x1810, 0x1946, 0x19d0, 0x1a80, 0x1a90, 0x1b50,
    0x1bb0, 0x1c40, 0x1c50, 0xa620, 0xa8d0, 0xa900, 0xa9d0, 0xa9f0, 0xaa50, 0xabf0, 0xff10, 0x104a0,
    0x10d30, 0x11066, 0x110f0, 0x11136, 0x111d0, 0x112f0, 0x11450, 0x114d0, 0x11650, 0x116c0,
    0x11730, 0x118e0, 0x11950, 0x11c50, 0x11d50, 0x11da0, 0x11f50, 0x16a60, 0x16ac0, 0x16b50,
    0x1d7ce, 0x1d7d8, 0x1d7e2, 0x1d7ec, 0x1d7f6, 0x1e140, 0x1e2f0, 0x1e4f0, 0x1e950, 0x1fbf0]

/-- The first and last of the ranges of digits that are not decimal, as in `²`. -/
def otherDigits : List (Nat × Nat) :=
  [(0xb2, 0xb3), (0xb9, 0xb9), (0x1369, 0x1371), (0x19da, 0x19da), (0x2070, 0x2070),
    (0x2074, 0x2079), (0x2080, 0x2089), (0x2460, 0x2468), (0x2474, 0x247c), (0x2488, 0x2490),
    (0x24ea, 0x24ea), (0x24f5, 0x24fd), (0x24ff, 0x24ff), (0x2776, 0x277e), (0x2780, 0x2788),
    (0x278a, 0x2792), (0x10a40, 0x10a43), (0x10e60, 0x10e68), (0x11052, 0x1105a),
    (0x1f100, 0x1f10a)]

/-- The value of a decimal digit. -/
def pyDecimal? (c : Char) : Option Nat :=
  (decimalZeros.find? fun z => z ≤ c.toNat && c.toNat < z + 10).map fun z => c.toNat - z

/-- `s.isdigit()`. -/
def pyIsDigit (s : String) : Bool :=
  !s.toList.isEmpty && s.toList.all fun c =>
    (pyDecimal? c).isSome || otherDigits.any fun r => r.1 ≤ c.toNat && c.toNat ≤ r.2

/-! ## `int` -/

/-- What `int` strips of a text: the separators U+001C to U+001F stay. -/
def pyIntSpace (c : Char) : Bool := pyIsSpace c && !(28 ≤ c.toNat && c.toNat ≤ 31)

/-- The digits after the first, between which single underscores may stand. -/
def pyDigitsRest : List Char → Option (List Nat)
  | [] => some []
  | '_' :: c :: rest => do
    let d ← pyDecimal? c
    let ds ← pyDigitsRest rest
    some (d :: ds)
  | c :: rest => do
    let d ← pyDecimal? c
    let ds ← pyDigitsRest rest
    some (d :: ds)

def pyDigits : List Char → Option (List Nat)
  | [] => none
  | c :: rest => do
    let d ← pyDecimal? c
    let ds ← pyDigitsRest rest
    some (d :: ds)

def pySign : List Char → Int × List Char
  | '-' :: rest => (-1, rest)
  | '+' :: rest => (1, rest)
  | rest => (1, rest)

/-- `int(s)`. A text of more than 4300 digits is refused. -/
def pyIntOfStr (s : String) : Except PyError Int :=
  let text := ((s.toList.dropWhile pyIntSpace).reverse.dropWhile pyIntSpace).reverse
  match pyDigits (pySign text).2 with
  | none => .error .valueError
  | some ds =>
    if 4300 < ds.length then .error .valueError
    else .ok ((pySign text).1 * ds.foldl (fun (n : Nat) d => 10 * n + d) 0)

/-- `int(f)`, towards zero. -/
def pyIntOfFloat (f : Float) : Except PyError Int :=
  let bits := f.toBits.toNat
  let sign : Int := if 2 ^ 63 ≤ bits then -1 else 1
  let bits := bits % 2 ^ 63
  if bits / 2 ^ 52 = 2047 then
    if bits % 2 ^ 52 = 0 then .error .overflowError else .error .valueError
  else
    let parts := FloatParts.ofBits bits
    .ok (sign * ((parts.mant * 2 ^ parts.exp.toNat / 2 ^ (-parts.exp).toNat : Nat) : Int))

/-- `int(x)`. -/
def pyInt : Json → Except PyError Int
  | .bool b => .ok (if b then 1 else 0)
  | .int i => .ok i
  | .float f => pyIntOfFloat f
  | .str s => pyIntOfStr s
  | _ => .error .typeError

example : pyIntOfStr " +4_04 " = .ok 404 := by decide

/-! ## Decimal digits -/

section Decimal

variable {c : Char} {s : String}

/-- Digits that `int` reads. -/
def DecimalText (s : String) : Prop :=
  (∀ c ∈ s.toList, (pyDecimal? c).isSome) ∧ s.length ≤ 4300

instance (s : String) : Decidable (DecimalText s) :=
  @instDecidableAnd _ _ (List.decidableBAll _ _) (Nat.decLe _ _)

/-- Where the ranges of decimal digits are. -/
theorem decimalZeros_ranges : ∀ z ∈ decimalZeros, z = 0x30 ∨ 0x660 ≤ z ∧ z + 10 ≤ 0x1680 ∨
    0x1681 ≤ z ∧ z + 10 ≤ 0x2000 ∨ 0x3001 ≤ z := by
  decide

/-- A decimal digit is no space, sign or underscore. -/
theorem pyDecimal_plain (h : (pyDecimal? c).isSome) :
    pyIntSpace c = false ∧ c ≠ '-' ∧ c ≠ '+' ∧ c ≠ '_' := by
  obtain ⟨d, hd⟩ := Option.isSome_iff_exists.1 h
  obtain ⟨z, hz, -⟩ := Option.map_eq_some_iff.1 hd
  have hrange := decimalZeros_ranges z (List.mem_of_find?_eq_some hz)
  have hbounds := List.find?_some hz
  simp only [Bool.and_eq_true, decide_eq_true_eq] at hbounds
  have hne : ∀ c' : Char, c'.toNat < 0x30 ∨ 0x39 < c'.toNat ∧ c'.toNat < 0x660 → c ≠ c' := by
    rintro c' hc' rfl
    omega
  refine ⟨?_, hne '-' (by decide), hne '+' (by decide), hne '_' (by decide)⟩
  simp only [pyIntSpace, pyIsSpace, Bool.and_eq_false_iff, Bool.or_eq_false_iff,
    decide_eq_false_iff_not, beq_eq_false_iff_ne]
  left
  omega

theorem pyDigitsRest_length {cs : List Char} (h : ∀ c ∈ cs, (pyDecimal? c).isSome) :
    ∃ ds, pyDigitsRest cs = some ds ∧ ds.length = cs.length := by
  induction cs with
  | nil => exact ⟨[], rfl, rfl⟩
  | cons c cs ih =>
    obtain ⟨ds, hds, hlen⟩ := ih fun c' hc' => h c' (List.mem_cons_of_mem _ hc')
    obtain ⟨d, hd⟩ := Option.isSome_iff_exists.1 (h c List.mem_cons_self)
    refine ⟨d :: ds, ?_, by simp [hlen]⟩
    rw [pyDigitsRest, hd, hds]
    · rfl
    · exact fun _ _ hc _ => absurd hc (pyDecimal_plain (h c List.mem_cons_self)).2.2.2

/-- `int` reads decimal digits. -/
theorem pyIntOfStr_decimal (hs : s ≠ "") (h : DecimalText s) : ∃ i, pyIntOfStr s = .ok i := by
  obtain ⟨hall, hlen⟩ := h
  have hkeep : ∀ cs : List Char, (∀ c ∈ cs, (pyDecimal? c).isSome) →
      cs.dropWhile pyIntSpace = cs := by
    intro cs hcs
    cases cs with
    | nil => rfl
    | cons c cs =>
      rw [List.dropWhile_cons, (pyDecimal_plain (hcs c List.mem_cons_self)).1]
      rfl
  have htext :
      ((s.toList.dropWhile pyIntSpace).reverse.dropWhile pyIntSpace).reverse = s.toList := by
    rw [hkeep _ hall, hkeep _ fun c hc => hall c (List.mem_reverse.1 hc), List.reverse_reverse]
  obtain ⟨c, cs, hcs⟩ := List.exists_cons_of_ne_nil (l := s.toList) (by simpa using hs)
  rw [hcs] at hall
  obtain ⟨-, hminus, hplus, -⟩ := pyDecimal_plain (hall c List.mem_cons_self)
  obtain ⟨d, hd⟩ := Option.isSome_iff_exists.1 (hall c List.mem_cons_self)
  obtain ⟨ds, hds, hdslen⟩ := pyDigitsRest_length fun c' hc' => hall c' (List.mem_cons_of_mem _ hc')
  have hdigits : pyDigits (c :: cs) = some (d :: ds) := by
    rw [pyDigits, hd, hds]
    rfl
  have hcount : ¬ 4300 < (d :: ds).length := by
    have hl : s.length = (c :: cs).length := by rw [← hcs, String.length_toList]
    simp only [List.length_cons, hdslen] at hl ⊢
    omega
  have hsign : pySign (c :: cs) = (1, c :: cs) := by
    rw [pySign]
    · exact fun _ h => hminus (List.cons.inj h).1
    · exact fun _ h => hplus (List.cons.inj h).1
  unfold pyIntOfStr
  dsimp only
  rw [htext, hcs, hsign, hdigits]
  exact ⟨_, if_neg hcount⟩

end Decimal

end PeHackathon
