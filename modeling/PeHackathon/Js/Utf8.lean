import Mathlib.Data.List.Basic
import Mathlib.Tactic.Common

/-!
# UTF-8 as Node reads and writes it

`toString("utf8")` and `readFileSync(path, "utf8")` put U+FFFD in the place of bytes that are no
UTF-8: the decoder of the WHATWG Encoding Standard, one byte at a time. What was written is read
back (`utf8Decode_encode`), and a byte of ASCII is itself, whatever stands before it
(`utf8Decode_ascii`).
-/

namespace PeHackathon.Js

/-! ## The decoder -/

/-- Where the decoder stands in a sequence: how many bytes it needs, the bounds of the next one, and
what the bytes so far say. -/
structure Utf8State where
  needed : Nat
  lower : Nat
  upper : Nat
  codePoint : Nat

namespace Utf8State

/-- Between two characters. -/
def idle : Utf8State := ⟨0, 0x80, 0xBF, 0⟩

/-- U+FFFD. -/
def replacement : Char := '�'

/-- The first byte of a sequence. -/
def first (b : Nat) : Utf8State × List Char :=
  if b ≤ 0x7F then (idle, [Char.ofNat b])
  else if 0xC2 ≤ b ∧ b ≤ 0xDF then (⟨1, 0x80, 0xBF, b - 0xC0⟩, [])
  else if 0xE0 ≤ b ∧ b ≤ 0xEF then
    (⟨2, if b = 0xE0 then 0xA0 else 0x80, if b = 0xED then 0x9F else 0xBF, b - 0xE0⟩, [])
  else if 0xF0 ≤ b ∧ b ≤ 0xF4 then
    (⟨3, if b = 0xF0 then 0x90 else 0x80, if b = 0xF4 then 0x8F else 0xBF, b - 0xF0⟩, [])
  else (idle, [replacement])

/-- One byte. A byte that does not go on with the sequence begins another. -/
def next (s : Utf8State) (b : Nat) : Utf8State × List Char :=
  if s.needed = 0 then first b
  else if s.lower ≤ b ∧ b ≤ s.upper then
    let codePoint := 64 * s.codePoint + (b - 0x80)
    if s.needed = 1 then (idle, [Char.ofNat codePoint])
      else (⟨s.needed - 1, 0x80, 0xBF, codePoint⟩, [])
  else ((first b).1, replacement :: (first b).2)

/-- The rest of the bytes. -/
def decode : Utf8State → List UInt8 → List Char
  | s, [] => if s.needed = 0 then [] else [replacement]
  | s, b :: bytes => (s.next b.toNat).2 ++ decode (s.next b.toNat).1 bytes

end Utf8State

def utf8Decode (bytes : List UInt8) : List Char := Utf8State.idle.decode bytes

def utf8Encode (text : List Char) : List UInt8 := text.flatMap String.utf8EncodeChar

/-! ## Round trip -/

namespace Utf8State

theorem decode_idle_cons (b : UInt8) (bytes : List UInt8) :
    idle.decode (b :: bytes) = (first b.toNat).2 ++ (first b.toNat).1.decode bytes := rfl

/-- A byte that goes on with the sequence, but is not its last one. -/
theorem decode_continue {s : Utf8State} {b : UInt8} (bytes : List UInt8) (hneeded : 2 ≤ s.needed)
    (hlower : s.lower ≤ b.toNat) (hupper : b.toNat ≤ s.upper) :
    s.decode (b :: bytes) =
      decode ⟨s.needed - 1, 0x80, 0xBF, 64 * s.codePoint + (b.toNat - 0x80)⟩ bytes := by
  have hzero : s.needed ≠ 0 := by omega
  have hone : s.needed ≠ 1 := by omega
  rw [decode, next, if_neg hzero, if_pos ⟨hlower, hupper⟩]
  dsimp only
  rw [if_neg hone, List.nil_append]

/-- The last byte of a sequence. -/
theorem decode_last {s : Utf8State} {b : UInt8} (bytes : List UInt8) (hneeded : s.needed = 1)
    (hlower : s.lower ≤ b.toNat) (hupper : b.toNat ≤ s.upper) :
    s.decode (b :: bytes) = Char.ofNat (64 * s.codePoint + (b.toNat - 0x80)) ::
      idle.decode bytes := by
  have hzero : s.needed ≠ 0 := by omega
  rw [decode, next, if_neg hzero, if_pos ⟨hlower, hupper⟩]
  dsimp only
  rw [if_pos hneeded, List.singleton_append]

theorem first_two {b : Nat} (hlower : 0xC2 ≤ b) (hupper : b ≤ 0xDF) :
    first b = (⟨1, 0x80, 0xBF, b - 0xC0⟩, []) := by
  have hone : ¬ b ≤ 0x7F := by omega
  rw [first, if_neg hone, if_pos ⟨hlower, hupper⟩]

theorem first_three {b : Nat} (hlower : 0xE0 ≤ b) (hupper : b ≤ 0xEF) : first b =
    (⟨2, if b = 0xE0 then 0xA0 else 0x80, if b = 0xED then 0x9F else 0xBF, b - 0xE0⟩, []) := by
  have hone : ¬ b ≤ 0x7F := by omega
  have htwo : ¬ (0xC2 ≤ b ∧ b ≤ 0xDF) := by omega
  rw [first, if_neg hone, if_neg htwo, if_pos ⟨hlower, hupper⟩]

theorem first_four {b : Nat} (hlower : 0xF0 ≤ b) (hupper : b ≤ 0xF4) : first b =
    (⟨3, if b = 0xF0 then 0x90 else 0x80, if b = 0xF4 then 0x8F else 0xBF, b - 0xF0⟩, []) := by
  have hone : ¬ b ≤ 0x7F := by omega
  have htwo : ¬ (0xC2 ≤ b ∧ b ≤ 0xDF) := by omega
  have hthree : ¬ (0xE0 ≤ b ∧ b ≤ 0xEF) := by omega
  rw [first, if_neg hone, if_neg htwo, if_neg hthree, if_pos ⟨hlower, hupper⟩]

theorem toNat_byte {n : Nat} (h : n < 256) : (UInt8.ofNat n).toNat = n := by
  rw [UInt8.toNat_ofNat', Nat.mod_eq_of_lt h]

theorem decode_two {a b : Nat} (bytes : List UInt8) (ha : 2 ≤ a) (ha' : a < 32) (hb : b < 64) :
    idle.decode (UInt8.ofNat (a + 0xC0) :: UInt8.ofNat (b + 0x80) :: bytes) =
      Char.ofNat (64 * a + b) :: idle.decode bytes := by
  have hlead : (UInt8.ofNat (a + 0xC0)).toNat = a + 0xC0 := toNat_byte (by omega)
  have hlast : (UInt8.ofNat (b + 0x80)).toNat = b + 0x80 := toNat_byte (by omega)
  rw [decode_idle_cons, hlead, first_two (by omega) (by omega), List.nil_append,
    decode_last bytes rfl (by dsimp only; omega) (by dsimp only; omega), hlast, Nat.add_sub_cancel,
    Nat.add_sub_cancel]

theorem decode_three {a b c : Nat} (bytes : List UInt8) (ha : a < 16) (hb : b < 64) (hc : c < 64)
    (hlong : a = 0 → 32 ≤ b) (hplain : a = 13 → b < 32) :
    idle.decode
        (UInt8.ofNat (a + 0xE0) :: UInt8.ofNat (b + 0x80) :: UInt8.ofNat (c + 0x80) :: bytes) =
      Char.ofNat (64 * (64 * a + b) + c) :: idle.decode bytes := by
  have hlead : (UInt8.ofNat (a + 0xE0)).toNat = a + 0xE0 := toNat_byte (by omega)
  have hmiddle : (UInt8.ofNat (b + 0x80)).toNat = b + 0x80 := toNat_byte (by omega)
  have hlast : (UInt8.ofNat (c + 0x80)).toNat = c + 0x80 := toNat_byte (by omega)
  rw [decode_idle_cons, hlead, first_three (by omega) (by omega), List.nil_append,
    decode_continue _ (by dsimp only; omega) (by dsimp only; split <;> omega)
      (by dsimp only; split <;> omega),
    decode_last bytes rfl (by dsimp only; omega) (by dsimp only; omega), hmiddle, hlast]
  dsimp only
  rw [Nat.add_sub_cancel, Nat.add_sub_cancel, Nat.add_sub_cancel]

theorem decode_four {a b c d : Nat} (bytes : List UInt8) (ha : a < 5) (hb : b < 64) (hc : c < 64)
    (hd : d < 64) (hlong : a = 0 → 16 ≤ b) (hbound : a = 4 → b < 16) :
    idle.decode (UInt8.ofNat (a + 0xF0) :: UInt8.ofNat (b + 0x80) :: UInt8.ofNat (c + 0x80) ::
      UInt8.ofNat (d + 0x80) :: bytes) =
      Char.ofNat (64 * (64 * (64 * a + b) + c) + d) :: idle.decode bytes := by
  have hlead : (UInt8.ofNat (a + 0xF0)).toNat = a + 0xF0 := toNat_byte (by omega)
  have hsecond : (UInt8.ofNat (b + 0x80)).toNat = b + 0x80 := toNat_byte (by omega)
  have hthird : (UInt8.ofNat (c + 0x80)).toNat = c + 0x80 := toNat_byte (by omega)
  have hlast : (UInt8.ofNat (d + 0x80)).toNat = d + 0x80 := toNat_byte (by omega)
  rw [decode_idle_cons, hlead, first_four (by omega) (by omega), List.nil_append,
    decode_continue _ (by dsimp only; omega) (by dsimp only; split <;> omega)
      (by dsimp only; split <;> omega),
    decode_continue _ (by dsimp only; omega) (by dsimp only; omega) (by dsimp only; omega),
    decode_last bytes rfl (by dsimp only; omega) (by dsimp only; omega), hsecond, hthird, hlast]
  dsimp only
  rw [Nat.add_sub_cancel, Nat.add_sub_cancel, Nat.add_sub_cancel, Nat.add_sub_cancel]

/-- The bytes of a character are decoded to it. -/
theorem decode_char (c : Char) (bytes : List UInt8) :
    idle.decode (String.utf8EncodeChar c ++ bytes) = c :: idle.decode bytes := by
  have hvalid : c.toNat < 0xD800 ∨ 0xDFFF < c.toNat ∧ c.toNat < 0x110000 := c.valid
  have hchar : Char.ofNat c.toNat = c := Char.ofNat_toNat c
  have hval : c.val.toNat = c.toNat := rfl
  unfold String.utf8EncodeChar
  rw [hval]
  dsimp only
  generalize c.toNat = v at hvalid hchar
  split
  · rename_i hone
    have hbyte : (UInt8.ofNat v).toNat = v := toNat_byte (by omega)
    rw [List.singleton_append, decode_idle_cons, hbyte, first, if_pos hone, hchar]
    rfl
  · rename_i hone
    split
    · rename_i htwo
      have hsum : 64 * (v / 64 % 0x20) + v % 0x40 = v := by omega
      exact (decode_two bytes (by omega) (by omega) (by omega)).trans (by rw [hsum, hchar])
    · rename_i htwo
      split
      · rename_i hthree
        have hsum : 64 * (64 * (v / 4096 % 0x10) + v / 64 % 0x40) + v % 0x40 = v := by omega
        exact (decode_three bytes (by omega) (by omega) (by omega) (by omega) (by omega)).trans
          (by rw [hsum, hchar])
      · rename_i hthree
        have hsum : 64 * (64 * (64 * (v / 262144 % 0x08) + v / 4096 % 0x40) + v / 64 % 0x40) +
            v % 0x40 = v := by
          omega
        exact (decode_four bytes (by omega) (by omega) (by omega) (by omega) (by omega)
          (by omega)).trans (by rw [hsum, hchar])

end Utf8State

/-- **What was written is read back.** -/
theorem utf8Decode_encode_append (text : List Char) (bytes : List UInt8) :
    utf8Decode (utf8Encode text ++ bytes) = text ++ utf8Decode bytes := by
  induction text with
  | nil => rfl
  | cons c text ih =>
    rw [utf8Encode, List.flatMap_cons, List.append_assoc]
    exact (Utf8State.decode_char c _).trans (congrArg (c :: ·) ih)

theorem utf8Decode_encode (text : List Char) : utf8Decode (utf8Encode text) = text := by
  have happend := utf8Decode_encode_append text []
  rw [List.append_nil] at happend
  exact happend.trans (List.append_nil text)

/-! ## Bytes of ASCII -/

namespace Utf8State

/-- No byte of ASCII goes on with a sequence. -/
theorem first_lower (b : Nat) : 0x80 ≤ (first b).1.lower := by
  unfold first
  split
  · exact Nat.le_refl _
  · split
    · exact Nat.le_refl _
    · split
      · dsimp only
        split <;> omega
      · split
        · dsimp only
          split <;> omega
        · exact Nat.le_refl _

theorem next_lower {s : Utf8State} (b : Nat) : 0x80 ≤ (s.next b).1.lower := by
  unfold next
  split
  · exact first_lower b
  · split
    · dsimp only
      split
      · exact Nat.le_refl _
      · exact Nat.le_refl _
    · exact first_lower b

/-- **A byte of ASCII is itself**, and ends what stands before it. -/
theorem decode_ascii {b : UInt8} (hb : b.toNat ≤ 0x7F) (s : Utf8State) (before after : List UInt8)
    (hs : 0x80 ≤ s.lower) :
    s.decode (before ++ b :: after) = s.decode before ++ Char.ofNat b.toNat ::
      utf8Decode after := by
  have hfirst : first b.toNat = (idle, [Char.ofNat b.toNat]) := by rw [first, if_pos hb]
  induction before generalizing s with
  | nil =>
    rw [List.nil_append, decode, decode, next]
    by_cases hneeded : s.needed = 0
    · rw [if_pos hneeded, if_pos hneeded, hfirst]
      rfl
    · have hout : ¬ (s.lower ≤ b.toNat ∧ b.toNat ≤ s.upper) := by omega
      rw [if_neg hneeded, if_neg hneeded, if_neg hout, hfirst]
      rfl
  | cons b' before ih =>
    rw [List.cons_append, decode, decode, ih _ (next_lower b'.toNat), List.append_assoc]

/-- What is there of a sequence is too long for a character of ASCII. -/
structure Long (s : Utf8State) : Prop where
  last : s.needed = 1 → 2 ≤ s.codePoint
  more : 2 ≤ s.needed → 2 ≤ 64 * s.codePoint + (s.lower - 0x80)

theorem idle_long : idle.Long := ⟨fun h => absurd h (by decide), fun h => absurd h (by decide)⟩

theorem first_long (b : Nat) : (first b).1.Long := by
  unfold first
  split
  · exact idle_long
  · split
    · refine ⟨fun _ => ?_, fun h => ?_⟩
      · dsimp only
        omega
      · dsimp only at h
        omega
    · split
      · refine ⟨fun h => ?_, fun _ => ?_⟩
        · dsimp only at h
          omega
        · dsimp only
          split <;> omega
      · split
        · refine ⟨fun h => ?_, fun _ => ?_⟩
          · dsimp only at h
            omega
          · dsimp only
            split <;> omega
        · exact idle_long

theorem Long.next {s : Utf8State} (hs : s.Long) (b : Nat) : (s.next b).1.Long := by
  unfold Utf8State.next
  split
  · exact first_long b
  · split
    · rename_i hneeded hbyte
      dsimp only
      split
      · exact idle_long
      · have hmore := hs.more (by omega)
        refine ⟨fun _ => ?_, fun _ => ?_⟩
        · dsimp only
          omega
        · dsimp only
          omega
    · exact first_long b

theorem toNat_ofNat {n : Nat} (h : n.isValidChar) : (Char.ofNat n).toNat = n := by
  rw [Char.ofNat, dif_pos h]
  rfl

/-- `Char.ofNat` answers NUL for what is no character. -/
theorem toNat_ofNat_of_pos {n : Nat} (hpos : 0 < (Char.ofNat n).toNat) :
    (Char.ofNat n).toNat = n := by
  by_cases h : n.isValidChar
  · exact toNat_ofNat h
  · rw [Char.ofNat, dif_neg h] at hpos
    exact absurd hpos (by decide)

theorem replacement_large : ¬ replacement.toNat ≤ 0x7F := by decide

/-- A character of ASCII comes from the byte that was read. -/
theorem ascii_mem_first {b : Nat} {c : Char} (hle : c.toNat ≤ 0x7F) (hpos : 0 < c.toNat)
    (h : c ∈ (first b).2) :
    c.toNat = b := by
  unfold first at h
  split at h
  · obtain rfl := List.mem_singleton.1 h
    exact toNat_ofNat_of_pos hpos
  · split at h
    · cases h
    · split at h
      · cases h
      · split at h
        · cases h
        · rw [List.mem_singleton.1 h] at hle
          exact absurd hle replacement_large

theorem ascii_mem_next {s : Utf8State} {b : Nat} {c : Char} (hs : s.Long) (hle : c.toNat ≤ 0x7F)
    (hpos : 0 < c.toNat) (h : c ∈ (s.next b).2) : c.toNat = b := by
  unfold Utf8State.next at h
  split at h
  · exact ascii_mem_first hle hpos h
  · split at h
    · rename_i hneeded hbyte
      dsimp only at h
      split at h
      · rename_i hone
        have hlast := hs.last hone
        have hc := List.mem_singleton.1 h
        rw [hc] at hpos hle
        have heq := toNat_ofNat_of_pos hpos
        omega
      · cases h
    · rcases List.mem_cons.1 h with heq | h
      · rw [heq] at hle
        exact absurd hle replacement_large
      · exact ascii_mem_first hle hpos h

theorem ascii_mem_decode {b : UInt8} (hle : b.toNat ≤ 0x7F) (hpos : 0 < b.toNat) {s : Utf8State}
    (hs : s.Long) {bytes : List UInt8} (h : Char.ofNat b.toNat ∈ s.decode bytes) : b ∈ bytes := by
  have hchar : (Char.ofNat b.toNat).toNat = b.toNat := toNat_ofNat (.inl (by omega))
  induction bytes generalizing s with
  | nil =>
    rw [decode] at h
    split at h
    · cases h
    · rw [List.mem_singleton.1 h] at hchar
      exact absurd hle (by rw [← hchar]; exact replacement_large)
  | cons b' bytes ih =>
    rw [decode] at h
    rcases List.mem_append.1 h with h | h
    · have heq := ascii_mem_next hs (by omega) (by omega) h
      rw [hchar] at heq
      rw [UInt8.toNat_inj.1 heq]
      exact List.mem_cons_self
    · exact List.mem_cons_of_mem b' (ih (hs.next b'.toNat) h)

end Utf8State

/-- A byte of ASCII stands for that character only. -/
theorem ascii_mem_char {b : UInt8} (hb : b.toNat ≤ 0x7F) {c : Char}
    (h : b ∈ String.utf8EncodeChar c) :
    c.toNat = b.toNat := by
  have hval : c.val.toNat = c.toNat := rfl
  have hbyte : ∀ n, b = UInt8.ofNat n → n < 256 → n = b.toNat :=
    fun n hn hlt => by rw [hn, Utf8State.toNat_byte hlt]
  unfold String.utf8EncodeChar at h
  rw [hval] at h
  dsimp only at h
  generalize c.toNat = v at h
  split at h
  · exact hbyte v (List.mem_singleton.1 h) (by omega)
  · have hhigh : ∀ n, b = UInt8.ofNat n → 0x80 ≤ n → n < 256 → v = b.toNat := by
      intro n hn hge hlt
      have heq := hbyte n hn hlt
      omega
    split at h
    · simp only [List.mem_cons, List.not_mem_nil, or_false] at h
      rcases h with h | h
      · exact hhigh _ h (by omega) (by omega)
      · exact hhigh _ h (by omega) (by omega)
    · split at h
      · simp only [List.mem_cons, List.not_mem_nil, or_false] at h
        rcases h with h | h | h
        · exact hhigh _ h (by omega) (by omega)
        · exact hhigh _ h (by omega) (by omega)
        · exact hhigh _ h (by omega) (by omega)
      · simp only [List.mem_cons, List.not_mem_nil, or_false] at h
        rcases h with h | h | h | h
        · exact hhigh _ h (by omega) (by omega)
        · exact hhigh _ h (by omega) (by omega)
        · exact hhigh _ h (by omega) (by omega)
        · exact hhigh _ h (by omega) (by omega)

theorem ascii_mem_encode {b : UInt8} (hb : b.toNat ≤ 0x7F) {text : List Char}
    (h : b ∈ utf8Encode text) :
    Char.ofNat b.toNat ∈ text := by
  obtain ⟨c, hc, hbyte⟩ := List.mem_flatMap.1 h
  rw [← ascii_mem_char hb hbyte, Char.ofNat_toNat]
  exact hc

theorem utf8Decode_ascii {b : UInt8} (hb : b.toNat ≤ 0x7F) (before after : List UInt8) :
    utf8Decode (before ++ b :: after) = utf8Decode before ++ Char.ofNat b.toNat ::
      utf8Decode after :=
  Utf8State.decode_ascii hb .idle before after (Nat.le_refl _)

/-- A character of ASCII is not made of other bytes. -/
theorem ascii_mem_utf8Decode {b : UInt8} (hle : b.toNat ≤ 0x7F) (hpos : 0 < b.toNat)
    {bytes : List UInt8} (h : Char.ofNat b.toNat ∈ utf8Decode bytes) : b ∈ bytes :=
  Utf8State.ascii_mem_decode hle hpos (Utf8State.first_long 0) h

end PeHackathon.Js
