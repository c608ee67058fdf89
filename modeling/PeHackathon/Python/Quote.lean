import PeHackathon.Js.Utf8
import PeHackathon.Python.JsonText
import PeHackathon.Python.Url

/-!
# `urllib.parse.quote` and the path of a request

`quote` writes a text into the path of an address, and a WSGI application gets the path back with
the escapes undone. Its bytes are decoded as `bytes.decode("utf-8", "replace")` does, which is how
Node decodes them as well. What was quoted is read back (`pathInfo_quote`).
-/

namespace PeHackathon

open Js (utf8Decode utf8Encode utf8Decode_encode)

/-- `_ALWAYS_SAFE`. -/
def isAlwaysSafe (c : Char) : Bool :=
  isAsciiAlpha c || isAsciiDigit c || c == '_' || c == '.' || c == '-' || c == '~'

/-- A digit of `%02X`. -/
def upperHexDigit (n : Nat) : Char := (Nat.digitChar n).toUpper

def quoteByte (b : UInt8) : List Char :=
  if isAlwaysSafe (Char.ofNat b.toNat) then [Char.ofNat b.toNat]
  else ['%', upperHexDigit (b.toNat / 16), upperHexDigit (b.toNat % 16)]

/-- `quote(text, safe="")`. -/
def quote (text : List Char) : List Char := (utf8Encode text).flatMap quoteByte

/-- `unquote_to_bytes`: a `%` without two hexadecimal digits stays. -/
def unquoteToBytes : List Char → List UInt8
  | [] => []
  | [c] => String.utf8EncodeChar c
  | [c, d] => String.utf8EncodeChar c ++ String.utf8EncodeChar d
  | c :: d :: e :: rest =>
    if c = '%' then
      match hexDigit? d, hexDigit? e with
      | some high, some low => UInt8.ofNat (16 * high + low) :: unquoteToBytes rest
      | _, _ => String.utf8EncodeChar c ++ unquoteToBytes (d :: e :: rest)
    else String.utf8EncodeChar c ++ unquoteToBytes (d :: e :: rest)

/-- `PATH_INFO` as Werkzeug reads it. -/
def pathInfo (target : List Char) : List Char := utf8Decode (unquoteToBytes target)

/-! ## Round trip -/

theorem hexDigit?_upper : ∀ n < 16, hexDigit? (upperHexDigit n) = some n := by decide

/-- A character that begins no escape. -/
theorem unquoteToBytes_plain {c : Char} (hc : c ≠ '%') (rest : List Char) :
    unquoteToBytes (c :: rest) = String.utf8EncodeChar c ++ unquoteToBytes rest := by
  match rest with
  | [] => rw [unquoteToBytes, unquoteToBytes, List.append_nil]
  | [d] => rw [unquoteToBytes, unquoteToBytes]
  | d :: e :: rest => rw [unquoteToBytes, if_neg hc]

theorem unquoteToBytes_escape {high low : Nat} (hhigh : high < 16) (hlow : low < 16)
    (rest : List Char) :
    unquoteToBytes ('%' :: upperHexDigit high :: upperHexDigit low :: rest) =
      UInt8.ofNat (16 * high + low) :: unquoteToBytes rest := by
  rw [unquoteToBytes, if_pos rfl, hexDigit?_upper high hhigh, hexDigit?_upper low hlow]

theorem isAsciiAlpha_ascii {c : Char} (h : isAsciiAlpha c = true) : c.toNat ≤ 0x7F := by
  have hval : c.val.toNat = c.toNat := rfl
  have hlower : 'z'.val.toNat = 0x7A := rfl
  have hupper : 'Z'.val.toNat = 0x5A := rfl
  simp only [isAsciiAlpha, Bool.or_eq_true, Bool.and_eq_true, decide_eq_true_eq, Char.le_def,
    UInt32.le_iff_toNat_le] at h
  omega

theorem isAsciiDigit_ascii {c : Char} (h : isAsciiDigit c = true) : c.toNat ≤ 0x7F := by
  have hval : c.val.toNat = c.toNat := rfl
  have hnine : '9'.val.toNat = 0x39 := rfl
  simp only [isAsciiDigit, Bool.and_eq_true, decide_eq_true_eq, Char.le_def, UInt32.le_iff_toNat_le]
    at h
  omega

theorem isAlwaysSafe_ascii {c : Char} (h : isAlwaysSafe c = true) : c.toNat ≤ 0x7F := by
  simp only [isAlwaysSafe, Bool.or_eq_true, beq_iff_eq] at h
  obtain ((((h | h) | rfl) | rfl) | rfl) | rfl := h
  · exact isAsciiAlpha_ascii h
  · exact isAsciiDigit_ascii h
  all_goals decide

theorem utf8EncodeChar_byte {b : UInt8} (hb : b.toNat ≤ 0x7F) :
    String.utf8EncodeChar (Char.ofNat b.toNat) = [b] := by
  have hval : (Char.ofNat b.toNat).val.toNat = b.toNat := Js.Utf8State.toNat_ofNat (.inl (by omega))
  unfold String.utf8EncodeChar
  rw [hval]
  dsimp only
  rw [if_pos hb, UInt8.ofNat_toNat]

theorem unquoteToBytes_quoteByte (b : UInt8) (rest : List Char) :
    unquoteToBytes (quoteByte b ++ rest) = b :: unquoteToBytes rest := by
  have hb : b.toNat < 256 := b.toNat_lt
  unfold quoteByte
  split
  · rename_i hsafe
    have hpercent : Char.ofNat b.toNat ≠ '%' := fun h => by
      rw [h] at hsafe
      exact absurd hsafe (by decide)
    have hascii : b.toNat ≤ 0x7F := by
      have hchar := isAlwaysSafe_ascii hsafe
      rwa [Js.Utf8State.toNat_ofNat (.inl (by omega))] at hchar
    rw [List.singleton_append, unquoteToBytes_plain hpercent, utf8EncodeChar_byte hascii]
    rfl
  · show unquoteToBytes
      ('%' :: upperHexDigit (b.toNat / 16) :: upperHexDigit (b.toNat % 16) :: rest) = _
    rw [unquoteToBytes_escape (by omega) (by omega), Nat.div_add_mod, UInt8.ofNat_toNat]

theorem unquoteToBytes_quote (bytes : List UInt8) :
    unquoteToBytes (bytes.flatMap quoteByte) = bytes := by
  induction bytes with
  | nil => rfl
  | cons b bytes ih => rw [List.flatMap_cons, unquoteToBytes_quoteByte, ih]

/-- **A quoted text after a slash is read back.** -/
theorem pathInfo_quote (text : List Char) : pathInfo ('/' :: quote text) = '/' :: text := by
  have hslash : unquoteToBytes ('/' :: quote text) = utf8Encode ('/' :: text) := by
    rw [unquoteToBytes_plain (by decide), quote, unquoteToBytes_quote]
    rfl
  rw [pathInfo, hslash, utf8Decode_encode]

end PeHackathon
