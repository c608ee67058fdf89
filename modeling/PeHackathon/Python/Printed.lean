import PeHackathon.Python.JsonRoundTrip
import PeHackathon.Python.JsonInterpolated

/-!
# Texts without control characters

`json.dumps` and `repr` escape the control characters, so there is none in what they write.
-/

namespace PeHackathon

/-- No character is a control character. -/
def Printed (l : List Char) : Prop := ∀ c ∈ l, 32 ≤ c.toNat

instance (l : List Char) : Decidable (Printed l) := List.decidableBAll _ l

section Printed

variable {l l' ds : List Char} {c : Char}

theorem Printed.append (h : Printed l) (h' : Printed l') : Printed (l ++ l') := by
  intro c hc
  rcases List.mem_append.1 hc with hc | hc
  · exact h c hc
  · exact h' c hc

theorem Printed.cons (hc : 32 ≤ c.toNat) (h : Printed l) : Printed (c :: l) := by
  intro d hd
  rcases List.mem_cons.1 hd with rfl | hd
  · exact hc
  · exact h d hd

theorem Printed.of_subset (h : Printed l) (hsub : l' ⊆ l) : Printed l' := fun c hc => h c (hsub hc)

theorem Printed.ite {p : Prop} [Decidable p] (h : Printed l) (h' : Printed l') :
    Printed (if p then l else l') := by
  split
  · exact h
  · exact h'

theorem Printed.flatMap {f : Char → List Char} (h : ∀ c, Printed (f c)) (l : List Char) :
    Printed (l.flatMap f) := by
  intro c hc
  obtain ⟨d, -, hd⟩ := List.mem_flatMap.1 hc
  exact h d c hd

theorem printed_digits (h : ∀ c ∈ ds, c.isDigit = true) : Printed ds := by
  intro c hc
  have hdigit := h c hc
  simp only [Char.isDigit, Bool.and_eq_true, decide_eq_true_eq] at hdigit
  have hlow : (48 : UInt32).toNat ≤ c.val.toNat := UInt32.le_iff_toNat_le.1 hdigit.1
  exact Nat.le_trans (by decide) hlow

theorem printed_toDigits (n : Nat) : Printed (Nat.toDigits 10 n) :=
  printed_digits (toDigits_whole n).digits

theorem printed_digitChar : ∀ n < 16, 32 ≤ (Nat.digitChar n).toNat := by decide

theorem printed_hexByte (n : Nat) : Printed (hexByte n) := by
  have hdigit : ∀ m, 32 ≤ (Nat.digitChar (m % 16)).toNat :=
    fun m => printed_digitChar _ (Nat.mod_lt m (by decide))
  exact .cons (hdigit _) (.cons (hdigit _) (by decide))

theorem printed_unicodeEscape (n : Nat) : Printed (unicodeEscape n) := by
  have hdigit : ∀ m, 32 ≤ (Nat.digitChar (m % 16)).toNat :=
    fun m => printed_digitChar _ (Nat.mod_lt m (by decide))
  have hlead : Printed ['\\', 'u'] := by decide
  exact hlead.append (.cons (hdigit _)
    (.cons (hdigit _) (.cons (hdigit _) (.cons (hdigit _) (by decide)))))

end Printed

/-! ## `repr` -/

section Repr

variable (printable : Char → Bool)

theorem printed_pyReprChar {q : Char} (hq : 32 ≤ q.toNat) (c : Char) :
    Printed (pyReprChar printable q c) := by
  have hletter : ∀ d, 32 ≤ d.toNat → Printed ['\\', d] :=
    fun d hd => .cons (by decide) (.cons hd (by decide))
  have hhex : ∀ d, 32 ≤ d.toNat → ∀ l, Printed l → Printed (['\\', d] ++ l) :=
    fun d hd l hl => (hletter d hd).append hl
  unfold pyReprChar
  split
  · decide
  · split
    · exact hletter q hq
    · split
      · decide
      · split
        · decide
        · split
          · decide
          · split
            · exact hhex 'x' (by decide) _ (printed_hexByte _)
            · rename_i hcontrol
              split
              · -- a character that stands for itself is none of the escaped ones
                refine .cons ?_ (by decide)
                by_contra hlow
                exact hcontrol (by simp [Nat.lt_of_not_le hlow])
              · split
                · exact printed_unicodeEscape _
                · have hlead : Printed ['\\', 'U', '0', '0'] := by decide
                  exact ((hlead.append (printed_hexByte _)).append (printed_hexByte _)).append
                    (printed_hexByte _)

theorem printed_pyReprStr (s : String) : Printed (pyReprStr printable s).toList := by
  have hquote : 32 ≤ (pyReprQuote s).toNat := by
    unfold pyReprQuote
    split
    · decide
    · decide
  have hends : Printed [pyReprQuote s] := .cons hquote (by decide)
  unfold pyReprStr
  rw [String.toList_ofList]
  exact (hends.append (.flatMap (printed_pyReprChar printable hquote) _)).append hends

/-- **The text of a list of strings** has no control characters. -/
theorem printed_pyReprStrList (l : List String) : Printed (pyReprStrList printable l).toList := by
  have hitems : Printed (reprItems printable l) := by
    unfold reprItems
    induction l with
    | nil =>
      rw [List.map_nil, List.intercalate_nil]
      decide
    | cons s l ih =>
      cases l with
      | nil =>
        rw [List.map_cons, List.map_nil, List.intercalate_singleton]
        exact printed_pyReprStr printable s
      | cons t l =>
        rw [List.map_cons] at ih
        rw [List.map_cons, List.map_cons, List.intercalate_cons_cons]
        have hcomma : Printed [',', ' '] := by decide
        exact ((printed_pyReprStr printable s).append hcomma).append ih
  have hclose : Printed [']'] := by decide
  rw [pyReprStrList_toList]
  exact .cons (by decide) (hitems.append hclose)

end Repr

/-! ## `json.dumps` -/

theorem printed_jsonEscapeChar (c : Char) : Printed (jsonEscapeChar c) := by
  unfold jsonEscapeChar
  dsimp only
  split
  · rename_i e he
    split at he
    · cases he
    · have hletters : ∀ p ∈ jsonEscapes, 32 ≤ p.2.toNat := by decide
      obtain ⟨before, after, hsplit, -⟩ := List.lookup_eq_some_iff.1 he
      have hmem : (c, e) ∈ jsonEscapes := by
        rw [hsplit]
        exact List.mem_append_right _ List.mem_cons_self
      exact .cons (by decide) (.cons (hletters _ hmem) (by decide))
  · split
    · rename_i hplain
      rw [Bool.and_eq_true, decide_eq_true_eq] at hplain
      exact .cons hplain.1 (by decide)
    · split
      · exact printed_unicodeEscape _
      · exact (printed_unicodeEscape _).append (printed_unicodeEscape _)

theorem printed_jsonStringText (s : List Char) : Printed (jsonStringText s) := by
  have hquote : Printed ['"'] := by decide
  exact .cons (by decide) ((Printed.flatMap printed_jsonEscapeChar s).append hquote)

theorem printed_floatText {ds : List Char} (h : Printed ds) (point : Int) :
    Printed (floatText ds point) := by
  have hzeros : ∀ n, Printed (List.replicate n '0') := fun n c hc => by
    rw [List.eq_of_mem_replicate hc]
    decide
  have htake : ∀ n, Printed (ds.take n) := fun n => h.of_subset (List.take_subset n ds)
  have hdrop : ∀ n, Printed (ds.drop n) := fun n => h.of_subset (List.drop_subset n ds)
  have hlead : Printed ['0', '.'] := by decide
  have hend : Printed ['.', '0'] := by decide
  have hpoint : Printed ['.'] := by decide
  have hexp : Printed ['e'] := by decide
  unfold floatText
  split
  · split
    · exact (hlead.append (hzeros _)).append h
    · split
      · exact (h.append (hzeros _)).append hend
      · exact ((htake _).append hpoint).append (hdrop _)
  · have hdigits := printed_toDigits (point - 1).natAbs
    refine (((htake 1).append (.ite (.cons (by decide) (hdrop 1)) (by decide))).append hexp).append
      (.ite (by decide) (by decide)) |>.append (.ite (.cons (by decide) hdigits) hdigits)

theorem printed_jsonFloatText (f : Float) : Printed (jsonFloatText f) := by
  unfold jsonFloatText
  dsimp only
  split
  · decide
  · rename_i hnan
    split
    · have hinf : Printed ['I', 'n', 'f', 'i', 'n', 'i', 't', 'y'] := by decide
      exact (Printed.ite (by decide) (by decide)).append hinf
    · rename_i hinf
      have hsign : Printed (if 2 ^ 63 ≤ f.toBits.toNat then ['-'] else []) :=
        .ite (by decide) (by decide)
      unfold pyReprFloat
      dsimp only
      rw [if_neg hnan, if_neg hinf]
      split
      · have hzero : Printed ['0', '.', '0'] := by decide
        rw [String.toList_ofList]
        exact hsign.append hzero
      · rename_i hbits
        rw [String.toList_ofList]
        refine hsign.append (printed_floatText ?_ _)
        obtain ⟨hmant, hbelow⟩ := FloatParts.ofBits_parts (Nat.pos_of_ne_zero hbits)
          (Nat.mod_lt _ (Nat.pow_pos (by decide)))
        rcases FloatParts.shortest_digits hmant hbelow with h | ⟨hds, -⟩
        · rw [h]
          decide
        · exact printed_digits hds

mutual

theorem printed_text (x : Json) : Printed x.text := by
  match x with
  | .null => decide
  | .bool b => exact .ite (by decide) (by decide)
  | .int i => exact (Printed.ite (by decide) (by decide)).append (printed_toDigits i.natAbs)
  | .float f => exact printed_jsonFloatText f
  | .str s => exact printed_jsonStringText s.toList
  | .arr l =>
    have hclose : Printed [']'] := by decide
    exact .cons (by decide) ((printed_itemsText l).append hclose)
  | .obj fields =>
    have hclose : Printed ['\x7d'] := by decide
    exact .cons (by decide) ((printed_fieldsText fields).append hclose)

theorem printed_itemsText (l : List Json) : Printed (Json.itemsText l) := by
  match l with
  | [] => decide
  | [x] => exact printed_text x
  | x :: y :: l =>
    exact (printed_text x).append (.cons (by decide)
      (.cons (by decide) (printed_itemsText (y :: l))))

theorem printed_fieldsText (fields : List (String × Json)) : Printed (Json.fieldsText fields) := by
  match fields with
  | [] => decide
  | [(key, x)] =>
    exact (printed_jsonStringText key.toList).append
      (.cons (by decide) (.cons (by decide) (printed_text x)))
  | (key, x) :: f :: fields =>
    have hrest : Printed (x.text ++ ',' :: ' ' :: Json.fieldsText (f :: fields)) :=
      (printed_text x).append (.cons (by decide)
        (.cons (by decide) (printed_fieldsText (f :: fields))))
    exact (printed_jsonStringText key.toList).append (.cons (by decide) (.cons (by decide) hrest))

end

/-- **What `json.dumps` writes** has no control characters. -/
theorem printed_dumps {x : Json} {s : String} (h : x.dumps = some s) : Printed s.toList := by
  unfold Json.dumps at h
  split at h
  · cases h
    rw [String.toList_ofList]
    exact printed_text x
  · cases h

end PeHackathon
