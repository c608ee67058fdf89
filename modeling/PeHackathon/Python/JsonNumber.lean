import Mathlib.Data.List.DropRight
import Mathlib.Data.List.TakeWhile
import PeHackathon.Python.JsonText

/-!
# Numbers in JSON text

A number is read up to where it closes (`jsonValue_number`). What is written for an `int` is read as
that `int` (`jsonIntText_number`), what is written for a `float` is read as a `float`
(`jsonFloatText_cases`).
-/

namespace PeHackathon

section Numbers

variable {c : Char} {ds l rest : List Char} {x : Json} {negative : Bool} {fuel : Nat}

/-- What may follow a value: the end, a comma, or a closing bracket. -/
def Closes (rest : List Char) : Prop := ∀ c ∈ rest.head?, c = ',' ∨ c = ']' ∨ c = '\x7d'

theorem closes_nil : Closes [] := fun _ hc => nomatch hc

theorem closes_cons (h : c = ',' ∨ c = ']' ∨ c = '\x7d') : Closes (c :: rest) := by
  intro c' hc'
  cases hc'
  exact h

/-- No digit stands at the head. -/
def NoDigit (rest : List Char) : Prop := ∀ c ∈ rest.head?, c.isDigit = false

theorem Closes.noDigit (h : Closes rest) : NoDigit rest := by
  intro c hc
  rcases h c hc with rfl | rfl | rfl <;> rfl

theorem takeWhile_digits_append (h : NoDigit rest) (l : List Char) :
    (l ++ rest).takeWhile Char.isDigit = l.takeWhile Char.isDigit := by
  induction l with
  | nil =>
    cases rest with
    | nil => rfl
    | cons c rest => rw [List.nil_append, List.takeWhile_cons, h c rfl]; rfl
  | cons c l ih =>
    rw [List.cons_append, List.takeWhile_cons, List.takeWhile_cons, ih]

theorem dropWhile_digits_append (h : NoDigit rest) (l : List Char) :
    (l ++ rest).dropWhile Char.isDigit = l.dropWhile Char.isDigit ++ rest := by
  induction l with
  | nil =>
    cases rest with
    | nil => rfl
    | cons c rest => rw [List.nil_append, List.dropWhile_cons, h c rfl]; rfl
  | cons c l ih =>
    rw [List.cons_append, List.dropWhile_cons, List.dropWhile_cons]
    cases c.isDigit with
    | true => exact ih
    | false => rfl

theorem head_digit_append (h : NoDigit rest) (l : List Char) :
    (l ++ rest).head?.any Char.isDigit = l.head?.any Char.isDigit := by
  cases l with
  | nil =>
    cases rest with
    | nil => rfl
    | cons c rest => simpa using h c rfl
  | cons c l => rfl

theorem jsonFraction_append (h : Closes rest) (l : List Char) :
    jsonFraction (l ++ rest) = ((jsonFraction l).1, (jsonFraction l).2 ++ rest) := by
  cases l with
  | nil =>
    cases rest with
    | nil => rfl
    | cons c rest =>
      have hc : c ≠ '.' := by
        rintro rfl
        rcases h '.' rfl with hc | hc | hc <;> cases hc
      rw [List.nil_append, jsonFraction, jsonFraction, if_neg fun hp => hc hp.1]
      rfl
  | cons c l =>
    rw [List.cons_append, jsonFraction, jsonFraction, head_digit_append h.noDigit,
      takeWhile_digits_append h.noDigit, dropWhile_digits_append h.noDigit]
    split <;> rfl

theorem pySign_append (h : Closes rest) (l : List Char) :
    pySign (l ++ rest) = ((pySign l).1, (pySign l).2 ++ rest) := by
  cases l with
  | nil =>
    cases rest with
    | nil => rfl
    | cons c rest => rcases h c rfl with rfl | rfl | rfl <;> rfl
  | cons c l =>
    by_cases hminus : c = '-'
    · subst hminus; rfl
    · by_cases hplus : c = '+'
      · subst hplus; rfl
      · rw [List.cons_append, pySign, pySign]
        · rfl
        · rintro l ⟨⟩; exact hminus rfl
        · rintro l ⟨⟩; exact hplus rfl
        · rintro l ⟨⟩; exact hminus rfl
        · rintro l ⟨⟩; exact hplus rfl

theorem jsonExponent_append (h : Closes rest) (l : List Char) :
    jsonExponent (l ++ rest) = ((jsonExponent l).1, (jsonExponent l).2 ++ rest) := by
  cases l with
  | nil =>
    cases rest with
    | nil => rfl
    | cons c rest =>
      have hc : ¬ (c = 'e' ∨ c = 'E') := by
        rintro (rfl | rfl)
        · rcases h 'e' rfl with hc | hc | hc <;> cases hc
        · rcases h 'E' rfl with hc | hc | hc <;> cases hc
      rw [List.nil_append, jsonExponent, jsonExponent, if_neg fun hp => hc hp.1]
      rfl
  | cons c l =>
    rw [List.cons_append, jsonExponent, jsonExponent, pySign_append h]
    dsimp only
    rw [head_digit_append h.noDigit, takeWhile_digits_append h.noDigit,
      dropWhile_digits_append h.noDigit]
    split <;> rfl

theorem jsonNumberFrom_append (h : Closes rest) {l l' : List Char}
    (hread : jsonNumberFrom negative ds l = some (x, l')) :
    jsonNumberFrom negative ds (l ++ rest) = some (x, l' ++ rest) := by
  unfold jsonNumberFrom at hread ⊢
  dsimp only at hread ⊢
  rw [jsonFraction_append h]
  dsimp only
  rw [jsonExponent_append h]
  dsimp only
  split at hread
  · rename_i hint
    rw [if_pos hint]
    split at hread
    · rename_i hlen
      rw [if_pos hlen]
      cases hread
      rfl
    · cases hread
  · rename_i hfloat
    rw [if_neg hfloat]
    cases hread
    rfl

theorem jsonUnsigned_append (h : Closes rest) {l l' : List Char}
    (hread : jsonUnsigned negative l = some (x, l')) :
    jsonUnsigned negative (l ++ rest) = some (x, l' ++ rest) := by
  cases l with
  | nil => cases hread
  | cons c l =>
    rw [jsonUnsigned] at hread
    rw [List.cons_append, jsonUnsigned, takeWhile_digits_append h.noDigit,
      dropWhile_digits_append h.noDigit]
    split at hread
    · rw [if_pos ‹_›]
      exact jsonNumberFrom_append h hread
    · rw [if_neg ‹_›]
      split at hread
      · rw [if_pos ‹_›]
        exact jsonNumberFrom_append h hread
      · cases hread

/-- A number starts with a digit, after a sign. -/
theorem jsonUnsigned_head {l : List Char} {r : Json × List Char}
    (hread : jsonUnsigned negative l = some r) :
    ∃ c l', l = c :: l' ∧ c.isDigit = true := by
  cases l with
  | nil => cases hread
  | cons c l =>
    refine ⟨c, l, rfl, ?_⟩
    rw [jsonUnsigned] at hread
    split at hread
    · rename_i hc
      subst hc
      rfl
    · split at hread
      · assumption
      · cases hread

/-- The text of a number, with its sign. -/
def NumberText (l : List Char) (x : Json) : Prop :=
  (∃ l', l = '-' :: l' ∧ jsonUnsigned true l' = some (x, [])) ∨ jsonUnsigned false l = some (x, [])

theorem jsonNumber_digit {c : Char} {l : List Char} (hc : c.isDigit = true) :
    jsonNumber (c :: l) = jsonUnsigned false (c :: l) := by
  rw [jsonNumber]
  rintro l' ⟨⟩
  cases hc

/-- No word starts like a number. -/
theorem jsonWord_digit {c : Char} {l : List Char} (hc : c.isDigit = true) :
    jsonWord (c :: l) = none := by
  have hne : ∀ c', c'.isDigit = false → c' ≠ c := by
    rintro c' hc' rfl
    rw [hc] at hc'
    cases hc'
  simp [jsonWord, jsonWords, hne 'n' rfl, hne 't' rfl, hne 'f' rfl, hne 'N' rfl, hne 'I' rfl,
    hne '-' rfl]

theorem jsonWord_minus_digit {c : Char} {l : List Char} (hc : c.isDigit = true) :
    jsonWord ('-' :: c :: l) = none := by
  have hne : 'I' ≠ c := by
    rintro rfl
    cases hc
  simp [jsonWord, jsonWords, hne]

/-- **A number is read**, whatever closes it. -/
theorem jsonValue_number (h : NumberText l x) (hrest : Closes rest) :
    jsonValue (fuel + 1) (l ++ rest) = some (x, rest) := by
  have hplain : ∀ c : Char, c.isDigit = true ∨ c = '-' → c ≠ '"' ∧ c ≠ '[' ∧ c ≠ '\x7b' := by
    rintro c (hc | rfl)
    · refine ⟨?_, ?_, ?_⟩ <;> rintro rfl <;> cases hc
    · decide
  rcases h with ⟨l, rfl, hread⟩ | hread
  · obtain ⟨c, l', rfl, hc⟩ := jsonUnsigned_head hread
    rw [List.cons_append, List.cons_append, jsonValue, if_neg (by decide), if_neg (by decide),
      if_neg (by decide), jsonWord_minus_digit hc]
    exact jsonUnsigned_append hrest hread
  · obtain ⟨c, l', rfl, hc⟩ := jsonUnsigned_head hread
    obtain ⟨h₁, h₂, h₃⟩ := hplain c (.inl hc)
    rw [List.cons_append, jsonValue, if_neg h₁, if_neg h₂, if_neg h₃, jsonWord_digit hc]
    dsimp only
    rw [jsonNumber_digit hc]
    exact jsonUnsigned_append hrest hread

/-! ## Digits -/

/-- Digits as they stand before a point. -/
structure WholeDigits (ds : List Char) : Prop where
  digits : ∀ c ∈ ds, c.isDigit = true
  leads : ds = ['0'] ∨ ∃ c l, ds = c :: l ∧ c ≠ '0'

theorem digits_zero : ∀ c ∈ ['0'], c.isDigit = true := by
  intro c hc
  rw [List.mem_singleton.1 hc]
  rfl

theorem wholeDigits_zero : WholeDigits ['0'] := ⟨digits_zero, .inl rfl⟩

theorem takeWhile_digits (h : ∀ c ∈ ds, c.isDigit = true) : ds.takeWhile Char.isDigit = ds :=
  List.takeWhile_eq_self_iff.2 h

theorem dropWhile_digits (h : ∀ c ∈ ds, c.isDigit = true) : ds.dropWhile Char.isDigit = [] :=
  List.dropWhile_eq_nil_iff.2 h

theorem jsonUnsigned_whole (h : WholeDigits ds) (hrest : NoDigit rest) :
    jsonUnsigned negative (ds ++ rest) = jsonNumberFrom negative ds rest := by
  rcases h.leads with rfl | ⟨c, l, rfl, hc⟩
  · rfl
  · have hdigits := h.digits
    rw [List.forall_mem_cons] at hdigits
    rw [List.cons_append, jsonUnsigned, if_neg hc, if_pos hdigits.1, takeWhile_digits_append hrest,
      dropWhile_digits_append hrest, takeWhile_digits hdigits.2, dropWhile_digits hdigits.2]
    rfl

theorem digitChar_ne_zero : ∀ n < 10, 0 < n → Nat.digitChar n ≠ '0' := by decide

theorem toDigits_leads {n : Nat} (hn : 0 < n) : ∃ c l, Nat.toDigits 10 n = c :: l ∧ c ≠ '0' := by
  induction n using Nat.strong_induction_on with
  | _ n ih =>
    by_cases hlt : n < 10
    · exact ⟨_, [], Nat.toDigits_of_lt_base hlt, digitChar_ne_zero n hlt hn⟩
    · obtain ⟨c, l, hl, hc⟩ := ih (n / 10) (by omega) (by omega)
      rw [Nat.toDigits_of_base_le (by decide) (by omega), hl]
      exact ⟨c, _, rfl, hc⟩

theorem toDigits_whole (n : Nat) : WholeDigits (Nat.toDigits 10 n) := by
  refine ⟨fun c hc => Nat.isDigit_of_mem_toDigits (by decide) (by decide) hc, ?_⟩
  cases n with
  | zero => exact .inl rfl
  | succ n => exact .inr (toDigits_leads (Nat.succ_pos n))

theorem noDigit_nil : NoDigit [] := fun _ hc => nomatch hc

/-- **An integer** is read back, unless it is too long. -/
theorem jsonIntText_number (i : Int) (h : (Nat.toDigits 10 i.natAbs).length ≤ 4300) :
    NumberText (jsonIntText i) (.int i) := by
  have hread : ∀ negative : Bool, jsonUnsigned negative (Nat.toDigits 10 i.natAbs) =
      some (.int ((if negative then -1 else 1) * (i.natAbs : Int)), []) := by
    intro negative
    have hwhole : jsonUnsigned negative (Nat.toDigits 10 i.natAbs ++ []) =
        jsonNumberFrom negative (Nat.toDigits 10 i.natAbs) [] :=
          jsonUnsigned_whole (toDigits_whole i.natAbs) noDigit_nil
    rw [List.append_nil] at hwhole
    rw [hwhole]
    simp [jsonNumberFrom, jsonFraction, jsonExponent, h]
  unfold jsonIntText
  by_cases hi : i < 0
  · rw [if_pos hi]
    refine .inl ⟨Nat.toDigits 10 i.natAbs, rfl, ?_⟩
    rw [hread, if_pos rfl, show -1 * (i.natAbs : Int) = i by omega]
  · rw [if_neg hi, List.nil_append]
    refine .inr ?_
    rw [hread, if_neg Bool.false_ne_true, show 1 * (i.natAbs : Int) = i by omega]

/-! ## Floats -/

/-- What follows the digits before the point of a float. -/
def FloatTail (rest : List Char) : Prop :=
  ∃ f rest' e, jsonFraction rest = (f, rest') ∧ jsonExponent rest' = (e, []) ∧ ¬ (f = [] ∧ e = none)

theorem jsonFraction_digits {fs : List Char} (hne : fs ≠ []) (hfs : ∀ c ∈ fs, c.isDigit = true)
    (hrest : NoDigit rest) : jsonFraction ('.' :: (fs ++ rest)) = (fs, rest) := by
  obtain ⟨c, l, rfl⟩ := List.exists_cons_of_ne_nil hne
  have hc : ((c :: l) ++ rest).head?.any Char.isDigit = true := by
    simpa using hfs c List.mem_cons_self
  rw [jsonFraction, if_pos ⟨rfl, hc⟩, takeWhile_digits_append hrest, dropWhile_digits_append hrest,
    takeWhile_digits hfs, dropWhile_digits hfs]
  rfl

theorem jsonExponent_digits {sign : Char} {es : List Char} (hsign : sign = '-' ∨ sign = '+')
    (hne : es ≠ []) (hes : ∀ c ∈ es, c.isDigit = true) :
    ∃ e, jsonExponent ('e' :: sign :: es) = (some e, []) := by
  have hsplit : (pySign (sign :: es)).2 = es := by rcases hsign with rfl | rfl <;> rfl
  obtain ⟨c, l, rfl⟩ := List.exists_cons_of_ne_nil hne
  have hc : (c :: l).head?.any Char.isDigit = true := by simpa using hes c List.mem_cons_self
  refine ⟨(pySign (sign :: c :: l)).1 * Nat.ofDigitChars 10 ((c :: l).takeWhile Char.isDigit) 0, ?_⟩
  rw [jsonExponent, hsplit, if_pos ⟨.inl rfl, hc⟩, dropWhile_digits hes]

theorem FloatTail.fraction {fs : List Char} (hne : fs ≠ []) (hfs : ∀ c ∈ fs, c.isDigit = true) :
    FloatTail ('.' :: fs) := by
  have hread := jsonFraction_digits hne hfs noDigit_nil
  rw [List.append_nil] at hread
  exact ⟨fs, [], none, hread, rfl, fun h => hne h.1⟩

theorem FloatTail.exponent {sign : Char} {es : List Char} (hsign : sign = '-' ∨ sign = '+')
    (hne : es ≠ []) (hes : ∀ c ∈ es, c.isDigit = true) : FloatTail ('e' :: sign :: es) := by
  obtain ⟨e, he⟩ := jsonExponent_digits hsign hne hes
  exact ⟨[], _, some e, rfl, he, fun h => nomatch h.2⟩

theorem noDigit_cons {c : Char} {l : List Char} (h : c.isDigit = false) : NoDigit (c :: l) := by
  intro c' hc'
  cases hc'
  exact h

theorem FloatTail.both {sign : Char} {fs es : List Char} (hfne : fs ≠ [])
    (hfs : ∀ c ∈ fs, c.isDigit = true) (hsign : sign = '-' ∨ sign = '+') (hne : es ≠ [])
    (hes : ∀ c ∈ es, c.isDigit = true) :
    FloatTail ('.' :: (fs ++ 'e' :: sign :: es)) := by
  obtain ⟨e, he⟩ := jsonExponent_digits hsign hne hes
  exact ⟨fs, _, some e, jsonFraction_digits hfne hfs (noDigit_cons rfl), he, fun h => hfne h.1⟩

/-- The text of a positive float: digits, and the rest from the point or the exponent on. -/
def PositiveFloat (l : List Char) : Prop :=
  ∃ whole tail, l = whole ++ tail ∧ WholeDigits whole ∧ NoDigit tail ∧ FloatTail tail

theorem PositiveFloat.read (h : PositiveFloat l) (negative : Bool) :
    ∃ f, jsonUnsigned negative l = some (.float f, []) := by
  obtain ⟨whole, tail, rfl, hwhole, hno, f, rest', e, hf, he, hfloat⟩ := h
  rw [jsonUnsigned_whole hwhole hno]
  unfold jsonNumberFrom
  dsimp only
  rw [hf]
  dsimp only
  rw [he]
  dsimp only
  rw [if_neg hfloat]
  exact ⟨_, rfl⟩

/-- `repr` of the digits of a positive number. -/
theorem floatText_positive {ds : List Char} {point : Int} (hds : ∀ c ∈ ds, c.isDigit = true)
    (hlead : ∃ c l, ds = c :: l ∧ c ≠ '0') : PositiveFloat (floatText ds point) := by
  obtain ⟨c, l, rfl, hc⟩ := hlead
  have hzeros : ∀ n, ∀ d ∈ List.replicate n '0', d.isDigit = true := by
    intro n d hd
    rw [List.eq_of_mem_replicate hd]
    rfl
  unfold floatText
  split
  · split
    · refine ⟨['0'], _, rfl, wholeDigits_zero, noDigit_cons rfl, FloatTail.fraction (by simp) ?_⟩
      intro d hd
      rcases List.mem_append.1 hd with hd | hd
      · exact hzeros _ d hd
      · exact hds d hd
    · split
      · refine ⟨_, ['.', '0'], rfl, ⟨fun d hd => ?_, .inr ⟨c, _, rfl, hc⟩⟩, noDigit_cons rfl,
          FloatTail.fraction (List.cons_ne_nil _ _) digits_zero⟩
        rcases List.mem_append.1 hd with hd | hd
        · exact hds d hd
        · exact hzeros _ d hd
      · rename_i hpoint hlong
        obtain ⟨n, hn⟩ : ∃ n, point.toNat = n + 1 := ⟨point.toNat - 1, by omega⟩
        rw [List.append_assoc]
        refine ⟨_, '.' :: _, rfl, ⟨fun d hd => hds d (List.mem_of_mem_take hd),
          .inr ⟨c, l.take n, ?_, hc⟩⟩, noDigit_cons rfl, FloatTail.fraction ?_ fun d hd =>
            hds d (List.mem_of_mem_drop hd)⟩
        · rw [hn]
          rfl
        · intro hnil
          change (c :: l).drop point.toNat = [] at hnil
          rw [List.drop_eq_nil_iff] at hnil
          omega
  · dsimp only
    generalize hes : (if (Nat.toDigits 10 (point - 1).natAbs).length < 2 then
        '0' :: Nat.toDigits 10 (point - 1).natAbs else Nat.toDigits 10 (point - 1).natAbs) = es
    generalize hsign : (if point - 1 < 0 then ['-'] else ['+']) = sign
    have hesne : es ≠ [] := by
      rw [← hes]
      split
      · simp
      · exact Nat.toDigits_ne_nil
    have hesd : ∀ d ∈ es, d.isDigit = true := by
      intro d hd
      rw [← hes] at hd
      split at hd
      · rcases List.mem_cons.1 hd with rfl | hd
        · rfl
        · exact (toDigits_whole _).digits d hd
      · exact (toDigits_whole _).digits d hd
    obtain ⟨s, rfl, hs⟩ : ∃ s, sign = [s] ∧ (s = '-' ∨ s = '+') := by
      rw [← hsign]
      split
      · exact ⟨_, rfl, .inl rfl⟩
      · exact ⟨_, rfl, .inr rfl⟩
    have hwhole : WholeDigits [c] := by
      refine ⟨fun d hd => ?_, .inr ⟨c, [], rfl, hc⟩⟩
      rw [List.mem_singleton.1 hd]
      exact hds c List.mem_cons_self
    cases l with
    | nil =>
      exact ⟨[c], 'e' :: s :: es, rfl, hwhole, noDigit_cons rfl, FloatTail.exponent hs hesne hesd⟩
    | cons d l =>
      refine ⟨[c], '.' :: ((d :: l) ++ 'e' :: s :: es), ?_, hwhole, noDigit_cons rfl,
        FloatTail.both (by simp) (fun d' hd' => hds d' (List.mem_cons_of_mem _ hd')) hs hesne hesd⟩
      simp

theorem FloatParts.readsBack_zero {f : FloatParts} {point : Int} (hmant : 0 < f.mant)
    (hbelow : f.below ≤ 2) :
    f.readsBack 0 point = false := by
  have hlo : 0 < (4 * f.mant - f.below) * 2 ^ f.exp.toNat * 10 ^ (-point).toNat :=
    Nat.mul_pos (Nat.mul_pos (by omega) (Nat.pow_pos (by decide))) (Nat.pow_pos (by decide))
  unfold FloatParts.readsBack FloatParts.scaled
  dsimp only
  rw [Nat.zero_mul]
  split
  · rw [decide_eq_false (by omega), Bool.false_and]
  · rw [decide_eq_false (Nat.not_lt_zero _), Bool.false_and]

theorem FloatParts.digitsAt_pos {f : FloatParts} {point : Int} {d : Nat} (hmant : 0 < f.mant)
    (hbelow : f.below ≤ 2) (h : f.digitsAt? point = some d) : 0 < d := by
  have hzero : f.readsBack 0 point = false := f.readsBack_zero hmant hbelow
  unfold FloatParts.digitsAt? at h
  dsimp only at h
  generalize (f.scaled (4 * f.mant) point).1 / (f.scaled (4 * f.mant) point).2 = d' at h
  split at h
  · cases h
  · rename_i hread _
    cases h
    refine Nat.pos_of_ne_zero fun hd => ?_
    rw [hd, hzero] at hread
    cases hread
  · cases h
    exact Nat.succ_pos _
  · rename_i hread _
    have hd' : 0 < d' := by
      refine Nat.pos_of_ne_zero fun hd => ?_
      rw [hd, hzero] at hread
      cases hread
    split at h <;> cases h
    · exact hd'
    · exact Nat.succ_pos _

theorem FloatParts.ofBits_parts {bits : Nat} (hbits : 0 < bits) (hlt : bits < 2 ^ 63) :
    0 < (FloatParts.ofBits bits).mant ∧ (FloatParts.ofBits bits).below ≤ 2 := by
  unfold FloatParts.ofBits
  dsimp only
  split
  · dsimp only
    omega
  · dsimp only
    refine ⟨by omega, ?_⟩
    split <;> omega

/-- The shortest digits lead with a digit other than zero, or they are the one of zero. -/
theorem FloatParts.shortest_digits {f : FloatParts} (hmant : 0 < f.mant) (hbelow : f.below ≤ 2) :
    f.shortest = (['0'], 0) ∨
      (∀ c ∈ f.shortest.1, c.isDigit = true) ∧ ∃ c l, f.shortest.1 = c :: l ∧ c ≠ '0' := by
  unfold FloatParts.shortest
  dsimp only
  split
  · exact .inl rfl
  · rename_i d point hfind
    obtain ⟨n, -, hn⟩ := List.exists_of_findSome?_eq_some hfind
    obtain ⟨d', hd', hpair⟩ := Option.map_eq_some_iff.1 hn
    cases hpair
    have hpos := digitsAt_pos hmant hbelow hd'
    refine .inr ⟨fun c hc => ?_, ?_⟩
    · dsimp only at hc
      have hmem := List.mem_reverse.1 ((List.dropWhile_sublist _).subset (List.mem_reverse.1 hc))
      exact (toDigits_whole d).digits c hmem
    · obtain ⟨c, l, hl, hc⟩ := toDigits_leads hpos
      dsimp only
      rw [hl, List.reverse_cons, List.dropWhile_append]
      split
      · refine ⟨c, [], ?_, hc⟩
        rw [List.dropWhile_cons, decide_eq_false hc]
        rfl
      · exact ⟨c, _, by rw [List.reverse_append]; rfl, hc⟩

/-- What the text of a float is. -/
theorem jsonFloatText_cases (f : Float) :
    (∃ g, (jsonFloatText f, Json.float g) ∈ jsonWords) ∨ ∃ g,
      NumberText (jsonFloatText f) (.float g) := by
  unfold jsonFloatText
  dsimp only
  split
  · exact .inl ⟨0 / 0, by simp [jsonWords]⟩
  · rename_i hnan
    split
    · split
      · exact .inl ⟨-1 / 0, by simp [jsonWords]⟩
      · exact .inl ⟨1 / 0, by simp [jsonWords]⟩
    · rename_i hinf
      refine .inr ?_
      have hsigned : ∀ l : List Char, PositiveFloat l →
          ∃ g, NumberText ((if 2 ^ 63 ≤ f.toBits.toNat then ['-'] else []) ++ l) (.float g) := by
        intro l hl
        split
        · obtain ⟨g, hg⟩ := hl.read true
          exact ⟨g, .inl ⟨l, rfl, hg⟩⟩
        · obtain ⟨g, hg⟩ := hl.read false
          exact ⟨g, .inr hg⟩
      have hzero : PositiveFloat ['0', '.', '0'] :=
        ⟨['0'], ['.', '0'], rfl, wholeDigits_zero, noDigit_cons rfl,
          FloatTail.fraction (List.cons_ne_nil _ _) digits_zero⟩
      unfold pyReprFloat
      dsimp only
      rw [if_neg hnan, if_neg hinf]
      split
      · rw [String.toList_ofList]
        exact hsigned _ hzero
      · rename_i hbits
        rw [String.toList_ofList]
        refine hsigned _ ?_
        obtain ⟨hmant, hbelow⟩ := FloatParts.ofBits_parts (Nat.pos_of_ne_zero hbits)
          (Nat.mod_lt _ (Nat.pow_pos (by decide)))
        rcases FloatParts.shortest_digits hmant hbelow with h | ⟨hds, hlead⟩
        · rw [h]
          exact hzero
        · exact floatText_positive hds hlead

end Numbers

end PeHackathon
