import PeHackathon.Lib.Lines
import PeHackathon.Setup.IngestToken

/-!
# Lines that name the token

The reader and the regular expressions look for the same thing, white space, `LOG_INGEST_TOKEN`,
white space and `=` (`NamesToken`), but in different texts: the reader in one line
(`lineToken_eq_some`), the expressions from a line start on (`tokenPattern_test`,
`tokenValuePattern_test`).
-/

namespace PeHackathon.Setup

open Js Lib

/-- The text begins with the name and the equals sign, white space around the name; `value`
follows. -/
def NamesToken (text value : List Char) : Prop :=
  ∃ before between, text = before ++ (tokenName ++ (between ++ '=' :: value)) ∧
    (∀ c ∈ before, isSpace c = true) ∧ ∀ c ∈ between, isSpace c = true

theorem NamesToken.append {text value : List Char} (h : NamesToken text value) (more : List Char) :
    NamesToken (text ++ more) (value ++ more) := by
  obtain ⟨before, between, rfl, hbefore, hbetween⟩ := h
  refine ⟨before, between, ?_, hbefore, hbetween⟩
  simp only [List.append_assoc, List.cons_append]

/-! ## The reader -/

section Reader

variable {line value val t : List Char}

theorem tokenName_plain : ∀ c ∈ tokenName, isSpace c = false ∧ c ≠ '=' := by
  have hall : tokenName.all (fun c => !isSpace c && c != '=') = true := by decide
  intro c hc
  simpa using List.all_eq_true.1 hall c hc

theorem isSpace_ne {c d : Char} (hc : isSpace c = true) (hd : isSpace d = false) : c ≠ d := by
  rintro rfl
  rw [hc] at hd
  cases hd

theorem trimChars_tokenName : trimChars tokenName = tokenName :=
  trimChars_eq_self (fun c hc => (tokenName_plain c (List.mem_of_head? hc)).1)
    fun c hc => (tokenName_plain c (List.mem_of_getLast? hc)).1

theorem tokenName_head : tokenName = 'L' :: tokenName.tail := rfl

/-- A line that names the token, without the white space around it. -/
theorem NamesToken.trimmed (h : NamesToken line value) :
    ∃ between, (∀ c ∈ between, isSpace c = true) ∧
    trimChars line = (tokenName ++ between) ++ '=' :: value.rdropWhile isSpace := by
  obtain ⟨before, between, rfl, hbefore, hbetween⟩ := h
  refine ⟨between, hbetween, ?_⟩
  have hcut : before ++ (tokenName ++ (between ++ '=' :: value)) =
      before ++ ((tokenName ++ between) ++ '=' :: value.rdropWhile isSpace ++
        value.rtakeWhile isSpace) := by
    simp only [List.append_assoc, List.cons_append, List.rdropWhile_append_rtakeWhile]
  rw [hcut, trimChars_append_left hbefore, trimChars_append_right fun c hc =>
    List.mem_rtakeWhile_imp hc]
  refine trimChars_eq_self (fun c hc => ?_) fun c hc => ?_
  · rw [tokenName_head, List.cons_append, List.cons_append, List.head?_cons] at hc
    rw [← Option.some.inj hc]
    decide
  · by_cases hnil : value.rdropWhile isSpace = []
    · rw [hnil, List.getLast?_concat] at hc
      rw [← Option.some.inj hc]
      decide
    · have hlast := List.rdropWhile_last_not isSpace value hnil
      rw [List.getLast?_append, List.getLast?_cons_of_ne_nil hnil,
        List.getLast?_eq_some_getLast hnil, Option.some_or] at hc
      rw [← Option.some.inj hc]
      exact Bool.eq_false_iff.2 hlast

theorem lineAssignment_namesToken (h : NamesToken line value) :
    lineAssignment line = some (tokenName, trimChars value) := by
  obtain ⟨between, hbetween, hline⟩ := h.trimmed
  have hkey : '=' ∉ tokenName ++ between := fun hmem => by
    rcases List.mem_append.1 hmem with hmem | hmem
    · exact (tokenName_plain _ hmem).2 rfl
    · exact isSpace_ne (hbetween _ hmem) (by decide) rfl
  have hplain : ¬ (trimChars line = [] ∨ (trimChars line).head? = some '#') := by
    rw [hline, tokenName_head, List.cons_append, List.cons_append, List.head?_cons]
    exact not_or.2 ⟨List.cons_ne_nil _ _, by decide⟩
  have hpos : (tokenName ++ between).length ≠ 0 := by
    rw [tokenName_head, List.cons_append, List.length_cons]
    exact Nat.succ_ne_zero _
  have hvalue : trimChars (value.rdropWhile isSpace) = trimChars value := by
    have htail : ∀ c ∈ value.rtakeWhile isSpace, isSpace c = true :=
      fun c hc => List.mem_rtakeWhile_imp hc
    have hcut := trimChars_append_right htail (value.rdropWhile isSpace)
    rw [List.rdropWhile_append_rtakeWhile] at hcut
    exact hcut.symm
  have hrest : ((tokenName ++ between) ++ '=' :: value.rdropWhile isSpace).drop
      ((tokenName ++ between).length + 1) =
      value.rdropWhile isSpace := by
    rw [← List.drop_drop, List.drop_left]
    rfl
  unfold lineAssignment
  dsimp only
  rw [if_neg hplain, hline, idxOf?_of_first hkey]
  dsimp only
  rw [if_neg hpos, List.take_left, hrest, trimChars_append_right hbetween,
    trimChars_tokenName, hvalue]

theorem lineAssignment_key (h : lineAssignment line = some (tokenName, val)) :
    ∃ value, NamesToken line value ∧ val = trimChars value := by
  obtain ⟨l, r, hline, hl, hr⟩ := exists_trimChars line
  unfold lineAssignment at h
  dsimp only at h
  generalize trimChars line = s at h hline
  split at h
  · cases h
  · split at h
    · cases h
    · rename_i eq heq
      obtain ⟨hlt, hat, -⟩ := List.idxOf?_eq_some_iff.1 heq
      split at h
      · cases h
      · obtain ⟨hkey, rfl⟩ := Prod.mk.inj (Option.some.inj h)
        obtain ⟨before, between, htake, hbefore, hbetween⟩ := exists_trimChars (s.take eq)
        rw [hkey] at htake
        have hs : s = before ++ (tokenName ++ (between ++ '=' :: s.drop (eq + 1))) := by
          rw [← hat, ← List.drop_eq_getElem_cons hlt, ← List.append_assoc
            tokenName, ← List.append_assoc before, ← htake, List.take_append_drop]
        refine ⟨s.drop (eq + 1) ++ r, ⟨l ++ before, between, ?_, fun c hc => ?_, hbetween⟩,
          (trimChars_append_right hr _).symm⟩
        · rw [hline]
          nth_rewrite 1 [hs]
          simp only [List.append_assoc, List.cons_append]
        · exact (List.mem_append.1 hc).elim (hl c) (hbefore c)

/-- **The token of a line.** -/
theorem lineToken_eq_some : lineToken line = some t ↔
    ∃ value, NamesToken line value ∧ trimChars (unquote (trimChars value)) = t ∧ t ≠ [] := by
  constructor
  · intro h
    unfold lineToken at h
    split at h
    · cases h
    · rename_i key val hassign
      split at h
      · rename_i hkey
        rw [hkey] at hassign
        obtain ⟨value, hnames, rfl⟩ := lineAssignment_key hassign
        dsimp only at h
        split at h
        · cases h
        · rename_i hsome
          obtain rfl := Option.some.inj h
          exact ⟨value, hnames, rfl, hsome⟩
      · cases h
  · rintro ⟨value, hnames, rfl, hsome⟩
    unfold lineToken
    rw [lineAssignment_namesToken hnames]
    dsimp only
    rw [if_pos rfl, if_neg hsome]

end Reader

/-! ## The regular expressions -/

section Patterns

variable {text text' value t : List Char} {prev prev' : Option Char}

theorem leads_tokenPattern : Pattern.Leads tokenPattern prev text prev' text' ↔
    prev.all lineTerminator = true ∧ NamesToken text text' ∧ prev' = some '=' := by
  unfold tokenPattern
  constructor
  · rintro ⟨hprev, before, rest, rfl, hbefore, h⟩
    obtain ⟨prev₁, text₁, hword, between, rest', rfl, hbetween, c, rest'', rfl, hc, rfl, rfl⟩ :=
      Pattern.leads_append.1 h
    obtain ⟨rfl, -⟩ := Pattern.leads_word.1 hword
    obtain rfl := beq_iff_eq.1 hc
    exact ⟨hprev, ⟨before, between, rfl, hbefore, hbetween⟩, rfl⟩
  · rintro ⟨hprev, ⟨before, between, rfl, hbefore, hbetween⟩, rfl⟩
    exact ⟨hprev, before, _, rfl, hbefore,
      Pattern.leads_append.2 ⟨_, _, Pattern.leads_word.2 ⟨rfl, rfl⟩, between, _, rfl, hbetween, '=',
        _, rfl, rfl, rfl, rfl⟩⟩

/-- The text names the token at the start of a line; `value` follows. -/
def NamesTokenAt (text value : List Char) : Prop :=
  ∃ before rest, text = before ++ rest ∧ before.getLast?.all lineTerminator = true ∧
    NamesToken rest value

theorem tokenPattern_test : tokenPattern.test text = true ↔ ∃ value, NamesTokenAt text value := by
  rw [Pattern.test_iff]
  constructor
  · rintro ⟨before, rest, prev', value, htext, hleads⟩
    obtain ⟨hbefore, hrest, -⟩ := leads_tokenPattern.1 hleads
    exact ⟨value, before, rest, htext, hbefore, hrest⟩
  · rintro ⟨value, before, rest, htext, hbefore, hrest⟩
    exact ⟨before, rest, some '=', value, htext, leads_tokenPattern.2 ⟨hbefore, hrest, rfl⟩⟩

/-- `\s*\S` matches what is not white space throughout. -/
theorem leads_visible :
    (∃ prev' text', Pattern.Leads [.many isSpace, .one fun c => !isSpace c]
      prev value prev' text') ↔
    ∃ c ∈ value, isSpace c = false := by
  constructor
  · rintro ⟨prev', text', taken, rest, rfl, -, c, rest', rfl, hc, rfl, rfl⟩
    exact ⟨c, List.mem_append_right _ List.mem_cons_self, by simpa using hc⟩
  · rintro ⟨c, hc, hvisible⟩
    cases hdrop : value.dropWhile isSpace with
    | nil =>
      rw [List.dropWhile_eq_nil_iff.1 hdrop c hc] at hvisible
      cases hvisible
    | cons c' rest =>
      have hfirst := List.head?_dropWhile_not isSpace value
      rw [hdrop] at hfirst
      refine ⟨some c', rest, value.takeWhile isSpace, c' :: rest, ?_,
        fun c hc => List.mem_takeWhile_imp hc, c', rest, rfl, by simpa using hfirst, rfl, rfl⟩
      rw [← hdrop, List.takeWhile_append_dropWhile]

theorem tokenValuePattern_test : tokenValuePattern.test text = true ↔
    ∃ value, NamesTokenAt text value ∧ ∃ c ∈ value, isSpace c = false := by
  rw [Pattern.test_iff]
  unfold tokenValuePattern
  constructor
  · rintro ⟨before, rest, prev', text', htext, hleads⟩
    obtain ⟨prev₁, value, hname, hvalue⟩ := Pattern.leads_append.1 hleads
    obtain ⟨hbefore, hrest, -⟩ := leads_tokenPattern.1 hname
    exact ⟨value, ⟨before, rest, htext, hbefore, hrest⟩, leads_visible.1 ⟨prev', text', hvalue⟩⟩
  · rintro ⟨value, ⟨before, rest, htext, hbefore, hrest⟩, hvisible⟩
    obtain ⟨prev', text', hvalue⟩ := leads_visible.2 hvisible
    exact ⟨before, rest, prev', text', htext,
      Pattern.leads_append.2 ⟨some '=', value, leads_tokenPattern.2 ⟨hbefore, hrest, rfl⟩, hvalue⟩⟩

theorem tokenValuePattern_test_eq_false : tokenValuePattern.test text = false ↔
    ∀ value, NamesTokenAt text value → ∀ c ∈ value, isSpace c = true := by
  rw [Bool.eq_false_iff, ne_eq, tokenValuePattern_test]
  constructor
  · intro h value hvalue c hc
    by_contra hvisible
    exact h ⟨value, hvalue, c, hc, Bool.eq_false_iff.2 hvisible⟩
  · rintro h ⟨value, hvalue, c, hc, hvisible⟩
    rw [h value hvalue c hc] at hvisible
    cases hvisible

/-- What the rest of the expression takes after white space that goes on to the end. -/
theorem run_blank {k : Option Char → List Char → Option (List Char)}
    (hblank : ∀ c ∈ value, isSpace c = true) (hk : ∀ prev, k prev [] = some []) :
    Pattern.run [.many isSpace] k prev value = some (value, []) := by
  have hend : ∀ prev, Pattern.run [] k prev [] = some (([] : List Char), ([] : List Char)) :=
      fun prev => by
    rw [Pattern.run, hk]
    rfl
  rw [Pattern.run, Pattern.greedy_all hblank hend, Option.map_some, List.append_nil]

/-- **The replacement** adds the token at the end of the text when the expression with `\S` matches
nowhere: `\s*` then takes all that follows the equals sign. -/
theorem replaceToken_eq (hname : tokenPattern.test text = true)
    (hblank : tokenValuePattern.test text = false) :
    replaceToken t text = text ++ t := by
  have hafter := tokenValuePattern_test_eq_false.1 hblank
  unfold replaceToken Pattern.replaceFirst
  generalize hk : (fun prev text =>
    (Pattern.run [.many fun c => !lineTerminator c, .lineEnd lineTerminator]
    (fun _ text => some text) prev text).map Prod.snd) = k
  have hkend : ∀ prev : Option Char, k prev [] = some [] := fun prev => by
    rw [← hk]
    rfl
  have hfound : (Pattern.search (tokenPattern ++ [.many isSpace]) k none text).isSome := by
    obtain ⟨value, before, rest, rfl, hbefore, hrest⟩ := tokenPattern_test.1 hname
    have hspaces := hafter value ⟨before, rest, rfl, hbefore, hrest⟩
    have hleads : Pattern.Leads (tokenPattern ++ [.many isSpace]) (before.getLast?.or none) rest
        (value.getLast?.or (some '=')) [] := by
      rw [Option.or_none]
      exact Pattern.leads_append.2 ⟨some '=', value, leads_tokenPattern.2 ⟨hbefore, hrest, rfl⟩,
        value, [], (List.append_nil value).symm, hspaces, rfl, rfl⟩
    refine Pattern.search_isSome (Pattern.run_isSome hleads ?_)
    rw [hkend]
    rfl
  obtain ⟨⟨before, taken, after⟩, hsearch⟩ := Option.isSome_iff_exists.1 hfound
  rw [hsearch]
  dsimp only
  obtain ⟨rest, htext, hrun⟩ := Pattern.search_eq_some hsearch
  rw [Pattern.run_append, Option.or_none] at hrun
  obtain ⟨⟨named, blank, after'⟩, hrun, heq⟩ := Option.map_eq_some_iff.1 hrun
  obtain ⟨htaken, hafter'⟩ := Prod.mk.inj heq
  obtain ⟨prev', value, hleads, hrest, hvalue⟩ := Pattern.run_eq_some hrun
  obtain ⟨hbefore, hnames, -⟩ := leads_tokenPattern.1 hleads
  rw [run_blank (hafter value ⟨before, rest, htext, hbefore, hnames⟩) hkend] at hvalue
  obtain ⟨hblank', hnil⟩ := Prod.mk.inj (Option.some.inj hvalue)
  dsimp only at htaken hafter'
  have hall : before ++ taken = text := by rw [← htaken, ← hblank', htext, hrest]
  rw [← hafter', ← hnil, List.append_nil, ← hall, List.append_assoc]

end Patterns

end PeHackathon.Setup
