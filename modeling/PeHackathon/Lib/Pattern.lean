import Mathlib.Tactic.Common

/-!
# Patterns with backtracking

Regular expressions made of single symbols, greedy repetitions of one class of symbols, and the two
line anchors. `Pattern.run` tries the possible ways through a pattern in the order of a backtracking
matcher, longest repetition first, and goes on with `k`; `Pattern.Leads` are all the ways through.
`search` takes the leftmost place where `run` succeeds.
-/

namespace Lib

/-- A part of a pattern. `terminator` are the symbols that end a line. -/
inductive PatternItem (α : Type)
  | one (p : α → Bool)
  | many (p : α → Bool)
  | lineStart (terminator : α → Bool)
  | lineEnd (terminator : α → Bool)

abbrev Pattern (α : Type) := List (PatternItem α)

namespace Pattern

variable {α β : Type}

/-- As many symbols of the class as the rest of the pattern lets it take. `prev` is the symbol
before. -/
def greedy (p : α → Bool) (k : Option α → List α → Option β) :
    Option α → List α → Option (List α × β)
  | prev, [] => (k prev []).map ([], ·)
  | prev, a :: text =>
    if p a then
      match greedy p k (some a) text with
      | some (taken, b) => some (a :: taken, b)
      | none => (k prev (a :: text)).map ([], ·)
    else (k prev (a :: text)).map ([], ·)

/-- What the first way through the pattern takes, and what `k` makes of the rest. -/
def run : Pattern α → (Option α → List α → Option β) → Option α → List α → Option (List α × β)
  | [], k, prev, text => (k prev text).map ([], ·)
  | .one _ :: _, _, _, [] => none
  | .one p :: items, k, _, a :: text =>
    if p a then (run items k (some a) text).map fun r => (a :: r.1, r.2) else none
  | .many p :: items, k, prev, text =>
    (greedy p (run items k) prev text).map fun r => (r.1 ++ r.2.1, r.2.2)
  | .lineStart terminator :: items, k, prev, text =>
    if prev.all terminator then run items k prev text else none
  | .lineEnd terminator :: items, k, prev, text =>
    if text.head?.all terminator then run items k prev text else none

/-- The leftmost match: what stands before it, what the pattern takes, and what `k` makes of the
rest. -/
def search (items : Pattern α) (k : Option α → List α → Option β) :
    Option α → List α → Option (List α × List α × β)
  | prev, [] => (run items k prev []).map ([], ·)
  | prev, a :: text =>
    match run items k prev (a :: text) with
    | some r => some ([], r)
    | none => (search items k (some a) text).map fun r => (a :: r.1, r.2)

/-- Whether the pattern matches somewhere. -/
def test (items : Pattern α) (text : List α) : Bool :=
  (search items (fun _ _ => some ()) none text).isSome

/-- Replace the leftmost match of `items` followed by `more`, by what `f` makes of the part that
`items` took. -/
def replaceFirst (items more : Pattern α) (f : List α → List α) (text : List α) : List α :=
  match search items (fun prev text => (run more (fun _ text => some text) prev text).map Prod.snd)
    none text with
  | none => text
  | some (before, taken, after) => before ++ f taken ++ after

/-- The symbols of a word, one after the other. -/
def word [BEq α] (w : List α) : Pattern α := w.map fun a => .one (· == a)

/-! ## The ways through a pattern -/

/-- One way through the pattern leads from `prev, text` to `prev', text'`. -/
def Leads : Pattern α → Option α → List α → Option α → List α → Prop
  | [], prev, text, prev', text' => prev' = prev ∧ text' = text
  | .one p :: items, _, text, prev', text' =>
    ∃ a rest, text = a :: rest ∧ p a = true ∧ Leads items (some a) rest prev' text'
  | .many p :: items, prev, text, prev', text' =>
    ∃ taken rest, text = taken ++ rest ∧ (∀ a ∈ taken, p a = true) ∧
      Leads items (taken.getLast?.or prev) rest prev' text'
  | .lineStart terminator :: items, prev, text, prev', text' =>
      prev.all terminator = true ∧ Leads items prev text prev' text'
  | .lineEnd terminator :: items, prev, text, prev', text' =>
      text.head?.all terminator = true ∧ Leads items prev text prev' text'

section Runs

variable {p : α → Bool} {k : Option α → List α → Option β} {prev prev' : Option α}
  {items : Pattern α} {text text' taken : List α} {b : β}

theorem getLast?_cons_or (a : α) (taken : List α) (prev : Option α) :
    (a :: taken).getLast?.or prev = taken.getLast?.or (some a) := by
  cases taken with
  | nil => rfl
  | cons a' taken =>
    rw [List.getLast?_cons_cons, List.getLast?_eq_some_getLast (List.cons_ne_nil a' taken)]; rfl

/-- Where the class stops. -/
theorem greedy_stop (h : (k prev text).map (([] : List α), ·) = some (taken, b)) :
    ∃ rest, text = taken ++ rest ∧ (∀ a ∈ taken, p a = true) ∧ k (taken.getLast?.or prev) rest =
      some b := by
  obtain ⟨b', hb', heq⟩ := Option.map_eq_some_iff.1 h
  obtain ⟨rfl, rfl⟩ := Prod.mk.inj heq
  exact ⟨text, rfl, fun a ha => absurd ha List.not_mem_nil, hb'⟩

theorem greedy_eq_some (h : greedy p k prev text = some (taken, b)) :
    ∃ rest, text = taken ++ rest ∧ (∀ a ∈ taken, p a = true) ∧ k (taken.getLast?.or prev) rest =
      some b := by
  induction text generalizing prev taken with
  | nil => exact greedy_stop h
  | cons a text ih =>
    rw [greedy] at h
    by_cases ha : p a = true
    · rw [if_pos ha] at h
      cases hrec : greedy p k (some a) text with
      | none =>
        rw [hrec] at h
        exact greedy_stop h
      | some r =>
        obtain ⟨taken', b'⟩ := r
        rw [hrec] at h
        obtain ⟨rfl, rfl⟩ := Prod.mk.inj (Option.some.inj h)
        obtain ⟨rest, htext, hclass, hk⟩ := ih hrec
        refine ⟨rest, by rw [htext, List.cons_append], fun a' ha' => ?_, by
          rw [getLast?_cons_or]; exact hk⟩
        rcases List.mem_cons.1 ha' with rfl | ha'
        · exact ha
        · exact hclass a' ha'
    · rw [if_neg ha] at h
      exact greedy_stop h

theorem greedy_isSome {rest : List α} (hclass : ∀ a ∈ taken, p a = true)
    (hk : (k (taken.getLast?.or prev) rest).isSome) : (greedy p k prev (taken ++ rest)).isSome := by
  induction taken generalizing prev with
  | nil =>
    have hstop : ((k prev rest).map (([] : List α), ·)).isSome := by
      rw [Option.isSome_map]
      exact hk
    rw [List.nil_append]
    cases rest with
    | nil => exact hstop
    | cons a rest =>
      rw [greedy]
      split
      · split
        · rfl
        · exact hstop
      · exact hstop
  | cons a taken ih =>
    rw [getLast?_cons_or] at hk
    have hrec := ih (fun a' ha' => hclass a' (List.mem_cons_of_mem a ha')) hk
    rw [List.cons_append, greedy, if_pos (hclass a List.mem_cons_self)]
    cases hgreedy : greedy p k (some a) (taken ++ rest) with
    | none =>
      rw [hgreedy] at hrec
      cases hrec
    | some r => rfl

/-- A text of the class is taken as a whole. -/
theorem greedy_all (hclass : ∀ a ∈ text, p a = true) (hk : ∀ prev, k prev [] = some b) :
    greedy p k prev text = some (text, b) := by
  induction text generalizing prev with
  | nil =>
    rw [greedy, hk]
    rfl
  | cons a text ih =>
    rw [greedy, if_pos (hclass a List.mem_cons_self), ih fun a' ha' =>
      hclass a' (List.mem_cons_of_mem a ha')]

/-- **What a run takes** leads to where `k` succeeds. -/
theorem run_eq_some (h : run items k prev text = some (taken, b)) :
    ∃ prev' text', Leads items prev text prev' text' ∧ text = taken ++ text' ∧
      k prev' text' = some b := by
  induction items generalizing prev text taken with
  | nil =>
    obtain ⟨b', hb', heq⟩ := Option.map_eq_some_iff.1 h
    obtain ⟨rfl, rfl⟩ := Prod.mk.inj heq
    exact ⟨prev, text, ⟨rfl, rfl⟩, rfl, hb'⟩
  | cons item items ih =>
    cases item with
    | one p =>
      cases text with
      | nil => cases h
      | cons a text =>
        rw [run] at h
        split at h
        · rename_i ha
          obtain ⟨⟨taken', b'⟩, hr, heq⟩ := Option.map_eq_some_iff.1 h
          obtain ⟨rfl, rfl⟩ := Prod.mk.inj heq
          obtain ⟨prev', text', hleads, htext, hk⟩ := ih hr
          exact ⟨prev', text', ⟨a, text, rfl, ha, hleads⟩, by rw [htext]; rfl, hk⟩
        · cases h
    | many p =>
      obtain ⟨⟨class', taken', b'⟩, hr, heq⟩ := Option.map_eq_some_iff.1 h
      obtain ⟨rfl, rfl⟩ := Prod.mk.inj heq
      obtain ⟨rest, htext, hclass, hrest⟩ := greedy_eq_some hr
      obtain ⟨prev', text', hleads, hrest', hk⟩ := ih hrest
      refine ⟨prev', text', ⟨class', rest, htext, hclass, hleads⟩, ?_, hk⟩
      rw [htext, hrest', List.append_assoc]
    | lineStart terminator =>
      rw [run] at h
      split at h
      · rename_i hprev
        obtain ⟨prev', text', hleads, htext, hk⟩ := ih h
        exact ⟨prev', text', ⟨hprev, hleads⟩, htext, hk⟩
      · cases h
    | lineEnd terminator =>
      rw [run] at h
      split at h
      · rename_i hnext
        obtain ⟨prev', text', hleads, htext, hk⟩ := ih h
        exact ⟨prev', text', ⟨hnext, hleads⟩, htext, hk⟩
      · cases h

/-- **A run finds a way** if there is one. -/
theorem run_isSome (h : Leads items prev text prev' text') (hk : (k prev' text').isSome) :
    (run items k prev text).isSome := by
  induction items generalizing prev text with
  | nil =>
    obtain ⟨rfl, rfl⟩ := h
    rw [run, Option.isSome_map]
    exact hk
  | cons item items ih =>
    cases item with
    | one p =>
      obtain ⟨a, rest, rfl, ha, hleads⟩ := h
      rw [run, if_pos ha, Option.isSome_map]
      exact ih hleads
    | many p =>
      obtain ⟨class', rest, rfl, hclass, hleads⟩ := h
      rw [run, Option.isSome_map]
      exact greedy_isSome hclass (ih hleads)
    | lineStart terminator =>
      rw [run, if_pos h.1]
      exact ih h.2
    | lineEnd terminator =>
      rw [run, if_pos h.1]
      exact ih h.2

/-! ## Parts of a pattern -/

theorem greedy_map {γ : Type} (f : β → γ) (p : α → Bool) (k : Option α → List α → Option β)
    (prev : Option α) (text : List α) : greedy p (fun prev text => (k prev text).map f) prev text =
      (greedy p k prev text).map fun r => (r.1, f r.2) := by
  induction text generalizing prev with
  | nil =>
    rw [greedy, greedy, Option.map_map, Option.map_map]
    rfl
  | cons a text ih =>
    rw [greedy, greedy, ih]
    split
    · cases greedy p k (some a) text with
      | none =>
        rw [Option.map_none]
        dsimp only
        rw [Option.map_map, Option.map_map]
        rfl
      | some r => rfl
    · rw [Option.map_map, Option.map_map]
      rfl

theorem run_append (items more : Pattern α) (k : Option α → List α → Option β) (prev : Option α)
    (text : List α) :
    run (items ++ more) k prev text =
      (run items (run more k) prev text).map fun r => (r.1 ++ r.2.1, r.2.2) := by
  induction items generalizing prev text with
  | nil =>
    rw [List.nil_append, run, Option.map_map]
    exact Option.map_id'.symm
  | cons item items ih =>
    rw [List.cons_append]
    cases item with
    | one p =>
      cases text with
      | nil => rfl
      | cons a text =>
        rw [run, run, ih]
        split
        · rw [Option.map_map, Option.map_map]
          rfl
        · rfl
    | many p =>
      have hk : run (items ++ more) k = fun prev text =>
          (run items (run more k) prev text).map fun r => (r.1 ++ r.2.1, r.2.2) := funext₂ ih
      rw [run, run, hk, greedy_map, Option.map_map, Option.map_map]
      exact congrArg (Option.map · _) (funext fun r => by
        simp only [Function.comp, List.append_assoc])
    | lineStart terminator =>
      rw [run, run, ih]
      split
      · rfl
      · rfl
    | lineEnd terminator =>
      rw [run, run, ih]
      split
      · rfl
      · rfl

theorem leads_append {more : Pattern α} : Leads (items ++ more) prev text prev' text' ↔
    ∃ prev₁ text₁, Leads items prev text prev₁ text₁ ∧ Leads more prev₁ text₁ prev' text' := by
  induction items generalizing prev text with
  | nil =>
    constructor
    · exact fun h => ⟨prev, text, ⟨rfl, rfl⟩, h⟩
    · rintro ⟨prev₁, text₁, ⟨rfl, rfl⟩, h⟩
      exact h
  | cons item items ih =>
    cases item with
    | one p =>
      constructor
      · rintro ⟨a, rest, rfl, ha, h⟩
        obtain ⟨prev₁, text₁, h₁, h₂⟩ := ih.1 h
        exact ⟨prev₁, text₁, ⟨a, rest, rfl, ha, h₁⟩, h₂⟩
      · rintro ⟨prev₁, text₁, ⟨a, rest, rfl, ha, h₁⟩, h₂⟩
        exact ⟨a, rest, rfl, ha, ih.2 ⟨prev₁, text₁, h₁, h₂⟩⟩
    | many p =>
      constructor
      · rintro ⟨class', rest, htext, hclass, h⟩
        obtain ⟨prev₁, text₁, h₁, h₂⟩ := ih.1 h
        exact ⟨prev₁, text₁, ⟨class', rest, htext, hclass, h₁⟩, h₂⟩
      · rintro ⟨prev₁, text₁, ⟨class', rest, htext, hclass, h₁⟩, h₂⟩
        exact ⟨class', rest, htext, hclass, ih.2 ⟨prev₁, text₁, h₁, h₂⟩⟩
    | lineStart terminator =>
      constructor
      · rintro ⟨hprev, h⟩
        obtain ⟨prev₁, text₁, h₁, h₂⟩ := ih.1 h
        exact ⟨prev₁, text₁, ⟨hprev, h₁⟩, h₂⟩
      · rintro ⟨prev₁, text₁, ⟨hprev, h₁⟩, h₂⟩
        exact ⟨hprev, ih.2 ⟨prev₁, text₁, h₁, h₂⟩⟩
    | lineEnd terminator =>
      constructor
      · rintro ⟨hnext, h⟩
        obtain ⟨prev₁, text₁, h₁, h₂⟩ := ih.1 h
        exact ⟨prev₁, text₁, ⟨hnext, h₁⟩, h₂⟩
      · rintro ⟨prev₁, text₁, ⟨hnext, h₁⟩, h₂⟩
        exact ⟨hnext, ih.2 ⟨prev₁, text₁, h₁, h₂⟩⟩

theorem leads_word [BEq α] [LawfulBEq α] {w : List α} :
    Leads (word w) prev text prev' text' ↔ text = w ++ text' ∧ prev' = w.getLast?.or prev := by
  induction w generalizing prev text with
  | nil =>
    exact ⟨fun ⟨hprev, htext⟩ => ⟨htext.symm, hprev⟩, fun ⟨htext, hprev⟩ => ⟨hprev, htext.symm⟩⟩
  | cons a w ih =>
    rw [getLast?_cons_or, List.cons_append]
    constructor
    · rintro ⟨a', rest, rfl, ha, h⟩
      obtain ⟨rfl, hprev⟩ := ih.1 h
      obtain rfl := beq_iff_eq.1 ha
      exact ⟨rfl, hprev⟩
    · rintro ⟨rfl, hprev⟩
      exact ⟨a, w ++ text', rfl, beq_self_eq_true a, ih.2 ⟨rfl, hprev⟩⟩

/-! ## The leftmost match -/

/-- The place of the leftmost match. -/
theorem search_eq_some {before : List α} (h : search items k prev text = some (before, taken, b)) :
    ∃ rest, text = before ++ rest ∧ run items k (before.getLast?.or prev) rest =
      some (taken, b) := by
  induction text generalizing prev before with
  | nil =>
    obtain ⟨r, hr, heq⟩ := Option.map_eq_some_iff.1 h
    obtain ⟨rfl, rfl⟩ := Prod.mk.inj heq
    exact ⟨[], rfl, hr⟩
  | cons a text ih =>
    rw [search] at h
    split at h
    · rename_i r hr
      obtain ⟨rfl, rfl⟩ := Prod.mk.inj (Option.some.inj h)
      exact ⟨a :: text, rfl, hr⟩
    · obtain ⟨⟨before', r⟩, hr, heq⟩ := Option.map_eq_some_iff.1 h
      obtain ⟨rfl, rfl⟩ := Prod.mk.inj heq
      obtain ⟨rest, htext, hrun⟩ := ih hr
      exact ⟨rest, by rw [htext, List.cons_append], by rw [getLast?_cons_or]; exact hrun⟩

theorem search_isSome {before rest : List α}
    (h : (run items k (before.getLast?.or prev) rest).isSome) :
    (search items k prev (before ++ rest)).isSome := by
  induction before generalizing prev with
  | nil =>
    rw [List.nil_append]
    cases rest with
    | nil =>
      rw [search, Option.isSome_map]
      exact h
    | cons a rest =>
      rw [search]
      split
      · rfl
      · rename_i hnone
        rw [List.getLast?_nil, Option.none_or, hnone] at h
        cases h
  | cons a before ih =>
    rw [getLast?_cons_or] at h
    rw [List.cons_append, search]
    split
    · rfl
    · rw [Option.isSome_map]
      exact ih h

/-- **A pattern matches** exactly if it leads on from some place of the text. -/
theorem test_iff : test items text = true ↔ ∃ before rest prev' text', text = before ++ rest ∧
    Leads items before.getLast? rest prev' text' := by
  constructor
  · intro h
    obtain ⟨⟨before, taken, b⟩, hsearch⟩ := Option.isSome_iff_exists.1 h
    obtain ⟨rest, htext, hrun⟩ := search_eq_some hsearch
    rw [Option.or_none] at hrun
    obtain ⟨prev', text', hleads, -, -⟩ := run_eq_some hrun
    exact ⟨before, rest, prev', text', htext, hleads⟩
  · rintro ⟨before, rest, prev', text', rfl, hleads⟩
    refine search_isSome ?_
    rw [Option.or_none]
    exact run_isSome hleads rfl

end Runs

end Pattern

end Lib
