import Mathlib.Tactic.Common

/-!
# The pieces of a list

Facts about `List.splitOn`: pieces by induction from the front (`lines_induction`), where a piece
stands (`exists_of_mem_splitOn`), that it has no separator (`not_mem_of_mem_splitOn`), what is added
at the end (`splitOn_append_last`), and maps that work on one piece at a time
(`splitOn_of_piecewise`).
-/

namespace Lib

variable {α β : Type}

/-- **Induction over pieces**: one piece, or a piece without the separator before the others. -/
theorem lines_induction {a : α} {motive : List α → Prop} (single : ∀ line, a ∉ line → motive line)
    (cons : ∀ line rest, a ∉ line → motive rest → motive (line ++ a :: rest)) (text : List α) :
    motive text := by
  by_cases ha : a ∈ text
  · obtain ⟨line, rest, htext, hline⟩ := List.eq_append_cons_of_mem ha
    have hshorter : rest.length < text.length := by
      rw [htext, List.length_append, List.length_cons]
      omega
    rw [htext]
    exact cons line rest hline (lines_induction single cons rest)
  · exact single text ha
termination_by text.length

section Pieces

variable [BEq α] [LawfulBEq α] [BEq β] [LawfulBEq β] {a : α} {b : β}

/-- What follows the last separator. -/
def lastPiece (a : α) (text : List α) : List α := (text.splitOn a).getLast?.getD []

omit [LawfulBEq α] in
theorem splitOn_eq_last (a : α) (text : List α) :
    text.splitOn a = (text.splitOn a).dropLast ++ [lastPiece a text] := by
  have hne : text.splitOn a ≠ [] := List.splitOn_ne_nil a text
  rw [lastPiece, List.getLast?_eq_some_getLast hne, Option.getD_some,
    List.dropLast_concat_getLast hne]

theorem lastPiece_of_not_mem {line : List α} (h : a ∉ line) : lastPiece a line = line := by
  rw [lastPiece, List.splitOn_eq_singleton h]
  rfl

theorem lastPiece_cons {line rest : List α} (h : a ∉ line) :
    lastPiece a (line ++ a :: rest) = lastPiece a rest := by
  rw [lastPiece, List.splitOn_append_cons_self_of_not_mem h, splitOn_eq_last, ← List.cons_append,
    List.getLast?_concat]
  rfl

omit [LawfulBEq α] in
/-- A place at the start of a piece, with more pieces before it. -/
theorem atStart_append [ReflBEq α] {line before : List α}
    (h : before.getLast?.all (· == a) = true) :
    (line ++ a :: before).getLast?.all (· == a) = true := by
  cases before with
  | nil =>
    rw [List.getLast?_concat]
    exact beq_self_eq_true a
  | cons c before =>
    rw [List.getLast?_eq_some_getLast (List.cons_ne_nil c before)] at h
    rw [List.getLast?_append, List.getLast?_cons_cons,
      List.getLast?_eq_some_getLast (List.cons_ne_nil c before)]
    exact h

/-- The place of the last piece. -/
theorem exists_eq_lastPiece (a : α) (text : List α) :
    ∃ before, text = before ++ lastPiece a text ∧ before.getLast?.all (· == a) = true := by
  induction text using lines_induction (a := a) with
  | single line h => exact ⟨[], by rw [lastPiece_of_not_mem h, List.nil_append], rfl⟩
  | cons line rest h ih =>
    obtain ⟨before, hrest, hbefore⟩ := ih
    refine ⟨line ++ a :: before, ?_, atStart_append hbefore⟩
    rw [lastPiece_cons h, List.append_assoc, List.cons_append, ← hrest]

/-- The place of a piece. -/
theorem exists_of_mem_splitOn {text piece : List α} (h : piece ∈ text.splitOn a) :
    ∃ before after, text = before ++ (piece ++ after) ∧ before.getLast?.all (· == a) = true := by
  induction text using lines_induction (a := a) with
  | single line hline =>
    rw [List.splitOn_eq_singleton hline, List.mem_singleton] at h
    exact ⟨[], [], by rw [h, List.append_nil, List.nil_append], rfl⟩
  | cons line rest hline ih =>
    rw [List.splitOn_append_cons_self_of_not_mem hline] at h
    rcases List.mem_cons.1 h with rfl | h
    · exact ⟨[], a :: rest, rfl, rfl⟩
    · obtain ⟨before, after, hrest, hbefore⟩ := ih h
      refine ⟨line ++ a :: before, after, ?_, atStart_append hbefore⟩
      rw [hrest, List.append_assoc, List.cons_append]

theorem not_mem_of_mem_splitOn {text piece : List α} (h : piece ∈ text.splitOn a) : a ∉ piece := by
  induction text using lines_induction (a := a) with
  | single line hline =>
    rw [List.splitOn_eq_singleton hline, List.mem_singleton] at h
    rw [h]
    exact hline
  | cons line rest hline ih =>
    rw [List.splitOn_append_cons_self_of_not_mem hline] at h
    rcases List.mem_cons.1 h with rfl | h
    · exact hline
    · exact ih h

/-- What is added without a separator goes to the last piece. -/
theorem splitOn_append_last {text more : List α} (h : a ∉ more) :
    (text ++ more).splitOn a = (text.splitOn a).dropLast ++ [lastPiece a text ++ more] := by
  induction text using lines_induction (a := a) with
  | single line hline =>
    have hboth : a ∉ line ++ more := fun hm => (List.mem_append.1 hm).elim hline h
    rw [List.splitOn_eq_singleton hboth, List.splitOn_eq_singleton hline,
      lastPiece_of_not_mem hline]
    rfl
  | cons line rest hline ih =>
    rw [List.append_assoc, List.cons_append, List.splitOn_append_cons_self_of_not_mem hline, ih,
      List.splitOn_append_cons_self_of_not_mem hline, lastPiece_cons hline,
      List.dropLast_cons_of_ne_nil (List.splitOn_ne_nil a rest), List.cons_append]

/-- A map that works on one piece at a time. -/
theorem splitOn_of_piecewise {f : List α → List β}
    (happend : ∀ line rest, f (line ++ a :: rest) = f line ++ b :: f rest)
    (hmem : ∀ line, a ∉ line → b ∉ f line) (text : List α) :
    (f text).splitOn b = (text.splitOn a).map f := by
  induction text using lines_induction (a := a) with
  | single line hline =>
    rw [List.splitOn_eq_singleton hline, List.splitOn_eq_singleton (hmem line hline)]
    rfl
  | cons line rest hline ih =>
    rw [happend, List.splitOn_append_cons_self_of_not_mem (hmem line hline), ih,
      List.splitOn_append_cons_self_of_not_mem hline, List.map_cons]

theorem lastPiece_of_piecewise {f : List α → List β}
    (happend : ∀ line rest, f (line ++ a :: rest) = f line ++ b :: f rest)
    (hmem : ∀ line, a ∉ line → b ∉ f line) (text : List α) :
    lastPiece b (f text) = f (lastPiece a text) := by
  rw [lastPiece, splitOn_of_piecewise happend hmem, splitOn_eq_last, List.map_append,
    List.map_singleton, List.getLast?_concat, Option.getD_some]

end Pieces

end Lib
