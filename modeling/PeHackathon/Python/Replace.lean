import Mathlib.Data.List.Infix
import Mathlib.Tactic.Common
import PeHackathon.Python.Json

/-!
# `str.replace`

`s.replace(old, new)` replaces the occurrences of `old` that do not overlap, from the left. A text
in which `old` does not occur stays, also after an `old` (`pyReplace_append`).
-/

namespace PeHackathon

/-- The rest of an occurrence is passed over. -/
theorem pyReplaceFrom_skip (old new t s : List Char) :
    pyReplaceFrom old new t.length (t ++ s) = pyReplaceFrom old new 0 s := by
  induction t with
  | nil => rfl
  | cons c t ih => exact ih

theorem pyReplaceFrom_eq_self {old new s : List Char} (h : ¬ old <:+: s) :
    pyReplaceFrom old new 0 s = s := by
  induction s with
  | nil => rfl
  | cons c s ih =>
    have hhere : ¬ old.isPrefixOf (c :: s) = true :=
      fun hp => h (List.isPrefixOf_iff_prefix.1 hp).isInfix
    rw [pyReplaceFrom, if_neg hhere, ih fun hs => h (List.infix_cons hs)]

theorem pyReplaceFrom_append {old new s : List Char} (hold : old ≠ []) :
    pyReplaceFrom old new 0 (old ++ s) = new ++ pyReplaceFrom old new 0 s := by
  cases old with
  | nil => exact absurd rfl hold
  | cons c t =>
    have hhere : (c :: t).isPrefixOf (c :: (t ++ s)) = true :=
      List.isPrefixOf_iff_prefix.2 (List.prefix_append (c :: t) s)
    rw [List.cons_append, pyReplaceFrom, if_pos hhere]
    exact congrArg (new ++ ·) (pyReplaceFrom_skip (c :: t) new t s)

/-- Only the `old` at the start is replaced, where there is no other. -/
theorem pyReplace_append {old new s : String} (hold : old ≠ "") (h : ¬ old.toList <:+: s.toList) :
    pyReplace (old ++ s) old new = new ++ s := by
  have hne : old.toList ≠ [] := fun hnil => hold (String.toList_eq_nil_iff.1 hnil)
  rw [pyReplace, String.toList_append, pyReplaceFrom_append hne, pyReplaceFrom_eq_self h,
    String.ofList_append, String.ofList_toList, String.ofList_toList]

end PeHackathon
