import Mathlib.Data.List.Infix
import Mathlib.Tactic.Common

/-!
# Patterns of `LIKE`

`likeMatch`: what a pattern matches, with `%` for any text, `_` for any character, and a backslash
before a character that stands for itself. A pattern that ends in a single backslash is an error,
which is left out here.
-/

namespace PeHackathon

/-- Whether a text matches a pattern. -/
def likeMatch : List Char → List Char → Bool
  | [], t => t.isEmpty
  | '%' :: p, t => t.tails.any fun rest => likeMatch p rest
  | '_' :: p, t =>
    match t with
    | [] => false
    | _ :: rest => likeMatch p rest
  | '\\' :: c :: p, t =>
    match t with
    | [] => false
    | d :: rest => c == d && likeMatch p rest
  | c :: p, t =>
    match t with
    | [] => false
    | d :: rest => c == d && likeMatch p rest

/-- A character that a pattern does not take as itself. -/
def IsWild (c : Char) : Prop := c = '%' ∨ c = '_' ∨ c = '\\'

instance (c : Char) : Decidable (IsWild c) := inferInstanceAs (Decidable (_ ∨ _))

section Like

variable {p t : List Char} {c : Char}

theorem likeMatch_percent : likeMatch ('%' :: p) t = t.tails.any fun rest => likeMatch p rest := by
  rw [likeMatch]

theorem likeMatch_cons (hc : ¬ IsWild c) (d : Char) :
    likeMatch (c :: p) (d :: t) = (c == d && likeMatch p t) := by
  rw [likeMatch]
  · exact fun h => hc (.inl h)
  · exact fun h => hc (.inr (.inl h))
  · exact fun _ _ h => absurd (.inr (.inr h)) hc

theorem likeMatch_cons_nil (hc : ¬ IsWild c) : likeMatch (c :: p) [] = false := by
  rw [likeMatch]
  · exact fun h => hc (.inl h)
  · exact fun h => hc (.inr (.inl h))
  · exact fun _ _ h => absurd (.inr (.inr h)) hc

/-- The pattern `q%` of a plain text. -/
theorem likeMatch_start {q : List Char} (hq : ∀ c ∈ q, ¬ IsWild c) (t : List Char) :
    likeMatch (q ++ ['%']) t = true ↔ q <+: t := by
  induction q generalizing t with
  | nil =>
    rw [List.nil_append, likeMatch_percent, List.any_eq_true]
    refine iff_of_true ⟨[], ?_, rfl⟩ (List.nil_prefix)
    rw [List.mem_tails]
    exact List.nil_suffix
  | cons c q ih =>
    have hc := hq c List.mem_cons_self
    have htail := ih fun c' hc' => hq c' (List.mem_cons_of_mem _ hc')
    cases t with
    | nil =>
      rw [List.cons_append, likeMatch_cons_nil hc]
      simp
    | cons d t =>
      rw [List.cons_append, likeMatch_cons hc, Bool.and_eq_true, htail, beq_iff_eq,
        List.cons_prefix_cons]

/-- **The pattern `%q%` of a plain text matches the texts that contain it.** -/
theorem likeMatch_infix {q : List Char} (hq : ∀ c ∈ q, ¬ IsWild c) (t : List Char) :
    likeMatch ('%' :: q ++ ['%']) t = true ↔ q <:+: t := by
  rw [List.cons_append, likeMatch_percent, List.any_eq_true, List.infix_iff_prefix_suffix]
  simp only [List.mem_tails]
  constructor
  · rintro ⟨rest, hsuffix, hmatch⟩
    exact ⟨rest, (likeMatch_start hq rest).1 hmatch, hsuffix⟩
  · rintro ⟨rest, hprefix, hsuffix⟩
    exact ⟨rest, hsuffix, (likeMatch_start hq rest).2 hprefix⟩

end Like

/-- An underscore matches any character. -/
example : likeMatch "%a_b%".toList "xaxbx".toList = true := by decide

end PeHackathon
