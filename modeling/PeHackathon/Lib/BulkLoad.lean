import Mathlib.Data.List.Basic
import Mathlib.Tactic.Common

/-!
# Bulk loads

A table stores of a row what its columns take (`store`; `none` makes the statement raise), and two
rows that clash on a key may not both be there. `insertRow` is one row of an `INSERT`, which raises
on a clash or skips the row (`ON CONFLICT DO NOTHING`); references are checked by `allowed`. A load
is an `INSERT` for each batch of rows, in one transaction: if a statement raises there is no result.

* `load_of_fits`: rows that fit the columns, clash with nothing and may refer to what they refer to
  are loaded as they are.
* `load_subset`, `load_stored`, `load_length`: what a load that raises nothing keeps, and what it
  adds.
-/

namespace Lib

universe u

structure TableDef (α : Type u) where
  store : α → Option α
  clash : α → α → Bool

namespace TableDef

variable {α : Type u} (t : TableDef α) (allowed : α → Bool) (ignore : Bool)

/-- One row of an `INSERT`. -/
def insertRow (rows : List α) (a : α) : Option (List α) :=
  match t.store a with
  | none => none
  | some row =>
    if rows.any (t.clash row) then if ignore then some rows else none
    else if allowed row then some (rows ++ [row])
    else none

/-- An `INSERT` of a batch. -/
def insertMany (rows batch : List α) : Option (List α) :=
  batch.foldlM (t.insertRow allowed ignore) rows

/-- Batches of `n` rows. -/
def chunked (n : Nat) (l : List α) : List (List α) :=
  (List.range ((l.length + n - 1) / n)).map fun k => (l.drop (k * n)).take n

/-- A load in batches of `n` rows. -/
def load (n : Nat) (rows new : List α) : Option (List α) :=
  (chunked n new).foldlM (t.insertMany allowed ignore) rows

/-! ## Batches -/

theorem flatten_chunks (n : Nat) (l : List α) (m : Nat) :
    ((List.range m).map fun k => (l.drop (k * n)).take n).flatten = l.take (m * n) := by
  induction m with
  | zero => simp
  | succ m ih =>
    rw [List.range_succ, List.map_append, List.flatten_append, ih, Nat.succ_mul, List.take_add]
    simp

theorem chunked_flatten {n : Nat} (hn : 0 < n) (l : List α) : (chunked n l).flatten = l := by
  unfold chunked
  rw [flatten_chunks]
  refine List.take_of_length_le ?_
  have hdiv := Nat.div_add_mod (l.length + n - 1) n
  have hmod := Nat.mod_lt (l.length + n - 1) hn
  rw [Nat.mul_comm] at hdiv
  omega

theorem foldlM_flatten {σ : Type u} (step : σ → α → Option σ) (batches : List (List α)) (s : σ) :
    batches.foldlM (fun s batch => batch.foldlM step s) s = batches.flatten.foldlM step s := by
  induction batches generalizing s with
  | nil => rfl
  | cons batch batches ih =>
    rw [List.foldlM_cons, List.flatten_cons, List.foldlM_append]
    congr 1
    funext s'
    exact ih s'

/-- The batches do not matter to the result. -/
theorem load_eq {n : Nat} (hn : 0 < n) (rows new : List α) :
    t.load allowed ignore n rows new = new.foldlM (t.insertRow allowed ignore) rows := by
  unfold load insertMany
  rw [foldlM_flatten, chunked_flatten hn]

/-! ## One row -/

section Row

variable {t allowed ignore} {rows rows' : List α} {a : α}

/-- Everything one row of an `INSERT` can do without raising. -/
theorem insertRow_cases (h : t.insertRow allowed ignore rows a = some rows') :
    ∃ row, t.store a = some row ∧
      (rows' = rows ∧ ignore = true ∨ rows' = rows ++ [row]) := by
  unfold insertRow at h
  split at h
  · cases h
  · rename_i row hrow
    refine ⟨row, hrow, ?_⟩
    split at h
    · split at h
      · rename_i hignore
        exact .inl ⟨(Option.some.inj h).symm, hignore⟩
      · cases h
    · split at h
      · exact .inr (Option.some.inj h).symm
      · cases h

/-- A row that fits and clashes with nothing is appended. -/
theorem insertRow_of_fits (hfit : t.store a = some a) (hfree : ∀ r ∈ rows, t.clash a r = false)
    (hallowed : allowed a = true) : t.insertRow allowed ignore rows a = some (rows ++ [a]) := by
  have hany : rows.any (t.clash a) = false := by
    rw [List.any_eq_false]
    intro r hr
    rw [hfree r hr]
    exact Bool.false_ne_true
  simp [insertRow, hfit, hany, hallowed]

/-- A row that fits and clashes is skipped. -/
theorem insertRow_of_clash (hfit : t.store a = some a) {r : α} (hr : r ∈ rows)
    (hclash : t.clash a r = true) :
    t.insertRow allowed true rows a = some rows := by
  have hany : rows.any (t.clash a) = true := List.any_eq_true.2 ⟨r, hr, hclash⟩
  simp [insertRow, hfit, hany]

end Row

/-! ## Loads -/

section Load

variable {t allowed ignore} {n : Nat} {rows new out : List α}

/-- **A load of rows that fit**, clash with nothing and refer to what is there: they are
appended. -/
theorem load_of_fits (hn : 0 < n) (hfit : ∀ a ∈ new, t.store a = some a)
    (hapart : new.Pairwise fun a b => t.clash b a = false)
    (hfree : ∀ a ∈ new, ∀ r ∈ rows, t.clash a r = false) (hallowed : ∀ a ∈ new, allowed a = true) :
    t.load allowed ignore n rows new = some (rows ++ new) := by
  rw [load_eq _ _ _ hn]
  induction new generalizing rows with
  | nil => simp
  | cons a new ih =>
    rw [List.forall_mem_cons] at hfit hfree hallowed
    rw [List.pairwise_cons] at hapart
    rw [List.foldlM_cons, insertRow_of_fits hfit.1 hfree.1 hallowed.1]
    have hrest : ∀ b ∈ new, ∀ r ∈ rows ++ [a], t.clash b r = false := by
      intro b hb r hr
      rcases List.mem_append.1 hr with hr | hr
      · exact hfree.2 b hb r hr
      · rw [List.mem_singleton.1 hr]
        exact hapart.1 b hb
    have hnext := ih hfit.2 hapart.2 hrest hallowed.2
    simpa using hnext

/-- The same where the one row that is there already is skipped. -/
theorem load_ignore_of_mem {d : α} (hn : 0 < n) (hfit : ∀ a ∈ new, t.store a = some a)
    (hapart : new.Pairwise fun a b => t.clash b a = false)
    (hsymm : ∀ a b, t.clash a b = t.clash b a) (hself : t.clash d d = true) (hd : d ∈ new)
    (hallowed : ∀ a ∈ new, allowed a = true) :
    ∃ l, t.load allowed true n [d] new = some (d :: l) ∧ (d :: l).Perm new := by
  obtain ⟨before, after, rfl⟩ := List.append_of_mem hd
  rw [List.pairwise_append, List.pairwise_cons] at hapart
  obtain ⟨hbefore, ⟨hd', hafter⟩, hcross⟩ := hapart
  have hstart : before.foldlM (t.insertRow allowed true) [d] = some ([d] ++ before) := by
    rw [← load_eq _ _ _ hn]
    refine load_of_fits hn (fun a ha => hfit a (List.mem_append_left _ ha)) hbefore ?_
      fun a ha => hallowed a (List.mem_append_left _ ha)
    intro a ha r hr
    rw [List.mem_singleton.1 hr, hsymm]
    exact hcross a ha d List.mem_cons_self
  have hskip : t.insertRow allowed true ([d] ++ before) d = some ([d] ++ before) :=
    insertRow_of_clash (hfit d hd) (by simp) hself
  have hend :
      after.foldlM (t.insertRow allowed true) ([d] ++ before) = some ([d] ++ before ++ after) := by
    rw [← load_eq _ _ _ hn]
    refine load_of_fits hn (fun a ha => hfit a (by simp [ha])) hafter ?_ fun a ha =>
      hallowed a (by simp [ha])
    intro a ha r hr
    rcases List.mem_append.1 hr with hr | hr
    · rw [List.mem_singleton.1 hr]
      exact hd' a ha
    · exact hcross r hr a (List.mem_cons_of_mem _ ha)
  refine ⟨before ++ after, ?_, List.perm_middle.symm⟩
  rw [load_eq _ _ _ hn, List.foldlM_append, hstart]
  simp only [Option.bind_eq_bind, Option.bind_some, List.foldlM_cons]
  rw [hskip]
  simpa using hend

/-- What each row preserves, the load preserves. -/
theorem load_invariant {I : List α → Prop} (hn : 0 < n)
    (hstep : ∀ rows a rows', I rows → t.insertRow allowed ignore rows a = some rows' → I rows')
    (hrows : I rows) (h : t.load allowed ignore n rows new = some out) : I out := by
  rw [load_eq _ _ _ hn] at h
  induction new generalizing rows with
  | nil => exact Option.some.inj h ▸ hrows
  | cons a new ih =>
    rw [List.foldlM_cons] at h
    obtain ⟨next, hnext, hrest⟩ := Option.bind_eq_some_iff.1 h
    exact ih (hstep rows a next hrows hnext) hrest

/-- A load removes nothing. -/
theorem load_subset (hn : 0 < n) (h : t.load allowed ignore n rows new = some out) :
    ∀ r ∈ rows, r ∈ out := by
  refine load_invariant (I := fun l => ∀ r ∈ rows, r ∈ l) hn ?_ (fun r hr => hr) h
  intro l a l' hl hstep r hr
  obtain ⟨row, -, ⟨rfl, -⟩ | rfl⟩ := insertRow_cases hstep
  · exact hl r hr
  · exact List.mem_append_left _ (hl r hr)

/-- A load leaves rows that the columns take as they are. -/
theorem load_stored (hn : 0 < n) (hidem : ∀ a row, t.store a = some row → t.store row = some row)
    (hrows : ∀ r ∈ rows, t.store r = some r) (h : t.load allowed ignore n rows new = some out) :
    ∀ r ∈ out, t.store r = some r := by
  refine load_invariant (I := fun l => ∀ r ∈ l, t.store r = some r) hn ?_ hrows h
  intro l a l' hl hstep r hr
  obtain ⟨row, hrow, ⟨rfl, -⟩ | rfl⟩ := insertRow_cases hstep
  · exact hl r hr
  · rcases List.mem_append.1 hr with hr | hr
    · exact hl r hr
    · rw [List.mem_singleton.1 hr]
      exact hidem a row hrow

/-- A load that skips nothing adds a row for each. -/
theorem load_length (hn : 0 < n) (h : t.load allowed false n rows new = some out) :
    out.length = rows.length + new.length := by
  rw [load_eq _ _ _ hn] at h
  induction new generalizing rows with
  | nil => rw [← Option.some.inj h]; rfl
  | cons a new ih =>
    rw [List.foldlM_cons] at h
    obtain ⟨next, hnext, hrest⟩ := Option.bind_eq_some_iff.1 h
    obtain ⟨row, -, ⟨-, hno⟩ | rfl⟩ := insertRow_cases hnext
    · cases hno
    · rw [ih hrest, List.length_append, List.length_cons, List.length_cons, List.length_nil]
      omega

end Load

end TableDef

end Lib
