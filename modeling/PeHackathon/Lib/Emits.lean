import Mathlib.Data.List.Forall2
import PeHackathon.Lib.Alone
import PeHackathon.Lib.Record

/-!
# What a program emits

An answered call can leave entries in a log. `Prog.Emits` is about the text of a program: whatever
answers it gets, of those a server can give, its log is a good one at every call, and goes with the
result when it returns.

In a pool the entries of a program are those of its own calls (`Record.emits`), and a log that every
step of the server extends is the log of all the calls (`Record.log`).
-/

namespace Lib

variable {Q : Type} {R : Q → Type} {E : Type}

namespace Prog

variable {α β : Type}

section Text

variable (can : (q : Q) → R q → Prop) (emit : (q : Q) → R q → List E) (pending : List E → Prop)
  (post : α → List E → Prop)

/-- After the entries `es`, the log is `pending` at every call to come, and goes with the result in
the end. `can` is what a call can be answered, and `emit` what it then leaves. -/
inductive Emits : List E → Prog R α → Prop
  | ret {es : List E} {a : α} (h : post a es) : Emits es (ret a)
  | call {es : List E} {q : Q} {k : R q → Prog R α} (hes : pending es)
      (h : ∀ r, can q r → Emits (es ++ emit q r) (k r)) : Emits es (call q k)

end Text

variable {can : (q : Q) → R q → Prop} {emit : (q : Q) → R q → List E} {pending : List E → Prop}
  {post : α → List E → Prop} {es : List E}

theorem emits_ret {a : α} : (Prog.ret a : Prog R α).Emits can emit pending post es ↔ post a es :=
  ⟨fun h => by cases h; assumption, .ret⟩

theorem emits_call {q : Q} {k : R q → Prog R α} : (Prog.call q k).Emits can emit pending post es ↔
    pending es ∧ ∀ r, can q r → (k r).Emits can emit pending post (es ++ emit q r) :=
  ⟨fun h => by cases h; exact ⟨‹_›, ‹_›⟩, fun h => .call h.1 h.2⟩

/-- A call, and what follows it. -/
theorem Emits.perform {q : Q} {k : R q → Prog R α} (hes : pending es)
    (h : ∀ r, can q r → (k r).Emits can emit pending post (es ++ emit q r)) :
    (Prog.perform q >>= k).Emits can emit pending post es := .call hes h

theorem Emits.ite {c : Prop} [Decidable c] {p p' : Prog R α}
    (h : c → p.Emits can emit pending post es) (h' : ¬ c → p'.Emits can emit pending post es) :
    (if c then p else p').Emits can emit pending post es := by
  by_cases hc : c
  · rw [if_pos hc]
    exact h hc
  · rw [if_neg hc]
    exact h' hc

theorem Emits.bind {p : Prog R β} {f : β → Prog R α} {mid : β → List E → Prop}
    (hp : p.Emits can emit pending mid es)
    (hf : ∀ b es, mid b es → (f b).Emits can emit pending post es) :
    (p >>= f).Emits can emit pending post es := by
  induction hp with
  | ret h => exact hf _ _ h
  | call hes _ ih => exact .call hes ih

theorem Emits.mono {pending' : List E → Prop} {post' : α → List E → Prop} {p : Prog R α}
    (h : p.Emits can emit pending post es) (hpending : ∀ es, pending es → pending' es)
    (hpost : ∀ a es, post a es → post' a es) : p.Emits can emit pending' post' es := by
  induction h with
  | ret h => exact .ret (hpost _ _ h)
  | call hes _ ih => exact .call (hpending _ hes) ih

/-- A part that leaves no entries. -/
theorem Emits.silent {p : Prog R β} {f : β → Prog R α} {ψ : β → Prop} (hes : pending es)
    (hp : p.Obeys (fun q => ∀ r, emit q r = []) ψ)
    (hf : ∀ b, ψ b → (f b).Emits can emit pending post es) :
    (p >>= f).Emits can emit pending post es := by
  induction p with
  | ret b => exact hf b (obeys_ret.1 hp)
  | call q k ih =>
    obtain ⟨hq, hk⟩ := obeys_call.1 hp
    refine .call hes fun r _ => ?_
    rw [hq r, List.append_nil]
    exact ih r (hk r)

/-- A program that leaves no entries. -/
theorem Emits.of_obeys {p : Prog R α} (hes : pending es)
    (hp : p.Obeys (fun q => ∀ r, emit q r = []) fun a => post a es) :
    p.Emits can emit pending post es := by
  have h : (p >>= Prog.ret).Emits can emit pending post es :=
    Emits.silent hes hp fun _ hb => .ret hb
  rwa [bind_ret] at h

/-- At every call, and in the end if every result goes with a pending log. -/
theorem Emits.isPending {p : Prog R α} (h : p.Emits can emit pending post es)
    (hpost : ∀ a es, post a es → pending es) : pending es := by
  cases h with
  | ret h => exact hpost _ _ h
  | call hes _ => exact hes

end Prog

namespace Pool

variable {ι C W α B : Type} [DecidableEq ι]

/-- The log of a record. -/
def log (emit : (q : Q) → R q → List E) (l : List (Made R ι)) : List E :=
  l.reverse.flatMap fun m => emit m.call m.answer

/-- The entries of one program. -/
def logOf (emit : (q : Q) → R q → List E) (i : ι) (l : List (Made R ι)) : List E :=
  log emit (l.filter (·.caller = i))

variable {emit : (q : Q) → R q → List E} {can : (q : Q) → R q → Prop} {pending : List E → Prop}
  {post : α → List E → Prop} {S : Server R ι C W} {p₀ p : Pool R ι W α}
  {l : List (Made R ι)} {i : ι} {P : List (Made R ι) → Pool R ι W α → ι → C → Prop}

omit [DecidableEq ι] in
theorem log_cons (m : Made R ι) (l : List (Made R ι)) :
    log emit (m :: l) = log emit l ++ emit m.call m.answer := by
  rw [log, List.reverse_cons, List.flatMap_append]
  simp [log]

theorem logOf_cons_self {m : Made R ι} (h : m.caller = i) (l : List (Made R ι)) :
    logOf emit i (m :: l) = logOf emit i l ++ emit m.call m.answer := by
  rw [logOf, List.filter_cons_of_pos (by simpa using h), log_cons]
  rfl

theorem logOf_cons_ne {m : Made R ι} (h : m.caller ≠ i) (l : List (Made R ι)) :
    logOf emit i (m :: l) = logOf emit i l := by
  rw [logOf, List.filter_cons_of_neg (by simpa using h)]
  rfl

/-- **The entries of one program** go with what is left of it, whatever the others do. -/
theorem Record.emits (hcan : ∀ j c w q r w', S.respond j c w q = some (r, w') → can q r)
    (h : Record S p₀ P l p) (h₀ : (p₀.procs i).Emits can emit pending post []) :
    (p.procs i).Emits can emit pending post (logOf emit i l) := by
  refine h.inv (J := fun l p => (p.procs i).Emits can emit pending post (logOf emit i l)) h₀ ?_
  intro l p j c m p' hJ _ hm hn
  obtain ⟨q, k, r, w, hq, hr, rfl, rfl⟩ := made_cases hm hn
  by_cases hj : j = i
  · subst hj
    have hlog : logOf emit j (⟨j, q, r⟩ :: l) = logOf emit j l ++ emit q r := logOf_cons_self rfl l
    dsimp only
    rw [hlog, Function.update_self]
    rw [hq] at hJ
    exact (Prog.emits_call.1 hJ).2 r (hcan _ _ _ _ _ _ hr)
  · rw [logOf_cons_ne hj]
    dsimp only
    rw [Function.update_of_ne (Ne.symm hj)]
    exact hJ

/-- **A log in the world** that every answer extends by the entries of its call. -/
theorem Record.log (view : W → List B) {rel : E → B → Prop}
    (hstep : ∀ j c w q r w', S.respond j c w q = some (r, w') →
      ∃ rows, view w' = view w ++ rows ∧ List.Forall₂ rel (emit q r) rows)
    (h : Record S p₀ P l p) :
    ∃ rows, view p.world = view p₀.world ++ rows ∧ List.Forall₂ rel (Pool.log emit l) rows := by
  refine h.inv (J := fun l p => ∃ rows, view p.world = view p₀.world ++ rows ∧
    List.Forall₂ rel (Pool.log emit l) rows) ⟨[], (List.append_nil _).symm, .nil⟩ ?_
  rintro l p j c m p' ⟨rows, hview, hrel⟩ _ hm hn
  obtain ⟨q, k, r, w, -, hr, rfl, rfl⟩ := made_cases hm hn
  obtain ⟨rows', hview', hrel'⟩ := hstep _ _ _ _ _ _ hr
  refine ⟨rows ++ rows', ?_, ?_⟩
  · rw [hview', hview, List.append_assoc]
  · rw [log_cons]
    exact List.rel_append hrel hrel'

end Pool

end Lib
