import Mathlib.Algebra.Order.PUnit
import Mathlib.Tactic.Common

/-!
# Programs over atomic calls

A program (`Prog`) is a tree of calls: every call names what it asks for, and the program goes on
with the answer. A server (`Server`) says which answers a call may get and what the call does to the
shared world. The same program is read in three ways:

* `Server.eval`: alone, against a server that leaves nothing open;
* `Server.Runs`: alone, against a server that may answer in several ways;
* step by step among other programs (`Lib.Pool`).

`Server.wp` is the weakest precondition of a program for the last two. A call of a kind that yields
lets other programs run before its answer comes: the caller must establish the invariant of a
`Contract` there, and may assume nothing else about the world it resumes in. A contract can give the
caller a token to hold until the answer comes, and the invariant may speak of all the tokens held.
-/

namespace Lib

/-- A program: it returns, or makes a call and goes on with the answer. -/
inductive Prog {Q : Type} (R : Q → Type) (α : Type) : Type
  | ret (a : α)
  | call (q : Q) (k : R q → Prog R α)

namespace Prog

variable {Q : Type} {R : Q → Type} {α β γ : Type}

/-- Run `p`, then `f` on its result. -/
def bind : Prog R α → (α → Prog R β) → Prog R β
  | ret a, f => f a
  | call q k, f => call q fun r => (k r).bind f

instance : Monad (Prog R) where
  pure := ret
  bind := bind

/-- The program of one call. -/
def perform (q : Q) : Prog R (R q) := call q ret

@[simp] theorem pure_eq (a : α) : (pure a : Prog R α) = ret a := rfl

@[simp] theorem ret_bind (a : α) (f : α → Prog R β) : (ret a >>= f) = f a := rfl

@[simp] theorem call_bind (q : Q) (k : R q → Prog R α) (f : α → Prog R β) :
    (call q k >>= f) = call q fun r => k r >>= f := rfl

@[simp] theorem perform_bind (q : Q) (f : R q → Prog R β) : (perform q >>= f) = call q f := rfl

theorem bind_ret (p : Prog R α) : (p >>= ret) = p := by
  induction p with
  | ret a => rfl
  | call q k ih => exact congrArg (call q) (funext ih)

theorem bind_assoc (p : Prog R α) (f : α → Prog R β) (g : β → Prog R γ) :
    (p >>= f >>= g) = p >>= fun a => f a >>= g := by
  induction p with
  | ret a => rfl
  | call q k ih => exact congrArg (call q) (funext ih)

instance : LawfulMonad (Prog R) :=
  LawfulMonad.mk' (Prog R) bind_ret (fun _ _ => rfl) bind_assoc

/-- Every call of the program satisfies `φ`, whatever the answers. -/
def All (φ : Q → Prop) : Prog R α → Prop
  | ret _ => True
  | call q k => φ q ∧ ∀ r, (k r).All φ

section All

variable {φ : Q → Prop}

@[simp] theorem all_ret (a : α) : (ret a : Prog R α).All φ := trivial

theorem all_of_forall (h : ∀ q, φ q) (p : Prog R α) : p.All φ := by
  induction p with
  | ret a => exact trivial
  | call q k ih => exact ⟨h q, ih⟩

@[simp] theorem all_call {q : Q} {k : R q → Prog R α} :
    (call q k).All φ ↔ φ q ∧ ∀ r, (k r).All φ := Iff.rfl

theorem All.bind {p : Prog R α} {f : α → Prog R β} (hp : p.All φ) (hf : ∀ a, (f a).All φ) :
    (p >>= f).All φ := by
  induction p with
  | ret a => exact hf a
  | call q k ih => exact ⟨hp.1, fun r => ih r (hp.2 r)⟩

end All

/-- Whatever has been answered so far, what is left of the program satisfies `φ`. -/
def Always (φ : Prog R α → Prop) : Prog R α → Prop
  | ret a => φ (ret a)
  | call q k => φ (call q k) ∧ ∀ r, (k r).Always φ

theorem Always.here {φ : Prog R α → Prop} {p : Prog R α} (h : p.Always φ) : φ p := by
  cases p with
  | ret a => exact h
  | call q k => exact h.1

/-- Whatever is answered, what the program returns satisfies `ψ`. -/
def Returns (ψ : α → Prop) : Prog R α → Prop
  | ret a => ψ a
  | call _ k => ∀ r, (k r).Returns ψ

section Returns

variable {ψ : β → Prop}

@[simp] theorem returns_ret {b : β} : (ret b : Prog R β).Returns ψ ↔ ψ b := Iff.rfl

@[simp] theorem returns_call {q : Q} {k : R q → Prog R β} :
    (call q k).Returns ψ ↔ ∀ r, (k r).Returns ψ := Iff.rfl

theorem Returns.bind {φ : α → Prop} {p : Prog R α} {f : α → Prog R β} (hp : p.Returns φ)
    (hf : ∀ a, φ a → (f a).Returns ψ) : (p >>= f).Returns ψ := by
  induction p with
  | ret a => exact hf a hp
  | call q k ih => exact fun r => ih r (hp r)

theorem returns_trivial (p : Prog R α) : p.Returns fun _ => True := by
  induction p with
  | ret a => trivial
  | call q k ih => exact ih

/-- A program whose result does not depend on what its first part returns. -/
theorem Returns.after {p : Prog R α} {f : α → Prog R β} (hf : ∀ a, (f a).Returns ψ) :
    (p >>= f).Returns ψ :=
  p.returns_trivial.bind fun a _ => hf a

end Returns

/-- The call a program is about to make. -/
def next? : Prog R α → Option Q
  | ret _ => none
  | call q _ => some q

@[simp] theorem next?_ret (a : α) : (ret a : Prog R α).next? = none := rfl

@[simp] theorem next?_call (q : Q) (k : R q → Prog R α) : (call q k).next? = some q := rfl

theorem All.always {φ : Q → Prop} {p : Prog R α} (h : p.All φ) :
    p.Always fun p => ∀ q, p.next? = some q → φ q := by
  induction p with
  | ret a => exact fun q hq => nomatch hq
  | call q k ih => exact ⟨fun q' hq => Option.some.inj hq ▸ h.1, fun r => ih r (h.2 r)⟩

theorem Always.and {φ ψ : Prog R α → Prop} {p : Prog R α} (h : p.Always φ) (h' : p.Always ψ) :
    p.Always fun p => φ p ∧ ψ p := by
  induction p with
  | ret a => exact ⟨h, h'⟩
  | call q k ih => exact ⟨⟨h.1, h'.1⟩, fun r => ih r (h.2 r) (h'.2 r)⟩

end Prog

/-- What calls do: the caller `i` makes call `q` in world `w`, the outside makes choice `c`, and the
call is answered, or is not enabled (`none`). `yields` tells the calls at which others may run. -/
structure Server {Q : Type} (R : Q → Type) (ι C W : Type) where
  respond : ι → C → W → (q : Q) → Option (R q × W)
  yields : Q → Bool

namespace Server

variable {Q : Type} {R : Q → Type} {ι C W : Type} {α β : Type} (S : Server R ι C W) (i : ι)

/-! ## Running alone -/

/-- The run of a program on its own when every call meets the same choice `c`. -/
def eval (c : C) : Prog R α → W → Option (α × W)
  | .ret a, w => some (a, w)
  | .call q k, w => (S.respond i c w q).bind fun rw => eval c (k rw.1) rw.2

@[simp] theorem eval_ret (c : C) (a : α) (w : W) : S.eval i c (.ret a) w = some (a, w) := rfl

theorem eval_call (c : C) (q : Q) (k : R q → Prog R α) (w : W) :
    S.eval i c (.call q k) w = (S.respond i c w q).bind fun rw => S.eval i c (k rw.1) rw.2 := rfl

theorem eval_bind (c : C) (p : Prog R α) (f : α → Prog R β) (w : W) :
    S.eval i c (p >>= f) w = (S.eval i c p w).bind fun aw => S.eval i c (f aw.1) aw.2 := by
  induction p generalizing w with
  | ret a => rfl
  | call q k ih =>
    rw [Prog.call_bind, eval_call, eval_call]
    cases S.respond i c w q with
    | none => rfl
    | some rw => exact ih rw.1 rw.2

/-- The run of a program on its own when its `n`-th call meets the choice `cs n`. -/
def evalWith (cs : Nat → C) : Prog R α → W → Option (α × W)
  | .ret a, w => some (a, w)
  | .call q k, w =>
    (S.respond i (cs 0) w q).bind fun rw => evalWith (fun n => cs (n + 1)) (k rw.1) rw.2

/-- A run keeps what each of its calls keeps. -/
theorem eval_inv {φ : Q → Prop} {J : W → Prop} {c : C}
    (hJ : ∀ q w r w', φ q → J w → S.respond i c w q = some (r, w') → J w') {p : Prog R α}
    (hp : p.All φ) {a : α} {w w' : W} (h : S.eval i c p w = some (a, w')) (hw : J w) : J w' := by
  induction p generalizing w with
  | ret b =>
    cases h
    exact hw
  | call q k ih =>
    rw [eval_call, Option.bind_eq_some_iff] at h
    obtain ⟨⟨r, w₁⟩, hr, hk⟩ := h
    exact ih r (hp.2 r) hk (hJ q w r w₁ hp.1 hw hr)

/-- `Runs p w a w'`: alone from `w`, `p` can return `a` and leave `w'`. -/
inductive Runs : Prog R α → W → α → W → Prop
  | ret (a : α) (w : W) : Runs (.ret a) w a w
  | call {q : Q} {k : R q → Prog R α} {c : C} {w w₁ w' : W} {r : R q} {a : α}
      (h : S.respond i c w q = some (r, w₁)) (hk : Runs (k r) w₁ a w') : Runs (.call q k) w a w'

theorem runs_ret {a b : α} {w w' : W} : S.Runs i (.ret a) w b w' ↔ b = a ∧ w' = w := by
  constructor
  · rintro ⟨⟩; exact ⟨rfl, rfl⟩
  · rintro ⟨rfl, rfl⟩; exact .ret b w'

theorem runs_call {q : Q} {k : R q → Prog R α} {a : α} {w w' : W} :
    S.Runs i (.call q k) w a w' ↔
      ∃ c r w₁, S.respond i c w q = some (r, w₁) ∧ S.Runs i (k r) w₁ a w' := by
  constructor
  · rintro ⟨⟩; exact ⟨_, _, _, ‹_›, ‹_›⟩
  · rintro ⟨c, r, w₁, h, hk⟩; exact .call h hk

theorem runs_bind {p : Prog R α} {f : α → Prog R β} {b : β} {w w' : W} :
    S.Runs i (p >>= f) w b w' ↔ ∃ a w₁, S.Runs i p w a w₁ ∧ S.Runs i (f a) w₁ b w' := by
  induction p generalizing w with
  | ret a =>
    constructor
    · intro h; exact ⟨a, w, .ret a w, h⟩
    · rintro ⟨a', w₁, h, hf⟩
      obtain ⟨rfl, rfl⟩ := (S.runs_ret i).1 h
      exact hf
  | call q k ih =>
    rw [Prog.call_bind, runs_call]
    constructor
    · rintro ⟨c, r, w₁, h, hk⟩
      obtain ⟨a, w₂, hp, hf⟩ := (ih r).1 hk
      exact ⟨a, w₂, .call h hp, hf⟩
    · rintro ⟨a, w₂, hp, hf⟩
      obtain ⟨c, r, w₁, h, hk⟩ := (S.runs_call i).1 hp
      exact ⟨c, r, w₁, h, (ih r).2 ⟨a, w₂, hk, hf⟩⟩

/-- A run that `eval` finds is a run. -/
theorem runs_of_eval {c : C} {p : Prog R α} {a : α} {w w' : W}
    (h : S.eval i c p w = some (a, w')) : S.Runs i p w a w' := by
  induction p generalizing w with
  | ret b =>
    simp only [eval_ret, Option.some.injEq, Prod.mk.injEq] at h
    obtain ⟨rfl, rfl⟩ := h
    exact .ret b w
  | call q k ih =>
    rw [eval_call, Option.bind_eq_some_iff] at h
    obtain ⟨⟨r, w₁⟩, hr, hk⟩ := h
    exact .call hr (ih r hk)

/-! ## Weakest preconditions -/

/-- What programs among others agree on: `token q` is held by a program that waits for its answer to
`q`, `inv` ties all the tokens that are held to the world, and `safe` holds after every call. -/
structure Contract (Q M W : Type) where
  token : Q → M
  inv : M → W → Prop
  safe : W → Prop

/-- The contract of an invariant without tokens. -/
def Contract.keeping {Q W : Type} (I : W → Prop) : Contract Q Unit W where
  token _ := ()
  inv _ := I
  safe _ := True

variable {M : Type} [AddCommMonoid M]

/-- The weakest precondition of `p` for `post` under a contract, when the others hold the tokens
`m`. At a yielding call the invariant must hold with the token of the call, and all that is known
after it is the invariant with that token. -/
def wp (K : Contract Q M W) : Prog R α → (α → M → W → Prop) → M → W → Prop
  | .ret a, post, m, w => post a m w
  | .call q k, post, m, w =>
    if S.yields q then
      K.inv (m + K.token q) w ∧
        ∀ m₁ w₁, K.inv (m₁ + K.token q) w₁ →
          ∀ c r w₂, S.respond i c w₁ q = some (r, w₂) → K.safe w₂ ∧ wp K (k r) post m₁ w₂
    else ∀ c r w₂, S.respond i c w q = some (r, w₂) → K.safe w₂ ∧ wp K (k r) post m w₂

variable {S i} {K : Contract Q M W} {post post' : α → M → W → Prop} {m : M} {w : W}

@[simp] theorem wp_ret {a : α} : S.wp i K (.ret a) post m w ↔ post a m w := Iff.rfl

theorem wp_call_sync {q : Q} {k : R q → Prog R α} (h : S.yields q = false) :
    S.wp i K (.call q k) post m w ↔
      ∀ c r w₂, S.respond i c w q = some (r, w₂) → K.safe w₂ ∧ S.wp i K (k r) post m w₂ := by
  simp [wp, h]

theorem wp_call_yield {q : Q} {k : R q → Prog R α} (h : S.yields q = true) :
    S.wp i K (.call q k) post m w ↔
      K.inv (m + K.token q) w ∧
        ∀ m₁ w₁, K.inv (m₁ + K.token q) w₁ →
          ∀ c r w₂, S.respond i c w₁ q = some (r, w₂) →
            K.safe w₂ ∧ S.wp i K (k r) post m₁ w₂ := by
  simp [wp, h]

/-- The rule of consequence. -/
theorem wp_mono (hpost : ∀ a m w, post a m w → post' a m w) {p : Prog R α}
    (h : S.wp i K p post m w) : S.wp i K p post' m w := by
  induction p generalizing m w with
  | ret a => exact hpost a m w h
  | call q k ih =>
    cases hy : S.yields q with
    | false =>
      rw [wp_call_sync hy] at h ⊢
      exact fun c r w₂ hr => ⟨(h c r w₂ hr).1, ih r (h c r w₂ hr).2⟩
    | true =>
      rw [wp_call_yield hy] at h ⊢
      exact ⟨h.1, fun m₁ w₁ hw c r w₂ hr =>
        ⟨(h.2 m₁ w₁ hw c r w₂ hr).1, ih r (h.2 m₁ w₁ hw c r w₂ hr).2⟩⟩

/-- The rule of sequencing. -/
theorem wp_bind {p : Prog R α} {f : α → Prog R β} {post : β → M → W → Prop} :
    S.wp i K (p >>= f) post m w ↔ S.wp i K p (fun a m w => S.wp i K (f a) post m w) m w := by
  induction p generalizing m w with
  | ret a => exact Iff.rfl
  | call q k ih =>
    rw [Prog.call_bind]
    unfold wp
    simp only [ih]

/-- The rule of the loop: an invariant of the items done, the accumulator, and the world. -/
theorem wp_foldlM {δ : Type} {f : β → δ → Prog R β} {J : List δ → β → M → W → Prop} (l : List δ)
    (hf : ∀ done d rest b m w, l = done ++ d :: rest → J done b m w →
      S.wp i K (f b d) (J (done ++ [d])) m w) {b : β} (hw : J [] b m w) :
    S.wp i K (l.foldlM f b) (J l) m w := by
  suffices h : ∀ rest done b m w, l = done ++ rest → J done b m w →
      S.wp i K (rest.foldlM f b) (J l) m w from h l [] b m w rfl hw
  intro rest
  induction rest with
  | nil =>
    intro done b m w hl hJ
    rw [List.append_nil] at hl
    subst hl
    exact hJ
  | cons d rest ih =>
    intro done b m w hl hJ
    rw [List.foldlM_cons, wp_bind]
    exact wp_mono (fun b' m' w' hJ' => ih (done ++ [d]) b' m' w'
      (by rw [hl, List.append_assoc]; rfl) hJ') (hf done d rest b m w hl hJ)

/-- The rule of a stretch without yielding calls, each of which keeps a fact. -/
theorem wp_of_all {φ : Q → Prop} {J : W → Prop} (hsync : ∀ q, φ q → S.yields q = false)
    (hcall : ∀ q c w r w', φ q → J w → S.respond i c w q = some (r, w') → K.safe w' ∧ J w')
    {p : Prog R α} (hp : p.All φ) (hw : J w) :
    S.wp i K p (fun _ m' w' => m' = m ∧ J w') m w := by
  induction p generalizing w with
  | ret a => exact ⟨rfl, hw⟩
  | call q k ih =>
    rw [wp_call_sync (hsync q hp.1)]
    intro c r w₂ hr
    obtain ⟨hs, hJ⟩ := hcall q c w r w₂ hp.1 hw hr
    exact ⟨hs, ih r (hp.2 r) hJ⟩

variable (S) in
/-- The same server for a caller that runs alone. -/
def alone : Server R ι C W := { S with yields := fun _ => false }

@[simp] theorem alone_respond : S.alone.respond = S.respond := rfl

@[simp] theorem alone_yields (q : Q) : S.alone.yields q = false := rfl

/-- A run alone keeps what each of its calls keeps, whatever is chosen. -/
theorem Runs.inv {φ : Q → Prop} {J : W → Prop}
    (hJ : ∀ q c w r w', φ q → J w → S.respond i c w q = some (r, w') → J w') {p : Prog R α}
    {a : α} {w' : W} (h : S.Runs i p w a w') (hp : p.All φ) (hw : J w) : J w' := by
  induction h with
  | ret a w => exact hw
  | call hr _ ih => exact ih (hp.2 _) (hJ _ _ _ _ _ hp.1 hw hr)

end Server

end Lib
