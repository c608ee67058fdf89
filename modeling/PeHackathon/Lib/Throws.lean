import PeHackathon.Lib.Alone

/-!
# Programs that throw

Every call may throw, and so may the program itself (`Throwing`): what is thrown ends the program
unless it is caught. The rules of `Lib.Alone`, for the two ways in which such a program ends.
-/

namespace Lib

variable {Q : Type} {A : Q → Type} {ε ι C W α β δ : Type}

/-- A program whose calls answer or throw. -/
abbrev Throwing (ε : Type) (A : Q → Type) (α : Type) : Type :=
  ExceptT ε (Prog fun q => Except ε (A q)) α

namespace Throwing

/-- One call: what it throws, the program throws. -/
def perform (q : Q) : Throwing ε A (A q) := ExceptT.mk (Prog.perform q)

/-- Go on with what `p` returns; what it throws is made into the end of the program. -/
def andThen (p : Throwing ε A α) (stop : ε → β) (k : α → Prog (fun q => Except ε (A q)) β) :
    Prog (fun q => Except ε (A q)) β :=
  p.run >>= fun
    | .ok a => k a
    | .error e => .ret (stop e)

/-- Every call satisfies `φ`, and what is returned `ψ`, whatever the answers. -/
def Obeys (φ : Q → Prop) (ψ : α → Prop) (p : Throwing ε A α) : Prop :=
  Prog.Obeys φ (fun r => ∀ a, r = .ok a → ψ a) p.run

section Obeys

variable {φ : Q → Prop} {ψ ψ' : α → Prop} {χ : β → Prop} {p : Throwing ε A α}
  {f : α → Throwing ε A β}

theorem Obeys.pure {a : α} (h : ψ a) : Obeys φ ψ (pure a : Throwing ε A α) :=
  Prog.obeys_ret.2 fun _ hb => Except.ok.inj hb ▸ h

theorem Obeys.throw (e : ε) : Obeys φ ψ (throw e : Throwing ε A α) :=
  Prog.obeys_ret.2 fun _ hb => nomatch hb

theorem Obeys.perform {q : Q} (h : φ q) :
    Obeys φ (fun _ => True) (perform q : Throwing ε A (A q)) :=
  (Prog.Obeys.perform h).mono (fun _ hq => hq) fun _ _ _ _ => trivial

theorem Obeys.bind (hp : Obeys φ ψ p) (hf : ∀ a, ψ a → Obeys φ χ (f a)) : Obeys φ χ (p >>= f) := by
  refine Prog.Obeys.bind hp fun r hr => ?_
  cases r with
  | error e => exact Prog.obeys_ret.2 fun _ hb => nomatch hb
  | ok a => exact hf a (hr a rfl)

theorem Obeys.andThen {χ : β → Prop} {stop : ε → β} {k : α → Prog (fun q => Except ε (A q)) β}
    (hp : Obeys φ ψ p) (hstop : ∀ e, χ (stop e)) (hk : ∀ a, ψ a → (k a).Obeys φ χ) :
    (p.andThen stop k).Obeys φ χ := by
  refine Prog.Obeys.bind hp fun r hr => ?_
  cases r with
  | error e => exact Prog.obeys_ret.2 (hstop e)
  | ok a => exact hk a (hr a rfl)

theorem Obeys.ite {c : Prop} [Decidable c] {p' : Throwing ε A α} (h : c → Obeys φ ψ p)
    (h' : ¬ c → Obeys φ ψ p') : Obeys φ ψ (if c then p else p') := by
  by_cases hc : c
  · rw [if_pos hc]
    exact h hc
  · rw [if_neg hc]
    exact h' hc

theorem Obeys.tryCatch {handler : ε → Throwing ε A α} (hp : Obeys φ ψ p)
    (hh : ∀ e, Obeys φ ψ (handler e)) :
    Obeys φ ψ (tryCatch p handler) := by
  refine Prog.Obeys.bind hp fun r hr => ?_
  cases r with
  | error e => exact hh e
  | ok a => exact Prog.obeys_ret.2 hr

theorem Obeys.forM {f : δ → Throwing ε A PUnit} (l : List δ)
    (hf : ∀ d ∈ l, Obeys φ (fun _ => True) (f d)) :
    Obeys φ (fun _ => True) (l.forM f) := by
  induction l with
  | nil => exact .pure trivial
  | cons d l ih =>
    exact (hf d List.mem_cons_self).bind fun _ _ => ih fun b hb => hf b (List.mem_cons_of_mem d hb)

theorem Obeys.foldlM {g : β → δ → Throwing ε A β} (l : List δ)
    (hg : ∀ b, ∀ d ∈ l, Obeys φ (fun _ => True) (g b d)) (b : β) :
    Obeys φ (fun _ => True) (l.foldlM g b) := by
  induction l generalizing b with
  | nil => exact .pure trivial
  | cons d l ih =>
    rw [List.foldlM_cons]
    exact (hg b d List.mem_cons_self).bind fun b' _ =>
      ih (fun b d hd => hg b d (List.mem_cons_of_mem _ hd)) b'

end Obeys

end Throwing

namespace Server

variable {S : Server (fun q => Except ε (A q)) ι C W} {i : ι}

/-- What holds at the end of a program that returns, and of one that throws. -/
def Outcome (post : α → W → Prop) (failed : W → Prop) : Except ε α → W → Prop
  | .ok a, w => post a w
  | .error _, w => failed w

/-- A run of `p` that begins with `P` ends with `post` if it returns, and with `failed` if it
throws. -/
def Ensures (S : Server (fun q => Except ε (A q)) ι C W) (i : ι) (P : W → Prop) (p : Throwing ε A α)
    (post : α → W → Prop) (failed : W → Prop) : Prop :=
  S.Triple i P p.run (Outcome post failed)

variable {P P' : W → Prop} {p : Throwing ε A α} {f : α → Throwing ε A β}
  {post post' mid : α → W → Prop} {end' : β → W → Prop} {failed failed' : W → Prop}

theorem Ensures.pure {a : α} (h : ∀ w, P w → post a w) : S.Ensures i P (pure a) post failed :=
  .ret h

theorem Ensures.throw {e : ε} (h : ∀ w, P w → failed w) : S.Ensures i P (throw e) post failed :=
  .ret h

theorem Ensures.perform {q : Q} {post : A q → W → Prop}
    (hok : ∀ c w a w', P w → S.respond i c w q = some (.ok a, w') → post a w')
    (herror : ∀ c w e w', P w → S.respond i c w q = some (.error e, w') → failed w') :
    S.Ensures i P (Throwing.perform q) post failed := by
  refine Triple.perform fun c w r w' hw hr => ?_
  cases r with
  | error e => exact herror c w e w' hw hr
  | ok a => exact hok c w a w' hw hr

/-- The rule of sequencing. -/
theorem Ensures.bind (hp : S.Ensures i P p mid failed)
    (hf : ∀ a, S.Ensures i (mid a) (f a) end' failed) :
    S.Ensures i P (p >>= f) end' failed := by
  refine Triple.bind hp fun r => ?_
  cases r with
  | error e => exact .ret fun _ h => h
  | ok a => exact hf a

/-- The rule of the program that ends where its first part throws. -/
theorem Ensures.andThen {stop : ε → β} {k : α → Prog (fun q => Except ε (A q)) β}
    (hp : S.Ensures i P p mid failed) (hstop : ∀ e w, failed w → end' (stop e) w)
    (hk : ∀ a, S.Triple i (mid a) (k a) end') : S.Triple i P (p.andThen stop k) end' := by
  refine Triple.bind hp fun r => ?_
  cases r with
  | error e => exact .ret fun w h => hstop e w h
  | ok a => exact hk a

/-- The rule of consequence. -/
theorem Ensures.mono (h : S.Ensures i P p post failed) (hP : ∀ w, P' w → P w)
    (hpost : ∀ a w, post a w → post' a w) (hfailed : ∀ w, failed w → failed' w) :
    S.Ensures i P' p post' failed' := by
  refine Triple.mono h hP fun r w hr => ?_
  cases r with
  | error e => exact hfailed w hr
  | ok a => exact hpost a w hr

/-- Two facts about one program. -/
theorem Ensures.and {failed' : W → Prop} (h : S.Ensures i P p post failed)
    (h' : S.Ensures i P' p post' failed') :
    S.Ensures i (fun w => P w ∧ P' w) p (fun a w => post a w ∧ post' a w) fun w => failed w ∧
      failed' w := by
  intro w r w' hw hrun
  cases r with
  | error e => exact ⟨h w _ w' hw.1 hrun, h' w _ w' hw.2 hrun⟩
  | ok a => exact ⟨h w _ w' hw.1 hrun, h' w _ w' hw.2 hrun⟩

theorem Ensures.ite {c : Prop} [Decidable c] {p' : Throwing ε A α}
    (h : c → S.Ensures i P p post failed) (h' : ¬ c → S.Ensures i P p' post failed) :
    S.Ensures i P (if c then p else p') post failed := by
  by_cases hc : c
  · rw [if_pos hc]
    exact h hc
  · rw [if_neg hc]
    exact h' hc

/-- A fact that is not about the world. -/
theorem Ensures.assume {φ : Prop} (h : φ → S.Ensures i P p post failed) :
    S.Ensures i (fun w => φ ∧ P w) p post failed :=
  fun w r w' hw hrun => h hw.1 w r w' hw.2 hrun

/-- Fix the world in which a program begins. -/
theorem Ensures.start (h : ∀ w₀, P w₀ → S.Ensures i (· = w₀) p post failed) :
    S.Ensures i P p post failed :=
  fun w r w' hw hrun => h w hw w r w' rfl hrun

/-- The rule of the loop. -/
theorem Ensures.foldlM {g : β → δ → Throwing ε A β} {J : List δ → β → W → Prop} (l : List δ)
    (hg : ∀ done d rest b, l = done ++ d :: rest → S.Ensures i (J done b) (g b d) (J (done ++ [d]))
      failed) (b : β) :
    S.Ensures i (J [] b) (l.foldlM g b) (J l) failed := by
  suffices h :
      ∀ rest done b, l = done ++ rest → S.Ensures i (J done b) (rest.foldlM g b) (J l) failed from
    h l [] b rfl
  intro rest
  induction rest with
  | nil =>
    intro done b hl
    rw [List.append_nil] at hl
    subst hl
    exact .pure fun _ h => h
  | cons d rest ih =>
    intro done b hl
    rw [List.foldlM_cons]
    exact .bind (hg done d rest b hl) fun b' =>
      ih (done ++ [d]) b' (by rw [hl, List.append_assoc]; rfl)

/-- The rule of the loop over what is left. -/
theorem Ensures.forM {g : δ → Throwing ε A PUnit} {J : List δ → W → Prop} (l : List δ)
    (hg : ∀ d rest, (∃ done, l = done ++ d :: rest) →
      S.Ensures i (J (d :: rest)) (g d) (fun _ => J rest) failed) :
    S.Ensures i (J l) (l.forM g) (fun _ => J []) failed := by
  induction l with
  | nil => exact .pure fun _ h => h
  | cons d l ih =>
    refine .bind (hg d l ⟨[], rfl⟩) fun _ => ih fun d' rest h => hg d' rest ?_
    obtain ⟨done, rfl⟩ := h
    exact ⟨d :: done, rfl⟩

/-- What the calls keep, a program keeps, whether it returns or throws. -/
theorem Ensures.of_obeys {φ : Q → Prop} {ψ : α → Prop}
    (hJ : ∀ q c w r w', φ q → P w → S.respond i c w q = some (r, w') → P w')
    (hp : Throwing.Obeys φ ψ p) :
    S.Ensures i P p (fun a w => ψ a ∧ P w) P := by
  refine Triple.mono (Triple.of_obeys hJ hp) (fun _ h => h) fun r w h => ?_
  cases r with
  | error e => exact h.2
  | ok a => exact ⟨h.1 a rfl, h.2⟩

end Server

end Lib
