import Mathlib.Data.Fintype.Basic
import PeHackathon.UrlShortener.IpBan

/-!
# Bans in several workers

The workers of `gunicorn.conf.py` are processes: they share one Redis, and each has its own
`_enabled`, which `POST /admin/bans/toggle` sets in the worker that serves it, and which is on again
in a worker that is restarted. `decisions_agree`: `is_banned` answers alike in all workers as long
as a worker changes its flag only to that of the others, or while no IP is banned, and an IP is
banned only while the flags are alike; and a step that does otherwise ends it.
-/

namespace PeHackathon.UrlShortener

open Lib

/-! ## Workers -/

/-- What a worker asks for: its own flag, or Redis. -/
inductive FleetCall
  | enabled
  | setEnabled (enabled : Bool)
  | redis (q : BanCall)

abbrev FleetAnswer : FleetCall → Type
  | .enabled => Bool
  | .setEnabled _ => Unit
  | .redis q => BanAnswer q

/-- What is left open at a step: the milliseconds that pass before it, and how a command ends. -/
structure FleetChoice where
  millis : Nat
  fate : Fate

/-- Redis, and `_enabled` of each worker. -/
structure Fleet (U : Type) where
  redis : BanWorld
  enabled : U → Bool

section

variable {U : Type}

/-- All workers just started. -/
def Fleet.start (redis : BanWorld) : Fleet U := ⟨redis, fun _ => true⟩

/-- Time passes. -/
def Fleet.elapse (w : Fleet U) (millis : Nat) : Fleet U := { w with redis := w.redis.elapse millis }

/-- What a step in worker `u` answers and does. -/
def fleetServe [DecidableEq U] (u : U) (fate : Fate) (w : Fleet U) :
    (q : FleetCall) → FleetAnswer q × Fleet U
  | .enabled => (w.enabled u, w)
  | .setEnabled enabled => ((), { w with enabled := Function.update w.enabled u enabled })
  | .redis q =>
    ((banRespond fate w.redis q).1, { w with redis := (banRespond fate w.redis q).2 })

/-- Operations, each in its worker. -/
def fleetServer {ι : Type} [DecidableEq U] (worker : ι → U) :
    Server FleetAnswer ι FleetChoice (Fleet U) where
  respond i c w q := some (fleetServe (worker i) c.fate (w.elapse c.millis) q)
  yields _ := true

abbrev FleetProg (α : Type) := Prog FleetAnswer α

def FleetProg.step (q : FleetCall) : FleetProg (FleetAnswer q) := .perform q

open FleetProg

/-- A function of `ip_ban.py` in a worker. -/
def inWorker {α : Type} : BanProg α → FleetProg α
  | .ret a => .ret a
  | .call q k => .call (.redis q) fun r => inWorker (k r)

/-- Run a function that reads `_enabled` when it begins. -/
def whileEnabled {α : Type} (f : IpBan → BanProg α) : FleetProg α := do
  let enabled ← step .enabled
  inWorker (f ⟨enabled, true⟩)

/-- What a worker is asked to do. -/
inductive FleetOp
  | violation (ip : String)
  | unban (ip : String)
  /-- `POST /admin/bans/toggle`. -/
  | toggle (enabled : Bool)
  /-- A request, of which the check for a ban. -/
  | request (ip : String)
  | restart

def FleetOp.prog : FleetOp → FleetProg Unit
  | .violation ip => do
    let _result ← whileEnabled (recordViolation · ip)
  | .unban ip => do
    let _done ← inWorker (unbanIp .on ip)
  | .toggle enabled => do
    step (.setEnabled enabled)
    let _enabled ← step .enabled
  | .request ip => do
    let _banned ← whileEnabled (isBanned · ip)
  | .restart => step (.setEnabled true)

abbrev FleetPool (U ι : Type) := Pool FleetAnswer ι (Fleet U) Unit

/-- Operations none of which has begun. -/
def fleetOps {ι : Type} (op : ι → FleetOp) (redis : BanWorld) : FleetPool U ι :=
  .init (fun i => (op i).prog) (.start redis)

/-! ## The decision -/

/-- What `is_banned` answers in a worker while Redis answers. -/
def Fleet.decision (w : Fleet U) (u : U) (ip : String) : Option Bool :=
  ((banServer U).eval u .answers (isBanned ⟨w.enabled u, true⟩ ip) w.redis).map (·.1)

/-- The decision is the same in all workers. -/
def Fleet.Agree (w : Fleet U) : Prop := ∀ ip u v, w.decision u ip = w.decision v ip

/-- The flags of all workers are alike. -/
def Fleet.Alike (w : Fleet U) : Prop := ∀ u v, w.enabled u = w.enabled v

theorem decision_eq (w : Fleet U) (u : U) (ip : String) :
    w.decision u ip = some (w.enabled u && decide (w.redis.Banned ip)) := by
  unfold Fleet.decision
  cases henabled : w.enabled u with
  | false => rfl
  | true =>
    refine (eval_isBanned w.redis ip).trans ?_
    cases hperm : (w.redis.get (.permanent ip)).isSome <;> simp [BanWorld.Banned, hperm]

/-- The workers agree if their flags are alike or nobody is banned, and only then. -/
theorem agree_iff {w : Fleet U} : w.Agree ↔ w.Alike ∨ ∀ ip, ¬ w.redis.Banned ip := by
  unfold Fleet.Agree
  simp only [decision_eq, Option.some.injEq]
  constructor
  · intro h
    by_cases hbanned : ∃ ip, w.redis.Banned ip
    · obtain ⟨ip, hip⟩ := hbanned
      left
      intro u v
      simpa [hip] using h ip u v
    · exact .inr fun ip hip => hbanned ⟨ip, hip⟩
  · rintro (halike | hnone) ip u v
    · rw [halike u v]
    · simp [hnone ip]

/-! ## Bans and commands -/

/-- The command bans an IP. -/
def BanCall.bans : BanCall → Bool
  | .set (.permanent _) _ | .setex (.permanent _) _ _ => true
  | .setex (.banned _) seconds _ => 0 < seconds
  | _ => false

theorem banned_iff_entry {w : BanWorld} {ip : String} : w.Banned ip ↔
    (w.store.entry w.now (.permanent ip)).isSome ∨
      ∃ v t, w.store.entry w.now (.banned ip) = some { value := v, expires := some t } ∧
        w.now + 500 ≤ t := by
  unfold BanWorld.Banned BanWorld.get BanWorld.ttl Expiring.get
  rw [Expiring.ttl_pos, Option.isSome_map]

/-- A ban ends, but none begins, while time passes. -/
theorem banned_elapse {w : BanWorld} {millis : Nat} {ip : String}
    (h : (w.elapse millis).Banned ip) : w.Banned ip := by
  have hentry : ∀ (k : IpBanKey) e, w.store.entry (w.now + millis) k = some e →
      w.store.entry w.now k = some e := by
    intro k e he
    obtain ⟨hstore, hlive⟩ := Option.filter_eq_some_iff.1 he
    refine Option.filter_eq_some_iff.2 ⟨hstore, ?_⟩
    unfold Timed.live at hlive ⊢
    split at hlive
    · rfl
    · simp only [decide_eq_true_eq] at hlive ⊢
      omega
  rw [banned_iff_entry] at h ⊢
  rcases h with hperm | ⟨v, t, htimed, hleft⟩
  · obtain ⟨e, he⟩ := Option.isSome_iff_exists.1 hperm
    exact .inl (Option.isSome_iff_exists.2 ⟨e, hentry _ e he⟩)
  · have hbefore : w.now + millis + 500 ≤ t := hleft
    exact .inr ⟨v, t, hentry _ _ htimed, by omega⟩

/-- An entry that is there after a command was there before, or the command wrote it. -/
theorem entry_serve {w : BanWorld} {q : BanCall} {k : IpBanKey} {e : Timed k.Value}
    (h : (banServe w q).2.store.entry w.now k = some e) : w.store.entry w.now k = some e ∨
      q = .set k e.value ∧ e.expires = none ∨
        ∃ seconds, q = .setex k seconds e.value ∧ e.expires = some (w.now + 1000 * seconds) := by
  cases q with
  | set k' v =>
    by_cases hk : k = k'
    · subst hk
      have he := (Expiring.entry_put_self w.store v none w.now).symm.trans h
      cases he
      exact .inr (.inl ⟨rfl, rfl⟩)
    · exact .inl ((Expiring.entry_put_ne w.store v none w.now hk).symm.trans h)
  | setex k' seconds v =>
    by_cases hk : k = k'
    · subst hk
      have he :=
        (Expiring.entry_put_self w.store v (some (w.now + 1000 * seconds)) w.now).symm.trans h
      split at he
      · cases he
        exact .inr (.inr ⟨seconds, rfl, rfl⟩)
      · cases he
    · exact .inl ((Expiring.entry_put_ne w.store v _ w.now hk).symm.trans h)
  | delete k' =>
    by_cases hk : k = k'
    · subst hk
      cases (Expiring.entry_delete_self w.store w.now).symm.trans h
    · exact .inl ((Expiring.entry_delete_ne w.store w.now hk).symm.trans h)
  | _ => exact .inl h

theorem serve_now (w : BanWorld) (q : BanCall) : (banServe w q).2.now = w.now := by
  cases q <;> rfl

/-- Only the commands that ban an IP make one banned. -/
theorem banned_serve {w : BanWorld} {q : BanCall} {ip : String} (hq : q.bans = false)
    (h : (banServe w q).2.Banned ip) : w.Banned ip := by
  rw [banned_iff_entry, serve_now] at h
  rw [banned_iff_entry]
  rcases h with hperm | ⟨v, t, htimed, hleft⟩
  · obtain ⟨e, he⟩ := Option.isSome_iff_exists.1 hperm
    rcases entry_serve he with he | ⟨rfl, -⟩ | ⟨seconds, rfl, -⟩
    · exact .inl (Option.isSome_iff_exists.2 ⟨e, he⟩)
    · cases hq
    · cases hq
  · rcases entry_serve htimed with he | ⟨-, hnone⟩ | ⟨seconds, rfl, htime⟩
    · exact .inr ⟨v, t, he, hleft⟩
    · cases hnone
    · cases htime
      have hzero : seconds = 0 := by simpa [BanCall.bans] using hq
      subst hzero
      omega

/-- After one of them an IP is banned. -/
theorem bans_serve (w : BanWorld) {q : BanCall} (hq : q.bans = true) :
    ∃ ip, (banServe w q).2.Banned ip := by
  cases q with
  | set k v =>
    cases k with
    | permanent ip =>
      refine ⟨ip, banned_iff_entry.2 (.inl ?_)⟩
      exact (congrArg Option.isSome (Expiring.entry_put_self w.store v none w.now)).trans rfl
    | _ => cases hq
  | setex k seconds v =>
    have hlive : Timed.live { value := v, expires := some (w.now + 1000 * seconds) } w.now = true :=
      decide_eq_true (Nat.le_add_right _ _)
    have hput := Expiring.entry_put_self w.store v (some (w.now + 1000 * seconds)) w.now
    rw [if_pos hlive] at hput
    cases k with
    | permanent ip => exact ⟨ip, banned_iff_entry.2 (.inl (congrArg Option.isSome hput))⟩
    | banned ip =>
      have hpos : 0 < seconds := of_decide_eq_true hq
      have hleft : w.now + 500 ≤ w.now + 1000 * seconds := by omega
      exact ⟨ip, banned_iff_entry.2 (.inr ⟨v, _, hput, hleft⟩)⟩
    | strikes ip => cases hq
  | _ => cases hq

/-! ## Steps -/

variable {ι : Type} [DecidableEq U]

/-- What a run asks of a step: a worker's flag is set to that of all the others, or while no IP is
banned, and a command that bans an IP is executed while the flags of all workers are alike. -/
def KeepsAgreement (worker : ι → U) (p : FleetPool U ι) (i : ι) (c : FleetChoice) : Prop :=
  match (p.procs i).next? with
  | some (.setEnabled enabled) =>
    (∀ v, v ≠ worker i → p.world.enabled v = enabled) ∨ ∀ ip,
      ¬ (p.world.redis.elapse c.millis).Banned ip
  | some (.redis q) => q.bans = true → c.fate.executes = true → p.world.Alike
  | _ => True

theorem alike_update {w : Fleet U} {u : U} {enabled : Bool} :
    ({ w with enabled := Function.update w.enabled u enabled } : Fleet U).Alike ↔
      ∀ v, v ≠ u → w.enabled v = enabled := by
  constructor
  · intro h v hv
    have huv := h v u
    simpa [Function.update_of_ne hv] using huv
  · intro h v v'
    have hall : ∀ v, Function.update w.enabled u enabled v = enabled := by
      intro v
      by_cases hv : v = u
      · rw [hv, Function.update_self]
      · rw [Function.update_of_ne hv, h v hv]
    exact (hall v).trans (hall v').symm

/-- A step keeps the workers in agreement exactly if it meets the condition. -/
theorem agree_step [DecidableEq ι] {worker : ι → U} {p p' : FleetPool U ι} {i : ι} {c : FleetChoice}
    (h : p.next (fleetServer worker) i c = some p') (hagree : p.world.Agree) :
    p'.world.Agree ↔ KeepsAgreement worker p i c := by
  obtain ⟨q, k, r, w, hq, hr, -, rfl⟩ := Pool.next_cases h
  have hw : (fleetServe (worker i) c.fate (p.world.elapse c.millis) q).2 = w :=
    congrArg Prod.snd (Option.some.inj hr)
  have helapse : (p.world.elapse c.millis).Alike ∨
      ∀ ip, ¬ (p.world.elapse c.millis).redis.Banned ip :=
    (agree_iff.1 hagree).imp_right fun hnone ip hip => hnone ip (banned_elapse hip)
  unfold KeepsAgreement
  rw [hq, Prog.next?_call, ← hw, agree_iff]
  cases q with
  | enabled => exact iff_of_true helapse trivial
  | setEnabled enabled => exact or_congr_left alike_update
  | redis q =>
    dsimp only [fleetServe]
    rw [banRespond_world]
    cases hexecutes : c.fate.executes with
    | false => exact iff_of_true helapse fun _ h => nomatch h
    | true =>
      rw [if_pos rfl]
      cases hbans : q.bans with
      | false =>
        exact iff_of_true (helapse.imp_right fun hnone ip hip => hnone ip (banned_serve hbans hip))
          fun h => nomatch h
      | true =>
        obtain ⟨ip, hip⟩ := bans_serve (p.world.elapse c.millis).redis hbans
        constructor
        · rintro (halike | hnone)
          · exact fun _ _ => halike
          · exact absurd hip (hnone ip)
        · exact fun halike => .inl (halike rfl rfl)

/-! ## Runs -/

/-- **A ban decision does not depend on the worker** in any state of a run every step of which meets
the condition, and the first step that does not meet it makes two workers disagree. -/
theorem decisions_agree [DecidableEq ι] (worker : ι → U) (op : ι → FleetOp) (redis : BanWorld) :
    (∀ p, Pool.Steps (fleetServer worker) (KeepsAgreement worker) (fleetOps op redis) p →
        p.world.Agree) ∧
      ∀ p i c p', Pool.Steps (fleetServer worker) (KeepsAgreement worker) (fleetOps op redis) p →
        ¬ KeepsAgreement worker p i c → p.next (fleetServer worker) i c = some p' →
          ¬ p'.world.Agree := by
  have hrun : ∀ p, Pool.Steps (fleetServer worker) (KeepsAgreement worker) (fleetOps op redis) p →
      p.world.Agree := by
    intro p h
    refine h.inv (J := fun p => p.world.Agree) ?_ (agree_iff.2 (.inl fun _ _ => rfl))
    exact fun p p' i c hkeeps hn hagree => (agree_step hn hagree).2 hkeeps
  exact ⟨hrun, fun p i c p' h hkeeps hn => mt (agree_step hn (hrun p h)).1 hkeeps⟩

end

/-! ## Two workers -/

/-- A toggle in worker 0, and two violations of one IP in worker 1. -/
def twoWorkers (enabled : Bool) : Fin 3 → FleetOp
  | 0 => .toggle enabled
  | _ => .violation "203.0.113.7"

/-- The worker of an operation. -/
def workerOf (i : Fin 3) : Fin 2 := if i = 0 then 0 else 1

/-- `n` steps of an operation, none of whose commands raises. -/
def fleetTurns {ι : Type} (n : Nat) (i : ι) : List (ι × FleetChoice) :=
  List.replicate n (i, ⟨0, .answers⟩)

def FleetCall.turnsOff : FleetCall → Bool
  | .setEnabled b => !b
  | _ => false

/-- The flags are on, and the step turns none off. -/
def StaysOn (p : FleetPool (Fin 2) (Fin 3)) (i : Fin 3) (_ : FleetChoice) : Prop :=
  (∀ u, p.world.enabled u = true) ∧ (p.procs i).next?.any (·.turnsOff) = false

instance (p : FleetPool (Fin 2) (Fin 3)) (i : Fin 3) (c : FleetChoice) :
    Decidable (StaysOn p i c) :=
  inferInstanceAs (Decidable (_ ∧ _))

/-- The toggle turns on what is on, and the ban counts in both workers. -/
theorem decisions_agree_sample : ∃ p : FleetPool (Fin 2) (Fin 3),
    p.world.decision 0 "203.0.113.7" = some true ∧ p.world.Agree := by
  obtain ⟨p, hrun, hbanned⟩ : ∃ p : FleetPool (Fin 2) (Fin 3),
      (fleetOps (twoWorkers true) (.start 0)).runIf (fleetServer workerOf) StaysOn
        (fleetTurns 2 0 ++ fleetTurns 5 1 ++ fleetTurns 7 2) = some p ∧
        p.world.decision 0 "203.0.113.7" = some true :=
    ⟨_, rfl, rfl⟩
  refine ⟨p, hbanned, (decisions_agree workerOf (twoWorkers true) (.start 0)).1 p ?_⟩
  refine (Pool.Steps.of_runIf hrun).mono ?_
  rintro p i c ⟨hon, hnext⟩
  unfold KeepsAgreement
  split
  · rename_i enabled heq
    rw [heq] at hnext
    cases enabled with
    | true => exact .inl fun v _ => hon v
    | false => cases hnext
  · exact fun _ _ u v => (hon u).trans (hon v).symm
  · trivial

/-- The toggle turns the bans off in worker 0, and the IP is banned in worker 1 only. -/
theorem decisions_differ : ∃ p : FleetPool (Fin 2) (Fin 3),
    Pool.Steps (fleetServer workerOf) (fun _ _ _ => True)
        (fleetOps (twoWorkers false) (.start 0)) p ∧
      p.world.decision 0 "203.0.113.7" = some false ∧ p.world.decision 1 "203.0.113.7" = some true ∧
        ¬ p.world.Agree := by
  obtain ⟨p, hrun, h₀, h₁⟩ : ∃ p : FleetPool (Fin 2) (Fin 3),
      (fleetOps (twoWorkers false) (.start 0)).runIf (fleetServer workerOf) (fun _ _ _ => True)
        (fleetTurns 2 0 ++ fleetTurns 5 1 ++ fleetTurns 7 2) = some p ∧
        p.world.decision 0 "203.0.113.7" = some false ∧ p.world.decision 1 "203.0.113.7" =
          some true :=
    ⟨_, rfl, rfl, rfl⟩
  refine ⟨p, .of_runIf hrun, h₀, h₁, fun h => ?_⟩
  have hsame := h "203.0.113.7" 0 1
  rw [h₀, h₁] at hsame
  cases hsame

end PeHackathon.UrlShortener
