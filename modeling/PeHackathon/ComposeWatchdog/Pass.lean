import PeHackathon.Lib.Loop
import PeHackathon.ComposeWatchdog.Tick

/-!
# What a tick does to a container

A tick completes the turns of the containers in `reached`. The turn of a container changes no streak
but its own and makes calls on no other container (`act_streak`, `act_calls`), so what a tick does
for a container is decided by how it sees that container (`tick_calls`, `tick_streak`).
-/

namespace PeHackathon.ComposeWatchdog

open Lib

section Updates

variable {w : Watchdog} {id id' svc action reason msg : String} {n : Nat} {time : Int}
  {result : Except String Unit}

@[simp] theorem unhealthyStreak_log : (w.log msg).unhealthyStreak = w.unhealthyStreak := by
  simp only [Watchdog.log]

@[simp] theorem unhealthyStreak_report :
    (w.report result time svc action reason).unhealthyStreak = w.unhealthyStreak := by
  cases result <;> simp [Watchdog.report]

@[simp] theorem streak_log : (w.log msg).streak id = w.streak id := by simp [Watchdog.streak]

@[simp] theorem streak_report :
    (w.report result time svc action reason).streak id = w.streak id := by
  simp [Watchdog.streak]

theorem streak_setStreak :
    (w.setStreak id n).streak id' = if id' = id then n else w.streak id' := by
  unfold Watchdog.streak Watchdog.setStreak
  rw [Dict.get_set]
  split <;> rfl

@[simp] theorem streak_setStreak_self : (w.setStreak id n).streak id = n := by
  simp [streak_setStreak]

theorem streak_setStreak_ne (h : id' ≠ id) : (w.setStreak id n).streak id' = w.streak id' := by
  simp [streak_setStreak, h]

end Updates

/-! ## One turn -/

/-- The calls of a turn on a container whose streak is `n`. -/
def callsFor (cfg : Settings) (id : String) (n : Nat) : Sight → List DockerCall
  | .exited _ => [.start id]
  | .unhealthy _ => if cfg.unhealthyPolls ≤ n + 1 then [.restart id] else []
  | _ => []

/-- What a turn makes of the streak. -/
def streakAfter (cfg : Settings) (n : Nat) : Sight → Nat
  | .unhealthy _ => if cfg.unhealthyPolls ≤ n + 1 then 0 else n + 1
  | .healthy => 0
  | _ => n

section Turn

variable (cfg : Settings) (c : Container) (sight : Sight) (pass : Pass)

theorem act_calls : (act cfg c sight pass).calls =
    pass.calls ++ callsFor cfg c.id (pass.watchdog.streak c.id) sight := by
  cases sight with
  | exited svc => rfl
  | unhealthy svc =>
    simp only [act, countUnhealthy, callsFor]
    split
    · rfl
    · exact (List.append_nil _).symm
  | _ => exact (List.append_nil _).symm

theorem act_streak_self : (act cfg c sight pass).watchdog.streak c.id =
    streakAfter cfg (pass.watchdog.streak c.id) sight := by
  cases sight with
  | exited svc => simp [act, startExited, streakAfter]
  | unhealthy svc =>
    simp only [act, countUnhealthy, streakAfter]
    split <;> simp
  | healthy => simp [act, streakAfter]
  | _ => rfl

variable {c}

theorem act_streak_ne {id : String} (h : id ≠ c.id) :
    (act cfg c sight pass).watchdog.streak id = pass.watchdog.streak id := by
  cases sight with
  | exited svc => simp [act, startExited]
  | unhealthy svc =>
    simp only [act, countUnhealthy]
    split <;> simp [streak_setStreak_ne h]
  | healthy => simp [act, streak_setStreak_ne h]
  | _ => rfl

theorem act_seen : (act cfg c sight pass).seen = c.id :: pass.seen := by
  cases sight with
  | unhealthy svc =>
    simp only [act, countUnhealthy]
    split <;> rfl
  | _ => rfl

theorem act_monitored : (act cfg c sight pass).monitored =
    pass.monitored + if sight = .passedOver then 0 else 1 := by
  cases sight with
  | unhealthy svc =>
    simp only [act, countUnhealthy]
    split <;> simp
  | _ => simp [act, startExited]

end Turn

/-! ## The loop -/

/-- The containers whose turn is completed, and how they are seen: those before the first that
raises. -/
def reached (cfg : Settings) : List Container → List (Container × Sight)
  | [] => []
  | c :: containers =>
    match c.sight cfg with
    | .error _ => []
    | .ok sight => (c, sight) :: reached cfg containers

section Loop

variable {cfg : Settings} {containers : List Container} {c : Container} {sight : Sight}

theorem visit_eq_foldl (pass : Pass) : (visit cfg containers pass).1 =
    (reached cfg containers).foldl (fun pass turn => act cfg turn.1 turn.2 pass) pass := by
  induction containers generalizing pass with
  | nil => rfl
  | cons c containers ih =>
    unfold visit reached
    cases c.sight cfg with
    | error e => rfl
    | ok sight => exact ih (act cfg c sight pass)

/-- Every container can be read. -/
def Readable (cfg : Settings) (containers : List Container) : Prop :=
  ∀ c ∈ containers, ∃ sight, c.sight cfg = .ok sight

theorem visit_raised (pass : Pass) :
    (visit cfg containers pass).2 = none ↔ Readable cfg containers := by
  unfold Readable
  induction containers generalizing pass with
  | nil => simp [visit]
  | cons c containers ih =>
    rw [List.forall_mem_cons]
    unfold visit
    cases hsight : c.sight cfg with
    | error e => simp
    | ok sight => simpa using ih (act cfg c sight pass)

theorem sight_of_reached (h : (c, sight) ∈ reached cfg containers) : c.sight cfg = .ok sight := by
  induction containers with
  | nil => cases h
  | cons d containers ih =>
    unfold reached at h
    split at h
    · cases h
    · rename_i sight' hsight
      rcases List.mem_cons.1 h with h | h
      · obtain ⟨rfl, rfl⟩ := Prod.mk.inj h
        exact hsight
      · exact ih h

theorem reached_sublist : ((reached cfg containers).map Prod.fst).Sublist containers := by
  induction containers with
  | nil => exact .slnil
  | cons d containers ih =>
    unfold reached
    split
    · exact List.nil_sublist _
    · exact ih.cons_cons d

theorem reached_of_readable (h : Readable cfg containers) :
    (reached cfg containers).map Prod.fst = containers := by
  induction containers with
  | nil => rfl
  | cons d containers ih =>
    obtain ⟨⟨sight, hsight⟩, hrest⟩ := List.forall_mem_cons.1 h
    unfold reached
    rw [hsight]
    exact congrArg (d :: ·) (ih hrest)

theorem reached_nodup (h : (containers.map (·.id)).Nodup) :
    ((reached cfg containers).map fun turn => turn.1.id).Nodup := by
  have hsub : ((reached cfg containers).map Prod.fst).Sublist containers := reached_sublist
  have hsub := hsub.map (·.id)
  rw [List.map_map] at hsub
  exact h.sublist hsub

end Loop

/-! ## The tick -/

section Tick

variable {cfg : Settings} {poll : Poll} {listing : Listing} {w : Watchdog} {pass : Pass}
  {e : String}

theorem tick_of_error (h : poll.list = .error e) : tick cfg poll w = ⟨w, [], some e⟩ := by
  unfold tick
  rw [h]

theorem tick_of_raised (h : poll.list = .ok listing)
    (hvisit : visit cfg listing.containers ⟨w, [], 0, []⟩ = (pass, some e)) :
    tick cfg poll w = ⟨pass.watchdog, pass.calls, some e⟩ := by
  simp only [tick, h, hvisit]

theorem tick_of_returned (h : poll.list = .ok listing)
    (hvisit : visit cfg listing.containers ⟨w, [], 0, []⟩ = (pass, none)) :
    tick cfg poll w = ⟨settle cfg poll.time pass, pass.calls, none⟩ := by
  simp only [tick, h, hvisit]

end Tick

end PeHackathon.ComposeWatchdog
