import PeHackathon.ComposeWatchdog.Isolation

/-!
# Consecutive unhealthy polls

The streak of a container is the number of the last polls that all saw it unhealthy (`Backed`), as
long as every poll settles the streaks there are: it sees the container running and unhealthy, or
healthy, or it reads all containers and this one is not there. The branches that do none of this
leave the streak as it is (`unsettled_streak`), and a later poll goes on counting from it.
-/

namespace PeHackathon.ComposeWatchdog

open Lib

/-! ## What a poll saw -/

/-- The turns a poll completes. -/
def Poll.turns (cfg : Settings) (poll : Poll) : List (Container × Sight) :=
  match poll.list with
  | .ok listing => reached cfg listing.containers
  | .error _ => []

/-- After `reload` its state is `running`, and its health `unhealthy`. -/
def Container.RunningUnhealthy (c : Container) : Prop :=
  ∃ inspected state, c.reload = .ok inspected ∧ containerState inspected = .ok state ∧
    containerStatus state = .ok "running" ∧ containerHealth state = .ok "unhealthy"

/-- The tick saw the container running and unhealthy. -/
def Poll.Saw (cfg : Settings) (id : String) (poll : Poll) : Prop :=
  ∃ turn ∈ poll.turns cfg, turn.1.id = id ∧ turn.1.RunningUnhealthy

/-- The tick saw the container running and healthy, or without a health check, under a policy that
would restart it. -/
def Poll.SawHealthy (cfg : Settings) (id : String) (poll : Poll) : Prop :=
  ∃ turn ∈ poll.turns cfg, turn.1.id = id ∧ turn.2 = .healthy

/-- The tick could read all containers, and this one is not among them. -/
def Poll.SawGone (cfg : Settings) (id : String) (poll : Poll) : Prop :=
  ∃ listing, poll.list = .ok listing ∧ Readable cfg listing.containers ∧
    id ∉ listing.containers.map (·.id)

/-- No streak is left as it is by a tick that does not see its container running and unhealthy. -/
def Poll.Settles (cfg : Settings) (w : Watchdog) (poll : Poll) : Prop :=
  ∀ id, 0 < w.streak id → poll.Saw cfg id ∨ poll.SawHealthy cfg id ∨ poll.SawGone cfg id

/-- Every poll of the run settles the streaks before it. -/
def Settled (cfg : Settings) (status : Status) (polls : List Poll) : Prop :=
  Throughout (fun w poll => poll.Settles cfg w) (turn cfg) ⟨.empty, status⟩ polls

theorem runningUnhealthy_of_sight {cfg : Settings} {c : Container} {svc : String}
    (h : c.sight cfg = .ok (.unhealthy svc)) : c.RunningUnhealthy := by
  obtain ⟨inspected, hreload, h⟩ := bind_ok.1 h
  obtain ⟨svc', -, h⟩ := bind_ok.1 h
  split at h
  · cases h
  · obtain ⟨state, hstate, h⟩ := bind_ok.1 h
    obtain ⟨status, hstatus, h⟩ := bind_ok.1 h
    obtain ⟨policyName, -, h⟩ := bind_ok.1 h
    split at h
    · cases h
    · split at h
      · rename_i hrunning
        obtain ⟨hs, hhealth, h⟩ := bind_ok.1 h
        split at h
        · rename_i hunhealthy
          have hrunning : status = "running" := by simp_all
          have hunhealthy : hs = "unhealthy" := by simp_all
          exact ⟨inspected, state, hreload, hstate, hrunning ▸ hstatus, hunhealthy ▸ hhealth⟩
        · split at h <;> cases h
      · cases h

/-! ## What a tick does to a streak -/

section Tick

variable {cfg : Settings} {poll : Poll} {w : Watchdog} {id : String}

/-- A turn neither counts for another container nor restarts it. -/
theorem act_restart_ne {turn : Container × Sight} (h : turn.1.id ≠ id) (pass : Pass) :
    ((act cfg turn.1 turn.2 pass).watchdog.streak id,
      DockerCall.restart id ∈ (act cfg turn.1 turn.2 pass).calls) =
    (pass.watchdog.streak id, DockerCall.restart id ∈ pass.calls) := by
  refine Prod.ext (act_streak_ne cfg turn.2 pass (Ne.symm h)) (propext ?_)
  rw [act_calls, List.mem_append, or_iff_left]
  cases turn.2 with
  | exited svc => simp [callsFor]
  | unhealthy svc =>
    simp only [callsFor]
    split <;> simp [Ne.symm h]
  | _ => exact List.not_mem_nil

/-- What a tick does before it settles. -/
def Poll.pass (cfg : Settings) (w : Watchdog) (poll : Poll) : Pass :=
  (poll.turns cfg).foldl (fun pass turn => act cfg turn.1 turn.2 pass) ⟨w, [], 0, []⟩

theorem turns_nodup : ((poll.turns cfg).map fun turn => turn.1.id).Nodup := by
  unfold Poll.turns
  split
  · rename_i listing _
    exact reached_nodup listing.nodup
  · exact List.nodup_nil

theorem sight_of_turn {turn : Container × Sight} (h : turn ∈ poll.turns cfg) :
    turn.1.sight cfg = .ok turn.2 := by
  unfold Poll.turns at h
  split at h
  · exact sight_of_reached h
  · cases h

theorem pass_of_list {listing : Listing} (h : poll.list = .ok listing) :
    poll.pass cfg w = (visit cfg listing.containers ⟨w, [], 0, []⟩).1 := by
  unfold Poll.pass Poll.turns
  rw [h]
  exact (visit_eq_foldl _).symm

theorem pass_of_error {e : String} (h : poll.list = .error e) :
    poll.pass cfg w = ⟨w, [], 0, []⟩ := by
  unfold Poll.pass Poll.turns
  rw [h]
  rfl

theorem tick_calls : (tick cfg poll w).calls = (poll.pass cfg w).calls := by
  cases hlist : poll.list with
  | error e => rw [tick_of_error hlist, pass_of_error hlist]
  | ok listing =>
    rw [pass_of_list hlist]
    cases hvisit : visit cfg listing.containers ⟨w, [], 0, []⟩ with
    | mk pass raised =>
      cases raised with
      | none => rw [tick_of_returned hlist hvisit]
      | some e => rw [tick_of_raised hlist hvisit]

theorem settle_streak {time : Float} {pass : Pass} : (settle cfg time pass).streak id =
    if pass.seen.contains id then pass.watchdog.streak id else 0 := by
  simp only [settle, Watchdog.streak, Dict.get_deleteAll_filter]
  split <;> rfl

/-- A tick that raises keeps the streaks, one that does not keeps those of the containers it saw. -/
theorem turn_streak (h : ¬ poll.SawGone cfg id) :
    (turn cfg w poll).streak id = (poll.pass cfg w).watchdog.streak id := by
  unfold turn
  cases hlist : poll.list with
  | error e =>
    rw [tick_of_error hlist, pass_of_error hlist]
    exact streak_log
  | ok listing =>
    rw [pass_of_list hlist]
    cases hvisit : visit cfg listing.containers ⟨w, [], 0, []⟩ with
    | mk pass raised =>
      cases raised with
      | some e =>
        rw [tick_of_raised hlist hvisit]
        exact streak_log
      | none =>
        rw [tick_of_returned hlist hvisit]
        have hreadable : Readable cfg listing.containers :=
          (visit_raised ⟨w, [], 0, []⟩).1 (congrArg Prod.snd hvisit)
        have hmem : id ∈ listing.containers.map (·.id) := by
          by_contra hmem
          exact h ⟨listing, hlist, hreadable, hmem⟩
        have hseen := visit_seen hreadable ⟨w, [], 0, []⟩
        rw [hvisit] at hseen
        refine settle_streak.trans (if_pos ?_)
        rw [hseen]
        simpa using hmem

theorem turn_streak_gone (h : poll.SawGone cfg id) : (turn cfg w poll).streak id = 0 := by
  obtain ⟨listing, hlist, hreadable, hmem⟩ := h
  obtain ⟨list, time⟩ := poll
  obtain rfl : list = .ok listing := hlist
  unfold turn
  rw [tick_readable time w hreadable]
  refine settle_streak.trans (if_neg ?_)
  rw [visit_seen hreadable]
  simpa using hmem

/-- The turn of a container decides its streak, and whether it is restarted. -/
theorem pass_of_turn {c : Container} {sight : Sight} (h : (c, sight) ∈ poll.turns cfg) :
    (poll.pass cfg w).watchdog.streak c.id = streakAfter cfg (w.streak c.id) sight ∧
      (.restart c.id ∈ (poll.pass cfg w).calls ↔
        .restart c.id ∈ callsFor cfg c.id (w.streak c.id) sight) := by
  obtain ⟨pass, hpass, hview⟩ := @foldl_once _ _ _ _ (fun pass turn => act cfg turn.1 turn.2 pass)
    (fun pass => (pass.watchdog.streak c.id, DockerCall.restart c.id ∈ pass.calls))
    (fun turn => turn.1.id) _ _ (fun pass turn _ hkey => act_restart_ne hkey pass) turns_nodup h
      ⟨w, [], 0, []⟩
  obtain ⟨hstreak, hcalls⟩ := Prod.mk.inj hpass
  obtain ⟨hstreak', hcalls'⟩ := Prod.mk.inj hview
  unfold Poll.pass
  refine ⟨hstreak'.trans ?_, (Eq.to_iff hcalls').trans ?_⟩
  · rw [act_streak_self, hstreak]
  · rw [act_calls, List.mem_append, hcalls, hstreak]
    simp

theorem pass_untouched (h : ∀ turn ∈ poll.turns cfg, turn.1.id ≠ id) :
    (poll.pass cfg w).watchdog.streak id = w.streak id ∧
      DockerCall.restart id ∉ (poll.pass cfg w).calls := by
  have hview := @foldl_untouched _ _ _ (fun pass turn => act cfg turn.1 turn.2 pass)
    (fun pass => (pass.watchdog.streak id, DockerCall.restart id ∈ pass.calls)) (poll.turns cfg)
    (fun pass turn hturn => act_restart_ne (h turn hturn) pass) ⟨w, [], 0, []⟩
  obtain ⟨hstreak, hcalls⟩ := Prod.mk.inj hview
  exact ⟨hstreak, fun hmem => List.not_mem_nil (hcalls.mp hmem)⟩

theorem Poll.Saw.of_turn {c : Container} {svc : String}
    (h : (c, Sight.unhealthy svc) ∈ poll.turns cfg) :
    poll.Saw cfg c.id :=
  ⟨_, h, rfl, runningUnhealthy_of_sight (sight_of_turn h)⟩

/-- A streak is reset, or goes on at a container that is seen unhealthy, or stays. -/
theorem turn_cases (cfg : Settings) (w : Watchdog) (poll : Poll) (id : String) :
    ((turn cfg w poll).streak id = 0 ∧
        (poll.Saw cfg id ∨ poll.SawHealthy cfg id ∨ poll.SawGone cfg id)) ∨
      ((turn cfg w poll).streak id = w.streak id + 1 ∧ poll.Saw cfg id) ∨
      ((turn cfg w poll).streak id = w.streak id ∧ ¬ poll.SawHealthy cfg id ∧
        ¬ poll.SawGone cfg id) := by
  by_cases hgone : poll.SawGone cfg id
  · exact .inl ⟨turn_streak_gone hgone, .inr (.inr hgone)⟩
  rw [turn_streak hgone]
  by_cases hturn : ∃ turn ∈ poll.turns cfg, turn.1.id = id
  · obtain ⟨⟨c, sight⟩, hmem, rfl⟩ := hturn
    rw [(pass_of_turn hmem).1]
    have hstays : sight ≠ .healthy → ¬ poll.SawHealthy cfg c.id := by
      rintro hne ⟨turn, hturn, hid, hhealthy⟩
      obtain rfl : turn = (c, sight) := List.inj_on_of_nodup_map turns_nodup hturn hmem hid
      exact hne hhealthy
    cases sight with
    | unhealthy svc =>
      have hsaw := Poll.Saw.of_turn hmem
      simp only [streakAfter]
      split
      · exact .inl ⟨rfl, .inl hsaw⟩
      · exact .inr (.inl ⟨rfl, hsaw⟩)
    | healthy => exact .inl ⟨rfl, .inr (.inl ⟨_, hmem, rfl, rfl⟩)⟩
    | passedOver => exact .inr (.inr ⟨rfl, hstays (by simp), hgone⟩)
    | exited svc => exact .inr (.inr ⟨rfl, hstays (by simp), hgone⟩)
    | other => exact .inr (.inr ⟨rfl, hstays (by simp), hgone⟩)
  · refine .inr (.inr ⟨(pass_untouched fun turn hmem hid => hturn ⟨turn, hmem, hid⟩).1, ?_, hgone⟩)
    rintro ⟨turn, hmem, hid, -⟩
    exact hturn ⟨turn, hmem, hid⟩

/-- A poll that does not settle a streak leaves it as it is. -/
theorem unsettled_streak (h : ¬ (poll.Saw cfg id ∨ poll.SawHealthy cfg id ∨ poll.SawGone cfg id)) :
    (turn cfg w poll).streak id = w.streak id := by
  rcases turn_cases cfg w poll id with ⟨-, hsettled⟩ | ⟨-, hsaw⟩ | ⟨hstreak, -⟩
  · exact absurd hsettled h
  · exact absurd (.inl hsaw) h
  · exact hstreak

/-- Only a container that is seen unhealthy is restarted, at the end of its streak. -/
theorem saw_of_restart (h : .restart id ∈ (tick cfg poll w).calls) :
    poll.Saw cfg id ∧ cfg.unhealthyPolls ≤ w.streak id + 1 := by
  rw [tick_calls] at h
  by_cases hturn : ∃ turn ∈ poll.turns cfg, turn.1.id = id
  · obtain ⟨⟨c, sight⟩, hmem, rfl⟩ := hturn
    rw [(pass_of_turn hmem).2] at h
    cases sight with
    | unhealthy svc =>
      refine ⟨.of_turn hmem, ?_⟩
      simp only [callsFor] at h
      split at h
      · assumption
      · cases h
    | exited svc => simp [callsFor] at h
    | _ => cases h
  · exact absurd h (pass_untouched fun turn hmem hid => hturn ⟨turn, hmem, hid⟩).2

end Tick

/-! ## Runs -/

section Run

variable {cfg : Settings} {status : Status} {polls : List Poll} {poll : Poll} {w : Watchdog}
  {id : String}

/-- Every streak counts polls that were the last ones. -/
def Backed (cfg : Settings) (polls : List Poll) (w : Watchdog) : Prop :=
  ∀ id, Lately (Poll.Saw cfg id) (w.streak id) polls

theorem Backed.turn (h : Backed cfg polls w) (hsettles : poll.Settles cfg w) :
    Backed cfg (polls ++ [poll]) (turn cfg w poll) := by
  intro id
  rcases turn_cases cfg w poll id with ⟨hzero, -⟩ | ⟨hnext, hsaw⟩ | ⟨hsame, hhealthy, hgone⟩
  · rw [hzero]
    exact .zero _
  · rw [hnext]
    exact (h id).snoc hsaw
  · rw [hsame]
    rcases Nat.eq_zero_or_pos (w.streak id) with hzero | hpos
    · rw [hzero]
      exact .zero _
    · rcases hsettles id hpos with hsaw | hsaw | hsaw
      · exact ((h id).snoc hsaw).mono (Nat.le_succ _)
      · exact absurd hsaw hhealthy
      · exact absurd hsaw hgone

theorem Settled.backed (h : Settled cfg status polls) :
    Backed cfg polls (run cfg status polls) := by
  have hstart : Backed cfg [] ⟨.empty, status⟩ := fun id => .zero []
  exact Throughout.keeps_with (fun _ _ _ hbacked hsettles => hbacked.turn hsettles) hstart h

end Run

/-- **Restarts only after consecutive unhealthy polls**: in a run whose polls settle the streaks, a
tick restarts a container as unhealthy only if it and the polls before it, as many as it takes, all
saw the container running and unhealthy. -/
theorem restarts_after_consecutive_polls (cfg : Settings) (status : Status) (polls : List Poll)
    (poll : Poll) (id : String) (hsettled : Settled cfg status polls)
    (h : .restart id ∈ (tick cfg poll (run cfg status polls)).calls) :
    Lately (Poll.Saw cfg id) cfg.unhealthyPolls (polls ++ [poll]) := by
  obtain ⟨hsaw, hstreak⟩ := saw_of_restart h
  exact ((hsettled.backed id).snoc hsaw).mono hstreak

/-! ## The container of one service -/

/-- A poll that finds the container of `web`. -/
def webPoll (status health : String) : Poll :=
  ⟨.ok ⟨[web status health], List.nodup_singleton _⟩, 0⟩

def sick : Poll := webPoll "running" "unhealthy"

def threePolls : Settings := { defaults with unhealthyPolls := 3 }

theorem third_poll_restarts : Lately (Poll.Saw threePolls "c2") 3 ([sick, sick] ++ [sick]) := by
  refine restarts_after_consecutive_polls threePolls newStatus [sick, sick] sick "c2" ?_ (by decide)
  refine ⟨fun id hpos => absurd hpos (Nat.lt_irrefl 0), fun id hpos => ?_, trivial⟩
  rcases turn_cases threePolls ⟨.empty, newStatus⟩ sick id with ⟨hzero, -⟩ | ⟨-, hsaw⟩ | ⟨hsame, -⟩
  · omega
  · exact .inl hsaw
  · rw [hsame] at hpos
    exact absurd hpos (Nat.lt_irrefl 0)

/-- The second of the three polls found the container stopped, and started it. -/
theorem stop_between_not_counted : ¬ ∀ polls poll id,
    .restart id ∈ (tick defaults poll (run defaults newStatus polls)).calls →
      Lately (Poll.Saw defaults id) defaults.unhealthyPolls (polls ++ [poll]) := by
  intro h
  have hlately : Lately (Poll.Saw defaults "c2") (0 + 1 + 1)
      (([sick] ++ [webPoll "exited" "unhealthy"]) ++ [sick]) :=
    h [sick, webPoll "exited" "unhealthy"] sick "c2" (by decide)
  obtain ⟨turn, hturn, -, inspected, state, hreload, hstate, hstatus, -⟩ :=
    (Lately.of_snoc (Lately.of_snoc hlately).2).1
  obtain rfl := List.mem_singleton.1 hturn
  obtain rfl := Except.ok.inj hreload
  obtain rfl := Except.ok.inj hstate
  exact absurd (Except.ok.inj hstatus) (by decide)

end PeHackathon.ComposeWatchdog
