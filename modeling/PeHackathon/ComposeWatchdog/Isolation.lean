import PeHackathon.ComposeWatchdog.Pass
import PeHackathon.Lib.Except

/-!
# Failures of one container

A tick serves every container, whatever `start` and `restart` do, exactly if it can read them all:
`reload` and the reads after it are outside the `try` blocks, so the first container that cannot be
read ends the tick (`tick_isolated_iff`). What the Engine API documents can be read
(`readable_of_documented`).
-/

namespace PeHackathon.ComposeWatchdog

open Lib

/-- Neither the watchdog itself nor excluded, and a service of the project. -/
def Container.monitored (cfg : Settings) (c : Container) : Bool :=
  match c.reload >>= service with
  | .ok svc => !cfg.passesOver svc
  | .error _ => false

/-- Exited, with a restart policy that recovers it, and monitored. -/
def Container.Recoverable (cfg : Settings) (c : Container) : Prop :=
  ∃ inspected svc state policyName, c.reload = .ok inspected ∧ service inspected = .ok svc ∧
    cfg.passesOver svc = false ∧ containerState inspected = .ok state ∧
    containerStatus state = .ok "exited" ∧ containerPolicy inspected = .ok policyName ∧
    shouldRecoverExited cfg policyName = true

/-- Each container to be started is started once, and the tick comes to its end. -/
structure Isolated (cfg : Settings) (listing : Listing) (time : Float) (ended : Ended) : Prop where
  started : ∀ c ∈ listing.containers, c.Recoverable cfg → ended.calls.count (.start c.id) = 1
  returned : ended.raised = none
  lastTickAt : ended.watchdog.status.lastTickAt = some time
  instancesMonitored :
    ended.watchdog.status.instancesMonitored = (listing.containers.filter (·.monitored cfg)).length
  intervalSec : ended.watchdog.status.intervalSec = cfg.interval
  streaks : ∀ id ∈ ended.watchdog.unhealthyStreak.keys, id ∈ listing.containers.map (·.id)

section Reading

variable {cfg : Settings} {c : Container} {sight : Sight}

theorem Container.Recoverable.sight_eq (h : c.Recoverable cfg) :
    ∃ svc, c.sight cfg = .ok (.exited svc) := by
  obtain ⟨inspected, svc, state, policyName, hreload, hsvc, hpass, hstate, hstatus, hpolicy,
    hrecover⟩ := h
  refine ⟨svc, bind_ok.2 ⟨inspected, hreload, ?_⟩⟩
  simp only [look, hsvc, hstate, hstatus, hpolicy, hpass, hrecover, bind, Except.bind]
  rfl

/-- Only the service decides who is passed over. -/
theorem look_passedOver {inspected : Inspected} {svc : String} (hsvc : service inspected = .ok svc)
    (h : look cfg inspected = .ok sight) : sight = .passedOver ↔ cfg.passesOver svc = true := by
  unfold look at h
  rw [hsvc] at h
  change (if cfg.passesOver svc then _ else _) = _ at h
  cases hpass : cfg.passesOver svc with
  | true =>
    rw [hpass] at h
    cases h
    simp
  | false =>
    rw [hpass] at h
    obtain ⟨state, -, h⟩ := bind_ok.1 h
    obtain ⟨status, -, h⟩ := bind_ok.1 h
    obtain ⟨policyName, -, h⟩ := bind_ok.1 h
    have hne : sight ≠ .passedOver := by
      rintro rfl
      split at h
      · cases h
      · split at h
        · obtain ⟨hs, -, h⟩ := bind_ok.1 h
          split at h
          · cases h
          · split at h <;> cases h
        · cases h
    simp [hne]

theorem monitored_of_sight (h : c.sight cfg = .ok sight) :
    c.monitored cfg = true ↔ sight ≠ .passedOver := by
  obtain ⟨inspected, hreload, hlook⟩ := bind_ok.1 h
  obtain ⟨svc, hsvc, -⟩ := bind_ok.1 hlook
  have hboth : (c.reload >>= service) = .ok svc := bind_ok.2 ⟨inspected, hreload, hsvc⟩
  unfold Container.monitored
  rw [hboth, Ne, look_passedOver hsvc hlook]
  simp

end Reading

section Visit

variable {cfg : Settings} {containers : List Container}

theorem visit_seen (h : Readable cfg containers) (pass : Pass) :
    (visit cfg containers pass).1.seen = (containers.map (·.id)).reverse ++ pass.seen := by
  induction containers generalizing pass with
  | nil => rfl
  | cons c containers ih =>
    obtain ⟨⟨sight, hsight⟩, hrest⟩ := List.forall_mem_cons.1 h
    simp only [visit, hsight]
    rw [ih hrest, act_seen]
    simp

theorem visit_monitored (h : Readable cfg containers) (pass : Pass) :
    (visit cfg containers pass).1.monitored =
      pass.monitored + (containers.filter (·.monitored cfg)).length := by
  induction containers generalizing pass with
  | nil => rfl
  | cons c containers ih =>
    obtain ⟨⟨sight, hsight⟩, hrest⟩ := List.forall_mem_cons.1 h
    simp only [visit, hsight]
    rw [ih hrest, act_monitored, List.filter_cons]
    have hmonitored := monitored_of_sight hsight
    by_cases hpassed : sight = .passedOver
    · have hno : c.monitored cfg = false := by simpa [hpassed] using hmonitored
      simp [hpassed, hno]
    · have hyes : c.monitored cfg = true := hmonitored.2 hpassed
      simp only [hpassed, hyes, ite_false, ite_true, List.length_cons]
      omega

/-- A turn makes calls on its own container only. -/
theorem count_act_ne (d : Container) (sight : Sight) (pass : Pass) {id : String} (h : d.id ≠ id) :
    (act cfg d sight pass).calls.count (.start id) = pass.calls.count (.start id) := by
  rw [act_calls, List.count_append, Nat.add_eq_left, List.count_eq_zero]
  cases sight with
  | exited svc => simp [callsFor, Ne.symm h]
  | unhealthy svc =>
    simp only [callsFor]
    split <;> simp
  | _ => exact List.not_mem_nil

/-- An exited container that a tick reaches is started once. -/
theorem visit_starts (hnodup : (containers.map (·.id)).Nodup) {c : Container} {svc : String}
    (h : (c, Sight.exited svc) ∈ reached cfg containers) (w : Watchdog) :
    (visit cfg containers ⟨w, [], 0, []⟩).1.calls.count (.start c.id) = 1 := by
  rw [visit_eq_foldl]
  obtain ⟨pass, hpass, hcount⟩ := @foldl_once _ _ _ _ (fun pass turn => act cfg turn.1 turn.2 pass)
    (fun pass => pass.calls.count (.start c.id)) (fun turn => turn.1.id) _ _
    (fun pass turn _ hkey => count_act_ne turn.1 turn.2 pass hkey) (reached_nodup hnodup) h
      ⟨w, [], 0, []⟩
  have hcalls : pass.calls.count (.start c.id) = 0 := hpass
  have hstart : (act cfg c (.exited svc) pass).calls.count (.start c.id) = 1 := by
    rw [act_calls, List.count_append, hcalls]
    simp [callsFor]
  exact hcount.trans hstart

end Visit

section Tick

variable {cfg : Settings} {listing : Listing} (time : Float) (w : Watchdog)

theorem tick_raised :
    (tick cfg ⟨.ok listing, time⟩ w).raised = none ↔ Readable cfg listing.containers := by
  rw [← visit_raised ⟨w, [], 0, []⟩]
  have hlist : (⟨.ok listing, time⟩ : Poll).list = .ok listing := rfl
  cases hvisit : visit cfg listing.containers ⟨w, [], 0, []⟩ with
  | mk pass raised =>
    cases raised with
    | none => rw [tick_of_returned hlist hvisit]
    | some e => rw [tick_of_raised hlist hvisit]

theorem tick_readable (h : Readable cfg listing.containers) : tick cfg ⟨.ok listing, time⟩ w =
    ⟨settle cfg time (visit cfg listing.containers ⟨w, [], 0, []⟩).1,
      (visit cfg listing.containers ⟨w, [], 0, []⟩).1.calls, none⟩ :=
  tick_of_returned rfl (Prod.ext rfl ((visit_raised ⟨w, [], 0, []⟩).2 h))

end Tick

/-- Only streaks of containers in the list are left. -/
theorem settle_streaks {cfg : Settings} {time : Float} {pass : Pass} {id : String}
    (h : id ∈ (settle cfg time pass).unhealthyStreak.keys) : id ∈ pass.seen := by
  rw [Dict.mem_keys] at h
  simp only [settle, Dict.get_deleteAll_filter] at h
  split at h
  · rename_i hseen
    exact List.contains_iff_mem.1 hseen
  · exact absurd rfl h

/-- **Failures are isolated** exactly if every container can be read. -/
theorem tick_isolated_iff (cfg : Settings) (listing : Listing) (time : Float) (w : Watchdog) :
    Isolated cfg listing time (tick cfg ⟨.ok listing, time⟩ w) ↔
      Readable cfg listing.containers := by
  constructor
  · intro h
    exact (tick_raised time w).1 h.returned
  · intro h
    rw [tick_readable time w h]
    have hseen := visit_seen h ⟨w, [], 0, []⟩
    have hmonitored := visit_monitored h ⟨w, [], 0, []⟩
    refine ⟨fun c hc hrecoverable => ?_, rfl, rfl, ?_, rfl, fun id hid => ?_⟩
    · obtain ⟨svc, hsight⟩ := hrecoverable.sight_eq
      have hmem : c ∈ (reached cfg listing.containers).map Prod.fst := by
        rw [reached_of_readable h]
        exact hc
      obtain ⟨⟨c, sight⟩, hreached, rfl⟩ := List.mem_map.1 hmem
      obtain rfl : sight = .exited svc :=
        Except.ok.inj ((sight_of_reached hreached).symm.trans hsight)
      exact visit_starts listing.nodup hreached w
    · exact hmonitored.trans (Nat.zero_add _)
    · have hmem := settle_streaks hid
      rw [hseen] at hmem
      simpa using hmem

/-! ## What the Engine API documents -/

/-- A field that is a `str`, or is missing. -/
def TextField (fields : JsonObject) (key : String) : Prop :=
  JsonObject.getNone fields key = .null ∨ ∃ s, JsonObject.getNone fields key = .str s

/-- A container as the Engine API documents its `inspect` answer. -/
structure Inspected.Documented (c : Inspected) : Prop where
  labels : ∃ labels, c.labels = .ok (.obj labels) ∧ TextField labels "com.docker.compose.service"
  attrs : ∃ attrs state hostConfig policy, c.attrs = .obj attrs ∧
    JsonObject.getNone attrs "State" = .obj state ∧ TextField state "Status" ∧
    (JsonObject.getNone state "Health" = .null ∨
      ∃ health, JsonObject.getNone state "Health" = .obj health ∧ TextField health "Status") ∧
    JsonObject.getNone attrs "HostConfig" = .obj hostConfig ∧
    JsonObject.get? hostConfig "RestartPolicy" = some (.obj policy) ∧ TextField policy "Name"

section Documented

variable {c : Inspected} {fields : JsonObject} {key : String}

@[simp] theorem pyOr_obj : pyOr (.obj fields) (.obj []) = .obj fields := by cases fields <;> rfl

theorem TextField.read (h : TextField fields key) (name : String) :
    ∃ s, pyStrFor (pyOr (JsonObject.getNone fields key) (.str "")) name = .ok s := by
  rcases h with h | ⟨s, h⟩
  · exact ⟨"", by rw [h]; rfl⟩
  · refine ⟨s, ?_⟩
    rw [h]
    by_cases hs : s = "" <;> simp [pyOr, pyTruthy, pyStrFor, hs]

theorem Inspected.Documented.service (h : c.Documented) : ∃ svc, service c = .ok svc := by
  obtain ⟨labels, hlabels, hfield⟩ := h.labels
  obtain ⟨name, hname⟩ := hfield.read "strip"
  refine ⟨pyLower (pyStrip name), ?_⟩
  unfold ComposeWatchdog.service
  rw [hlabels]
  exact bind_ok.2 ⟨_, rfl, bind_ok.2 ⟨_, by rw [pyOr_obj]; rfl, bind_ok.2 ⟨name, hname, rfl⟩⟩⟩

theorem containerHealth_documented {state : JsonObject}
    (h : JsonObject.getNone state "Health" = .null ∨
    ∃ health, JsonObject.getNone state "Health" = .obj health ∧ TextField health "Status") :
    ∃ hs, containerHealth (.obj state) = .ok hs := by
  rcases h with h | ⟨health, h, hfield⟩
  · refine ⟨pyLower "", bind_ok.2 ⟨.null, congrArg Except.ok h, ?_⟩⟩
    rfl
  · obtain ⟨hs, hhs⟩ := hfield.read "lower"
    refine ⟨pyLower hs, bind_ok.2 ⟨_, congrArg Except.ok h,
      bind_ok.2 ⟨_, by rw [pyOr_obj]; rfl, ?_⟩⟩⟩
    exact bind_ok.2 ⟨hs, hhs, rfl⟩

/-- Reading it raises nothing. -/
theorem look_documented (cfg : Settings) (h : c.Documented) : ∃ sight, look cfg c = .ok sight := by
  obtain ⟨svc, hsvc⟩ := h.service
  obtain ⟨attrs, state, hostConfig, policy, hattrs, hstate, hstatus, hhealth, hhost, hpolicy,
    hname⟩ := h.attrs
  obtain ⟨status, hstatus⟩ := hstatus.read "lower"
  obtain ⟨name, hname⟩ := hname.read "strip"
  obtain ⟨hs, hhs⟩ := containerHealth_documented hhealth
  have hstate' : containerState c = .ok (.obj state) := by
    unfold containerState
    rw [hattrs, pyOr_obj]
    exact bind_ok.2 ⟨_, congrArg Except.ok hstate, by rw [pyOr_obj]; rfl⟩
  have hstatus' : containerStatus (.obj state) = .ok (pyLower status) :=
    bind_ok.2 ⟨_, rfl, bind_ok.2 ⟨status, hstatus, rfl⟩⟩
  have hpolicy' : containerPolicy c = .ok (pyLower (pyStrip name)) := by
    unfold containerPolicy
    rw [hattrs, pyOr_obj]
    refine bind_ok.2 ⟨_, congrArg Except.ok hhost,
      bind_ok.2 ⟨.obj policy, ?_, bind_ok.2 ⟨_, rfl, ?_⟩⟩⟩
    · rw [pyOr_obj]
      simp [pyGet, hpolicy]
    · exact bind_ok.2 ⟨name, hname, rfl⟩
  simp only [look, hsvc, hstate', hstatus', hpolicy', hhs, bind, Except.bind, pure, Except.pure]
  repeat' split
  all_goals exact ⟨_, rfl⟩

end Documented

/-- With such answers a tick is isolated if every `reload` succeeds. -/
theorem readable_of_documented (cfg : Settings) {containers : List Container}
    (h : ∀ c ∈ containers, ∃ inspected, c.reload = .ok inspected ∧ inspected.Documented) :
    Readable cfg containers := by
  intro c hc
  obtain ⟨inspected, hreload, hdocumented⟩ := h c hc
  obtain ⟨sight, hsight⟩ := look_documented cfg hdocumented
  exact ⟨sight, bind_ok.2 ⟨inspected, hreload, hsight⟩⟩

/-! ## Two containers, of which the first is gone -/

def defaults : Settings where
  selfService := "compose-watchdog"
  exclude := []
  unhealthyPolls := 2
  interval := 15
  onlyAlways := none

/-- What `inspect` answers about a container of the service `web` that is to be restarted always. -/
def inspectedWeb (status health : String) : Inspected where
  labels := .ok (.obj [("com.docker.compose.service", .str "web")])
  attrs := .obj [
    ("State", .obj [("Status", .str status), ("Health", .obj [("Status", .str health)])]),
    ("HostConfig", .obj [("RestartPolicy", .obj [("Name", .str "always")])])]

def web (status health : String) : Container where
  id := "c2"
  shortId := "c2"
  reload := .ok (inspectedWeb status health)
  start := .ok ()
  restart := .ok ()
  time := 0

def gone : Container :=
  { web "exited" "none" with id := "c1", shortId := "c1", reload := .error "404 Client Error" }

def goneFirst : Listing := ⟨[gone, web "exited" "none"], by decide⟩

def newStatus : Status := ⟨15, none, 0, [], []⟩

theorem web_recoverable : (web "exited" "none").Recoverable defaults :=
  ⟨inspectedWeb "exited" "none", "web", _, "always", rfl, rfl, rfl, rfl, rfl, rfl, rfl⟩

theorem gone_container_stops_tick :
    ¬ Isolated defaults goneFirst 0 (tick defaults ⟨.ok goneFirst, 0⟩ ⟨.empty, newStatus⟩) := by
  intro h
  have hstarted :=
    h.started (web "exited" "none") (List.mem_cons_of_mem _ List.mem_cons_self) web_recoverable
  revert hstarted
  decide

end PeHackathon.ComposeWatchdog
