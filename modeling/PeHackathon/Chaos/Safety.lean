import PeHackathon.Chaos.Routes
import PeHackathon.Lib.Emits

/-!
# Chaos actions hit only what was confirmed

Whatever Railway and Docker answer, a chaos request acts on one target at most, after it has looked
the target up: chaos is on, the service of the target has the name that the request confirms, and
the policy allows it, which never allows the dashboard. It answers 200 exactly when its last action
succeeded (`chaos_safe`).
-/

namespace PeHackathon.Chaos

open Js Lib Watchdog

/-! ## The record of a request -/

/-- A call and its answer. -/
structure Asked where
  call : Call
  answer : Answer call

/-- What a request acts on. -/
inductive Target
  | deployment (id : String)
  | container (id : String)
  deriving DecidableEq, Repr

/-- The target of a call that acts. -/
def Call.target? : Call → Option Target
  | .deploymentStop id => some (.deployment id)
  | .deploymentRemove id => some (.deployment id)
  | .deploymentRestart id => some (.deployment id)
  | .kill id => some (.container id)
  | .restart id _ => some (.container id)
  | _ => none

/-- The answer to an action says that it was done. -/
def Call.succeeded : (q : Call) → Answer q → Bool
  | .deploymentStop _, .ok (some b) => b
  | .deploymentRemove _, .ok done => done.getD true
  | .deploymentRestart _, .ok done => done.getD true
  | .kill _, .ok _ => true
  | .restart _ _, .ok _ => true
  | _, _ => false

def Asked.succeeded (x : Asked) : Bool := x.call.succeeded x.answer

/-- The record keeps every call. -/
def record (q : Call) (r : Answer q) : List Asked := [⟨q, r⟩]

/-- The target is the one that the request names, and what was answered before says that its service
has the name that the request confirms. -/
inductive Identified (env : Environment) (before : List Asked) :
    RequestBody → Target → String → Prop
  | railway {containerId railwayServiceId confirmService : BodyField}
      {projectId environmentId sid confirm : String}
      {nodes : List (Option ServiceNode)} {batch : Nat → Option DeploymentNode} {i : Nat}
        {dep : DeploymentNode}
      (hsid : railwayServiceId.text = some sid) (hne : sid ≠ "")
      (hproject : (⟨.projectServices projectId, .ok (some nodes)⟩ : Asked) ∈ before)
      (hbatch : (⟨.deployments projectId environmentId (nodes.reduceOption.map (·.id)),
        .ok batch⟩ : Asked) ∈ before)
      (hservice : (nodes.reduceOption[i]?).map (·.id) = some sid) (hdep : batch i = some dep)
      (hconfirm : confirmService.text = some confirm)
      (hname : toLowerCase (trim (serviceName nodes.reduceOption sid)) = toLowerCase confirm) :
      Identified env before (.fields containerId railwayServiceId confirmService)
        (.deployment dep.id) (serviceName nodes.reduceOption sid)
  | docker {containerId railwayServiceId confirmService : BodyField} {cid confirm : String}
      {labels : ComposeLabels}
      (hsid : railwayServiceId.text = some "") (hcid : containerId.text = some cid) (hne : cid ≠ "")
      (hlabels : (⟨.inspect cid, .ok labels⟩ : Asked) ∈ before)
      (hproject : labels.project = some
        ((runtimeEnv env "VISIBILITY_COMPOSE_PROJECT").getD "pe-hackathon-2026"))
      (hconfirm : confirmService.text = some confirm)
      (hname : toLowerCase (labels.service.getD "") = toLowerCase confirm) :
      Identified env before (.fields containerId railwayServiceId confirmService) (.container cid)
        (labels.service.getD "")

/-- The checks that an action needs. -/
structure Cleared (env : Environment) (body : RequestBody) (before : List Asked) (target : Target)
    (name : String) :
    Prop where
  enabled : chaosKillEnabled env = true
  identified : Identified env before body target name
  allowed : isServiceKillAllowed env name = true
  spared : toLowerCase (trim name) ≠ "dashboard"

/-- So far: lookups, and then actions of the given kind on a target that they cleared. -/
def Safe (acts : Target → List Asked → Prop) (env : Environment) (body : RequestBody)
    (tr : List Asked) : Prop :=
  ∃ lookups done, tr = lookups ++ done ∧ (∀ x ∈ lookups, x.call.target? = none) ∧
    (done = [] ∨ ∃ target name, Cleared env body lookups target name ∧ acts target done)

/-- The answer says 200 exactly when the last call is an action that succeeded. -/
def Truthful (a : ChaosResponse) (tr : List Asked) : Prop :=
  a.status = 200 ↔ ∃ x, tr.getLast? = some x ∧ x.succeeded = true

/-- What `chaos/kill` does to a target: it stops a deployment, and removes it if the stop was not
confirmed; or it kills a container. -/
inductive Kills : Target → List Asked → Prop
  | stop {id : String} (r : Answer (.deploymentStop id)) :
      Kills (.deployment id) [⟨.deploymentStop id, r⟩]
  | remove {id : String} (r : Answer (.deploymentStop id)) (r' : Answer (.deploymentRemove id))
      (hr : (⟨.deploymentStop id, r⟩ : Asked).succeeded = false) :
      Kills (.deployment id) [⟨.deploymentStop id, r⟩, ⟨.deploymentRemove id, r'⟩]
  | kill {id : String} (r : Answer (.kill id)) : Kills (.container id) [⟨.kill id, r⟩]

/-- What `chaos/restart` does to a target. -/
inductive Restarts : Target → List Asked → Prop
  | deployment {id : String} (r : Answer (.deploymentRestart id)) :
      Restarts (.deployment id) [⟨.deploymentRestart id, r⟩]
  | container {id : String} (r : Answer (.restart id RESTART_STOP_GRACE_S)) :
      Restarts (.container id) [⟨.restart id RESTART_STOP_GRACE_S, r⟩]

/-! ## The policy -/

/-- No override allows a blocked service. -/
theorem allowed_spares {env : Environment} {name : String}
    (h : isServiceKillAllowed env name = true) :
    toLowerCase (trim name) ≠ "dashboard" := by
  unfold isServiceKillAllowed at h
  intro hname
  simp [hname, BLOCKED_SERVICES] at h

/-! ## Lookups -/

/-- Nothing has been acted on. -/
def Lookups (tr : List Asked) : Prop := ∀ x ∈ tr, x.call.target? = none

theorem lookups_concat {tr : List Asked} {x : Asked} (h : Lookups tr) (hx : x.call.target? = none) :
    Lookups (tr ++ [x]) := by
  intro y hy
  rcases List.mem_append.1 hy with hy | hy
  · exact h y hy
  · rw [List.mem_singleton.1 hy]
    exact hx

/-- From here on the record is the whole of the request, and any answer can come. -/
abbrev Keeps {α : Type} (pending : List Asked → Prop) (post : α → List Asked → Prop)
    (tr : List Asked) (p : Request α) : Prop :=
  p.Emits (fun _ _ => True) record pending post tr

/-- The answers that a row was made from. -/
structure Found (tr : List Asked) (row : RailwayVisibilityRow) : Prop where
  answers : ∃ projectId environmentId nodes batch i,
    (⟨.projectServices projectId, .ok (some nodes)⟩ : Asked) ∈ tr ∧
      (⟨.deployments projectId environmentId (nodes.reduceOption.map (·.id)), .ok batch⟩ : Asked)
        ∈ tr ∧
      (nodes.reduceOption[i]?).map (·.id) = some row.railwayServiceId ∧
      row = visibilityRow row.railwayServiceId (serviceName nodes.reduceOption row.railwayServiceId)
        (batch i)

@[simp] theorem visibilityRow_railwayServiceId (sid name : String) (dep : Option DeploymentNode) :
    (visibilityRow sid name dep).railwayServiceId = sid := by
  cases dep <;> rfl

@[simp] theorem visibilityRow_service (sid name : String) (dep : Option DeploymentNode) :
    (visibilityRow sid name dep).service = name := by
  cases dep <;> rfl

@[simp] theorem visibilityRow_railwayDeploymentId (sid name : String)
    (dep : Option DeploymentNode) :
    (visibilityRow sid name dep).railwayDeploymentId = dep.map (·.id) := by
  cases dep <;> rfl

theorem mem_visibilityRows {services : List ServiceNode} {batch : Nat → Option DeploymentNode}
    {row : RailwayVisibilityRow} (h : row ∈ visibilityRows services batch) :
    ∃ i, (services[i]?).map (·.id) = some row.railwayServiceId ∧
      row = visibilityRow row.railwayServiceId (serviceName services row.railwayServiceId)
        (batch i) := by
  obtain ⟨⟨node, i⟩, hmem, rfl⟩ := List.mem_map.1 h
  refine ⟨i, ?_, by simp⟩
  rw [List.mk_mem_zipIdx_iff_getElem?] at hmem
  rw [hmem]
  simp

theorem fetch_keeps (env : Environment) :
    Keeps Lookups (fun r tr => Lookups tr ∧ ∀ row ∈ r.containers, Found tr row)
    [] (fetchRailwayVisibilityRows env) := by
  have hnil : Lookups [] := fun x hx => absurd hx List.not_mem_nil
  have hempty : ∀ {error : Option String} {tr : List Asked}, Lookups tr →
      Lookups tr ∧ ∀ row ∈ ({ containers := [], error } : VisibilityResult).containers,
        Found tr row :=
    fun h => ⟨h, fun row hrow => absurd hrow List.not_mem_nil⟩
  unfold fetchRailwayVisibilityRows
  refine .perform hnil fun project _ => ?_
  have hproject : Lookups ([] ++ record _ project) := lookups_concat hnil rfl
  rcases project with msg | _ | nodes
  · exact .ret (hempty hproject)
  · exact .ret (hempty hproject)
  · refine .ite (fun _ => .ret (hempty hproject)) fun _ => .perform hproject fun batch _ => ?_
    have hbatch := lookups_concat (x := ⟨_, batch⟩) hproject rfl
    rcases batch with msg | batch
    · exact .ret (hempty hbatch)
    · refine .ret ⟨hbatch, fun row hrow => ?_⟩
      obtain ⟨i, hi, hrow⟩ := mem_visibilityRows hrow
      refine ⟨(runtimeEnv env "RAILWAY_PROJECT_ID").getD "",
        (runtimeEnv env "RAILWAY_ENVIRONMENT_ID").getD "", nodes, batch, i, ?_, ?_, hi, hrow⟩
      · exact List.mem_append_left _ (List.mem_singleton_self _)
      · exact List.mem_append_right _ (List.mem_singleton_self _)

theorem row_keeps (env : Environment) (sid : String) :
    Keeps Lookups (fun row tr => Lookups tr ∧ ∀ r, row = some r → r.railwayServiceId = sid ∧
      Found tr r) [] (getRailwayChaosRowForService env sid) := by
  refine (fetch_keeps env).bind fun r tr ⟨htr, hfound⟩ => .ret ⟨htr, fun row hrow => ?_⟩
  split at hrow
  · exact absurd hrow (Option.some_ne_none _).symm
  · have hsid := List.find?_some hrow
    exact ⟨of_decide_eq_true hsid, hfound row (List.mem_of_find?_eq_some hrow)⟩

/-! ## A route -/

/-- After the lookups, what a part of the route may do to the target. -/
structure Does (acts : Target → List Asked → Prop) (target : Target) {α : Type}
    (p : Request (Except String α)) :
    Prop where
  keeps : ∀ tr, Keeps (fun tr' => ∃ done, tr' = tr ++ done ∧ (done = [] ∨ acts target done))
    (fun r tr' => ∃ done, tr' = tr ++ done ∧ acts target done ∧
      ((∃ a, r = .ok a) ↔ ∃ x, done.getLast? = some x ∧ x.succeeded = true)) tr p

/-- What a route does to deployments and containers. -/
structure ChaosRoute.Acts (route : ChaosRoute) (acts : Target → List Asked → Prop) : Prop where
  halt : ∀ depId, Does acts (.deployment depId) (route.halt depId)
  hit : ∀ containerId, Does acts (.container containerId) (route.hit containerId)
  some : ∀ target, ¬ acts target []

section Route

variable {route : ChaosRoute} {acts : Target → List Asked → Prop} {env : Environment}
  {body : RequestBody} {tr : List Asked} {a : ChaosResponse}

theorem Lookups.safe (h : Lookups tr) : Safe acts env body tr :=
  ⟨tr, [], (List.append_nil tr).symm, h, .inl rfl⟩

theorem truthful_refused (h : Lookups tr) (ha : a.status ≠ 200) : Truthful a tr := by
  refine iff_of_false ha ?_
  rintro ⟨x, hx, hdone⟩
  have hnone := h x (List.mem_of_getLast? hx)
  obtain ⟨q, r⟩ := x
  cases q with
  | projectServices projectId => exact absurd hdone Bool.false_ne_true
  | deployments projectId environmentId serviceIds => exact absurd hdone Bool.false_ne_true
  | inspect containerId => exact absurd hdone Bool.false_ne_true
  | _ => exact absurd hnone (Option.some_ne_none _)

/-- What is answered before anything is acted on. -/
theorem answered_keeps (h : Lookups tr) (ha : a.status ≠ 200) :
    Keeps (Safe acts env body) (fun a tr => Safe acts env body tr ∧ Truthful a tr) tr (.ret a) :=
  .ret ⟨h.safe, truthful_refused h ha⟩

theorem refusal_keeps (h : Lookups tr) {status : Nat} (hstatus : status ≠ 200) (error : String) :
    Keeps (Safe acts env body) (fun a tr => Safe acts env body tr ∧ Truthful a tr) tr
      (.ret (refusal status error)) :=
  answered_keeps h hstatus

theorem unhandled_keeps (h : Lookups tr) :
    Keeps (Safe acts env body) (fun a tr => Safe acts env body tr ∧ Truthful a tr) tr
      (.ret unhandled) :=
  answered_keeps h (by decide)

/-- The action, once everything is checked, and the answer to it. -/
theorem act_keeps {α : Type} {p : Request (Except String α)}
    {answer : Except String α → Request ChaosResponse} {target : Target} {name : String}
    (hsome : ¬ acts target []) (hp : Does acts target p) (h : Lookups tr)
    (hcleared : Cleared env body tr target name)
    (herror : ∀ msg, answer (.error msg) = .ret (caught msg))
    (hok : ∀ b, ∃ a, answer (.ok b) = .ret a ∧ a.status = 200) :
    Keeps (Safe acts env body) (fun a tr => Safe acts env body tr ∧ Truthful a tr) tr
      (p >>= answer) := by
  have hsafe : ∀ done, done = [] ∨ acts target done → Safe acts env body (tr ++ done) :=
      fun done hdone =>
    ⟨tr, done, rfl, h, hdone.imp_right fun hacts => ⟨target, name, hcleared, hacts⟩⟩
  refine Prog.Emits.bind ((hp.keeps tr).mono ?_ fun _ _ hpost => hpost) fun r tr' => ?_
  · rintro tr' ⟨done, rfl, hdone⟩
    exact hsafe done hdone
  · rintro ⟨done, rfl, hacts, hdid⟩
    -- something was done, so the last call of the record is the last action
    have hlast : (tr ++ done).getLast? = done.getLast? := by
      have hne : done ≠ [] := fun hnil => hsome (hnil ▸ hacts)
      rw [List.getLast?_append_of_ne_nil _ hne]
    have htruth : ∀ a : ChaosResponse, (a.status = 200 ↔ ∃ b, r = .ok b) →
        Truthful a (tr ++ done) := by
      intro a ha
      unfold Truthful
      rw [ha, hdid, hlast]
    cases r with
    | error msg =>
      rw [herror]
      refine .ret ⟨hsafe done (.inr hacts),
        htruth _ (iff_of_false (show (503 : Nat) ≠ 200 by decide) ?_)⟩
      rintro ⟨b, hb⟩
      cases hb
    | ok b =>
      obtain ⟨a, ha, hstatus⟩ := hok b
      rw [ha]
      exact .ret ⟨hsafe done (.inr hacts), htruth _ (iff_of_true hstatus ⟨b, rfl⟩)⟩

theorem postRailway_keeps (hroute : route.Acts acts)
    {containerId railwayServiceId confirmService : BodyField} {sid confirm : String}
    (hsid : railwayServiceId.text = some sid) (hne : sid ≠ "")
    (hconfirm : confirmService.text = some confirm) (henabled : chaosKillEnabled env = true) :
    Keeps (Safe acts env (.fields containerId railwayServiceId confirmService))
      (fun a tr => Safe acts env (.fields containerId railwayServiceId confirmService) tr ∧
        Truthful a tr) []
      (route.postRailway env (toLowerCase confirm) sid) := by
  have hnil : Lookups [] := fun x hx => absurd hx List.not_mem_nil
  unfold ChaosRoute.postRailway
  refine Prog.Emits.ite (fun _ => refusal_keeps hnil (by decide) _) fun _ =>
    .ite (fun _ => refusal_keeps hnil (by decide) _) fun _ => ?_
  refine Prog.Emits.bind ((row_keeps env sid).mono (fun _ h => h.safe) fun _ _ h => h)
    fun found tr ⟨htr, hfound⟩ => ?_
  cases found with
  | none => exact refusal_keeps htr (by decide) _
  | some row =>
    have hrow := (hfound row rfl).1
    have hanswers := (hfound row rfl).2
    dsimp only
    split
    · exact refusal_keeps htr (by decide) _
    · next hname =>
      split
      · exact refusal_keeps htr (by decide) _
      · next hallowed =>
        cases hdep : row.railwayDeploymentId.filter (· != "") with
        | none => exact refusal_keeps htr (by decide) _
        | some depId =>
          obtain ⟨projectId, environmentId, nodes, batch, i, hproject, hbatch, hservice, hmade⟩ :=
            hanswers.answers
          rw [hrow] at hservice hmade
          have hid : row.railwayDeploymentId = some depId := (Option.filter_eq_some_iff.1 hdep).1
          have hsvc : row.service = serviceName nodes.reduceOption sid := by
            rw [hmade, visibilityRow_service]
          rw [hmade, visibilityRow_railwayDeploymentId] at hid
          obtain ⟨dep, hbatchDep, rfl⟩ := Option.map_eq_some_iff.1 hid
          have hallowed' : isServiceKillAllowed env row.service = true := by simpa using hallowed
          refine act_keeps (hroute.some _) (hroute.halt dep.id) htr
            (?_ : Cleared env _ _ _ row.service) (fun _ => rfl) fun _ => ⟨_, rfl, rfl⟩
          refine ⟨henabled, ?_, hallowed', allowed_spares hallowed'⟩
          rw [hsvc] at hname ⊢
          exact .railway hsid hne hproject hbatch hservice hbatchDep hconfirm (not_not.1 hname)

theorem postDocker_keeps (hroute : route.Acts acts)
    {containerId railwayServiceId confirmService : BodyField} {cid confirm : String}
    (hsid : railwayServiceId.text = some "") (hcid : containerId.text = some cid) (hne : cid ≠ "")
    (hconfirm : confirmService.text = some confirm) (henabled : chaosKillEnabled env = true) :
    Keeps (Safe acts env (.fields containerId railwayServiceId confirmService))
      (fun a tr => Safe acts env (.fields containerId railwayServiceId confirmService) tr ∧
        Truthful a tr) []
      (route.postDocker env (toLowerCase confirm) cid) := by
  have hnil : Lookups [] := fun x hx => absurd hx List.not_mem_nil
  unfold ChaosRoute.postDocker
  refine .perform hnil.safe fun labels _ => ?_
  have htr : Lookups ([] ++ record _ labels) := lookups_concat hnil rfl
  cases labels with
  | error msg => exact answered_keeps htr (show (503 : Nat) ≠ 200 by decide)
  | ok labels =>
    dsimp only
    split
    · exact refusal_keeps htr (by decide) _
    · next hproj =>
      split
      · exact refusal_keeps htr (by decide) _
      · next hname =>
        split
        · exact refusal_keeps htr (by decide) _
        · next hallowed =>
          have hallowed' : isServiceKillAllowed env (labels.service.getD "") = true := by
            simpa using hallowed
          refine act_keeps (hroute.some _) (hroute.hit cid) htr
            (?_ : Cleared env _ _ _ (labels.service.getD "")) (fun _ => rfl) fun _ => ⟨_, rfl, rfl⟩
          refine ⟨henabled, ?_, hallowed', allowed_spares hallowed'⟩
          refine .docker hsid hcid hne (List.mem_singleton_self _) ?_ hconfirm (not_not.1 hname)
          obtain ⟨hempty, heq⟩ := not_or.1 hproj
          cases hlabel : labels.project with
          | none =>
            rw [hlabel] at hempty
            exact absurd rfl hempty
          | some proj =>
            rw [hlabel] at heq
            exact congrArg some (not_not.1 heq)

theorem post_keeps (hroute : route.Acts acts) (env : Environment) (body : RequestBody) :
    Keeps (Safe acts env body) (fun a tr => Safe acts env body tr ∧ Truthful a tr) []
      (route.post env body) := by
  have hnil : Lookups [] := fun x hx => absurd hx List.not_mem_nil
  unfold ChaosRoute.post
  refine Prog.Emits.ite (fun _ => refusal_keeps hnil (by decide) _) fun henabled => ?_
  have henabled' : chaosKillEnabled env = true := by simpa using henabled
  cases body with
  | malformed => exact refusal_keeps hnil (by decide) _
  | null => exact unhandled_keeps hnil
  | fields containerId railwayServiceId confirmService =>
    dsimp only
    cases hconfirm : confirmService.text with
    | none => exact unhandled_keeps hnil
    | some confirm =>
      refine Prog.Emits.ite (fun _ => refusal_keeps hnil (by decide) _) fun _ => ?_
      cases hsid : railwayServiceId.text with
      | none => exact unhandled_keeps hnil
      | some sid =>
        refine Prog.Emits.ite (fun hne => postRailway_keeps hroute hsid hne hconfirm henabled')
          fun hempty => ?_
        rw [not_not.1 hempty] at hsid
        cases hcid : containerId.text with
        | none => exact unhandled_keeps hnil
        | some cid =>
          refine Prog.Emits.ite (fun _ => refusal_keeps hnil (by decide) _) fun hne => ?_
          exact postDocker_keeps hroute hsid hcid hne hconfirm henabled'

end Route

/-! ## The two routes -/

/-- One call, whose answer is the result. -/
theorem does_one {acts : Target → List Asked → Prop} {target : Target} {q : Call} {α : Type}
    {k : Answer q → Request (Except String α)} (hacts : ∀ r, acts target [⟨q, r⟩])
    (hk : ∀ r, ∃ a, k r = .ret a ∧ ((∃ b, a = .ok b) ↔ q.succeeded r = true)) :
    Does acts target (ask q >>= k) := by
  refine ⟨fun tr => .perform ⟨[], (List.append_nil tr).symm, .inl rfl⟩ fun r _ => ?_⟩
  obtain ⟨a, ha, hdone⟩ := hk r
  rw [ha]
  exact .ret ⟨[⟨q, r⟩], rfl, hacts r, hdone.trans ⟨fun h => ⟨_, rfl, h⟩, fun ⟨_, hx, h⟩ => by
    cases hx; exact h⟩⟩

theorem Does.map {acts : Target → List Asked → Prop} {target : Target} {α β : Type}
    {p : Request (Except String α)} {k : Except String α → Request (Except String β)}
    (hp : Does acts target p) (hk : ∀ r, ∃ a, k r = .ret a ∧ ((∃ b, a = .ok b) ↔ ∃ b, r = .ok b)) :
    Does acts target (p >>= k) := by
  refine ⟨fun tr => (hp.keeps tr).bind fun r tr' => ?_⟩
  rintro ⟨done, rfl, hacts, hdone⟩
  obtain ⟨a, ha, hiff⟩ := hk r
  rw [ha]
  exact .ret ⟨done, rfl, hacts, hiff.trans hdone⟩

theorem halt_does (id : String) : Does Kills (.deployment id) (railwayChaosHaltDeployment id) := by
  refine ⟨fun tr => .perform ⟨[], (List.append_nil tr).symm, .inl rfl⟩ fun stopped _ => ?_⟩
  have hremove : (⟨.deploymentStop id, stopped⟩ : Asked).succeeded = false →
      Keeps (fun tr' => ∃ done, tr' = tr ++ done ∧ (done = [] ∨ Kills (.deployment id) done))
        (fun (r : Except String HaltMethod) tr' => ∃ done, tr' = tr ++ done ∧
          Kills (.deployment id) done ∧
          ((∃ a, r = .ok a) ↔ ∃ x, done.getLast? = some x ∧ x.succeeded = true))
        (tr ++ record (.deploymentStop id) stopped) (haltByRemove id stopped) := by
    intro hstop
    refine .perform ⟨_, rfl, .inr (.stop stopped)⟩ fun removed _ => ?_
    have hdone : ∀ {r : Except String HaltMethod},
        ((∃ a, r = .ok a) ↔ Call.succeeded (.deploymentRemove id) removed = true) →
        ∃ done, tr ++ record (.deploymentStop id) stopped ++ record (.deploymentRemove id) removed =
          tr ++ done ∧
          Kills (.deployment id) done ∧ ((∃ a, r = .ok a) ↔
            ∃ x, done.getLast? = some x ∧ x.succeeded = true) :=
      fun hr => ⟨_, List.append_assoc .., .remove stopped removed hstop,
        hr.trans ⟨fun h => ⟨_, rfl, h⟩, fun ⟨_, hx, h⟩ => by cases hx; exact h⟩⟩
    rcases removed with msg | _ | _ | _
    · exact .ret (hdone (by simp [Call.succeeded]))
    · exact .ret (hdone (by simp [Call.succeeded]))
    · exact .ret (hdone (by simp [Call.succeeded]))
    · exact .ret (hdone (by simp [Call.succeeded]))
  rcases stopped with msg | _ | _ | _
  · exact hremove rfl
  · exact hremove rfl
  · exact hremove rfl
  · exact .ret ⟨_, rfl, .stop _, by simp [record, Asked.succeeded, Call.succeeded]⟩

theorem kill_acts : killRoute.Acts Kills where
  halt depId := by
    refine (halt_does depId).map fun r => ?_
    rcases r with msg | _ | _
    · exact ⟨_, rfl, by simp⟩
    · exact ⟨_, rfl, by simp⟩
    · exact ⟨_, rfl, by simp⟩
  hit containerId := by
    refine does_one (fun r => .kill r) fun r => ?_
    cases r with
    | error msg => exact ⟨_, rfl, by simp [Call.succeeded]⟩
    | ok _ => exact ⟨_, rfl, by simp [Call.succeeded]⟩
  some target := by
    intro h
    cases h

theorem restart_acts : restartRoute.Acts Restarts where
  halt depId := by
    refine Does.map (p := railwayDeploymentRestart depId)
      (does_one (fun r => .deployment r) fun r => ?_) fun r => ?_
    · rcases r with msg | _ | _ | _
      · exact ⟨_, rfl, by simp [Call.succeeded]⟩
      · exact ⟨_, rfl, by simp [Call.succeeded]⟩
      · exact ⟨_, rfl, by simp [Call.succeeded]⟩
      · exact ⟨_, rfl, by simp [Call.succeeded]⟩
    · cases r with
      | error msg => exact ⟨_, rfl, by simp⟩
      | ok _ => exact ⟨_, rfl, by simp⟩
  hit containerId := by
    refine does_one (fun r => .container r) fun r => ?_
    cases r with
    | error msg => exact ⟨_, rfl, by simp [Call.succeeded]⟩
    | ok _ => exact ⟨_, rfl, by simp [Call.succeeded]⟩
  some target := by
    intro h
    cases h

/-- **A chaos request** acts only on what was confirmed, and tells what became of it. -/
theorem chaos_safe (env : Environment) (body : RequestBody) :
    Keeps (Safe Kills env body) (fun a tr => Safe Kills env body tr ∧ Truthful a tr) []
      (postKill env body) ∧
      Keeps (Safe Restarts env body) (fun a tr => Safe Restarts env body tr ∧ Truthful a tr) []
        (postRestart env body) :=
  ⟨post_keeps kill_acts env body, post_keeps restart_acts env body⟩

end PeHackathon.Chaos
