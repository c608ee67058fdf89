import Mathlib.Data.List.Pairwise
import Mathlib.Data.List.Perm.Subperm
import PeHackathon.Setup.Railway

/-!
# What provisioning leaves alone

`Spares st names w₀ w`: from `w₀` to `w`, services with other names than `names` are as they were,
and so is every trigger that deploys another repository or another environment; and no service has
gone. A call that is `Permitted` keeps it; that what the script was shown permits its calls is
`Known`.
-/

namespace PeHackathon.Setup

open Lib

/-! ## What a call can do -/

/-- What a new list of services keeps. -/
theorem replaceServices_eq {w w' : Railway} {services : List RailwayService}
    (h : w.replaceServices services = some w') :
    w'.services = services := by
  simp only [Railway.replaceServices] at h
  split at h
  · cases h
    rfl
  · cases h

/-- A call that only asks. -/
def Call.isQuery : Call → Bool
  | .project _ => true
  | .serviceInstance _ _ => true
  | _ => false

/-- A call that changes what is configured. -/
def Call.isConfiguration : Call → Bool
  | .serviceCreate .. => true
  | .serviceConnect .. => true
  | .deploymentTriggerCreate .. => true
  | .deploymentTriggerUpdate .. => true
  | .serviceInstanceUpdate .. => true
  | _ => false

/-- The service and the variables of an upsert. -/
def Call.upsert? : Call → Option (String × Variables)
  | .variableCollectionUpsert _ _ serviceId _ values => some (serviceId, values)
  | _ => none

section Respond

variable {c : Choice} {w w' : Railway} {q : Call}

theorem query_eq {A : Type} {a : A} {r : Except String A} (h : w.query c a = some (r, w')) :
    w' = w := by
  simp only [Railway.query] at h
  split at h
  · cases h
    rfl
  · cases h
    rfl

theorem respond_query {r : Except String (Reply q)} (hq : q.isQuery = true)
    (h : railway.respond () c w q = some (r, w')) : w' = w := by
  cases q with
  | project id => exact query_eq h
  | serviceInstance environmentId serviceId => exact query_eq h
  | _ => cases hq

theorem mutated_mutations {w₁ : Railway} (h : w.mutated c q = some w₁) :
    w₁.mutations = w.mutations := by
  have hreplace : ∀ {services : List RailwayService}, w.replaceServices services = some w₁ →
      w₁.mutations = w.mutations := fun hr => by
    simp only [Railway.replaceServices] at hr
    split at hr
    · cases hr
      rfl
    · cases hr
  cases q with
  | serviceCreate => exact hreplace h
  | serviceConnect => exact hreplace h
  | deploymentTriggerCreate => exact hreplace h
  | serviceInstanceUpdate =>
    simp only [Railway.mutated] at h
    split at h
    · cases h
    · cases h
      rfl
  | _ =>
    cases h
    rfl

/-- A mutation is sent; what it makes of the services is its effect, or nothing if it fails. -/
theorem mutate_cases {r : Except String Unit} (h : w.mutate c q = some (r, w')) :
    w'.mutations = w.mutations ++ [q] ∧
      ((∃ w₁, w.mutated c q = some w₁ ∧ w'.services = w₁.services) ∨ r ≠ .ok () ∧
        w'.services = w.services) := by
  have heffect : ∀ {r' : Except String Unit}, (w.mutated c q).map (fun w₁ => (r', w₁.sent q)) =
      some (r, w') →
      ∃ w₁, w.mutated c q = some w₁ ∧ w' = w₁.sent q := fun hr => by
    obtain ⟨w₁, hw₁, hr⟩ := Option.map_eq_some_iff.1 hr
    cases hr
    exact ⟨w₁, hw₁, rfl⟩
  simp only [Railway.mutate] at h
  split at h
  · obtain ⟨w₁, hw₁, rfl⟩ := heffect h
    exact ⟨congrArg (· ++ [q]) (mutated_mutations hw₁), .inl ⟨w₁, hw₁, rfl⟩⟩
  · split at h
    · obtain ⟨w₁, hw₁, rfl⟩ := heffect h
      exact ⟨congrArg (· ++ [q]) (mutated_mutations hw₁), .inl ⟨w₁, hw₁, rfl⟩⟩
    · cases h
      exact ⟨rfl, .inr ⟨fun hok => (nomatch hok), rfl⟩⟩

/-- The services after a call: those before it, or what the mutation makes of them. -/
theorem respond_services {r : Except String (Reply q)}
    (h : railway.respond () c w q = some (r, w')) :
    w'.services = w.services ∨ ∃ w₁, w.mutated c q = some w₁ ∧ w'.services = w₁.services := by
  cases hq : q.isQuery with
  | true => exact .inl (congrArg Railway.services (respond_query hq h))
  | false =>
    have hmutate : ∀ {r : Except String Unit}, w.mutate c q = some (r, w') →
        w'.services = w.services ∨ ∃ w₁, w.mutated c q = some w₁ ∧ w'.services = w₁.services :=
      fun hr => (mutate_cases hr).2.symm.imp_left (·.2)
    cases q with
    | project => cases hq
    | serviceInstance => cases hq
    | _ => exact hmutate h

/-- Other calls are recorded at most. -/
theorem respond_unconfigured {r : Except String (Reply q)} (hq : q.isConfiguration = false)
    (h : railway.respond () c w q = some (r, w')) :
    w'.services = w.services ∧ ∃ l, w'.mutations = w.mutations ++ l ∧ ∀ q' ∈ l,
      q'.isConfiguration = false := by
  constructor
  · obtain heq | ⟨w₁, hw₁, heq⟩ := respond_services h
    · exact heq
    · cases q with
      | project | serviceInstance | serviceInstanceDeploy | variableCollectionUpsert =>
        cases hw₁
        exact heq
      | _ => cases hq
  · cases hquery : q.isQuery with
    | true =>
      obtain rfl := respond_query hquery h
      exact ⟨[], (List.append_nil _).symm, fun _ hmem => absurd hmem List.not_mem_nil⟩
    | false =>
      have hmutate : ∀ {r : Except String Unit}, w.mutate c q = some (r, w') →
          ∃ l, w'.mutations = w.mutations ++ l ∧ ∀ q' ∈ l, q'.isConfiguration = false := fun hr =>
        ⟨[q], (mutate_cases hr).1, fun q' hmem => List.mem_singleton.1 hmem ▸ hq⟩
      cases q with
      | serviceInstanceDeploy | variableCollectionUpsert => exact hmutate h
      | project | serviceInstance => cases hquery
      | _ => cases hq

theorem query_ok {A : Type} {a b : A} (h : w.query c a = some (.ok b, w')) : b = a := by
  simp only [Railway.query] at h
  split at h
  · cases h
    rfl
  · cases h

/-- What is shown of the project. -/
theorem respond_project {id : String} {nodes : List (Option ServiceEntry)}
    (h : railway.respond () c w (.project id) = some (.ok nodes, w')) : nodes = w.nodes :=
  query_ok h

theorem respond_serviceInstance {environmentId id : String} {si : Option ServiceInstance}
    (h : railway.respond () c w (.serviceInstance environmentId id) = some (.ok si, w')) :
    si = (w.find id).bind (·.instance? environmentId) := query_ok h

end Respond

/-- The two ids of one service are one service. -/
theorem eq_of_id {w : Railway} {s s' : RailwayService} (hs : s ∈ w.services) (hs' : s' ∈ w.services)
    (h : s.id = s'.id) : s = s' := List.inj_on_of_nodup_map w.ids hs hs' h

/-- A trigger belongs to one service. -/
theorem eq_of_triggerId {w : Railway} {s s' : RailwayService} {id : String} (hs : s ∈ w.services)
    (hs' : s' ∈ w.services) (h : id ∈ s.triggerIds) (h' : id ∈ s'.triggerIds) : s = s' := by
  by_contra hne
  have : Std.Symm (Function.onFun List.Disjoint fun s : RailwayService => s.triggerIds) :=
    ⟨fun _ _ h _ hx hx' => h hx' hx⟩
  exact (List.nodup_flatMap.1 w.triggerIds).2.forall hs hs' hne h h'

/-- And its id tells it from the others of the service. -/
theorem eq_trigger_of_id {w : Railway} {s s' : RailwayService} {t t' : Trigger}
    (hs : s ∈ w.services) (hs' : s' ∈ w.services) (ht : t ∈ s.triggers) (ht' : t' ∈ s'.triggers)
    (h : t.id = t'.id) : s = s' ∧ t = t' := by
  have hid : t.id ∈ s.triggerIds := List.mem_map_of_mem ht
  have hid' : t.id ∈ s'.triggerIds := h ▸ List.mem_map_of_mem ht'
  obtain rfl := eq_of_triggerId hs hs' hid hid'
  exact ⟨rfl, List.inj_on_of_nodup_map ((List.nodup_flatMap.1 w.triggerIds).1 s hs) ht ht' h⟩

/-! ## What is left alone -/

/-- From `w₀` to `w`, only services with these names have changed, and no trigger that is for
another repository or another environment. Every service is still there. -/
structure Spares (st : Settings) (names : List String) (w₀ w : Railway) : Prop where
  others : w.services.filter (·.name ∉ names) = w₀.services.filter (·.name ∉ names)
  foreign : ∀ s₀ ∈ w₀.services, ∀ t ∈ s₀.triggers, st.isForRepo t = false →
    ∃ s ∈ w.services, s.id = s₀.id ∧ s.name = s₀.name ∧ t ∈ s.triggers
  kept : ∀ s₀ ∈ w₀.services, ∃ s ∈ w.services, s.id = s₀.id ∧ s.name = s₀.name

namespace Spares

variable {st : Settings} {names names' : List String} {w₀ w w' : Railway}

theorem refl (st : Settings) (names : List String) (w : Railway) : Spares st names w w :=
  ⟨rfl, fun s hs _ ht _ => ⟨s, hs, rfl, rfl, ht⟩, fun s hs => ⟨s, hs, rfl, rfl⟩⟩

theorem trans (h : Spares st names w₀ w) (h' : Spares st names w w') : Spares st names w₀ w' where
  others := h'.others.trans h.others
  foreign s₀ hs₀ t ht hforeign := by
    obtain ⟨s, hs, hid, hname, ht⟩ := h.foreign s₀ hs₀ t ht hforeign
    obtain ⟨s', hs', hid', hname', ht'⟩ := h'.foreign s hs t ht hforeign
    exact ⟨s', hs', hid'.trans hid, hname'.trans hname, ht'⟩
  kept s₀ hs₀ := by
    obtain ⟨s, hs, hid, hname⟩ := h.kept s₀ hs₀
    obtain ⟨s', hs', hid', hname'⟩ := h'.kept s hs
    exact ⟨s', hs', hid'.trans hid, hname'.trans hname⟩

/-- Two services do not become one. -/
theorem grew (h : Spares st names w₀ w) : w₀.services.length ≤ w.services.length := by
  have hsub : w₀.services.map (·.id) ⊆ w.services.map (·.id) := by
    intro id hmem
    obtain ⟨s₀, hs₀, rfl⟩ := List.mem_map.1 hmem
    obtain ⟨s, hs, hid, -⟩ := h.kept s₀ hs₀
    exact List.mem_map.2 ⟨s, hs, hid⟩
  have hlength := (w₀.ids.subperm hsub).length_le
  rwa [List.length_map, List.length_map] at hlength

/-- The fewer names, the more is spared. -/
theorem mono (h : Spares st names w₀ w) (hnames : names ⊆ names') : Spares st names' w₀ w where
  others := by
    have hsub : ∀ l : List RailwayService,
        (l.filter (·.name ∉ names)).filter (·.name ∉ names') = l.filter (·.name ∉ names') := by
      intro l
      rw [List.filter_filter]
      refine List.filter_congr fun s _ => ?_
      by_cases hs : s.name ∈ names'
      · simp [hs]
      · have hs' : s.name ∉ names := fun hmem => hs (hnames hmem)
        simp [hs, hs']
    rw [← hsub, ← hsub w₀.services, h.others]
  foreign := h.foreign
  kept := h.kept

theorem of_services (h : Spares st names w₀ w) (hservices : w'.services = w.services) :
    Spares st names w₀ w' := by
  refine ⟨?_, ?_, ?_⟩
  · rw [hservices]
    exact h.others
  · rw [hservices]
    exact h.foreign
  · rw [hservices]
    exact h.kept

/-- A service with another name is there as before. -/
theorem mem_iff (h : Spares st names w₀ w) {s : RailwayService} (hname : s.name ∉ names) :
    s ∈ w.services ↔ s ∈ w₀.services := by
  have hmem : ∀ v : Railway, s ∈ v.services ↔ s ∈ v.services.filter (·.name ∉ names) := fun v => by
    simp [hname]
  rw [hmem w, hmem w₀, h.others]

/-- Changing services one by one. -/
theorem map (h : Spares st names w₀ w) {f : RailwayService → RailwayService}
    (hservices : w'.services = w.services.map f) (hid : ∀ s, (f s).id = s.id)
    (hname : ∀ s, (f s).name = s.name) (hothers : ∀ s ∈ w.services, s.name ∉ names → f s = s)
    (hforeign : ∀ s ∈ w.services, ∀ s₀ ∈ w₀.services, s.id = s₀.id → ∀ t ∈ s₀.triggers,
      st.isForRepo t = false →
      t ∈ s.triggers → t ∈ (f s).triggers) : Spares st names w₀ w' where
  others := by
    rw [← h.others, hservices, List.filter_map]
    have hp : ((fun s : RailwayService => decide (s.name ∉ names)) ∘ f) = fun s =>
        decide (s.name ∉ names) :=
      funext fun s => by rw [Function.comp_apply, hname]
    rw [hp]
    refine (List.map_congr_left fun s hs => ?_).trans (List.map_id _)
    obtain ⟨hs, hnot⟩ := List.mem_filter.1 hs
    exact hothers s hs (of_decide_eq_true hnot)
  foreign s₀ hs₀ t ht hfor := by
    obtain ⟨s, hs, hid', hname', hts⟩ := h.foreign s₀ hs₀ t ht hfor
    refine ⟨f s, ?_, (hid s).trans hid', (hname s).trans hname',
      hforeign s hs s₀ hs₀ hid' t ht hfor hts⟩
    rw [hservices]
    exact List.mem_map_of_mem hs
  kept s₀ hs₀ := by
    obtain ⟨s, hs, hid', hname'⟩ := h.kept s₀ hs₀
    refine ⟨f s, ?_, (hid s).trans hid', (hname s).trans hname'⟩
    rw [hservices]
    exact List.mem_map_of_mem hs

/-- Putting in a service with one of the names. -/
theorem insert (h : Spares st names w₀ w) {before after : List RailwayService} {s : RailwayService}
    (hservices : w.services = before ++ after) (hservices' : w'.services = before ++ s :: after)
    (hname : s.name ∈ names) : Spares st names w₀ w' := by
  have hmem : ∀ s₁ ∈ w.services, s₁ ∈ w'.services := by
    intro s₁ hs₁
    rw [hservices, List.mem_append] at hs₁
    rw [hservices', List.mem_append, List.mem_cons]
    exact hs₁.imp_right .inr
  constructor
  case others =>
    rw [← h.others, hservices, hservices', List.filter_append, List.filter_append,
      List.filter_cons_of_neg (by simpa using hname)]
  case foreign =>
    intro s₀ hs₀ t ht hfor
    obtain ⟨s₁, hs₁, hrest⟩ := h.foreign s₀ hs₀ t ht hfor
    exact ⟨s₁, hmem s₁ hs₁, hrest⟩
  case kept =>
    intro s₀ hs₀
    obtain ⟨s₁, hs₁, hrest⟩ := h.kept s₀ hs₀
    exact ⟨s₁, hmem s₁ hs₁, hrest⟩

end Spares

/-! ## Calls that are permitted -/

/-- A call that changes the project only where it may: it creates a service with one of the names,
and what it changes belongs to one of them and is not foreign. -/
def Permits (st : Settings) (names : List String) (w₀ : Railway) : Call → Prop
  | .serviceCreate _ _ name _ _ => name ∈ names
  | .serviceConnect id _ _ => Idle id
  | .deploymentTriggerCreate _ _ id _ _ _ => Idle id
  | .deploymentTriggerUpdate id _ _ _ =>
    ∀ s₀ ∈ w₀.services, ∀ t ∈ s₀.triggers, t.id = id → s₀.name ∈ names ∧ st.isForRepo t = true
  | .serviceInstanceUpdate _ id _ => Owned id
  | _ => True
where
  /-- The id of a service with one of the names, or of a new one. -/
  Owned (id : String) : Prop := ∀ s₀ ∈ w₀.services, s₀.id = id → s₀.name ∈ names
  Idle (id : String) : Prop :=
    Owned id ∧ ∀ s₀ ∈ w₀.services, s₀.id = id → ∀ t ∈ s₀.triggers, st.isForRepo t = true

section Permits

variable {st : Settings} {names : List String} {w₀ w w' : Railway}

/-- The project gives a service new triggers. -/
theorem Spares.connect (h : Spares st names w₀ w) {id : String} {triggers : List Trigger}
    (hidle : Permits.Idle st names w₀ id) (hw' : w.connect id triggers = some w') :
    Spares st names w₀ w' := by
  refine h.map (replaceServices_eq hw') (fun s => by split <;> rfl) (fun s => by
    split <;> rfl) ?_ ?_
  · intro s hs hname
    exact if_neg fun hid => hname (hidle.1 s ((h.mem_iff hname).1 hs) hid)
  · intro s _ s₀ hs₀ hid t ht hforeign hts
    split
    · rename_i hs
      rw [hidle.2 s₀ hs₀ (hid.symm.trans hs) t ht] at hforeign
      exact absurd hforeign (by decide)
    · exact hts

/-- **A permitted call spares** what it may not change. -/
theorem Permits.spares {c : Choice} {q : Call} {r : Except String (Reply q)}
    (hq : Permits st names w₀ q) (h : Spares st names w₀ w)
    (hr : railway.respond () c w q = some (r, w')) : Spares st names w₀ w' := by
  obtain heq | ⟨w₁, hw₁, heq⟩ := respond_services hr
  · exact h.of_services heq
  · refine Spares.of_services (w := w₁) ?_ heq
    cases q with
    | project => cases hw₁; exact h
    | serviceInstance => cases hw₁; exact h
    | serviceInstanceDeploy => cases hw₁; exact h
    | variableCollectionUpsert => cases hw₁; exact h
    | serviceCreate _ _ name =>
      exact h.insert (List.take_append_drop c.place w.services).symm (replaceServices_eq hw₁) hq
    | serviceConnect => exact h.connect hq hw₁
    | deploymentTriggerCreate => exact h.connect hq hw₁
    | deploymentTriggerUpdate id branch repository rootDirectory =>
      cases hw₁
      refine h.map rfl (fun _ => rfl) (fun _ => rfl) ?_ ?_
      · intro s hs hname
        have hkeep : ∀ t ∈ s.triggers, (if t.id = id then { t with branch, repository } else t) =
            t := fun t ht =>
          if_neg fun hid => hname (hq s ((h.mem_iff hname).1 hs) t ht hid).1
        have htriggers := (List.map_congr_left hkeep).trans (List.map_id _)
        unfold RailwayService.updateTrigger
        rw [htriggers]
      · intro s _ s₀ hs₀ _ t ht hforeign hts
        refine List.mem_map.2 ⟨t, hts, if_neg fun hid => ?_⟩
        rw [(hq s₀ hs₀ t ht hid).2] at hforeign
        exact absurd hforeign (by decide)
    | serviceInstanceUpdate environmentId id input =>
      simp only [Railway.mutated] at hw₁
      split at hw₁
      · cases hw₁
      · cases hw₁
        refine h.map rfl (fun s => by split <;> rfl) (fun s => by split <;> rfl) ?_ ?_
        · intro s hs hname
          exact if_neg fun hid => hname (hq s ((h.mem_iff hname).1 hs) hid)
        · intro s _ s₀ _ _ t _ _ hts
          split <;> exact hts

end Permits

/-! ## What the script was shown -/

/-- The entry shows a service as it is. -/
def Shows (w : Railway) (svc : ServiceEntry) : Prop := ∃ s ∈ w.services, svc = s.entry

section Shows

variable {st : Settings} {names : List String} {w₀ w : Railway} {svc : ServiceEntry}

theorem Shows.owned (hsvc : Shows w svc) (h : Spares st names w₀ w) (hname : svc.name ∈ names) :
    Permits.Owned names w₀ svc.id := by
  obtain ⟨s, hs, rfl⟩ := hsvc
  intro s₀ hs₀ hid
  by_contra hnot
  have heq : s₀ = s := eq_of_id ((h.mem_iff hnot).2 hs₀) hs hid
  exact hnot (heq ▸ hname)

/-- A service that shows no trigger has none that is foreign. -/
theorem Shows.idle (hsvc : Shows w svc) (h : Spares st names w₀ w) (hname : svc.name ∈ names)
    (hnone : svc.triggers = []) : Permits.Idle st names w₀ svc.id := by
  refine ⟨hsvc.owned h hname, fun s₀ hs₀ hid t ht => ?_⟩
  obtain ⟨s, hs, rfl⟩ := hsvc
  by_contra hforeign
  obtain ⟨s', hs', hid', -, ht'⟩ := h.foreign s₀ hs₀ t ht (Bool.eq_false_iff.2 hforeign)
  obtain rfl := eq_of_id hs' hs (hid'.trans hid)
  have hempty : s'.triggers = [] := by
    have htake : s'.triggers.take 20 = [] := hnone
    simpa using htake
  rw [hempty] at ht'
  exact List.not_mem_nil ht'

theorem Shows.update (hsvc : Shows w svc) (h : Spares st names w₀ w) (hname : svc.name ∈ names)
    {tr : Trigger} (htr : tr ∈ svc.triggers) (hrepo : st.isForRepo tr = true) (spec : ServiceSpec) :
    Permits st names w₀ (.deploymentTriggerUpdate tr.id st.branch st.repo spec.rootDirectory) := by
  obtain ⟨s, hs, rfl⟩ := hsvc
  intro s₀ hs₀ t ht hid
  have htr' : tr ∈ s.triggers := List.mem_of_mem_take htr
  constructor
  · by_contra hnot
    obtain ⟨rfl, -⟩ := eq_trigger_of_id ((h.mem_iff hnot).2 hs₀) hs ht htr' hid
    exact hnot hname
  · by_contra hforeign
    obtain ⟨s', hs', -, -, ht'⟩ := h.foreign s₀ hs₀ t ht (Bool.eq_false_iff.2 hforeign)
    obtain ⟨-, rfl⟩ := eq_trigger_of_id hs' hs ht' htr' hid
    exact hforeign hrepo

/-- What was shown of a service stays right as long as other services change. -/
theorem Shows.of_spares (hsvc : Shows w₀ svc) (h : Spares st names w₀ w)
    (hname : svc.name ∉ names) : Shows w svc := by
  obtain ⟨s, hs, rfl⟩ := hsvc
  exact ⟨s, (h.mem_iff hname).2 hs, rfl⟩

end Shows

end PeHackathon.Setup
