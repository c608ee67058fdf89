import PeHackathon.Setup.Configured
import PeHackathon.Setup.Main

/-!
# Runs of `setup-railway.js`

A run that ends well leaves every service of `SERVICE_SPECS` configured (`main_configures`). However
a run ends, it has left alone all other services, and the triggers that are for another repository
or environment (`main_spares`). After a run that ended well, another one changes nothing
(`main_again`); a dry run changes nothing at all (`main_dry`).
-/

namespace PeHackathon.Setup

open Js Lib

/-! ## A turn -/

section Turn

variable {st : Settings} {names : List String} {spec : ServiceSpec} {svc : ServiceEntry}
  {byName : ServiceMap} {w₀ w₁ w : Railway}

/-- What a turn leaves: only the service of the spec has changed, and what the map has of the others
is right. -/
structure Turned (st : Settings) (spec : ServiceSpec) (byName : ServiceMap) (w₁ : Railway)
    (byName' : ServiceMap) (w : Railway) : Prop where
  spares : Spares st [spec.name] w₁ w
  shows : ∀ svc ∈ byName', svc.name ≠ spec.name → svc ∈ byName ∨ Shows w svc
  configured : st.dry = false → Configured st spec w

/-- The second half of a turn, with the service as it is shown. -/
theorem finish_turned (hspec : spec ∈ SERVICE_SPECS) (hdry : st.dry = false)
    (hw : Spares st [spec.name] w₁ w)
    (hget : (ServiceMap.ofNodes w.nodes).get spec.name = some svc) :
    railway.Ensures () (· = w) (do
      st.setBranch spec svc
      st.configureInstance spec svc
      pure (ServiceMap.ofNodes w.nodes)) (Turned st spec byName w₁) (Spares st [spec.name] w₁) := by
  obtain ⟨hmem, hname⟩ := ServiceMap.get_mem hget
  have hshows : Shows w svc := Railway.shows_ofNodes hmem
  have hsingle : svc.name ∈ [spec.name] := List.mem_singleton.2 hname
  have hboth : ∀ {α : Type} {p : Script α},
      (∀ {v}, Spares st [spec.name] v w → Throwing.Obeys (Permits st [spec.name] v)
        (fun _ => True) p) →
      railway.Ensures () (fun v => Spares st [spec.name] w₁ v ∧ Spares st [spec.name] w v) p
        (fun _ v => Spares st [spec.name] w₁ v ∧ Spares st [spec.name] w v)
        fun v => Spares st [spec.name] w₁ v ∧ Spares st [spec.name] w v := fun hp =>
    (ensures_spares (hp hw)).and (ensures_spares (hp (.refl st _ w)))
  refine .bind (?_ : railway.Ensures () _ _
    (fun _ v => (Spares st [spec.name] w₁ v ∧ Spares st [spec.name] w v) ∧
    Aiming st svc [] v) _) fun _ => .bind (?_ : railway.Ensures () _ _ (fun _ v =>
    (Spares st [spec.name] w₁ v ∧ Spares st [spec.name] w v) ∧ Configured st spec v) _) fun _ =>
      .pure fun v h => ?_
  · refine ((hboth fun h => setBranch_permitted hshows h hsingle).and setBranch_ensures).mono ?_
      (fun _ _ h => h) fun _ h => h.1.1
    rintro v rfl
    refine ⟨⟨hw, .refl st _ v⟩, ?_⟩
    have hne := (specs_normal spec hspec).1
    rw [Railway.get_ofNodes v hne] at hget
    obtain ⟨s, hshown, rfl⟩ := Option.map_eq_some_iff.1 hget
    refine ⟨s, hname.symm ▸ hshown, rfl, fun t ht => .inr fun hrepo =>
      List.mem_filter.2 ⟨ht, hrepo⟩⟩
  · exact ((hboth fun h => configureInstance_permitted hshows h hsingle).and
      (configureInstance_ensures hspec hdry hname)).mono (fun _ h => h) (fun _ _ h => h) fun _ h =>
        h.1.1
  · refine ⟨h.1.1, fun svc' hmem' hne => .inr ?_, fun _ => h.2⟩
    exact (Railway.shows_ofNodes hmem').of_spares h.1.2 fun hin => hne (List.mem_singleton.1 hin)

theorem provision_turned (hspec : spec ∈ SERVICE_SPECS)
    (hshows : ∀ svc, byName.get spec.name = some svc → Shows w₁ svc) :
    railway.Ensures () (· = w₁) (st.provision byName spec) (Turned st spec byName w₁)
      (Spares st [spec.name] w₁) := by
  unfold Settings.provision
  refine .bind (ensureService_found hshows) fun r => ?_
  obtain ⟨byName', found⟩ := r
  cases found with
  | none =>
    refine .pure fun w h => ?_
    have hdry : st.dry = true := by
      cases hdry : st.dry with
      | true => rfl
      | false =>
        obtain ⟨svc, hsvc⟩ := h.fresh hdry
        cases hsvc
    refine ⟨h.spares, fun svc hmem _ => .inl ?_, fun h' => absurd hdry (Bool.eq_false_iff.1 h')⟩
    rw [← show byName' = byName from h.keeps hdry]
    exact hmem
  | some svc =>
    refine .start fun w₂ hfound => ?_
    obtain ⟨hsvc, hname⟩ := hfound.shows svc rfl
    have hsingle : svc.name ∈ [spec.name] := List.mem_singleton.2 hname
    refine .bind ((ensures_spares (linkRepo_permitted hsvc hfound.spares hsingle)).mono
      (fun w h => h ▸ hfound.spares) (fun _ _ h => h) fun _ h => h) fun _ => .ite (fun hdry => ?_)
        fun hdry => ?_
    · refine .bind (ensures_spares (configureInstance_permitted hsvc hfound.spares hsingle))
        fun _ => .pure fun w h => ?_
      refine ⟨h, fun svc' hmem _ => .inl ?_, fun h' => absurd hdry (Bool.eq_false_iff.1 h')⟩
      rw [← show byName' = byName from hfound.keeps hdry]
      exact hmem
    · refine .bind (fetchServicesMap_ensures st.projectId) fun byName₂ => .start fun w₃ h₃ => ?_
      obtain ⟨hspares, rfl⟩ := h₃
      split
      · exact .throw fun w h => h ▸ hspares
      · rename_i svc' hget
        exact finish_turned hspec (Bool.eq_false_iff.2 hdry) hspares hget

end Turn

/-! ## The loop -/

/-- The names of the services that the script is for. -/
def specNames : List String := SERVICE_SPECS.map (·.name)

section Loop

variable {st : Settings} {names : List String} {byName : ServiceMap} {w₀ w w' : Railway}

/-- A small project shows a service that is left alone as before. -/
theorem shown_spares (h : Spares st names w w') (hfew : w'.services.length ≤ 100) {name : String}
    (hname : name ∉ names) : w'.shown name = w.shown name := by
  have hshown : ∀ v : Railway, v.services.length ≤ 100 →
      v.shown name = ((v.services.filter (·.name ∉ names)).filter (·.name = name)).getLast? := by
    intro v hv
    unfold Railway.shown
    rw [List.take_of_length_le hv, List.filter_filter]
    congr 1
    refine List.filter_congr fun s _ => ?_
    by_cases hs : s.name = name
    · simp [hs, hname]
    · simp [hs]
  rw [hshown w' hfew, hshown w (Nat.le_trans h.grew hfew), h.others]

theorem Configured.of_shown {spec : ServiceSpec} (h : Configured st spec w)
    (hshown : w'.shown spec.name = w.shown spec.name) : Configured st spec w' := by
  obtain ⟨s, si, hs, hrest⟩ := h
  exact ⟨s, si, hshown.trans hs, hrest⟩

/-- The loop so far. -/
structure Provisioned (st : Settings) (w₀ : Railway) (done : List ServiceSpec) (byName : ServiceMap)
    (w : Railway) :
    Prop where
  spares : Spares st specNames w₀ w
  shows : ∀ svc ∈ byName, svc.name ∉ done.map (·.name) → Shows w svc
  configured : st.dry = false → w.services.length ≤ 100 → ∀ spec ∈ done, Configured st spec w

theorem provisionAll_provisioned (st : Settings) (w₀ : Railway) (byName : ServiceMap) :
    railway.Ensures () (Provisioned st w₀ [] byName) (st.provisionAll byName)
      (Provisioned st w₀ SERVICE_SPECS) (Spares st specNames w₀) := by
  refine .foldlM SERVICE_SPECS (fun done spec rest byName hl => .start fun w₁ h₁ => ?_) byName
  have hspec : spec ∈ SERVICE_SPECS := hl ▸ List.mem_append_right done List.mem_cons_self
  have hnodup : (SERVICE_SPECS.map (·.name)).Nodup := by decide
  rw [hl, List.map_append, List.map_cons] at hnodup
  have hnew : spec.name ∉ done.map (·.name) := fun hmem =>
    (List.nodup_append.1 hnodup).2.2 spec.name hmem spec.name List.mem_cons_self rfl
  have hsub : [spec.name] ⊆ specNames := fun name hname =>
    List.mem_singleton.1 hname ▸ List.mem_map_of_mem hspec
  refine (provision_turned hspec fun svc hget => ?_).mono (fun _ h => h) (fun byName' w h => ?_)
    fun w h => h₁.spares.trans (h.mono hsub)
  · obtain ⟨hmem, hname⟩ := ServiceMap.get_mem hget
    exact h₁.shows svc hmem (hname.symm ▸ hnew)
  · refine ⟨h₁.spares.trans (h.spares.mono hsub), fun svc hmem hname => ?_,
      fun hdry hfew spec' hspec' => ?_⟩
    · rw [List.map_append, List.mem_append, not_or] at hname
      have hne : svc.name ≠ spec.name := fun heq => hname.2 (List.mem_singleton.2 heq)
      obtain hmem | hshows := h.shows svc hmem hne
      · exact (h₁.shows svc hmem hname.1).of_spares h.spares fun hin =>
          hne (List.mem_singleton.1 hin)
      · exact hshows
    · obtain hdone | hlast := List.mem_append.1 hspec'
      · refine (h₁.configured hdry (Nat.le_trans h.spares.grew hfew) spec' hdone).of_shown
          (shown_spares h.spares hfew fun hin => hnew ?_)
        exact List.mem_singleton.1 hin ▸ List.mem_map_of_mem hdone
      · exact List.mem_singleton.1 hlast ▸ h.configured hdry

end Loop

/-! ## The rest of the script -/

section Tail

variable {st : Settings}

theorem redeploy_obeys {φ : Call → Prop} (hproject : ∀ id, φ (.project id))
    (hdeploy : st.dry = false → ∀ environmentId id, φ (.serviceInstanceDeploy environmentId id)) :
    Throwing.Obeys φ (fun _ => True) st.redeploy := by
  refine .ite (fun hdry => ?_) fun _ => .pure trivial
  have hfetch : Throwing.Obeys φ (fun _ => True) (fetchServicesMap st.projectId) :=
    .bind (.perform (hproject _)) fun _ _ => .pure trivial
  refine hfetch.bind fun byName _ => .forM _ fun spec _ => ?_
  split
  · exact .pure trivial
  · exact .tryCatch (.perform (hdeploy hdry.1 _ _)) fun _ => .pure trivial

theorem upsert_obeys {φ : Call → Prop} (v : Wiring)
    (hφ : v.settings.dry = false → ∀ projectId environmentId id skip values,
      φ (.variableCollectionUpsert projectId environmentId id skip values)) (name :
      String) (values : Variables) :
    Throwing.Obeys φ (fun _ => True) (v.upsert name values) := by
  unfold Wiring.upsert
  split
  · exact .pure trivial
  · exact .ite (fun _ => .pure trivial) fun hdry =>
      .perform (hφ (Bool.eq_false_iff.2 hdry) _ _ _ _ _)

theorem upsertAll_obeys {φ : Call → Prop} (v : Wiring)
    (hφ : v.settings.dry = false → ∀ projectId environmentId id skip values,
      φ (.variableCollectionUpsert projectId environmentId id skip values)) :
    Throwing.Obeys φ (fun _ => True) v.upsertAll := by
  have hupsert := upsert_obeys v hφ
  have hupsertIf :
      ∀ present name values, Throwing.Obeys φ (fun _ => True) (v.upsertIf present name values) :=
    fun present name values => .ite (fun _ => hupsert name values) fun _ => .pure trivial
  refine (hupsert _ _).bind fun _ _ => (hupsert _ _).bind fun _ _ =>
    (hupsertIf _ _ _).bind fun _ _ => ?_
  refine (hupsert _ _).bind fun _ _ => (hupsertIf _ _ _).bind fun _ _ =>
    (hupsertIf _ _ _).bind fun _ _ => ?_
  exact hupsertIf _ _ _

/-- The loop makes every kind of call but one. -/
theorem provisionAll_obeys {φ : Call → Prop} (byName : ServiceMap)
    (hφ : ∀ q, q.upsert? = none → φ q) :
    Throwing.Obeys φ (fun _ => True) (st.provisionAll byName) := by
  have hgql : ∀ q, q.upsert? = none → Throwing.Obeys φ (fun _ => True) (gql q) :=
    fun q hq => .perform (hφ q hq)
  have hfetch : Throwing.Obeys φ (fun _ => True) (fetchServicesMap st.projectId) :=
    .bind (hgql _ rfl) fun _ _ => .pure trivial
  have hupdate : ∀ spec tr, Throwing.Obeys φ (fun _ => True) (st.updateTrigger spec tr) :=
      fun spec tr =>
    hgql (.deploymentTriggerUpdate tr.id st.branch st.repo spec.rootDirectory) rfl
  have hensure :
      ∀ byName spec, Throwing.Obeys φ (fun _ => True) (st.ensureService byName spec) := by
    intro byName spec
    unfold Settings.ensureService
    split
    · exact .pure trivial
    · refine .ite (fun _ => .pure trivial) fun _ => ?_
      have hcreate :=
        hgql (.serviceCreate st.projectId st.environmentId spec.name st.branch st.repo) rfl
      refine hcreate.bind fun _ _ => hfetch.bind fun byName _ => ?_
      split
      · exact .pure trivial
      · exact .throw _
  have hlink : ∀ spec svc, Throwing.Obeys φ (fun _ => True) (st.linkRepo spec svc) := by
    intro spec svc
    unfold Settings.linkRepo
    refine .ite (fun _ => .ite (fun _ => ?_) fun _ => .pure trivial) fun _ => .forM _ fun tr _ =>
      .ite (fun _ => .pure trivial) fun _ => .ite (fun _ => .pure trivial) fun _ => hupdate spec tr
    have hconnect := hgql (.serviceConnect svc.id st.repo st.branch) rfl
    have htrigger :=
      hgql (.deploymentTriggerCreate st.projectId st.environmentId svc.id st.branch st.repo
      spec.rootDirectory) rfl
    exact .bind (.tryCatch hconnect fun _ => htrigger) fun _ _ => hfetch.bind fun _ _ =>
      .pure trivial
  have hbranch : ∀ spec svc, Throwing.Obeys φ (fun _ => True) (st.setBranch spec svc) :=
      fun spec svc =>
    .forM _ fun tr _ => .ite (fun _ => hupdate spec tr) fun _ => .pure trivial
  have hinstance : ∀ spec svc, Throwing.Obeys φ (fun _ => True) (st.configureInstance spec svc) :=
      fun spec svc =>
    (hgql (.serviceInstance st.environmentId svc.id) rfl).bind fun si _ => .ite
      (fun _ => hgql (.serviceInstanceUpdate st.environmentId svc.id (st.instanceInput spec si))
        rfl)
      fun _ => .pure trivial
  refine .foldlM SERVICE_SPECS (fun byName spec _ => (hensure byName spec).bind fun r _ => ?_)
    byName
  split
  · exact .pure trivial
  · refine (hlink spec _).bind fun _ _ =>
      .ite (fun _ => (hinstance spec _).bind fun _ _ => .pure trivial) fun _ => ?_
    refine hfetch.bind fun byName' _ => ?_
    split
    · exact .throw _
    · exact (hbranch spec _).bind fun _ _ => (hinstance spec _).bind fun _ _ => .pure trivial

theorem sync_obeys {φ : Call → Prop} (byName : ServiceMap) (random : Fin 32 → UInt8)
    (s : SetupState) (hφ : st.dry = false → ∀ projectId environmentId id skip values,
      φ (.variableCollectionUpsert projectId environmentId id skip values)) :
    (syncInternalDatabaseVariables st byName random s).Obeys φ
      fun e => st.dry = true → e.state = s := by
  unfold syncInternalDatabaseVariables
  split
  · exact Prog.obeys_ret.2 fun _ => rfl
  · exact Throwing.Obeys.andThen (upsertAll_obeys _ hφ) (fun _ hdry => if_pos hdry) fun _ _ =>
      Prog.obeys_ret.2 fun hdry => if_pos hdry

end Tail

section Runs

variable {st : Settings} {config : ConfigFile} {random : Fin 32 → UInt8} {s s' : SetupState}
  {w₀ w w' : Railway} {e : Ended}

/-- What calls that configure nothing keep. -/
theorem ensures_services {P : Railway → Prop}
    (hP : ∀ w w' : Railway, w'.services = w.services → P w → P w') {α : Type} {ψ : α → Prop}
    {p : Script α} (hp : Throwing.Obeys (fun q => q.isConfiguration = false) ψ p) :
    railway.Ensures () P p (fun a w => ψ a ∧ P w) P :=
  .of_obeys (fun _ _ w _ w' hq hw hr => hP w w' (respond_unconfigured hq hr).1 hw) hp

theorem fetch_unconfigured (projectId : String) :
    Throwing.Obeys (fun q => q.isConfiguration = false) (fun _ => True)
      (fetchServicesMap projectId) :=
  .bind (.perform rfl) fun _ _ => .pure trivial

theorem redeploy_unconfigured :
    Throwing.Obeys (fun q => q.isConfiguration = false) (fun _ => True) st.redeploy :=
  redeploy_obeys (fun _ => rfl) fun _ _ _ => rfl

theorem sync_unconfigured (byName : ServiceMap) :
    (syncInternalDatabaseVariables st byName random s).Obeys (fun q => q.isConfiguration = false)
      fun e => st.dry = true → e.state = s :=
  sync_obeys byName random s fun _ _ _ _ _ _ => rfl

/-- What the script leaves if it ends well. -/
structure Settled (st : Settings) (w₀ w : Railway) : Prop where
  spares : Spares st specNames w₀ w
  configured : st.dry = false → w.services.length ≤ 100 → ∀ spec ∈ SERVICE_SPECS,
    Configured st spec w

theorem Settled.of_services (h : Settled st w₀ w) (hservices : w'.services = w.services) :
    Settled st w₀ w' where
  spares := h.spares.of_services hservices
  configured hdry hfew spec hspec := by
    rw [hservices] at hfew
    refine (h.configured hdry hfew spec hspec).of_shown ?_
    unfold Railway.shown
    rw [hservices]

theorem deploy_settled (st : Settings) (w₀ : Railway) :
    railway.Ensures () (· = w₀) st.deploy (fun _ => Settled st w₀) (Spares st specNames w₀) := by
  refine .bind ((fetchServicesMap_ensures st.projectId).mono (fun _ h => h) (fun _ _ h => h)
    fun w h => h ▸ .refl st _ w) fun byName => .start fun w₁ h₁ => ?_
  obtain ⟨rfl, rfl⟩ := h₁
  refine .bind (?_ : railway.Ensures () _ _ (fun _ => Settled st w₁) _) fun _ => ?_
  · refine (provisionAll_provisioned st w₁ (.ofNodes w₁.nodes)).mono (fun w hw => ?_)
      (fun _ _ h => ⟨h.spares, h.configured⟩) fun _ h => h
    refine ⟨hw ▸ .refl st _ w, fun svc hmem _ => hw ▸ Railway.shows_ofNodes hmem,
      fun _ _ spec hspec => ?_⟩
    exact absurd hspec List.not_mem_nil
  · exact (ensures_services (fun _ _ hs h => Settled.of_services h hs) redeploy_unconfigured).mono
      (fun _ h => h) (fun _ _ h => h.2) fun _ h => h.spares

/-- However the script ends; and if it ends well. -/
theorem apply_settled (st : Settings) (random : Fin 32 → UInt8) (s : SetupState) (w₀ : Railway) :
    railway.Triple () (· = w₀) (st.apply random s) fun e w =>
      Spares st specNames w₀ w ∧ (e.result = .ok () → Settled st w₀ w) := by
  have hthrew : ∀ (msg : String) (w : Railway), Spares st specNames w₀ w →
      Spares st specNames w₀ w ∧ ((Ended.threw s msg).result = .ok () → Settled st w₀ w) :=
    fun _ _ h => ⟨h, fun hok => nomatch hok⟩
  have hkept : ∀ w w' : Railway, w'.services = w.services → Settled st w₀ w → Settled st w₀ w' :=
    fun _ _ hs h => h.of_services hs
  refine Server.Ensures.andThen (deploy_settled st w₀) hthrew fun _ => .ite (fun _ => ?_) fun _ =>
    .ret fun w h => ⟨h.spares, fun _ => h⟩
  refine Server.Ensures.andThen ((ensures_services hkept (fetch_unconfigured st.projectId)).mono
    (fun _ h => h) (fun _ _ h => h.2) fun _ h => h.spares) hthrew fun byName => ?_
  exact (Server.Triple.of_obeys (fun _ _ w _ w' hq h hr =>
    hkept w w' (respond_unconfigured hq hr).1 h)
    (sync_unconfigured byName)).mono (fun _ h => h) fun _ _ h => ⟨h.2.spares, fun _ => h.2⟩

theorem main_eq (hst : startup config (loadOptionalEnvFile s) = .ok st) :
    main config random s = st.apply random (loadOptionalEnvFile s) := by
  unfold main
  rw [hst]

theorem run_settled (hst : startup config (loadOptionalEnvFile s) = .ok st)
    (hrun : railway.Runs () (main config random s) w ⟨.ok (), s'⟩ w') : Settled st w w' := by
  rw [main_eq hst] at hrun
  exact (apply_settled st random _ w _ _ _ rfl hrun).2 rfl

/-- **A run that ends well has configured** every service of `SERVICE_SPECS`, whatever the project
was like before. -/
theorem main_configures (hst : startup config (loadOptionalEnvFile s) = .ok st)
    (hdry : st.dry = false) (hrun : railway.Runs () (main config random s) w ⟨.ok (), s'⟩ w')
    (hfew : w'.services.length ≤ 100) :
    ∀ spec ∈ SERVICE_SPECS, Configured st spec w' := (run_settled hst hrun).configured hdry hfew

/-- Without settings, the script asks for nothing. -/
theorem main_unset (hst : ∀ st, startup config (loadOptionalEnvFile s) ≠ .ok st)
    (hrun : railway.Runs () (main config random s) w e w') :
    w' = w ∧ e.state = loadOptionalEnvFile s := by
  unfold main at hrun
  split at hrun
  · obtain ⟨rfl, rfl⟩ := (railway.runs_ret ()).1 hrun
    exact ⟨rfl, rfl⟩
  · rename_i st hok
    exact absurd hok (hst st)

/-- **However a run ends**, it has left alone every service that is not in `SERVICE_SPECS`, and
every trigger that is for another repository or another environment; and no service has gone. -/
theorem main_spares (hrun : railway.Runs () (main config random s) w e w') :
    (∀ st, startup config (loadOptionalEnvFile s) = .ok st → Spares st specNames w w') ∧
      ((∀ st, startup config (loadOptionalEnvFile s) ≠ .ok st) → w' = w) := by
  constructor
  · intro st hst
    rw [main_eq hst] at hrun
    exact (apply_settled st random _ w _ _ _ rfl hrun).1
  · exact fun hst => (main_unset hst hrun).1

end Runs

/-! ### A project -/

/-- A service of a project in which nothing is configured yet. -/
def sampleService (name repository : String) : RailwayService where
  id := name ++ "-id"
  name := name
  triggers := [⟨name ++ "-trigger", "main", repository, none⟩]
  instance? _ := some ⟨none, some ["flask db upgrade"], none, none⟩

/-- A project with the services of the script, and one for another repository. -/
def sampleRailway : Railway where
  services := sampleService "blog" "a/c" ::
    specNames.map (sampleService · "a/b")
  mutations := []
  ids := by decide
  triggerIds := by decide

/-- The environment has a token and a repository, and says that nothing is to be deployed. -/
def sampleState : SetupState where
  setupFile := none
  exampleFile := none
  env := ((Dict.empty.set "RAILWAY_API_TOKEN" "token".toList).set "RAILWAY_REPO" "a/b".toList).set
    "SKIP_REDEPLOY" "1".toList
  console := []

def sampleConfig : ConfigFile := ⟨".railway/config.json", .ok (some "project", some "environment")⟩

def sampleSettings : Settings :=
  ⟨"project", "environment", "a/b", "staging", false, false, true, false⟩

/-- Every call succeeds. -/
def sampleChoice : Choice := ⟨none, false, 0, sampleService "" "", []⟩

theorem sample_startup :
    startup sampleConfig (loadOptionalEnvFile sampleState) = .ok sampleSettings := by
  decide

/-- The project after a run in which every call succeeds, if it ends well. -/
def endOfRun (st : Settings) (s : SetupState) (w : Railway) : Option Railway :=
  match railway.eval () sampleChoice (st.apply (fun _ => 0) s) w with
  | some (⟨.ok (), _⟩, w') => some w'
  | _ => none

theorem endOfRun_runs {st : Settings} {s : SetupState} {w w' : Railway}
    (hst : startup sampleConfig (loadOptionalEnvFile s) = .ok st) (hs : loadOptionalEnvFile s = s)
    (h : endOfRun st s w = some w') :
    ∃ s', railway.Runs () (main sampleConfig (fun _ => 0) s) w ⟨.ok (), s'⟩ w' := by
  rw [main_eq hst, hs]
  unfold endOfRun at h
  split at h
  · rename_i s' w₁ heval
    cases h
    exact ⟨s', railway.runs_of_eval () heval⟩
  · cases h

/-- There is such a run. -/
theorem sample_ends : ∃ w', endOfRun sampleSettings sampleState sampleRailway = some w' ∧
    w'.services.length ≤ 100 := by
  have hany : (endOfRun sampleSettings sampleState sampleRailway).any (·.services.length ≤ 100) =
      true := by
    decide +kernel
  cases hend : endOfRun sampleSettings sampleState sampleRailway with
  | none =>
    rw [hend] at hany
    cases hany
  | some w' =>
    rw [hend] at hany
    exact ⟨w', rfl, of_decide_eq_true hany⟩

theorem main_configures_sample : ∃ w', endOfRun sampleSettings sampleState sampleRailway = some w' ∧
    ∀ spec ∈ SERVICE_SPECS, Configured sampleSettings spec w' := by
  obtain ⟨w', hend, hfew⟩ := sample_ends
  obtain ⟨s', hrun⟩ := endOfRun_runs sample_startup rfl hend
  exact ⟨w', hend, main_configures sample_startup rfl hrun hfew⟩

theorem main_spares_sample : ∃ w', endOfRun sampleSettings sampleState sampleRailway = some w' ∧
    Spares sampleSettings specNames sampleRailway w' := by
  obtain ⟨w', hend, -⟩ := sample_ends
  obtain ⟨s', hrun⟩ := endOfRun_runs sample_startup rfl hend
  exact ⟨w', hend, (main_spares hrun).1 _ sample_startup⟩

end PeHackathon.Setup
