import PeHackathon.Setup.Reconcile

/-!
# Running `setup-railway.js` again

Where every service is configured and shows a trigger, the script finds nothing to configure
(`main_again`). A dry run only asks (`main_dry`).
-/

namespace PeHackathon.Setup

open Js Lib

/-! ## Nothing is configured -/

/-- The project is as it was: what has been sent since then configures nothing. -/
structure Still (w₀ w : Railway) : Prop where
  services : w.services = w₀.services
  sent : ∃ l, w.mutations = w₀.mutations ++ l ∧ ∀ q ∈ l, q.isConfiguration = false

section Still

variable {st : Settings} {spec : ServiceSpec} {svc : ServiceEntry} {w₀ w w' : Railway}

theorem Still.refl (w : Railway) : Still w w :=
  ⟨rfl, [], (List.append_nil _).symm, fun _ hmem => absurd hmem List.not_mem_nil⟩

theorem Still.call {c : Choice} {q : Call} {r : Except String (Reply q)} (h : Still w₀ w)
    (hq : q.isConfiguration = false) (hr : railway.respond () c w q = some (r, w')) :
    Still w₀ w' := by
  obtain ⟨hservices, l', hl', hsent'⟩ := respond_unconfigured hq hr
  obtain ⟨l, hl, hsent⟩ := h.sent
  refine ⟨hservices.trans h.services, l ++ l', ?_, fun q' hmem => ?_⟩
  · rw [hl', hl, List.append_assoc]
  · exact (List.mem_append.1 hmem).elim (hsent q') (hsent' q')

theorem ensures_still {α : Type} {ψ : α → Prop} {p : Script α}
    (hp : Throwing.Obeys (fun q => q.isConfiguration = false) ψ p) :
    railway.Ensures () (Still w₀) p (fun _ => Still w₀) (Still w₀) :=
  (Server.Ensures.of_obeys (fun _ _ _ _ _ hq h hr => h.call hq hr) hp).mono (fun _ h => h)
    (fun _ _ h => h.2) fun _ h => h

theorem Still.nodes (h : Still w₀ w) : w.nodes = w₀.nodes := by
  unfold Railway.nodes
  rw [h.services]

theorem fetch_still (projectId : String) :
    railway.Ensures () (Still w₀) (fetchServicesMap projectId)
      (fun byName w => byName = .ofNodes w₀.nodes ∧ Still w₀ w) (Still w₀) :=
  (fetchServicesMap_ensures projectId).mono (fun _ h => h) (fun _ _ h => ⟨h.1.nodes ▸ h.2, h.1⟩)
    fun _ h => h

/-- Configured, with a trigger. -/
structure Linked (st : Settings) (spec : ServiceSpec) (svc : ServiceEntry) (w : Railway) :
    Prop where
  shown : ∃ s si, w.shown spec.name = some s ∧ svc = s.entry ∧ s.instance? st.environmentId =
    some si ∧ InPlace spec si
  onBranch : ∀ t ∈ svc.triggers, st.isForRepo t = true → t.branch = st.branch
  linked : svc.triggers ≠ []

/-- No trigger needs anything. -/
theorem linkRepo_silent (h : Linked st spec svc w₀) :
    Throwing.Obeys (fun q => q.isConfiguration = false) (fun _ => True) (st.linkRepo spec svc) := by
  unfold Settings.linkRepo
  refine .ite (fun _ => .ite (fun hnone => absurd hnone.1 h.linked) fun _ => .pure trivial) fun _ =>
    .forM _ fun tr htr => ?_
  obtain ⟨hmem, hrepo⟩ := List.mem_filter.1 htr
  refine .ite (fun _ => .pure trivial) fun hnot => absurd ⟨h.onBranch tr hmem hrepo, ?_⟩ hnot
  exact of_decide_eq_true (Bool.and_eq_true_iff.1 hrepo).1

theorem setBranch_silent (h : Linked st spec svc w₀) :
    Throwing.Obeys (fun q => q.isConfiguration = false) (fun _ => True)
      (st.setBranch spec svc) := by
  refine .forM _ fun tr htr => .ite (fun hne => absurd ?_ hne) fun _ => .pure trivial
  obtain ⟨hmem, hrepo⟩ := List.mem_filter.1 htr
  exact h.onBranch tr hmem hrepo

/-- The instance is read, and that is all. -/
theorem configureInstance_still (hspec : spec ∈ SERVICE_SPECS) (hforce : st.forceClearPre = false)
    (h : Linked st spec svc w₀) :
    railway.Ensures () (Still w₀) (st.configureInstance spec svc) (fun _ => Still w₀)
      (Still w₀) := by
  obtain ⟨s, si, hshown, rfl, hsi, hplace⟩ := h.shown
  refine .bind (?_ : railway.Ensures () _ _ (fun found w => found = some si ∧ Still w₀ w) _)
    fun found => ?_
  · refine .perform (fun c w found w' hw hr => ?_) fun c w _ w' hw hr => hw.call rfl hr
    refine ⟨?_, hw.call rfl hr⟩
    have hmem : s ∈ w.services := hw.services ▸ (Railway.shown_mem hshown).1
    rw [respond_serviceInstance hr, show s.entry.id = s.id from rfl, find_eq hmem,
      Option.bind_some, hsi]
  · refine .assume fun hfound => ?_
    subst hfound
    have hneeds := (needsInstanceUpdate_iff hspec).2 ⟨hforce, hplace⟩
    refine .ite (fun h => absurd h.1 (Bool.eq_false_iff.1 hneeds)) fun _ => .pure fun _ h => h

/-- A turn for such a service. -/
theorem provision_still (hspec : spec ∈ SERVICE_SPECS) (hforce : st.forceClearPre = false)
    (h : Linked st spec svc w₀) (hget : (ServiceMap.ofNodes w₀.nodes).get spec.name = some svc) :
    railway.Ensures () (Still w₀) (st.provision (.ofNodes w₀.nodes) spec)
      (fun byName w => byName = .ofNodes w₀.nodes ∧ Still w₀ w) (Still w₀) := by
  have hensure :
      st.ensureService (.ofNodes w₀.nodes) spec = pure (.ofNodes w₀.nodes, some svc) := by
    unfold Settings.ensureService
    rw [hget]
  unfold Settings.provision
  simp only [hensure, pure_bind]
  refine .bind (ensures_still (linkRepo_silent h)) fun _ => .ite (fun _ => ?_) fun _ => ?_
  · exact .bind (configureInstance_still hspec hforce h) fun _ => .pure fun _ hw => ⟨rfl, hw⟩
  · refine .bind (fetch_still st.projectId) fun byName => .assume fun hbyName => ?_
    subst hbyName
    rw [hget]
    exact .bind (ensures_still (setBranch_silent h)) fun _ =>
      .bind (configureInstance_still hspec hforce h) fun _ => .pure fun _ hw => ⟨rfl, hw⟩

theorem provisionAll_still (hforce : st.forceClearPre = false)
    (h : ∀ spec ∈ SERVICE_SPECS, ∃ svc, Linked st spec svc w₀) :
    railway.Ensures () (Still w₀) (st.provisionAll (.ofNodes w₀.nodes)) (fun _ => Still w₀)
      (Still w₀) := by
  have hturn :
      ∀ (done : List ServiceSpec) (spec : ServiceSpec) (rest : List ServiceSpec)
        (byName : ServiceMap),
      SERVICE_SPECS = done ++ spec :: rest →
      railway.Ensures () (fun w => byName = .ofNodes w₀.nodes ∧ Still w₀ w)
        (st.provision byName spec)
        (fun byName' w => byName' = .ofNodes w₀.nodes ∧ Still w₀ w) (Still w₀) := by
    intro done spec rest byName hl
    have hspec : spec ∈ SERVICE_SPECS := hl ▸ List.mem_append_right done List.mem_cons_self
    obtain ⟨svc, hlinked⟩ := h spec hspec
    obtain ⟨s, si, hshown, hsvc, -⟩ := hlinked.shown
    refine .assume fun hbyName => ?_
    subst hbyName
    refine provision_still hspec hforce hlinked ?_
    rw [Railway.get_ofNodes w₀ (specs_normal spec hspec).1, hshown, hsvc]
    rfl
  exact (Server.Ensures.foldlM SERVICE_SPECS hturn _).mono (fun _ hw => ⟨rfl, hw⟩)
    (fun _ _ h => h.2) fun _ h => h

theorem apply_still {random : Fin 32 → UInt8} {s : SetupState} (hforce : st.forceClearPre = false)
    (h : ∀ spec ∈ SERVICE_SPECS, ∃ svc, Linked st spec svc w₀) :
    railway.Triple () (Still w₀) (st.apply random s) fun _ => Still w₀ := by
  have hdeploy : railway.Ensures () (Still w₀) st.deploy (fun _ => Still w₀) (Still w₀) := by
    refine .bind (fetch_still st.projectId) fun byName => .assume fun hbyName => ?_
    subst hbyName
    exact .bind (provisionAll_still hforce h) fun _ => ensures_still redeploy_unconfigured
  refine Server.Ensures.andThen hdeploy (fun _ _ h => h) fun _ => .ite (fun _ => ?_) fun _ =>
    .ret fun _ h => h
  refine Server.Ensures.andThen (ensures_still (fetch_unconfigured st.projectId)) (fun _ _ h => h)
    fun byName => ?_
  exact (Server.Triple.of_obeys (fun _ _ _ _ _ hq h hr => h.call hq hr)
    (sync_unconfigured byName)).mono (fun _ h => h) fun _ _ h => h.2

end Still

/-! ## Runs -/

section Runs

variable {st st' : Settings} {config config' : ConfigFile} {random random' : Fin 32 → UInt8}
  {s s₁ s' : SetupState} {w w₁ w₂ : Railway} {e : Ended}

/-- The settings ask for the same. -/
structure SameTarget (st st' : Settings) : Prop where
  repo : st'.repo = st.repo
  branch : st'.branch = st.branch
  environmentId : st'.environmentId = st.environmentId

theorem SameTarget.isForRepo (h : SameTarget st st') (t : Trigger) :
    st'.isForRepo t = st.isForRepo t := by
  unfold Settings.isForRepo
  rw [h.repo, h.environmentId]

/-- **After a run that ended well, a second one configures nothing**: it changes no service, and
sends no mutation but deployments and variables. Every service must show a trigger by then, and the
second run not be told to clear `preDeployCommand`. -/
theorem main_again (hst : startup config (loadOptionalEnvFile s) = .ok st) (hdry : st.dry = false)
    (hrun : railway.Runs () (main config random s) w ⟨.ok (), s₁⟩ w₁)
    (hfew : w₁.services.length ≤ 100)
    (hlinked : ∀ spec ∈ SERVICE_SPECS, ∀ svc, w₁.shown spec.name = some svc → svc.triggers ≠ [])
    (hst' : startup config' (loadOptionalEnvFile s') = .ok st') (hsame : SameTarget st st')
    (hforce : st'.forceClearPre = false)
    (hrun' : railway.Runs () (main config' random' s') w₁ e w₂) :
    w₂.services = w₁.services ∧
      ∃ l, w₂.mutations = w₁.mutations ++ l ∧ ∀ q ∈ l, q.isConfiguration = false := by
  have hconfigured := (run_settled hst hrun).configured hdry hfew
  have hready : ∀ spec ∈ SERVICE_SPECS, ∃ svc, Linked st' spec svc w₁ := by
    intro spec hspec
    obtain ⟨svc, si, hshown, hbranch, hsi, hplace⟩ := hconfigured spec hspec
    refine ⟨svc.entry, ⟨svc, si, hshown, rfl, hsame.environmentId ▸ hsi, hplace⟩, fun t ht hrepo =>
      ?_, fun hnone => ?_⟩
    · rw [hsame.branch]
      exact hbranch t ht (hsame.isForRepo t ▸ hrepo)
    · have htake : svc.triggers.take 20 = [] := hnone
      exact hlinked spec hspec svc hshown (by simpa using htake)
  rw [main_eq hst'] at hrun'
  have hend : Still w₁ w₂ := apply_still hforce hready _ _ _ (Still.refl w₁) hrun'
  exact ⟨hend.services, hend.sent⟩

end Runs

/-- A service of a project that is configured. -/
def readyService (spec : ServiceSpec) : RailwayService where
  id := spec.name ++ "-id"
  name := spec.name
  triggers := [⟨spec.name ++ "-trigger", "staging", "a/b", some "environment"⟩]
  instance? _ :=
    some ⟨some spec.rootDirectory, none, some spec.railwayConfigFile,
      some spec.watchPatterns.reverse⟩

def readyRailway : Railway where
  services := SERVICE_SPECS.map readyService
  mutations := []
  ids := by decide
  triggerIds := by decide

/-- Two runs, one after the other. -/
theorem ready_ends : ∃ w₁ w₂, endOfRun sampleSettings sampleState readyRailway = some w₁ ∧
    endOfRun sampleSettings sampleState w₁ = some w₂ ∧
    w₁.services.length ≤ 100 ∧
    ∀ spec ∈ SERVICE_SPECS, ∀ svc, w₁.shown spec.name = some svc → svc.triggers ≠ [] := by
  have hany : (endOfRun sampleSettings sampleState readyRailway).any
      (fun w => (endOfRun sampleSettings sampleState w).isSome &&
      decide (w.services.length ≤ 100) &&
      SERVICE_SPECS.all fun spec => (w.shown spec.name).all (·.triggers ≠ [])) = true := by
    decide +kernel
  cases hend : endOfRun sampleSettings sampleState readyRailway with
  | none =>
    rw [hend] at hany
    cases hany
  | some w₁ =>
    rw [hend, Option.any_some, Bool.and_eq_true, Bool.and_eq_true] at hany
    obtain ⟨w₂, hend₂⟩ := Option.isSome_iff_exists.1 hany.1.1
    refine ⟨w₁, w₂, rfl, hend₂, of_decide_eq_true hany.1.2, fun spec hspec svc hshown => ?_⟩
    have hlinked := List.all_eq_true.1 hany.2 spec hspec
    rw [hshown, Option.all_some] at hlinked
    exact of_decide_eq_true hlinked

theorem main_again_ready : ∃ w₁ w₂, endOfRun sampleSettings sampleState readyRailway = some w₁ ∧
    endOfRun sampleSettings sampleState w₁ = some w₂ ∧ w₂.services = w₁.services := by
  obtain ⟨w₁, w₂, hend₁, hend₂, hfew, hlinked⟩ := ready_ends
  obtain ⟨s₁, hrun₁⟩ := endOfRun_runs sample_startup rfl hend₁
  obtain ⟨s₂, hrun₂⟩ := endOfRun_runs sample_startup rfl hend₂
  refine ⟨w₁, w₂, hend₁, hend₂, ?_⟩
  exact (main_again sample_startup rfl hrun₁ hfew hlinked sample_startup ⟨rfl, rfl, rfl⟩
    rfl hrun₂).1

/-! ## A dry run -/

section Dry

variable {st : Settings} {config : ConfigFile} {random : Fin 32 → UInt8} {s : SetupState}
  {w w' : Railway} {e : Ended}

theorem fetch_asks (projectId : String) :
    Throwing.Obeys (fun q => q.isQuery = true) (fun _ => True) (fetchServicesMap projectId) :=
  .bind (.perform rfl) fun _ _ => .pure trivial

theorem linkRepo_asks (hdry : st.dry = true) (spec : ServiceSpec) (svc : ServiceEntry) :
    Throwing.Obeys (fun q => q.isQuery = true) (fun _ => True) (st.linkRepo spec svc) := by
  unfold Settings.linkRepo
  refine .ite (fun _ => .ite (fun h => absurd hdry (Bool.eq_false_iff.1 h.2)) fun _ =>
    .pure trivial) fun _ => ?_
  exact .forM _ fun tr _ => .ite (fun _ => .pure trivial) fun _ => .ite (fun _ => .pure trivial)
    fun h => absurd hdry h

theorem configureInstance_asks (hdry : st.dry = true) (spec : ServiceSpec) (svc : ServiceEntry) :
    Throwing.Obeys (fun q => q.isQuery = true) (fun _ => True) (st.configureInstance spec svc) :=
  .bind (.perform rfl) fun _ _ => .ite (fun h => absurd hdry (Bool.eq_false_iff.1 h.2)) fun _ =>
    .pure trivial

theorem provision_asks (hdry : st.dry = true) (byName : ServiceMap) (spec : ServiceSpec) :
    Throwing.Obeys (fun q => q.isQuery = true) (fun _ => True) (st.provision byName spec) := by
  have hensure : Throwing.Obeys (fun q => q.isQuery = true) (fun _ => True)
      (st.ensureService byName spec) := by
    unfold Settings.ensureService
    split
    · exact .pure trivial
    · exact .ite (fun _ => .pure trivial) fun h => absurd hdry h
  refine hensure.bind fun r _ => ?_
  split
  · exact .pure trivial
  · refine (linkRepo_asks hdry spec _).bind fun _ _ => .ite (fun _ => ?_) fun h => absurd hdry h
    exact (configureInstance_asks hdry spec _).bind fun _ _ => .pure trivial

theorem loadOptionalEnvFile_files (s : SetupState) :
    (loadOptionalEnvFile s).setupFile = s.setupFile ∧ (loadOptionalEnvFile s).exampleFile =
      s.exampleFile := by
  unfold loadOptionalEnvFile
  split
  · exact ⟨rfl, rfl⟩
  · rename_i bytes _
    generalize (splitLines (utf8Decode bytes)).filterMap lineAssignment = entries
    have hfold : ∀ (entries : List (List Char × List Char)) (s : SetupState),
        (entries.foldl setDefault s).setupFile = s.setupFile ∧
          (entries.foldl setDefault s).exampleFile = s.exampleFile := by
      intro entries
      induction entries with
      | nil => exact fun s => ⟨rfl, rfl⟩
      | cons entry entries ih =>
        intro s
        have hset : (setDefault s entry).setupFile = s.setupFile ∧
            (setDefault s entry).exampleFile = s.exampleFile := by
          simp only [setDefault]
          split
          · exact ⟨rfl, rfl⟩
          · split
            · exact ⟨rfl, rfl⟩
            · exact ⟨rfl, rfl⟩
        exact ⟨(ih _).1.trans hset.1, (ih _).2.trans hset.2⟩
    exact hfold entries s

theorem startup_dry (h : startup config s = .ok st) : st.dry = s.flag "DRY_RUN" := by
  unfold startup at h
  cases hauth : getAuthHeaders s with
  | error msg =>
    rw [hauth] at h
    cases h
  | ok headers =>
    cases hids : loadRailwayConfig config with
    | error msg =>
      rw [hauth, hids] at h
      cases h
    | ok ids =>
      rw [hauth, hids] at h
      cases h
      rfl

theorem apply_asks (hdry : st.dry = true) :
    (st.apply random s).Obeys (fun q => q.isQuery = true) fun e => e.state = s := by
  have hdeploy : Throwing.Obeys (fun q => q.isQuery = true) (fun _ => True) st.deploy := by
    have hall : ∀ byName, Throwing.Obeys (fun q => q.isQuery = true) (fun _ => True)
        (st.provisionAll byName) :=
      fun byName => .foldlM SERVICE_SPECS (fun byName spec _ => provision_asks hdry byName spec)
        byName
    refine (fetch_asks _).bind fun byName _ => (hall byName).bind fun _ _ => ?_
    exact redeploy_obeys (fun _ => rfl) fun h => absurd hdry (Bool.eq_false_iff.1 h)
  refine Throwing.Obeys.andThen hdeploy (fun _ => rfl) fun _ _ => .ite (fun _ => ?_) fun _ =>
    Prog.obeys_ret.2 rfl
  refine Throwing.Obeys.andThen (fetch_asks _) (fun _ => rfl) fun byName _ => ?_
  refine (sync_obeys byName random s ?_).mono (fun _ hq => hq) fun _ h => h hdry
  exact fun h => absurd hdry (Bool.eq_false_iff.1 h)

/-- **A dry run changes nothing**, however it ends: it sends no mutation, and leaves the files as
they are. -/
theorem main_dry (hdry : (loadOptionalEnvFile s).flag "DRY_RUN" = true)
    (hrun : railway.Runs () (main config random s) w e w') :
    w' = w ∧ e.state.setupFile = s.setupFile ∧ e.state.exampleFile = s.exampleFile := by
  suffices h : w' = w ∧ e.state = loadOptionalEnvFile s by
    rw [h.1, h.2]
    exact ⟨rfl, loadOptionalEnvFile_files s⟩
  by_cases hst : ∃ st, startup config (loadOptionalEnvFile s) = .ok st
  · obtain ⟨st, hst⟩ := hst
    rw [main_eq hst] at hrun
    have hend := Server.Triple.of_obeys (S := railway) (i := ()) (P := fun v => v = w)
      (fun _ _ _ _ _ hq hv hr => (respond_query hq hr).trans hv)
      (apply_asks ((startup_dry hst).trans hdry)) _ _ _ rfl hrun
    exact ⟨hend.2, hend.1⟩
  · exact main_unset (not_exists.1 hst) hrun

end Dry

/-- The same environment, for a dry run. -/
def dryState : SetupState := { sampleState with env := sampleState.env.set "DRY_RUN" "1".toList }

theorem dry_startup :
    startup sampleConfig (loadOptionalEnvFile dryState) =
      .ok { sampleSettings with dry := true } := by
  decide

theorem main_dry_sample :
    ∃ w', endOfRun { sampleSettings with dry := true } dryState sampleRailway = some w' ∧
    w' = sampleRailway := by
  have hsome : (endOfRun { sampleSettings with dry := true } dryState sampleRailway).isSome =
      true := by
    decide +kernel
  obtain ⟨w', hend⟩ := Option.isSome_iff_exists.1 hsome
  obtain ⟨s', hrun⟩ := endOfRun_runs dry_startup rfl hend
  exact ⟨w', hend, (main_dry (by decide) hrun).1⟩

end PeHackathon.Setup
