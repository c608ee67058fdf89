import PeHackathon.Js.Utf16
import PeHackathon.Setup.Provision

/-!
# A service that is configured

What provisioning is for: the service of a spec is there, its triggers for the repository are on the
branch, and its instance has the paths of the spec (`Configured`). A turn of the loop leads there,
whatever it began with.
-/

namespace PeHackathon.Setup

open Js Lib

/-! ## The paths of an instance -/

/-- The instance has what the spec wants, up to what does not matter: spaces around a path or
pattern, the first `/` of a path, and the order of the patterns. -/
structure InPlace (spec : ServiceSpec) (si : ServiceInstance) : Prop where
  rootDirectory : si.rootDirectory = some spec.rootDirectory
  preDeployCommand : si.preDeployCommand.getD [] = []
  railwayConfigFile : normRailwayConfigPath si.railwayConfigFile = spec.railwayConfigFile
  watchPatterns : ((si.watchPatterns.getD []).map trim).Perm spec.watchPatterns

/-- Equal lists when sorted are the same up to order. -/
theorem sortStrings_eq_iff {l l' : List String} : sortStrings l = sortStrings l' ↔ l.Perm l' := by
  have : Std.Total fun a b : String => utf16 a ≤ utf16 b :=
    ⟨fun a b => le_total (utf16 a) (utf16 b)⟩
  have : IsTrans String fun a b => utf16 a ≤ utf16 b := ⟨fun _ _ _ => le_trans⟩
  have hsorted : ∀ l : List String, (sortStrings l).Pairwise fun a b => utf16 a ≤ utf16 b :=
    List.pairwise_insertionSort _
  have hperm : ∀ l : List String, (sortStrings l).Perm l := List.perm_insertionSort _
  constructor
  · intro h
    exact (hperm l).symm.trans (h ▸ hperm l')
  · intro h
    refine List.Perm.eq_of_pairwise (fun a b _ _ hab hba => ?_) (hsorted l) (hsorted l')
      ((hperm l).trans (h.trans (hperm l').symm))
    exact utf16_injective (le_antisymm hab hba)

theorem watchPatternsEqual_iff {current : Option (List String)} {wanted : List String} :
    watchPatternsEqual current wanted = true ↔
      ((current.getD []).map trim).Perm (wanted.map trim) := by
  unfold watchPatternsEqual
  rw [decide_eq_true_iff, sortStrings_eq_iff]

/-- What the specs want is in the form that it is compared in. -/
theorem specs_normal : ∀ spec ∈ SERVICE_SPECS, spec.name ≠ "" ∧ spec.rootDirectory ≠ "" ∧
    normRailwayConfigPath (some spec.railwayConfigFile) = spec.railwayConfigFile ∧
    spec.watchPatterns.map trim = spec.watchPatterns := by
  decide

section InPlace

variable {st : Settings} {spec : ServiceSpec} {si : ServiceInstance}

theorem rootOk_iff (hspec : spec ∈ SERVICE_SPECS) :
    Settings.rootOk spec (some si) = true ↔ si.rootDirectory = some spec.rootDirectory := by
  have hne := (specs_normal spec hspec).2.1
  unfold Settings.rootOk
  rw [decide_eq_true_iff, Option.bind_some]
  cases si.rootDirectory with
  | none => simpa using Ne.symm hne
  | some root => simp

theorem configOk_iff (hspec : spec ∈ SERVICE_SPECS) :
    Settings.configOk spec (some si) = true ↔
      normRailwayConfigPath si.railwayConfigFile = spec.railwayConfigFile := by
  unfold Settings.configOk
  rw [decide_eq_true_iff, (specs_normal spec hspec).2.2.1, Option.bind_some]

theorem watchOk_iff (hspec : spec ∈ SERVICE_SPECS) :
    Settings.watchOk spec (some si) = true ↔
      ((si.watchPatterns.getD []).map trim).Perm spec.watchPatterns := by
  unfold Settings.watchOk
  rw [watchPatternsEqual_iff, (specs_normal spec hspec).2.2.2, Option.bind_some]

theorem mustClearPre_iff : st.mustClearPre (some si) = false ↔
    st.forceClearPre = false ∧ si.preDeployCommand.getD [] = [] := by
  unfold Settings.mustClearPre
  rw [Bool.or_eq_false_iff, decide_eq_false_iff_not, Option.bind_some, Nat.not_lt, Nat.le_zero,
    List.length_eq_zero_iff]

/-- An instance needs no update exactly if it is in place. -/
theorem needsInstanceUpdate_iff (hspec : spec ∈ SERVICE_SPECS) :
    st.needsInstanceUpdate spec (some si) = false ↔ st.forceClearPre = false ∧ InPlace spec si := by
  unfold Settings.needsInstanceUpdate
  simp only [Bool.or_eq_false_iff, Bool.not_eq_false', rootOk_iff hspec, configOk_iff hspec,
    watchOk_iff hspec, mustClearPre_iff]
  constructor
  · rintro ⟨⟨⟨hroot, hforce, hpre⟩, hconfig⟩, hwatch⟩
    exact ⟨hforce, hroot, hpre, hconfig, hwatch⟩
  · rintro ⟨hforce, h⟩
    exact ⟨⟨⟨h.rootDirectory, hforce, h.preDeployCommand⟩, h.railwayConfigFile⟩, h.watchPatterns⟩

/-- What is not in place is what the input gives. -/
theorem inPlace_update (hspec : spec ∈ SERVICE_SPECS) (si : ServiceInstance) :
    InPlace spec ((st.instanceInput spec (some si)).update si) where
  rootDirectory := by
    simp only [InstanceInput.update, Settings.instanceInput]
    by_cases h : Settings.rootOk spec (some si) = true
    · rw [if_pos h]
      exact (rootOk_iff hspec).1 h
    · rw [if_neg h]
      rfl
  preDeployCommand := by
    simp only [InstanceInput.update, Settings.instanceInput]
    by_cases h : st.mustClearPre (some si) = true
    · rw [if_pos h]
      rfl
    · rw [if_neg h]
      exact (mustClearPre_iff.1 (Bool.eq_false_iff.2 h)).2
  railwayConfigFile := by
    simp only [InstanceInput.update, Settings.instanceInput]
    by_cases h : Settings.configOk spec (some si) = true
    · rw [if_pos h]
      exact (configOk_iff hspec).1 h
    · rw [if_neg h]
      exact (specs_normal spec hspec).2.2.1
  watchPatterns := by
    simp only [InstanceInput.update, Settings.instanceInput]
    by_cases h : Settings.watchOk spec (some si) = true
    · rw [if_pos h]
      exact (watchOk_iff hspec).1 h
    · rw [if_neg h]
      exact .of_eq (specs_normal spec hspec).2.2.2

end InPlace

/-! ## The service -/

/-- The service that the name stands for has its triggers for the repository on the branch, and its
instance in place. -/
def Configured (st : Settings) (spec : ServiceSpec) (w : Railway) : Prop :=
  ∃ s si, w.shown spec.name = some s ∧ (∀ t ∈ s.entry.triggers, st.isForRepo t = true →
    t.branch = st.branch) ∧
    s.instance? st.environmentId = some si ∧ InPlace spec si

section Configured

variable {st : Settings} {spec : ServiceSpec} {svc : ServiceEntry} {w w' : Railway} {name : String}
  {s : RailwayService}

theorem shown_map {f : RailwayService → RailwayService} (hservices : w'.services = w.services.map f)
    (hname : ∀ s, (f s).name = s.name) (name : String) : w'.shown name = (w.shown name).map f := by
  unfold Railway.shown
  rw [hservices, ← List.map_take, List.filter_map, List.getLast?_map]
  congr 3
  funext s
  rw [Function.comp_apply, hname]

theorem find_eq (hs : s ∈ w.services) : w.find s.id = some s := by
  unfold Railway.find
  cases hfind : w.services.find? (·.id = s.id) with
  | none => exact absurd (decide_eq_true rfl) (List.find?_eq_none.1 hfind s hs)
  | some s' =>
    have hid : s'.id = s.id := by simpa using List.find?_some hfind
    rw [eq_of_id (List.mem_of_find?_eq_some hfind) hs hid]

/-- The service of an entry, with the triggers that are still to be looked at. -/
def Aiming (st : Settings) (svc : ServiceEntry) (rest : List Trigger) (w : Railway) : Prop :=
  ∃ s, w.shown svc.name = some s ∧ s.id = svc.id ∧
    ∀ t ∈ s.entry.triggers, t.branch = st.branch ∨ (st.isForRepo t = true → t ∈ rest)

/-- The second pass puts all of them on the branch. -/
theorem setBranch_ensures :
    railway.Ensures () (Aiming st svc (svc.triggers.filter st.isForRepo)) (st.setBranch spec svc)
      (fun _ => Aiming st svc []) fun _ => True := by
  refine .forM _ fun tr rest _ => .ite (fun hbranch => ?_) fun hbranch => .pure ?_
  · refine .perform (fun c w a w' hw hr => ?_) fun _ _ _ _ _ _ => trivial
    obtain ⟨s, hshown, hid, htriggers⟩ := hw
    have hservices : w'.services = w.services.map (·.updateTrigger tr.id st.branch st.repo) := by
      obtain ⟨-, ⟨w₁, hw₁, heq⟩ | ⟨hne, -⟩⟩ := mutate_cases hr
      · cases hw₁
        exact heq
      · exact absurd rfl hne
    refine ⟨s.updateTrigger tr.id st.branch st.repo, ?_, hid, fun t ht => ?_⟩
    · rw [shown_map hservices (fun _ => rfl), hshown]
      rfl
    · simp only [RailwayService.entry, RailwayService.updateTrigger, ← List.map_take] at ht
      obtain ⟨t', ht', rfl⟩ := List.mem_map.1 ht
      split
      · exact .inl rfl
      · rename_i hne
        refine (htriggers t' ht').imp_right fun h hrepo => ?_
        exact (List.mem_cons.1 (h hrepo)).resolve_left fun heq => hne (congrArg Trigger.id heq)
  · rintro w ⟨s, hshown, hid, htriggers⟩
    refine ⟨s, hshown, hid, fun t ht => ?_⟩
    obtain h | h := htriggers t ht
    · exact .inl h
    · by_cases hbr : t.branch = st.branch
      · exact .inl hbr
      · refine .inr fun hrepo => (List.mem_cons.1 (h hrepo)).resolve_left fun heq => hbr ?_
        rw [heq]
        exact Classical.not_not.1 hbranch

/-- The instance is read, and updated unless it is in place. -/
theorem configureInstance_ensures (hspec : spec ∈ SERVICE_SPECS) (hdry : st.dry = false)
    (hname : svc.name = spec.name) :
    railway.Ensures () (Aiming st svc []) (st.configureInstance spec svc)
      (fun _ => Configured st spec) fun _ => True := by
  have hbranch : ∀ {s : RailwayService}, (∀ t ∈ s.entry.triggers, t.branch = st.branch ∨
      (st.isForRepo t = true → t ∈ [])) →
      ∀ t ∈ s.entry.triggers, st.isForRepo t = true → t.branch = st.branch := fun h t ht hrepo =>
    (h t ht).resolve_right fun hnot => List.not_mem_nil (hnot hrepo)
  refine .start fun w₀ hw₀ => ?_
  obtain ⟨s, hshown, hid, htriggers⟩ := hw₀
  rw [hname] at hshown
  have hfind : w₀.find svc.id = some s := hid ▸ find_eq (Railway.shown_mem hshown).1
  refine .bind (?_ : railway.Ensures () _ _
    (fun si w => w = w₀ ∧ si = s.instance? st.environmentId) fun _ => True) fun si => ?_
  · refine .perform (fun c w si w' hw hr => ?_) fun _ _ _ _ _ _ => trivial
    refine ⟨(respond_query rfl hr).trans hw, ?_⟩
    rw [respond_serviceInstance hr, hw, hfind, Option.bind_some]
  · cases hsi : s.instance? st.environmentId with
    | none =>
      refine .ite (fun _ => ?_) fun hneeds => .pure fun w hw => ?_
      · refine .perform (fun c w a w' hw hr => ?_) fun _ _ _ _ _ _ => trivial
        obtain ⟨rfl, rfl⟩ := hw
        obtain ⟨-, ⟨w₁, hw₁, -⟩ | ⟨hne, -⟩⟩ := mutate_cases hr
        · simp only [Railway.mutated, hfind, Option.bind_some, hsi, if_true] at hw₁
          cases hw₁
        · exact absurd rfl hne
      · obtain ⟨rfl, rfl⟩ := hw
        refine absurd ⟨?_, hdry⟩ hneeds
        have hroot : Settings.rootOk spec none = false := by
          simpa [Settings.rootOk] using (specs_normal spec hspec).2.1.symm
        simp [Settings.needsInstanceUpdate, hroot]
    | some inst =>
      refine .ite (fun _ => ?_) fun hneeds => .pure fun w hw => ?_
      · refine .perform (fun c w a w' hw hr => ?_) fun _ _ _ _ _ _ => trivial
        obtain ⟨rfl, rfl⟩ := hw
        have hservices : w'.services = w.services.map fun s' => if s'.id = svc.id then
            s'.updateInstance st.environmentId (st.instanceInput spec (some inst)) else s' := by
          obtain ⟨-, ⟨w₁, hw₁, heq⟩ | ⟨hne, -⟩⟩ := mutate_cases hr
          · simp only [Railway.mutated, hfind, Option.bind_some, hsi, reduceCtorEq, if_false] at hw₁
            cases hw₁
            exact heq
          · exact absurd rfl hne
        refine ⟨s.updateInstance st.environmentId (st.instanceInput spec (some inst)),
          (st.instanceInput spec (some inst)).update inst, ?_, hbranch htriggers, ?_,
          inPlace_update hspec inst⟩
        · rw [shown_map hservices (fun s' => by split <;> rfl), hshown, Option.map_some, if_pos hid]
        · unfold RailwayService.updateInstance
          simp only [if_true, hsi, Option.map_some]
      · obtain ⟨rfl, rfl⟩ := hw
        have hneeds' : st.needsInstanceUpdate spec (some inst) = false :=
          Bool.eq_false_iff.2 fun h => hneeds ⟨h, hdry⟩
        exact ⟨s, inst, hshown, hbranch htriggers, hsi,
          ((needsInstanceUpdate_iff hspec).1 hneeds').2⟩

end Configured

end PeHackathon.Setup
