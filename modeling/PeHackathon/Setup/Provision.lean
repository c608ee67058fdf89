import Mathlib.Data.List.ReduceOption
import PeHackathon.Setup.Frame

/-!
# One turn of provisioning

Whatever fails, a turn of the loop changes one service only (`provision_spares`). A turn that ends
well, and is no dry run, leaves that service `Configured`.
-/

namespace PeHackathon.Setup

open Js Lib

/-! ## The map of services -/

namespace ServiceMap

variable {byName : ServiceMap} {name : String} {svc : ServiceEntry}

theorem get_mem (h : byName.get name = some svc) : svc ∈ byName ∧ svc.name = name :=
  ⟨List.mem_of_find?_eq_some h, by simpa using List.find?_some h⟩

theorem get_set (byName : ServiceMap) (svc : ServiceEntry) (name : String) :
    (byName.set svc).get name = if svc.name = name then some svc else byName.get name := by
  unfold set
  split
  · rename_i hany
    have hkeep : ∀ s : ServiceEntry, (if s.name = svc.name then svc else s).name = s.name :=
        fun s => by
      split
      · rename_i heq
        exact heq.symm
      · rfl
    have hmap : get (byName.map fun s => if s.name = svc.name then svc else s) name =
        (byName.get name).map fun s => if s.name = svc.name then svc else s := by
      unfold get
      rw [List.find?_map]
      congr 1
      refine congrArg (byName.find? ·) (funext fun s => ?_)
      rw [Function.comp_apply, hkeep]
    rw [hmap]
    cases hget : byName.get name with
    | none =>
      rw [if_neg]
      · rfl
      · rintro rfl
        obtain ⟨s, hs, hname⟩ := List.any_eq_true.1 hany
        exact List.find?_eq_none.1 hget s hs hname
    | some s =>
      rw [Option.map_some, (get_mem hget).2]
      by_cases h : svc.name = name
      · rw [if_pos h, if_pos h.symm]
      · rw [if_neg h, if_neg (Ne.symm h)]
  · rename_i hany
    unfold get
    rw [List.find?_append]
    by_cases h : svc.name = name
    · have hnone : byName.find? (·.name = name) = none := by
        refine List.find?_eq_none.2 fun s hs hs' => hany (List.any_eq_true.2 ⟨s, hs, ?_⟩)
        rw [h]
        exact hs'
      rw [hnone, if_pos h]
      simp [h]
    · rw [if_neg h]
      simp [h]

theorem mem_set {byName : ServiceMap} {svc s : ServiceEntry} (h : s ∈ byName.set svc) :
    s ∈ byName ∨ s = svc := by
  unfold set at h
  split at h
  · obtain ⟨s', hs', rfl⟩ := List.mem_map.1 h
    split
    · exact .inr rfl
    · exact .inl hs'
  · exact (List.mem_append.1 h).imp_right List.mem_singleton.1

theorem mem_ofNodes {nodes : List (Option ServiceEntry)} (h : svc ∈ ofNodes nodes) :
    some svc ∈ nodes := by
  have hfold : ∀ (l : List ServiceEntry) (m : ServiceMap), svc ∈ l.foldl set m → svc ∈ m ∨
      svc ∈ l := by
    intro l
    induction l with
    | nil => exact fun m h => .inl h
    | cons s l ih =>
      intro m h
      obtain h | h := ih _ h
      · exact (mem_set h).imp_right fun heq => List.mem_cons.2 (.inl heq)
      · exact .inr (List.mem_cons_of_mem s h)
  obtain h | h := hfold _ _ h
  · exact absurd h List.not_mem_nil
  · exact List.reduceOption_mem_iff.1 (List.mem_filter.1 h).1

/-- The last node with a name has it in the map. -/
theorem get_ofNodes (nodes : List (Option ServiceEntry)) (hname : name ≠ "") :
    (ofNodes nodes).get name = (nodes.reduceOption.filter (·.name = name)).getLast? := by
  have hfold : ∀ (l : List ServiceEntry) (m : ServiceMap),
      get (l.foldl set m) name = (l.filter (·.name = name)).getLast?.or (m.get name) := by
    intro l
    induction l with
    | nil => exact fun m => rfl
    | cons s l ih =>
      intro m
      rw [List.foldl_cons, ih, get_set]
      by_cases h : s.name = name
      · rw [List.filter_cons_of_pos (by simpa using h), List.getLast?_cons, if_pos h]
        cases (l.filter (·.name = name)).getLast? <;> rfl
      · rw [List.filter_cons_of_neg (by simpa using h), if_neg h]
  have hfilter : (nodes.reduceOption.filter (·.name ≠ "")).filter (·.name = name) =
      nodes.reduceOption.filter (·.name = name) := by
    rw [List.filter_filter]
    refine List.filter_congr fun s _ => ?_
    by_cases h : s.name = name
    · simp [h, hname]
    · simp [h]
  unfold ofNodes
  rw [hfold, hfilter]
  exact Option.or_none

end ServiceMap

/-! ## Fetching -/

namespace Railway

/-- The service that the map has under a name. -/
def shown (w : Railway) (name : String) : Option RailwayService :=
  ((w.services.take 100).filter (·.name = name)).getLast?

variable {w : Railway} {name : String} {s : RailwayService}

theorem shown_mem (h : w.shown name = some s) : s ∈ w.services ∧ s.name = name := by
  have hmem := List.mem_filter.1 (List.mem_of_getLast? h)
  exact ⟨List.mem_of_mem_take hmem.1, of_decide_eq_true hmem.2⟩

theorem reduceOption_nodes (w : Railway) :
    w.nodes.reduceOption = (w.services.take 100).map (·.entry) := by
  unfold nodes
  rw [List.reduceOption, List.filterMap_map]
  exact congrFun (List.filterMap_eq_map : List.filterMap (some ∘ fun s : RailwayService =>
    s.entry) = _) _

theorem get_ofNodes (w : Railway) (hname : name ≠ "") :
    (ServiceMap.ofNodes w.nodes).get name = (w.shown name).map (·.entry) := by
  rw [ServiceMap.get_ofNodes _ hname, reduceOption_nodes, List.filter_map, List.getLast?_map]
  rfl

theorem shows_ofNodes {svc : ServiceEntry} (h : svc ∈ ServiceMap.ofNodes w.nodes) :
    Shows w svc := by
  obtain ⟨s, hs, heq⟩ := List.mem_map.1 (ServiceMap.mem_ofNodes h)
  exact ⟨s, List.mem_of_mem_take hs, (Option.some.inj heq).symm⟩

end Railway

theorem fetchServicesMap_ensures {P : Railway → Prop} (projectId : String) :
    railway.Ensures () P (fetchServicesMap projectId)
      (fun byName w => P w ∧ byName = .ofNodes w.nodes) P := by
  refine .bind (?_ : railway.Ensures () P _ (fun nodes w => P w ∧ nodes = w.nodes) P) fun nodes =>
    ?_
  · refine .perform (fun c w nodes w' hw hr => ?_) fun c w e w' hw hr => ?_
    · obtain rfl := respond_query rfl hr
      exact ⟨hw, respond_project hr⟩
    · obtain rfl := respond_query rfl hr
      exact hw
  · refine .pure fun w h => ⟨h.1, ?_⟩
    rw [h.2]

/-! ## A turn changes one service -/

section Turn

variable {st : Settings} {names : List String} {spec : ServiceSpec} {svc : ServiceEntry}
  {w₀ w : Railway}

/-- What a program that is permitted keeps. -/
theorem ensures_spares {α : Type} {ψ : α → Prop} {p : Script α}
    (hp : Throwing.Obeys (Permits st names w₀) ψ p) :
    railway.Ensures () (Spares st names w₀) p (fun _ w => Spares st names w₀ w)
      (Spares st names w₀) :=
  (Server.Ensures.of_obeys (fun _ _ _ _ _ hq hw hr => hq.spares hw hr) hp).mono (fun _ h => h)
    (fun _ _ h => h.2) fun _ h => h

theorem fetchServicesMap_permitted (projectId : String) :
    Throwing.Obeys (Permits st names w₀) (fun _ => True) (fetchServicesMap projectId) :=
  (Throwing.Obeys.perform trivial).bind fun _ _ => .pure trivial

theorem updateTrigger_permitted (hsvc : Shows w svc) (h : Spares st names w₀ w)
    (hname : svc.name ∈ names) {tr : Trigger} (htr : tr ∈ svc.triggers.filter st.isForRepo) :
    Throwing.Obeys (Permits st names w₀) (fun _ => True) (st.updateTrigger spec tr) :=
  .perform (hsvc.update h hname (List.mem_filter.1 htr).1 (List.mem_filter.1 htr).2 spec)

theorem linkRepo_permitted (hsvc : Shows w svc) (h : Spares st names w₀ w)
    (hname : svc.name ∈ names) :
    Throwing.Obeys (Permits st names w₀) (fun _ => True) (st.linkRepo spec svc) := by
  unfold Settings.linkRepo
  refine .ite (fun _ => .ite (fun hnone => ?_) fun _ => .pure trivial) fun _ =>
    .forM _ fun tr htr => ?_
  · have hconnect : Permits st names w₀ (.serviceConnect svc.id st.repo st.branch) :=
      hsvc.idle h hname hnone.1
    have hcreate :
        Permits st names w₀ (.deploymentTriggerCreate st.projectId st.environmentId svc.id
          st.branch st.repo
        spec.rootDirectory) := hsvc.idle h hname hnone.1
    refine .bind (.tryCatch (.perform hconnect) fun _ => .perform hcreate) fun _ _ => ?_
    exact (fetchServicesMap_permitted st.projectId).bind fun _ _ => .pure trivial
  · exact .ite (fun _ => .pure trivial) fun _ => .ite (fun _ => .pure trivial) fun _ =>
      updateTrigger_permitted hsvc h hname htr

theorem setBranch_permitted (hsvc : Shows w svc) (h : Spares st names w₀ w)
    (hname : svc.name ∈ names) :
    Throwing.Obeys (Permits st names w₀) (fun _ => True) (st.setBranch spec svc) :=
  .forM _ fun _ htr => .ite (fun _ => updateTrigger_permitted hsvc h hname htr) fun _ =>
    .pure trivial

theorem configureInstance_permitted (hsvc : Shows w svc) (h : Spares st names w₀ w)
    (hname : svc.name ∈ names) :
    Throwing.Obeys (Permits st names w₀) (fun _ => True) (st.configureInstance spec svc) := by
  refine .bind (.perform trivial) fun si _ => .ite (fun _ => ?_) fun _ => .pure trivial
  have hupdate : Permits st names w₀
      (.serviceInstanceUpdate st.environmentId svc.id (st.instanceInput spec si)) :=
        hsvc.owned h hname
  exact .perform hupdate

/-- What `ensureService` gives: the map as it was or as it is now, and the service as it is. -/
structure Found (st : Settings) (spec : ServiceSpec) (byName : ServiceMap) (w₀ : Railway)
    (r : ServiceMap × Option ServiceEntry) (w : Railway) : Prop where
  spares : Spares st [spec.name] w₀ w
  keeps : st.dry = true → r.1 = byName
  fresh : st.dry = false → ∃ svc, r.2 = some svc
  shows : ∀ svc, r.2 = some svc → Shows w svc ∧ svc.name = spec.name

theorem ensureService_found {byName : ServiceMap}
    (hshows : ∀ svc, byName.get spec.name = some svc → Shows w₀ svc) :
    railway.Ensures () (· = w₀) (st.ensureService byName spec) (Found st spec byName w₀)
      (Spares st [spec.name] w₀) := by
  unfold Settings.ensureService
  split
  · rename_i svc hget
    refine .pure fun w hw => ⟨hw ▸ .refl st _ w, fun _ => rfl, fun _ => ⟨svc, rfl⟩, ?_⟩
    rintro svc' ⟨⟩
    exact ⟨hw ▸ hshows svc hget, (ServiceMap.get_mem hget).2⟩
  · refine .ite (fun hdry => .pure fun w hw => ?_) fun hdry => ?_
    · exact ⟨hw ▸ .refl st _ w, fun _ => rfl, fun h => absurd hdry (Bool.eq_false_iff.1 h),
        fun svc h => nomatch h⟩
    · have hcreate : Permits st [spec.name] w₀
          (.serviceCreate st.projectId st.environmentId spec.name st.branch st.repo) :=
            List.mem_singleton_self _
      refine .bind ((ensures_spares (.perform hcreate)).mono (fun w hw => hw ▸ .refl st _ w)
        (fun _ _ h => h) fun _ h => h) fun _ => ?_
      refine .bind (fetchServicesMap_ensures st.projectId) fun byName' => ?_
      split
      · rename_i svc hget
        refine .pure fun w h => ⟨h.1, fun h' => absurd h' hdry, fun _ => ⟨svc, rfl⟩, ?_⟩
        rintro svc' ⟨⟩
        obtain ⟨hmem, hname⟩ := ServiceMap.get_mem hget
        exact ⟨Railway.shows_ofNodes (h.2 ▸ hmem), hname⟩
      · exact .throw fun w h => h.1

end Turn

end PeHackathon.Setup
