import PeHackathon.Setup.Reconcile

/-!
# The variables of the services fit together

What the variable sync sends is one plan for the seven services (`Wiring.plan`), and the plan is
`Wired`: every reference is to a service of the project, every port that is referred to is set, and
secrets that two services share are the same.
-/

namespace PeHackathon.Setup

open Js Lib

/-! ## Services that are found -/

section Find

variable {s : SetupState} {byName : ServiceMap} {name pg : String}

theorem has_of_mem_names (h : name ∈ byName.names) : byName.has name = true := by
  obtain ⟨svc, hsvc, rfl⟩ := List.mem_map.1 h
  exact List.any_eq_true.2 ⟨svc, hsvc, decide_eq_true rfl⟩

theorem has_findServiceName {variableName : String} {candidates : List String}
    {matching : String → Bool}
    (h : findServiceName s variableName candidates matching byName = some name) :
    byName.has name = true := by
  unfold findServiceName at h
  simp only at h
  split at h
  · rename_i hexplicit
    cases h
    exact hexplicit.2
  · cases hcandidate : candidates.find? (byName.has ·) with
    | some n =>
      rw [hcandidate] at h
      cases h
      exact List.find?_some hcandidate
    | none =>
      rw [hcandidate, Option.none_or] at h
      exact has_of_mem_names (List.mem_of_find?_eq_some h)

theorem has_findDashboardPostgresServiceName
    (h : findDashboardPostgresServiceName s byName pg = some name) :
    byName.has name = true := by
  unfold findDashboardPostgresServiceName at h
  simp only at h
  split at h
  · rename_i hexplicit
    cases h
    exact hexplicit.2
  · split at h
    · rename_i n hfind
      cases h
      exact has_of_mem_names (List.mem_of_find?_eq_some hfind)
    · split at h
      · rename_i n hfilter
        cases h
        have hmem : name ∈ byName.names.filter fun n => namesPart n "postgres" && n ≠ pg := by
          rw [hfilter]
          exact List.mem_singleton_self name
        exact has_of_mem_names (List.mem_filter.1 hmem).1
      · cases h

end Find

/-! ## The plan -/

/-- The services that others reach by their port. -/
def portNames : List String :=
  ["url-shortener-a", "url-shortener-b", "dashboard-backend", "railway-watchdog"]

/-- The name of the variable whose reference is to a variable of the broker's own. -/
def brokerVariable : String := "KAFKA_BOOTSTRAP_SERVERS"

/-- What a variable refers to is known, and a port it refers to is one of those that are set. -/
def Resolves (known : String → Prop) (key : String) (value : Template) : Prop :=
  ∀ S X, Piece.ref S X ∈ value → known S ∧ (X = "PORT" → key ≠ brokerVariable → S ∈ portNames)

section Resolves

variable {known : String → Prop} {key : String}

theorem resolves_lit (s : String) : Resolves known key (lit s) := by
  intro S X h
  cases List.mem_singleton.1 h

theorem resolves_varRef {S X : String} (hS : known S)
    (hX : X = "PORT" → key ≠ brokerVariable → S ∈ portNames) :
    Resolves known key (varRef S X) := by
  intro S' X' h
  cases List.mem_singleton.1 h
  exact ⟨hS, hX⟩

theorem Resolves.append {t t' : Template} (h : Resolves known key t) (h' : Resolves known key t') :
    Resolves known key (t ++ t') := by
  intro S X hmem
  exact (List.mem_append.1 hmem).elim (h S X) (h' S X)

theorem resolves_publicUrl {S : String} (hS : known S) : Resolves known key (Wiring.publicUrl S) :=
  (resolves_lit _).append (resolves_varRef hS fun h => absurd h (by decide))

theorem resolves_privateUrl {S : String} (hS : known S) (hport : S ∈ portNames) :
    Resolves known key (Wiring.privateUrl S) :=
  (((resolves_lit _).append (resolves_varRef hS fun h => absurd h (by decide))).append
    (resolves_lit _)).append (resolves_varRef hS fun _ _ => hport)

end Resolves

namespace Wiring

/-- What is sent to whom when every service is there. -/
def plan (v : Wiring) : List (String × Variables) :=
  [("url-shortener-a", v.urlShortenerVars "1"), ("url-shortener-b", v.urlShortenerVars "2"),
    ("load-balancer", v.loadBalancerVars), ("dashboard-backend", v.dashboardBackendVars),
    ("railway-watchdog", v.railwayWatchdogVars), ("dashboard", v.dashboardVars),
    ("user-frontend", v.userFrontendVars)]

/-- The services of the script are there, and so are the plugins that were found. -/
structure Complete (v : Wiring) : Prop where
  specs : ∀ name ∈ specNames, v.byName.has name = true
  pg : v.byName.has v.pg = true
  redis : ∀ redis, v.redis = some redis → v.byName.has redis = true
  kafka : ∀ kafka, v.kafka = some kafka → v.byName.has kafka = true

/-- All variables of a service are as `φ` wants them. -/
def Every (φ : String → Template → Prop) (values : Variables) : Prop := ∀ kv ∈ values, φ kv.1 kv.2

section Every

variable {φ : String → Template → Prop} {values values' : Variables}

theorem Every.append (h : Every φ values) (h' : Every φ values') : Every φ (values ++ values') :=
  fun kv hmem => (List.mem_append.1 hmem).elim (h kv) (h' kv)

theorem Every.cons {key : String} {value : Template} (h : φ key value) (h' : Every φ values) :
    Every φ ((key, value) :: values) := List.forall_mem_cons.2 ⟨h, h'⟩

theorem Every.nil : Every φ [] := fun _ hmem => absurd hmem List.not_mem_nil

theorem Every.ite {c : Prop} [Decidable c] (h : Every φ values) (h' : Every φ values') :
    Every φ (if c then values else values') := by
  split
  · exact h
  · exact h'

end Every

/-- All variables of a service resolve. -/
abbrev AllResolve (v : Wiring) : Variables → Prop := Every (Resolves fun S => v.byName.has S = true)

section Plan

variable {v : Wiring} (hv : v.Complete)

theorem dbUrl_resolves {key S : String} (hS : v.byName.has S = true) :
    Resolves (fun S => v.byName.has S = true) key (varRef S v.dbUrlKey) := by
  refine resolves_varRef hS fun h => ?_
  unfold dbUrlKey at h
  split at h <;> exact absurd h (by decide)

theorem loadTestTarget_resolves (variableName : String) :
    v.AllResolve (v.loadTestTarget variableName) := by
  unfold loadTestTarget
  split
  · rename_i h
    exact .cons (resolves_publicUrl h) .nil
  · split
    · rename_i h
      exact .cons (resolves_publicUrl h) .nil
    · exact .nil

theorem watchdogPoll_resolves : v.AllResolve v.watchdogPoll :=
  .ite .nil (.cons (resolves_lit _) .nil)

theorem tokenVars_resolve : v.AllResolve v.tokenVars :=
  .ite (.cons (resolves_lit _) .nil) (.ite (.cons (resolves_lit _) .nil) .nil)

include hv

theorem kafkaVars_resolve : v.AllResolve v.kafkaVars := by
  unfold kafkaVars
  split
  · rename_i kafka hkafka
    exact .cons (resolves_varRef (hv.kafka kafka hkafka) fun _ h => absurd rfl h) .nil
  · exact .nil

theorem logIngestUrl_resolves {key : String} {url : Template} (h : v.logIngestUrl = some url) :
    Resolves (fun S => v.byName.has S = true) key url := by
  have hbackend := hv.specs "dashboard-backend" (by decide)
  unfold logIngestUrl at h
  split at h
  · split at h
    · cases h
      exact (resolves_privateUrl hbackend (by decide)).append (resolves_lit _)
    · cases h
      exact (resolves_publicUrl hbackend).append (resolves_lit _)
  · cases h

theorem urlShortenerVars_resolve (instanceId : String) :
    v.AllResolve (v.urlShortenerVars instanceId) := by
  refine .append (.append (.append (.append ?_ (kafkaVars_resolve hv)) ?_)
    (.cons (resolves_lit _) .nil))
    (.cons (resolves_lit _) .nil)
  · refine .cons (resolves_lit _) (.cons (dbUrl_resolves hv.pg)
      (.cons (resolves_lit _) (.cons (resolves_lit _) (.cons ?_ .nil))))
    split
    · rename_i redis hredis
      exact resolves_varRef (hv.redis redis hredis) fun h => absurd h (by decide)
    · exact resolves_lit _
  · split
    · rename_i url hurl
      exact .cons (logIngestUrl_resolves hv hurl) (.cons (resolves_lit _) .nil)
    · exact .nil

theorem loadBalancerVars_resolve : v.AllResolve v.loadBalancerVars := by
  have ha := hv.specs "url-shortener-a" (by decide)
  have hb := hv.specs "url-shortener-b" (by decide)
  have hdomain : "RAILWAY_PRIVATE_DOMAIN" ≠ "PORT" := by decide
  refine .cons (resolves_varRef ha fun h => absurd h hdomain)
    (.cons (resolves_varRef hb fun h => absurd h hdomain) ?_)
  exact .cons (resolves_varRef ha fun _ _ => by decide)
    (.cons (resolves_varRef hb fun _ _ => by decide) (.cons (resolves_lit _) .nil))

theorem dashboardBackendVars_resolve : v.AllResolve v.dashboardBackendVars := by
  refine .append (.append (.append ?_ (loadTestTarget_resolves _)) (kafkaVars_resolve hv))
    (.ite .nil (.cons (resolves_lit _) .nil))
  have hpg : v.byName.has v.pgDashboard = true := by
    unfold pgDashboard
    cases hfind : findDashboardPostgresServiceName v.state v.byName v.pg with
    | none => exact hv.pg
    | some name => exact has_findDashboardPostgresServiceName hfind
  exact .cons (resolves_lit _) (.cons (dbUrl_resolves hpg)
    (.cons (resolves_lit _) (.cons (resolves_lit _)
    (.cons (resolves_lit _) (.cons (resolves_lit _) (.cons (resolves_lit _) .nil))))))

theorem dashboardVars_resolve : v.AllResolve v.dashboardVars := by
  have hbackend := hv.specs "dashboard-backend" (by decide)
  have hwatchdog := hv.specs "railway-watchdog" (by decide)
  refine .append
    (.append (.append (.append (.append (.append ?_ ?_) (loadTestTarget_resolves _)) ?_)
    watchdogPoll_resolves) tokenVars_resolve) (.ite .nil (.cons (resolves_lit _) .nil))
  · exact .cons (resolves_privateUrl hbackend (by decide)) .nil
  · exact .ite (.cons (resolves_privateUrl hwatchdog (by decide)) .nil) .nil
  · exact .cons (resolves_lit _) (.cons (resolves_lit _)
      (.cons (resolves_lit _) (.cons (resolves_lit _)
      (.cons (resolves_lit _) (.cons (resolves_lit _) .nil)))))

theorem userFrontendVars_resolve : v.AllResolve v.userFrontendVars := by
  refine .cons ?_ .nil
  split
  · exact resolves_lit _
  · split
    · rename_i h
      exact resolves_publicUrl h
    · exact resolves_publicUrl (hv.specs "url-shortener-a" (by decide))

/-- **Every reference of the plan resolves.** -/
theorem plan_resolves : ∀ p ∈ v.plan, v.AllResolve p.2 := by
  have hwatchdog : v.AllResolve v.railwayWatchdogVars := by
    refine .append (.append ?_ watchdogPoll_resolves) tokenVars_resolve
    exact .cons (resolves_lit _) (.cons (resolves_lit _)
      (.cons (resolves_lit _) (.cons (resolves_lit _) (.cons (resolves_lit _) .nil))))
  unfold plan
  simp only [List.forall_mem_cons]
  exact ⟨urlShortenerVars_resolve hv _, urlShortenerVars_resolve hv _, loadBalancerVars_resolve hv,
    dashboardBackendVars_resolve hv, hwatchdog, dashboardVars_resolve hv,
    userFrontendVars_resolve hv, fun _ hmem => absurd hmem List.not_mem_nil⟩

end Plan

/-- The two secrets that services share have one value everywhere, and an address for logs is only
given if `ingest`. -/
def Shared (v : Wiring) (ingest : Prop) (key : String) (value : Template) : Prop :=
  (key = "LOAD_TEST_BYPASS_TOKEN" → value = lit v.loadTestBypass) ∧
    (key = "LOG_INGEST_TOKEN" → value = lit v.logIngestToken) ∧ (key = "LOG_INGEST_URL" → ingest)

section Shared

variable (v : Wiring) {ingest : Prop}

theorem kafkaVars_shared : Every (v.Shared ingest) v.kafkaVars := by
  unfold kafkaVars
  split <;> simp [Every, Shared]

theorem loadTestTarget_shared {variableName : String}
    (hname : variableName ∉ ["LOAD_TEST_BYPASS_TOKEN", "LOG_INGEST_TOKEN", "LOG_INGEST_URL"]) :
    Every (v.Shared ingest) (v.loadTestTarget variableName) := by
  simp only [List.mem_cons, List.not_mem_nil, or_false, not_or] at hname
  unfold loadTestTarget
  split
  · simp [Every, Shared, hname]
  · split <;> simp [Every, Shared, hname]

theorem urlShortenerVars_shared (instanceId : String) :
    Every (v.Shared (v.logIngestUrl ≠ none)) (v.urlShortenerVars instanceId) := by
  refine .append (.append (.append (.append ?_ v.kafkaVars_shared) ?_) ?_) ?_
  · simp [Every, Shared]
  · split
    · rename_i url hurl
      simp [Every, Shared, hurl]
    · exact .nil
  · simp [Every, Shared]
  · simp [Every, Shared]

theorem dashboardBackendVars_shared : Every (v.Shared ingest) v.dashboardBackendVars := by
  refine .append (.append (.append ?_ (v.loadTestTarget_shared (by decide))) v.kafkaVars_shared)
    (.ite .nil ?_)
  · simp [Every, Shared]
  · simp [Every, Shared]

theorem watchdogPoll_shared : Every (v.Shared ingest) v.watchdogPoll :=
  .ite .nil (by simp [Every, Shared])

theorem tokenVars_shared : Every (v.Shared ingest) v.tokenVars :=
  .ite (by simp [Every, Shared]) (.ite (by simp [Every, Shared]) .nil)

theorem dashboardVars_shared : Every (v.Shared ingest) v.dashboardVars := by
  refine .append (.append (.append (.append (.append (.append ?_ (.ite ?_ .nil))
    (v.loadTestTarget_shared (by decide))) ?_) v.watchdogPoll_shared) v.tokenVars_shared)
      (.ite .nil ?_)
  all_goals simp [Every, Shared]

/-- **A secret has one value in the plan**, and only the replicas are told where to send their
logs. -/
theorem plan_shared : ∀ p ∈ v.plan,
    Every (v.Shared (v.logIngestUrl ≠ none ∧ ∃ id, p.2 = v.urlShortenerVars id)) p.2 := by
  have hreplica :
      ∀ id, Every (v.Shared (v.logIngestUrl ≠ none ∧ ∃ id',
        v.urlShortenerVars id = v.urlShortenerVars id'))
      (v.urlShortenerVars id) := fun id kv hkv => by
    obtain ⟨hbypass, htoken, hurl⟩ := v.urlShortenerVars_shared id kv hkv
    exact ⟨hbypass, htoken, fun h => ⟨hurl h, id, rfl⟩⟩
  have hwatchdog : ∀ {ingest}, Every (v.Shared ingest) v.railwayWatchdogVars :=
    .append (.append (by simp [Every, Shared]) v.watchdogPoll_shared) v.tokenVars_shared
  have hloadBalancer : ∀ {ingest}, Every (v.Shared ingest) v.loadBalancerVars := by
    simp [loadBalancerVars, Every, Shared]
  have hfrontend : ∀ {ingest}, Every (v.Shared ingest) v.userFrontendVars := by
    simp [userFrontendVars, Every, Shared]
  unfold plan
  simp only [List.forall_mem_cons]
  exact ⟨hreplica _, hreplica _, hloadBalancer, v.dashboardBackendVars_shared, hwatchdog,
    v.dashboardVars_shared, hfrontend, fun _ hmem => absurd hmem List.not_mem_nil⟩

/-- The ports that are referred to are set. -/
theorem plan_ports :
    ∀ S ∈ portNames, ∃ values, (S, values) ∈ v.plan ∧ ("PORT", lit "8080") ∈ values := by
  simp only [portNames, List.forall_mem_cons]
  refine ⟨⟨v.urlShortenerVars "1", ?_⟩, ⟨v.urlShortenerVars "2", ?_⟩, ⟨v.dashboardBackendVars, ?_⟩,
    ⟨v.railwayWatchdogVars, ?_⟩, fun _ hmem => absurd hmem List.not_mem_nil⟩
  all_goals simp [plan, urlShortenerVars, urlShortenerBase, dashboardBackendVars,
    railwayWatchdogVars]

end Shared

end Wiring

/-! ## What is sent -/

/-- The upserts that were sent to a project. -/
def Railway.upserts (w : Railway) : List (String × Variables) := w.mutations.filterMap Call.upsert?

section Upserts

variable {c : Choice} {q : Call} {w w' : Railway}

theorem respond_upserts {r : Except String (Reply q)}
    (h : railway.respond () c w q = some (r, w')) :
    w'.upserts = w.upserts ++ q.upsert?.toList := by
  cases hq : q.isQuery with
  | true =>
    obtain rfl := respond_query hq h
    cases q with
    | project | serviceInstance => exact (List.append_nil _).symm
    | _ => cases hq
  | false =>
    have hmutate : ∀ {r : Except String Unit}, w.mutate c q = some (r, w') →
        w'.upserts = w.upserts ++ q.upsert?.toList := fun hr => by
      unfold Railway.upserts
      rw [(mutate_cases hr).1, List.filterMap_append, List.filterMap_cons, List.filterMap_nil]
      cases q.upsert? <;> rfl
    cases q with
    | project | serviceInstance => cases hq
    | _ => exact hmutate h

end Upserts

/-- What fits together in a plan for services that are `known`. -/
structure Wired (known : String → Prop) (plan : List (String × Variables)) : Prop where
  targets : ∀ p ∈ plan, known p.1
  /-- Every reference is to a service that is there. -/
  resolved : ∀ p ∈ plan, ∀ kv ∈ p.2, ∀ S X, Piece.ref S X ∈ kv.2 → known S
  /-- The port of a service is set where another one refers to it. -/
  ports : ∀ p ∈ plan, ∀ kv ∈ p.2, kv.1 ≠ brokerVariable → ∀ S, Piece.ref S "PORT" ∈ kv.2 →
    ∃ values, (S, values) ∈ plan ∧ ("PORT", lit "8080") ∈ values
  /-- A secret has one value. -/
  secrets : ∀ key ∈ ["LOAD_TEST_BYPASS_TOKEN", "LOG_INGEST_TOKEN"], ∃ value, ∀ p ∈ plan, ∀ kv ∈ p.2,
    kv.1 = key →
    kv.2 = value
  /-- Who is told where to send its logs has a token, which the receiver has too. -/
  ingest : ∀ p ∈ plan, ∀ url, ("LOG_INGEST_URL", url) ∈ p.2 → ∃ token values, token ≠ "" ∧
    ("LOG_INGEST_TOKEN", lit token) ∈ p.2 ∧ ("dashboard-backend", values) ∈ plan ∧
    ("LOG_INGEST_TOKEN", lit token) ∈ values
  /-- The two replicas differ in their number only. -/
  replicas : ∀ values values', ("url-shortener-a", values) ∈ plan →
    ("url-shortener-b", values') ∈ plan →
    ∃ base, values = base ++ [("INSTANCE_ID", lit "1")] ∧ values' = base ++
      [("INSTANCE_ID", lit "2")]

theorem wired_nil (known : String → Prop) : Wired known [] where
  targets _ h := absurd h List.not_mem_nil
  resolved _ h := absurd h List.not_mem_nil
  ports _ h := absurd h List.not_mem_nil
  secrets _ _ := ⟨[], fun _ h => absurd h List.not_mem_nil⟩
  ingest _ h := absurd h List.not_mem_nil
  replicas _ _ h := absurd h List.not_mem_nil

namespace Wiring

variable {v : Wiring}

theorem plan_names (v : Wiring) :
    v.plan.map (·.1) = ["url-shortener-a", "url-shortener-b", "load-balancer",
    "dashboard-backend", "railway-watchdog", "dashboard", "user-frontend"] := rfl

/-- Who is told where to send its logs has a token. -/
theorem plan_ingest {p : String × Variables} {url : Template} (hp : p ∈ v.plan)
    (h : ("LOG_INGEST_URL", url) ∈ p.2) :
    v.logIngestToken ≠ "" ∧ ("LOG_INGEST_TOKEN", lit v.logIngestToken) ∈ p.2 := by
  obtain ⟨hurl, id, heq⟩ := (v.plan_shared p hp _ h).2.2 rfl
  obtain ⟨found, hfound⟩ := Option.ne_none_iff_exists'.1 hurl
  constructor
  · unfold logIngestUrl at hfound
    split at hfound
    · rename_i hcondition
      exact hcondition.2.2
    · cases hfound
  · rw [heq]
    simp [urlShortenerVars, urlShortenerBase, hfound]

/-- **The plan is wired.** -/
theorem plan_wired (hv : v.Complete) : Wired (fun S => v.byName.has S = true) v.plan where
  targets p hp := by
    have hmem : p.1 ∈ v.plan.map (·.1) := List.mem_map_of_mem hp
    rw [plan_names] at hmem
    refine hv.specs p.1 ?_
    have hsub : ["url-shortener-a", "url-shortener-b", "load-balancer", "dashboard-backend",
      "railway-watchdog", "dashboard", "user-frontend"] ⊆ specNames := by decide
    exact hsub hmem
  resolved p hp kv hkv S X href := (plan_resolves hv p hp kv hkv S X href).1
  ports p hp kv hkv hkey S href :=
    v.plan_ports S ((plan_resolves hv p hp kv hkv S "PORT" href).2 rfl hkey)
  secrets := by
    simp only [List.forall_mem_cons]
    exact ⟨⟨lit v.loadTestBypass, fun p hp kv hkv h => (v.plan_shared p hp kv hkv).1 h⟩,
      ⟨lit v.logIngestToken, fun p hp kv hkv h => (v.plan_shared p hp kv hkv).2.1 h⟩,
      fun _ h => absurd h List.not_mem_nil⟩
  ingest p hp url h := by
    obtain ⟨htoken, hmem⟩ := plan_ingest hp h
    refine ⟨v.logIngestToken, v.dashboardBackendVars, htoken, hmem, by simp [plan], ?_⟩
    simp [dashboardBackendVars, htoken]
  replicas values values' h h' := by
    have hvalues : values = v.urlShortenerVars "1" := by simpa [plan] using h
    have hvalues' : values' = v.urlShortenerVars "2" := by simpa [plan] using h'
    exact ⟨v.urlShortenerBase, hvalues, hvalues'⟩

end Wiring

theorem Wired.mono {known known' : String → Prop} {plan : List (String × Variables)}
    (h : Wired known plan) (hknown : ∀ S, known S → known' S) : Wired known' plan where
  targets p hp := hknown _ (h.targets p hp)
  resolved p hp kv hkv S X href := hknown S (h.resolved p hp kv hkv S X href)
  ports := h.ports
  secrets := h.secrets
  ingest := h.ingest
  replicas := h.replicas

/-! ## Runs -/

/-- The upserts of a plan, to the services that the names stand for. -/
def Railway.addressed (w : Railway) (plan : List (String × Variables)) :
    List (String × Variables) :=
  plan.filterMap fun p => (w.shown p.1).map fun s => (s.id, p.2)

section Send

variable {v : Wiring} {w w₀ : Railway} {done : List (String × Variables)}

/-- The services are as they were, and these have been sent their variables. -/
structure Sent (w₀ : Railway) (done : List (String × Variables)) (w : Railway) : Prop where
  services : w.services = w₀.services
  upserts : w.upserts = w₀.upserts ++ w₀.addressed done

theorem shown_of_has {S : String} (h : (ServiceMap.ofNodes w.nodes).has S = true) :
    (w.shown S).isSome = true := by
  obtain ⟨svc, hsvc, hname⟩ := List.any_eq_true.1 h
  obtain ⟨s, hs, heq⟩ := List.mem_map.1 (ServiceMap.mem_ofNodes hsvc)
  have hsname : s.name = S := by
    rw [← of_decide_eq_true hname, ← Option.some.inj heq]
    rfl
  unfold Railway.shown
  exact List.getLast?_isSome.2 (List.ne_nil_of_mem (List.mem_filter.2 ⟨hs, decide_eq_true hsname⟩))

theorem upsert_sent (hbyName : v.byName = .ofNodes w₀.nodes) (hdry : v.settings.dry = false)
    {name : String} (hname : name ∈ specNames) (hhas : v.byName.has name = true)
    (values : Variables) :
    railway.Ensures () (Sent w₀ done) (v.upsert name values)
      (fun _ => Sent w₀ (done ++ [(name, values)])) fun _ => True := by
  obtain ⟨spec, hspec, rfl⟩ := List.mem_map.1 hname
  rw [hbyName] at hhas
  obtain ⟨s, hshown⟩ := Option.isSome_iff_exists.1 (shown_of_has hhas)
  have hget : v.byName.get spec.name = some s.entry := by
    rw [hbyName, Railway.get_ofNodes w₀ (specs_normal spec hspec).1, hshown]
    rfl
  unfold Wiring.upsert
  rw [hget]
  refine .ite (fun h => absurd h (Bool.eq_false_iff.1 hdry)) fun _ => ?_
  refine .perform (fun c w _ w' hw hr => ⟨?_, ?_⟩) fun _ _ _ _ _ _ => trivial
  · exact (respond_unconfigured rfl hr).1.trans hw.services
  · rw [respond_upserts hr, hw.upserts, List.append_assoc]
    unfold Railway.addressed
    rw [List.filterMap_append, List.filterMap_cons, hshown]
    rfl

theorem upsertAll_sent (hbyName : v.byName = .ofNodes w₀.nodes) (hdry : v.settings.dry = false)
    (hv : v.Complete) :
    railway.Ensures () (Sent w₀ []) v.upsertAll (fun _ => Sent w₀ v.plan) fun _ => True := by
  have hupsert : ∀ {done} name, name ∈ specNames → ∀ values, railway.Ensures () (Sent w₀ done)
      (v.upsert name values)
      (fun _ => Sent w₀ (done ++ [(name, values)])) fun _ => True := fun name hname values =>
    upsert_sent hbyName hdry hname (hv.specs name hname) values
  have hupsertIf : ∀ {done} {present : Bool}, present = true → ∀ name, name ∈ specNames → ∀ values,
      railway.Ensures () (Sent w₀ done) (v.upsertIf present name values)
        (fun _ => Sent w₀ (done ++ [(name, values)])) fun _ => True :=
          fun hpresent name hname values =>
    .ite (fun _ => hupsert name hname values) fun h => absurd hpresent h
  have ha := hv.specs "url-shortener-a" (by decide)
  have hb := hv.specs "url-shortener-b" (by decide)
  have hlb := hv.specs "load-balancer" (by decide)
  refine .bind (hupsert _ (by decide) _) fun _ => .bind (hupsert _ (by decide) _) fun _ => ?_
  refine .bind (hupsertIf ?_ _ (by decide) _) fun _ => .bind (hupsert _ (by decide) _) fun _ => ?_
  · rw [ha, hb, hlb]
    rfl
  · refine .bind (hupsertIf (hv.specs _ (by decide)) _ (by decide) _) fun _ => ?_
    exact .bind (hupsertIf (hv.specs _ (by decide)) _ (by decide) _) fun _ =>
      hupsertIf (hv.specs _ (by decide)) _ (by decide) _

end Send

/-- What a sync has sent to the project. -/
structure Delivered (s : SetupState) (w₀ w : Railway) (plan : List (String × Variables)) :
    Prop where
  sent : Sent w₀ plan w
  wired : Wired (fun S => (w₀.shown S).isSome = true) plan
  whole : (findPostgresServiceName s (.ofNodes w₀.nodes)).isSome = true →
    plan.map (·.1) = ["url-shortener-a", "url-shortener-b", "load-balancer", "dashboard-backend",
      "railway-watchdog", "dashboard", "user-frontend"]

section Runs

variable {st : Settings} {config : ConfigFile} {random : Fin 32 → UInt8} {s s' : SetupState}
  {w₀ w w' : Railway}

/-- The sync of a project that has every service of the script. -/
theorem sync_delivered (hdry : st.dry = false)
    (hspecs : ∀ spec ∈ SERVICE_SPECS, Configured st spec w₀) :
    railway.Triple () (· = w₀) (syncInternalDatabaseVariables st (.ofNodes w₀.nodes) random s)
      fun e w => e.result = .ok () → ∃ plan, Delivered s w₀ w plan := by
  have hnone : Sent w₀ [] w₀ := ⟨rfl, (List.append_nil _).symm⟩
  unfold syncInternalDatabaseVariables
  split
  · rename_i hpg
    refine .ret fun w hw _ => ⟨[], hw ▸ hnone, wired_nil _, fun h => ?_⟩
    rw [hpg] at h
    cases h
  · rename_i pg hpg
    have hcomplete : ∀ state, (Wiring.mk st state (.ofNodes w₀.nodes) pg
        (findRedisServiceName s (.ofNodes w₀.nodes))
          (findKafkaServiceName s (.ofNodes w₀.nodes))).Complete := by
      refine fun state => ⟨fun name hname => ?_, has_findServiceName hpg,
        fun _ h => has_findServiceName h, fun _ h => has_findServiceName h⟩
      obtain ⟨spec, hspec, rfl⟩ := List.mem_map.1 hname
      obtain ⟨svc, si, hshown, -⟩ := hspecs spec hspec
      have hget : (ServiceMap.ofNodes w₀.nodes).get spec.name = some svc.entry := by
        rw [Railway.get_ofNodes w₀ (specs_normal spec hspec).1, hshown]
        rfl
      obtain ⟨hmem, hname⟩ := ServiceMap.get_mem hget
      exact has_of_mem_names (List.mem_map.2 ⟨svc.entry, hmem, hname⟩)
    refine Server.Ensures.andThen ((upsertAll_sent rfl hdry (hcomplete _)).mono
      (fun w hw => hw ▸ hnone)
      (fun _ _ h => h) fun _ h => h) (fun _ _ _ hok => nomatch hok) fun _ => .ret fun w h _ => ?_
    exact ⟨_, h, (Wiring.plan_wired (hcomplete _)).mono fun S => shown_of_has,
      fun _ => Wiring.plan_names _⟩

theorem ensures_upserts {α : Type} {ψ : α → Prop} {p : Script α} {u : List (String × Variables)}
    (hp : Throwing.Obeys (fun q => q.upsert? = none) ψ p) :
    railway.Ensures () (fun w => w.upserts = u) p (fun _ w => w.upserts = u) fun _ => True := by
  refine (Server.Ensures.of_obeys (fun q c w r w' hq hw hr => ?_) hp).mono (fun _ h => h)
    (fun _ _ h => h.2) fun _ _ => trivial
  rw [respond_upserts hr, hq, hw]
  exact List.append_nil _

theorem deploy_unsent (st : Settings) (w₀ : Railway) :
    railway.Ensures () (· = w₀) st.deploy (fun _ w => Settled st w₀ w ∧ w.upserts = w₀.upserts)
      fun _ => True := by
  have hfetch :
      Throwing.Obeys (fun q => q.upsert? = none) (fun _ => True) (fetchServicesMap st.projectId) :=
    .bind (.perform rfl) fun _ _ => .pure trivial
  have hobeys : Throwing.Obeys (fun q => q.upsert? = none) (fun _ => True) st.deploy :=
    hfetch.bind fun byName _ => (provisionAll_obeys byName fun _ hq => hq).bind fun _ _ =>
      redeploy_obeys (fun _ => rfl) fun _ _ _ => rfl
  exact ((deploy_settled st w₀).and (ensures_upserts hobeys)).mono (fun _ h => ⟨h, congrArg _ h⟩)
    (fun _ _ h => h) fun _ _ => trivial

theorem apply_delivered (hdry : st.dry = false) (hsync : st.syncVariables = true) (w₀ : Railway) :
    railway.Triple () (· = w₀) (st.apply random s) fun e w =>
      e.result = .ok () → w.services.length ≤ 100 →
        ∃ w₁ plan, w₁.upserts = w₀.upserts ∧ Delivered s w₁ w plan := by
  refine Server.Ensures.andThen (deploy_unsent st w₀) (fun _ _ _ hok => nomatch hok) fun _ =>
    .ite (fun _ => ?_) fun hnot => absurd hsync hnot
  refine Server.Ensures.andThen ((fetchServicesMap_ensures st.projectId).mono (fun _ h => h)
    (fun _ _ h => h) fun _ _ => trivial) (fun _ _ _ hok => nomatch hok) fun byName => ?_
  intro w₂ e w' h₂ hrun hok hfew
  obtain ⟨⟨hsettled, hupserts⟩, rfl⟩ := h₂
  -- the sync leaves the services alone, so there were not more of them before it
  have hservices : w'.services = w₂.services :=
    (Server.Triple.of_obeys (S := railway) (i := ()) (P := fun w => w.services = w₂.services)
      (fun _ _ _ _ _ hq hw hr => (respond_unconfigured hq hr).1.trans hw) (sync_unconfigured _)
      w₂ e w' rfl hrun).2
  rw [hservices] at hfew
  obtain ⟨plan, hplan⟩ :=
    sync_delivered hdry (hsettled.configured hdry hfew) w₂ e w' rfl hrun hok
  exact ⟨w₂, plan, hupserts, hplan⟩

theorem run_delivered (hst : startup config (loadOptionalEnvFile s) = .ok st)
    (hdry : st.dry = false) (hsync : st.syncVariables = true)
    (hrun : railway.Runs () (main config random s) w ⟨.ok (), s'⟩ w')
    (hfew : w'.services.length ≤ 100) :
    ∃ w₁ plan, w₁.upserts = w.upserts ∧ Delivered (loadOptionalEnvFile s) w₁ w' plan := by
  rw [main_eq hst] at hrun
  exact apply_delivered hdry hsync w w _ w' rfl hrun rfl hfew

end Runs

/-- A project with a database. -/
def databaseRailway : Railway where
  services := ⟨"database", "Postgres", [], fun _ => none⟩ ::
    specNames.map (sampleService · "a/b")
  mutations := []
  ids := by decide
  triggerIds := by decide

/-- The variables are to be synced, with a token for the logs. -/
def syncState : SetupState :=
  { sampleState with
    env := (sampleState.env.set "SYNC_VARIABLES" "1".toList).set "LOG_INGEST_TOKEN"
      "secret".toList }

def syncSettings : Settings := { sampleSettings with syncVariables := true }

theorem sync_startup : startup sampleConfig (loadOptionalEnvFile syncState) = .ok syncSettings := by
  decide

end PeHackathon.Setup
