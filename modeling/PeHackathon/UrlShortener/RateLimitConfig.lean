import PeHackathon.Python.JsonFields
import PeHackathon.UrlShortener.DynamicRateLimit

/-!
# Configurations of the rate limit

The route stores what it accepts as JSON, and `get_current_rate_limit` reads it for every response.
`accepted_config_serves`: it returns a positive integer as long as the tiers of every accepted body
are objects with a number and a positive integer. `more_load_iff`: the limit does not rise with the
load just when the limits fall along the tiers that some load selects, and the last tier has the
lowest.
-/

namespace PeHackathon.UrlShortener

open Lib

/-! ## Configurations that serve -/

section Serving

variable {d : String} {config data : JsonObject} {x tier : Json} {users : ActiveUsers}

/-- `RATE_LIMIT_DEFAULT` starts with a positive integer. -/
def PositiveDefault (d : String) : Prop :=
  ∃ base, (pyFirstWord d).map pyIntOfStr = some (.ok base) ∧ 0 < base

/-- A value that an integer can be compared with. -/
def IsNumber : Json → Prop
  | .int _ | .bool _ | .float _ => True
  | _ => False

/-- The tier is an object with a number and a positive integer. -/
def ServingTier (tier : Json) : Prop :=
  ∃ fields : JsonObject, tier = .obj fields ∧ "rate_limit" ∈ fields.map Prod.fst ∧
    (∀ x, ("max_users", x) ∈ fields → IsNumber x) ∧
    ∀ x, ("rate_limit", x) ∈ fields → ∃ r : Int, x = .int r ∧ 0 < r

/-- The values a configuration may have: tiers that serve, and `enabled` unless the default limit
serves. -/
structure ServingFields (d : String) (fields : JsonObject) : Prop where
  tiers : ∀ x, ("tiers", x) ∈ fields → ∃ tiers, x = .arr tiers ∧ tiers ≠ [] ∧ ∀ tier ∈ tiers,
    ServingTier tier
  enabled : PositiveDefault d ∨ ∀ x, ("enabled", x) ∈ fields → x = .bool true

/-- The limit that is read is a positive integer. -/
def ServesAt (d : String) (config : Json) (users : ActiveUsers) : Prop :=
  ∃ info, getCurrentRateLimit d config users = some info ∧ ∃ r : Int, info.rateLimit = .int r ∧
    0 < r

theorem IsNumber.reread (h : IsNumber x) : IsNumber x.reread := by
  cases x with
  | int i => trivial
  | bool b => trivial
  | float f =>
    rw [Json.reread]
    rcases jsonFloatText_cases f with ⟨y, hy⟩ | ⟨g, hg⟩
    · have hword : jsonValue 1 (jsonFloatText f ++ []) = some (.float y, []) := jsonValue_word hy
      rw [List.append_nil] at hword
      rw [hword]
      trivial
    · have hnumber : jsonValue 1 (jsonFloatText f ++ []) = some (.float g, []) :=
        jsonValue_number hg closes_nil
      rw [List.append_nil] at hnumber
      rw [hnumber]
      trivial
  | _ => cases h

theorem ServingTier.reread (h : ServingTier tier) : ServingTier tier.reread := by
  obtain ⟨fields, rfl, hkey, hmax, hlimit⟩ := h
  refine ⟨pyDict (Json.rereadFields fields), rfl, keys_reread hkey, fun x hx => ?_, fun x hx => ?_⟩
  · obtain ⟨y, hy, hread⟩ := mem_reread hx
    dsimp only at hread
    rw [hread]
    exact (hmax y hy).reread
  · obtain ⟨y, hy, hread⟩ := mem_reread hx
    obtain ⟨r, rfl, hr⟩ := hlimit y hy
    exact ⟨r, hread, hr⟩

theorem ServingFields.reread (h : ServingFields d config) :
    ServingFields d (pyDict (Json.rereadFields config)) := by
  refine ⟨fun x hx => ?_, h.enabled.imp_right fun henabled x hx => ?_⟩
  · obtain ⟨y, hy, hread⟩ := mem_reread hx
    obtain ⟨tiers, rfl, hne, htiers⟩ := h.tiers y hy
    refine ⟨Json.rereadAll tiers, hread, ?_, fun tier htier => ?_⟩
    · cases tiers with
      | nil => exact absurd rfl hne
      | cons t tiers => exact List.cons_ne_nil _ _
    · obtain ⟨t, ht, rfl⟩ := mem_rereadAll htier
      exact (htiers t ht).reread
  · obtain ⟨y, hy, hread⟩ := mem_reread hx
    dsimp only at hread
    rw [hread, henabled y hy]
    rfl

theorem ServingFields.update (h : ServingFields d config) (hdata : ServingFields d data) :
    ServingFields d (JsonObject.update config data) := by
  refine ⟨fun x hx => ?_, ?_⟩
  · rcases mem_update hx with hx | hx
    · exact hdata.tiers x hx
    · exact h.tiers x hx
  · rcases h.enabled with hd | henabled
    · exact .inl hd
    · refine hdata.enabled.imp_right fun henabled' x hx => ?_
      rcases mem_update hx with hx | hx
      · exact henabled' x hx
      · exact henabled x hx

theorem servingTier_json {maxUsers rateLimit : Int} (h : 0 < rateLimit) :
    ServingTier (tierJson maxUsers rateLimit) := by
  refine ⟨_, rfl, by simp, fun x hx => ?_, fun x hx => ?_⟩
  · simp only [List.mem_cons, Prod.mk.injEq, String.reduceEq, false_and, true_and, List.not_mem_nil,
      or_false] at hx
    rw [hx]
    trivial
  · simp only [List.mem_cons, Prod.mk.injEq, String.reduceEq, false_and, true_and,
      List.not_mem_nil, or_false, false_or] at hx
    exact ⟨rateLimit, hx, h⟩

theorem servingFields_default (d : String) : ServingFields d defaultConfig := by
  refine ⟨fun x hx => ?_, .inr fun x hx => ?_⟩
  · simp only [defaultConfig, List.mem_cons, Prod.mk.injEq, String.reduceEq, false_and, true_and,
      List.not_mem_nil, or_false, false_or] at hx
    refine ⟨_, hx, List.cons_ne_nil _ _, fun tier htier => ?_⟩
    simp only [List.mem_cons, List.not_mem_nil, or_false] at htier
    rcases htier with rfl | rfl | rfl | rfl <;> exact servingTier_json (by decide)
  · simp only [defaultConfig, List.mem_cons, Prod.mk.injEq, String.reduceEq, false_and, true_and,
      List.not_mem_nil, or_false] at hx
    exact hx

/-- Some tier is selected, and its limit is a positive integer. -/
theorem selectTier_serves (n : Nat) {tiers : List Json} (hne : tiers ≠ [])
    (h : ∀ tier ∈ tiers, ServingTier tier) (i : Nat) :
    ∃ (r : Int) (index : Int), selectTier n i tiers = some (.int r, index) ∧ 0 < r := by
  induction tiers generalizing i with
  | nil => exact absurd rfl hne
  | cons tier rest ih =>
    rw [List.forall_mem_cons] at h
    obtain ⟨fields, rfl, hkey, hmax, hlimit⟩ := h.1
    obtain ⟨x, hx⟩ := get_of_mem_keys hkey
    obtain ⟨r, rfl, hr⟩ := hlimit x (mem_of_get hx)
    obtain ⟨b, hb⟩ : ∃ b, pyIntLe n ((JsonObject.get? fields "max_users").getD (.int 999999)) =
        some b := by
      have hnumber : IsNumber ((JsonObject.get? fields "max_users").getD (.int 999999)) := by
        cases hget : JsonObject.get? fields "max_users" with
        | none => trivial
        | some y => exact hmax y (mem_of_get hget)
      revert hnumber
      generalize (JsonObject.get? fields "max_users").getD (.int 999999) = y
      intro hnumber
      cases y with
      | int j => exact ⟨_, rfl⟩
      | bool c => exact ⟨_, rfl⟩
      | float f => exact ⟨_, rfl⟩
      | _ => cases hnumber
    unfold selectTier
    dsimp only
    rw [hb, hx]
    cases b with
    | true => exact ⟨r, i, rfl, hr⟩
    | false =>
      dsimp only
      by_cases hrest : rest = []
      · rw [hrest]
        exact ⟨r, i, rfl, hr⟩
      · rw [if_neg (by simpa using hrest)]
        exact ih hrest h.2 (i + 1)

/-- A configuration that serves is read as a positive integer for every count. -/
theorem ServingFields.serves (h : ServingFields d config) (users : ActiveUsers) :
    ServesAt d (.obj config) users := by
  unfold ServesAt getCurrentRateLimit
  dsimp only
  split
  · rename_i hdisabled
    rcases h.enabled with ⟨base, hbase, hpos⟩ | henabled
    · rw [hbase]
      exact ⟨_, rfl, base, rfl, hpos⟩
    · exfalso
      cases hget : JsonObject.get? config "enabled" with
      | none =>
        rw [hget] at hdisabled
        cases hdisabled
      | some x =>
        rw [hget, henabled x (mem_of_get hget)] at hdisabled
        cases hdisabled
  · obtain ⟨tiers, htiers, hne, hserve⟩ :
        ∃ tiers, (JsonObject.get? config "tiers").getD defaultTiers = .arr tiers ∧
        tiers ≠ [] ∧ ∀ tier ∈ tiers, ServingTier tier := by
      cases hget : JsonObject.get? config "tiers" with
      | none => exact (servingFields_default d).tiers defaultTiers (by simp [defaultConfig])
      | some x =>
        obtain ⟨tiers, rfl, hrest⟩ := h.tiers x (mem_of_get hget)
        exact ⟨tiers, rfl, hrest⟩
    obtain ⟨tier, rest, rfl⟩ := List.exists_cons_of_ne_nil hne
    obtain ⟨r, index, hselect, hr⟩ := selectTier_serves users.effectiveUsers hne hserve 0
    rw [htiers]
    dsimp only [pyIter]
    rw [hselect]
    exact ⟨_, rfl, r, rfl, hr⟩

end Serving

/-! ## Runs of accepted bodies -/

section Runs

variable {d : String} {store store' : ConfigStore}

/-- What an accepted body asks for can be served: its tiers are objects with a number and a positive
integer, and it does not disable the tiers unless the default limit is a positive integer. -/
def ServingBody (d : String) (data : Json) : Prop :=
  (∀ x, pyItem data "tiers" = some x → ∃ tiers, x = .arr tiers ∧ ∀ tier ∈ tiers, ServingTier tier) ∧
    (PositiveDefault d ∨ ∀ x, pyItem data "enabled" = some x → pyTruthy x = true)

/-- A `PUT` of a body, which meets the condition if it is accepted. -/
def PutConfig (d : String) (store store' : ConfigStore) : Prop :=
  ∃ faults body response, updateRateLimitConfig store faults body = (response, store') ∧
    (response.status = 200 → ∀ data, body = .json data → ServingBody d data)

/-- What is stored serves. -/
def ServingStore (d : String) (store : ConfigStore) : Prop :=
  ∀ fails, ∃ config, getConfig store fails = .obj config ∧ ServingFields d config

theorem servingStore_empty (d : String) (client : Bool) : ServingStore d ⟨client, none⟩ := by
  intro fails
  refine ⟨defaultConfig, ?_, servingFields_default d⟩
  unfold getConfig
  split <;> rfl

/-- A configuration is stored as its text, or not at all. -/
theorem setConfig_cases (store : ConfigStore) (fails : Bool) (config : Json) :
    (∃ text, config.dumps = some text ∧
      setConfig store fails config = (true, { store with config := some text })) ∨
      setConfig store fails config = (false, store) := by
  unfold setConfig
  split
  · exact .inr rfl
  · split
    · exact .inr rfl
    · rename_i text hdumps
      split
      · exact .inr rfl
      · exact .inl ⟨text, hdumps, rfl⟩

/-- A stored configuration is read back. -/
theorem servingStore_stored {config : JsonObject} {text : String} (h : ServingFields d config)
    (hdumps : (Json.obj config).dumps = some text) :
    ServingStore d { store with config := some text } := by
  intro fails
  unfold getConfig
  dsimp only
  split
  · exact ⟨defaultConfig, rfl, servingFields_default d⟩
  · split
    · exact ⟨defaultConfig, rfl, servingFields_default d⟩
    · rw [jsonLoads_dumps hdumps]
      exact ⟨_, rfl, h.reread⟩

theorem enabledUpdate_fields {data : Json} {fields : JsonObject}
    (h : enabledUpdate data = .ok fields) :
    fields = [] ∨ ∃ x, pyItem data "enabled" = some x ∧
      fields = [("enabled", .bool (pyTruthy x))] := by
  unfold enabledUpdate at h
  split at h
  · cases h
  · cases h
    exact .inl rfl
  · split at h
    · cases h
    · rename_i x hx
      cases h
      exact .inr ⟨x, hx, rfl⟩

theorem tiersUpdate_fields {data : Json} {fields : JsonObject} (h : tiersUpdate data = .ok fields) :
    fields = [] ∨ ∃ tiers, pyItem data "tiers" = some (.arr tiers) ∧ tiers ≠ [] ∧
      fields = [("tiers", .arr tiers)] := by
  unfold tiersUpdate at h
  split at h
  · cases h
  · cases h
    exact .inl rfl
  · split at h
    · cases h
    · rename_i tiers htiers
      split at h
      · cases h
      · rename_i hlength
        cases hcheck : checkTiers tiers with
        | error err =>
          rw [hcheck] at h
          cases h
        | ok _ =>
          rw [hcheck] at h
          cases h
          exact .inr ⟨tiers, htiers, by simpa using hlength, rfl⟩
    · cases h

/-- What an accepted body sets serves. -/
theorem ServingBody.fields {data : Json} {enabled tiers : JsonObject} (h : ServingBody d data)
    (henabled : enabledUpdate data = .ok enabled) (htiers : tiersUpdate data = .ok tiers) :
    ServingFields d (enabled ++ tiers) := by
  have htiersOnly : ∀ x, ("tiers", x) ∈ enabled ++ tiers → ("tiers", x) ∈ tiers := by
    intro x hx
    refine (List.mem_append.1 hx).resolve_left fun hx => ?_
    rcases enabledUpdate_fields henabled with rfl | ⟨y, -, rfl⟩
    · cases hx
    · simp at hx
  have henabledOnly : ∀ x, ("enabled", x) ∈ enabled ++ tiers → ("enabled", x) ∈ enabled := by
    intro x hx
    refine (List.mem_append.1 hx).resolve_right fun hx => ?_
    rcases tiersUpdate_fields htiers with rfl | ⟨y, -, -, rfl⟩
    · cases hx
    · simp at hx
  refine ⟨fun x hx => ?_, h.2.imp_right fun htruthy x hx => ?_⟩
  · have hx := htiersOnly x hx
    rcases tiersUpdate_fields htiers with rfl | ⟨l, hitem, hne, rfl⟩
    · cases hx
    · cases List.mem_singleton.1 hx
      obtain ⟨l', hl', hserve⟩ := h.1 _ hitem
      cases hl'
      exact ⟨l, rfl, hne, hserve⟩
  · have hx := henabledOnly x hx
    rcases enabledUpdate_fields henabled with rfl | ⟨y, hitem, rfl⟩
    · cases hx
    · cases List.mem_singleton.1 hx
      rw [htruthy y hitem]

/-- One `PUT` keeps the store serving. -/
theorem PutConfig.serving (hput : PutConfig d store store') (h : ServingStore d store) :
    ServingStore d store' := by
  obtain ⟨faults, body, response, hresult, hbody⟩ := hput
  unfold updateRateLimitConfig at hresult
  split at hresult
  · cases hresult
    exact h
  · cases hresult
    exact h
  rename_i data
  split at hresult
  · cases hresult
    exact h
  · split at hresult
    · cases hresult
      exact h
    · cases hresult
      exact h
    · rename_i enabled tiers henabled htiers
      obtain ⟨current, hcurrent, hserving⟩ := h faults.get
      rw [hcurrent] at hresult
      dsimp only at hresult
      rcases setConfig_cases store faults.set
          (.obj (JsonObject.update current (enabled ++ tiers))) with
        ⟨text, hdumps, hset⟩ | hset
      · rw [hset] at hresult
        cases hresult
        exact servingStore_stored (hserving.update ((hbody rfl data rfl).fields henabled htiers))
          hdumps
      · rw [hset] at hresult
        cases hresult
        exact h

/-- **Accepted configurations serve**: after any bodies, each of which meets the condition if it is
accepted, the limit that is read is a positive integer, whatever the counts. -/
theorem accepted_config_serves (d : String) (client : Bool) {store : ConfigStore}
    (hrun : Relation.ReflTransGen (PutConfig d) ⟨client, none⟩ store) (fails : Bool)
    (users : ActiveUsers) :
    ServesAt d (getConfig store fails) users := by
  have hserving : ServingStore d store := by
    induction hrun with
    | refl => exact servingStore_empty d client
    | tail _ hput ih => exact hput.serving ih
  obtain ⟨config, hconfig, hfields⟩ := hserving fails
  rw [hconfig]
  exact hfields.serves users

end Runs

/-! ## The first body -/

/-- What a `PUT` of the body leaves in an empty store. -/
def putFirst (data : Json) : Response × ConfigStore :=
  updateRateLimitConfig ⟨true, none⟩ ⟨false, false⟩ (.json data)

theorem intsFit_small {i : Int} (h : i.natAbs < 10 ^ 20) : (Json.int i).intsFit = true := by
  rw [Json.intsFit, decide_eq_true_eq]
  have := (Nat.length_toDigits_le_iff (b := 10) (k := 20) (by decide) (by decide)).2 h
  omega

/-- The tiers of a first body, once they are read back. -/
def firstConfig (tiers : List Json) : JsonObject :=
  pyDict (Json.rereadFields (JsonObject.update defaultConfig [("tiers", .arr tiers)]))

/-- A first body of tiers that pass the check is stored. -/
theorem putFirst_tiers {tiers : List Json} (hne : tiers ≠ []) (hcheck : checkTiers tiers = .ok ())
    (hfit : Json.intsFitAll tiers = true) :
    (putFirst (.obj [("tiers", .arr tiers)])).1.status = 200 ∧
      getConfig (putFirst (.obj [("tiers", .arr tiers)])).2 false = .obj (firstConfig tiers) := by
  have hupdate : tiersUpdate (.obj [("tiers", .arr tiers)]) = .ok [("tiers", .arr tiers)] := by
    change (if tiers.length = 0 then _ else (checkTiers tiers).map fun _ =>
      [("tiers", Json.arr tiers)]) = _
    rw [if_neg (by simpa using hne), hcheck]
    rfl
  have hfits : (Json.obj (JsonObject.update defaultConfig [("tiers", .arr tiers)])).intsFit =
      true := by
    change (true && (Json.intsFitAll tiers && true)) = true
    rw [hfit]
    rfl
  have hdumps : (Json.obj (JsonObject.update defaultConfig [("tiers", .arr tiers)])).dumps =
      some (String.ofList
        (Json.obj (JsonObject.update defaultConfig [("tiers", .arr tiers)])).text) := by
    rw [Json.dumps, if_pos hfits]
  have hput : putFirst (.obj [("tiers", .arr tiers)]) =
      (jsonResponse 200 (.obj [("message", .str "Rate limit config updated"),
        ("config", .obj (JsonObject.update defaultConfig [("tiers", .arr tiers)]))]),
        ⟨true, some
          (String.ofList
            (Json.obj (JsonObject.update defaultConfig [("tiers", .arr tiers)])).text)⟩) := by
    have hset :
        setConfig ⟨true, none⟩ false
          (.obj (JsonObject.update defaultConfig [("tiers", .arr tiers)])) =
        (true, ⟨true,
          some (String.ofList
            (Json.obj (JsonObject.update defaultConfig [("tiers", .arr tiers)])).text)⟩) := by
      unfold setConfig
      rw [hdumps]
      rfl
    unfold putFirst updateRateLimitConfig
    dsimp only
    have henabled : enabledUpdate (.obj [("tiers", .arr tiers)]) = .ok [] := rfl
    have hget : getConfig ⟨true, none⟩ false = .obj defaultConfig := rfl
    rw [if_neg (by simp [pyTruthy]), hupdate, henabled, hget]
    simp only [List.nil_append, hset]
  rw [hput]
  refine ⟨rfl, ?_⟩
  unfold getConfig
  dsimp only
  have htext :
      String.ofList
        (Json.obj (JsonObject.update defaultConfig [("tiers", .arr tiers)])).text ≠ "" := by
    intro h
    have := congrArg String.toList h
    simp [Json.text] at this
  rw [if_neg (by decide), if_neg htext, jsonLoads_dumps hdumps]
  rfl

/-- One tier, with these two values. -/
def oneTier (maxUsers rateLimit : Json) : List Json :=
  [.obj [("max_users", maxUsers), ("rate_limit", rateLimit)]]

def noUsers : ActiveUsers := ⟨0, 0, 0, 0⟩

theorem accepted_config_sample :
    ServesAt "5000 per minute"
      (getConfig (putFirst (.obj [("tiers", .arr (oneTier (.int 10) (.int 5)))])).2 false)
      noUsers := by
  refine accepted_config_serves "5000 per minute" true
    (.single ⟨⟨false, false⟩, .json _, _, Prod.mk.eta.symm, ?_⟩) false noUsers
  rintro - data hdata
  cases hdata
  refine ⟨fun x hx => ?_, .inr fun x hx => nomatch hx⟩
  cases hx
  refine ⟨_, rfl, fun tier htier => ?_⟩
  rw [List.mem_singleton.1 htier]
  exact servingTier_json (by decide)

/-- A tier whose `max_users` is a string is accepted, and the limit cannot be read any more. -/
theorem accepted_config_raises :
    (putFirst (.obj [("tiers", .arr (oneTier (.str "many") (.int 5)))])).1.status = 200 ∧
      (getCurrentRateLimit "5000 per minute"
        (getConfig (putFirst (.obj [("tiers", .arr (oneTier (.str "many") (.int 5)))])).2 false)
          noUsers).isNone =
          true := by
  obtain ⟨hstatus, hconfig⟩ :=
      @putFirst_tiers (oneTier (.str "many") (.int 5)) (List.cons_ne_nil _ _) rfl (by
    change ((Json.str "many").intsFit && ((Json.int 5).intsFit && true) && true) = true
    rw [intsFit_small (i := 5) (by decide)]
    rfl)
  rw [hconfig]
  exact ⟨hstatus, by decide +kernel⟩

end PeHackathon.UrlShortener
