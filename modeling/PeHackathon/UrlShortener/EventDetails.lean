import Mathlib.Logic.Relation
import PeHackathon.Lib.Except
import PeHackathon.Python.JsonFields
import PeHackathon.Python.JsonInterpolated
import PeHackathon.UrlShortener.EventWrites

/-!
# The details of events as JSON

`normalize_details` sees to it that the details of `POST /events` are a JSON object or array; the
URL routes paste theirs together. `event_details_json`: in a run of requests that keep away from
what JSON would have to escape (`ApiRequest.WritesJson`), every event has details that parse, and a
`created` event names its URL. Without the condition the list of keys of an update is not even JSON
(`event_details_not_json`).
-/

namespace PeHackathon.UrlShortener

open Lib Relation

/-! ## What details should be -/

/-- The text parses to a JSON object or array. -/
def parsesToContainer (details : String) : Bool := (jsonLoads details).any isContainer

/-- The text parses to an object with the short code and the address of the URL. -/
def NamesUrl (details : String) (u : Url) : Prop :=
  ∃ fields, jsonLoads details = some (.obj fields) ∧ JsonObject.get? fields "short_code" =
    some (.str u.shortCode) ∧
    JsonObject.get? fields "original_url" = some (.str u.originalUrl)

theorem parsesToContainer_of_loads {details : String} {x : Json} (h : jsonLoads details = some x)
    (hx : isContainer x = true) : parsesToContainer details = true := by
  rw [parsesToContainer, h]
  exact hx

theorem NamesUrl.parses {details : String} {u : Url} (h : NamesUrl details u) :
    parsesToContainer details = true := by
  obtain ⟨fields, hloads, -⟩ := h
  exact parsesToContainer_of_loads hloads rfl

/-! ## The texts -/

section Texts

variable {shortCode originalUrl : String}

/-- The text of `create_short_url` has two fields. -/
theorem createdDetails_toList : (createdDetails shortCode originalUrl).toList =
    '\x7b' :: interpolatedFields [("short_code", shortCode), ("original_url", originalUrl)] ++
      ['\x7d'] :=
  interpolated_pair (by decide) (by decide) (by decide)

theorem deletedDetails_toList : (deletedDetails shortCode).toList =
    '\x7b' :: interpolatedFields [("short_code", shortCode), ("reason", "user_deleted")] ++
      ['\x7d'] :=
  interpolated_first (by decide) (by decide)

theorem plainText_shortCode : PlainText "short_code" := by decide

theorem jsonLoads_createdDetails (hcode : PlainText shortCode) (hurl : PlainText originalUrl) :
    jsonLoads (createdDetails shortCode originalUrl) =
      some (.obj
        (pyDict (stringFields [("short_code", shortCode), ("original_url", originalUrl)]))) := by
  refine jsonLoads_interpolated (List.cons_ne_nil _ _) ?_ createdDetails_toList
  have hkey : PlainText "original_url" := by decide
  simp only [List.mem_cons, List.not_mem_nil, or_false, forall_eq_or_imp, forall_eq]
  exact ⟨⟨plainText_shortCode, hcode⟩, hkey, hurl⟩

theorem createdDetails_namesUrl {u : Url} (hcode : PlainText u.shortCode)
    (hurl : PlainText u.originalUrl) :
    NamesUrl (createdDetails u.shortCode u.originalUrl) u :=
  ⟨_, jsonLoads_createdDetails hcode hurl, rfl, rfl⟩

theorem deletedDetails_parses (hcode : PlainText shortCode) :
    parsesToContainer (deletedDetails shortCode) = true := by
  refine parsesToContainer_of_loads
    (jsonLoads_interpolated (List.cons_ne_nil _ _) ?_ deletedDetails_toList) rfl
  have hreason : PlainText "reason" ∧ PlainText "user_deleted" := by decide
  simp only [List.mem_cons, List.not_mem_nil, or_false, forall_eq_or_imp, forall_eq]
  exact ⟨⟨plainText_shortCode, hcode⟩, hreason⟩

theorem clickDetails_parses (u : Url) (now : DateTime) :
    parsesToContainer (clickEvent u now).details = true := by
  have : parsesToContainer "\x7b\"source\": \"redirect\"\x7d" = true := by decide +kernel
  exact this

theorem updatedDetails_parses {printable : Char → Bool} {keys : List String} (hne : keys ≠ [])
    (hkeys : ∀ key ∈ keys, ReprQuoted printable key) :
    parsesToContainer (updatedDetails printable keys) = true := by
  have hkey : PlainText "fields_updated" := by decide
  refine parsesToContainer_of_loads (jsonLoads_field hkey (by decide) (by decide) fun n hn =>
    jsonValue_repr hne hkeys ?_) rfl
  have hlength : keys.length ≤ (reprItems printable keys).length := length_reprItems keys
  rw [pyReprStrList_toList, List.length_cons, List.length_append, List.length_singleton] at hn
  omega

/-! ### `normalize_details` -/

theorem isContainer_reread {x : Json} (h : isContainer x = true) : isContainer x.reread = true := by
  cases x with
  | obj fields => rfl
  | arr l => rfl
  | null | bool b | int i | float f | str s => cases h

theorem dumpsDetails_loads {x : Json} {details : String} (h : dumpsDetails x = .ok details) :
    jsonLoads details = some x.reread := by
  unfold dumpsDetails at h
  split at h
  · rename_i text hdumps
    cases h
    exact jsonLoads_dumps hdumps
  · cases h

/-- The value that `normalize_details` writes. -/
theorem normalizeDetails_loads {x : Json} {details : String}
    (h : normalizeDetails x = .ok details) :
    ∃ y, jsonLoads details = some y ∧ isContainer y = true := by
  unfold normalizeDetails at h
  split at h
  · cases h
    have hempty : Json.dumps (.obj []) = some "\x7b\x7d" := rfl
    exact ⟨_, jsonLoads_dumps hempty, rfl⟩
  · split at h
    · cases h
    · rename_i parsed _
      split at h
      · rename_i hparsed
        exact ⟨_, dumpsDetails_loads h, isContainer_reread hparsed⟩
      · cases h
  · split at h
    · rename_i hx
      exact ⟨_, dumpsDetails_loads h, isContainer_reread hx⟩
    · cases h

/-- The object that a `details` field gives, itself or as JSON text. -/
def givenObject : Json → Option JsonObject
  | .obj fields => some fields
  | .str s =>
    match jsonLoads s with
    | some (.obj fields) => some fields
    | _ => none
  | _ => none

theorem normalizeDetails_object {x : Json} {details : String} {fields : JsonObject}
    (h : normalizeDetails x = .ok details) (hx : givenObject x = some fields) :
    jsonLoads details = some (.obj (pyDict (Json.rereadFields fields))) := by
  unfold givenObject at hx
  split at hx
  · cases hx
    exact dumpsDetails_loads h
  · rename_i s
    split at hx
    · rename_i hs
      cases hx
      rw [normalizeDetails, hs] at h
      exact dumpsDetails_loads h
    · cases hx
  · cases hx

end Texts

/-! ## One request -/

/-- Nothing that the request pastes into a text has to be escaped in JSON, and nothing of it is cut
off. A create has a plain short code and address, an update has keys that `repr` puts between double
quotes, and a `created` event from outside brings the values of its URL. -/
def ApiRequest.WritesJson (app : App) (db : Db) : ApiRequest → Prop
  | .url (.createShortUrl body _ _) =>
    ∀ shortCode originalUrl, CreatesWith app body shortCode originalUrl →
      (PlainText shortCode ∧ ¬ CutAt 20 shortCode) ∧ PlainText originalUrl ∧
        ¬ CutAt 2048 originalUrl
  | .url (.updateUrl _ body _) =>
    ∀ d, checkUpdate app.hosts body = .ok d → ∀ key ∈ d.keys, ReprQuoted app.printable key
  | .url _ => True
  | .createEvent body _ =>
    ∀ data n u, parseJsonBody body = .ok data → EventRoutes.checkEvent data = .ok n →
      pyStrip n.eventType = "created" → db.urlGetById n.urlId = some u →
      ∃ fields, givenObject ((data.get? "details").getD (.obj [])) = some fields ∧
        JsonObject.get? (pyDict fields) "short_code" = some (.str u.shortCode) ∧
        JsonObject.get? (pyDict fields) "original_url" = some (.str u.originalUrl)

section Requests

variable {scanner : Scanner} {app : App} {db db' : Db} {r : ApiRequest} {e : Event}

theorem checkUpdate_keys {hosts : HostChecks} {body : Body} {d : UrlUpdate}
    (h : checkUpdate hosts body = .ok d) :
    d.keys ≠ [] := by
  unfold checkUpdate at h
  obtain ⟨data, -, h⟩ := bind_ok.1 h
  by_cases hlen : data.length = 0
  · rw [if_pos hlen] at h
    cases h
  · rw [if_neg hlen] at h
    -- every way through the checks ends with the keys of the body
    have hkeys : d.keys = data.keys := by
      dsimp only at h
      repeat' split at h
      all_goals first | (cases h; rfl) | cases h
    intro hnil
    rw [hkeys, JsonObject.keys, List.map_eq_nil_iff] at hnil
    exact hlen (by rw [hnil]; rfl)

/-- **What a request writes is JSON**, if nothing in it has to be escaped. -/
theorem Wrote.details (h : Wrote app db db' r e) (hr : r.WritesJson app db)
    (hcodes : ∀ u ∈ db.urls, PlainText u.shortCode) : parsesToContainer e.details = true ∧
      (e.eventType = "created" → ∃ u, db'.urlGetById e.urlId = some u ∧ NamesUrl e.details u) := by
  cases h with
  | created h hu hcode hurl hdetails =>
    obtain ⟨⟨hplain, hcut⟩, hplain', hcut'⟩ := hr _ _ h
    obtain rfl := varchar_of_not_cut hcode hcut
    obtain rfl := varchar_of_not_cut hurl hcut'
    have hnames : NamesUrl e.details _ := hdetails ▸ createdDetails_namesUrl hplain hplain'
    exact ⟨hnames.parses, fun _ => ⟨_, hu, hnames⟩⟩
  | updated hcheck htype hdetails =>
    rw [hdetails]
    refine ⟨updatedDetails_parses (checkUpdate_keys hcheck) (hr _ hcheck), fun h => ?_⟩
    rw [htype] at h
    exact absurd h (by decide)
  | deleted hu htype hdetails =>
    rw [hdetails]
    refine ⟨deletedDetails_parses (hcodes _ hu), fun h => ?_⟩
    rw [htype] at h
    exact absurd h (by decide)
  | clicked hu htype hdetails =>
    rw [hdetails]
    refine ⟨clickDetails_parses _ _, fun h => ?_⟩
    rw [htype] at h
    exact absurd h (by decide)
  | posted hbody hcheck hu hu' htype hdetails =>
    obtain ⟨y, hloads, hy⟩ := normalizeDetails_loads hdetails
    refine ⟨parsesToContainer_of_loads hloads hy, fun h => ⟨_, hu', ?_⟩⟩
    -- no longer type is cut to this one
    have hcreated : pyStrip _ = "created" := h ▸ varchar_of_short htype (by rw [h]; decide)
    obtain ⟨fields, hgiven, hcode, hurl⟩ := hr _ _ _ hbody hcheck hcreated hu
    refine ⟨_, normalizeDetails_object hdetails hgiven, ?_, ?_⟩
    · rw [get_reread, hcode]
      rfl
    · rw [get_reread, hurl]
      rfl

theorem plainText_of_generated (code : GeneratedCode) : PlainText code := by
  intro c hc
  have hletter := List.all_eq_true.1 code.2.2 c hc
  refine ⟨?_, ?_, ?_⟩
  · rintro rfl
    exact absurd hletter (by decide)
  · rintro rfl
    exact absurd hletter (by decide)
  · simp only [isAsciiAlpha, isAsciiDigit, Bool.or_eq_true, Bool.and_eq_true, decide_eq_true_eq,
      Char.le_def, UInt32.le_iff_toNat_le] at hletter
    change 32 ≤ c.val.toNat
    have hvalues : 'a'.val.toNat = 97 ∧ 'A'.val.toNat = 65 ∧ '0'.val.toNat = 48 := by decide
    omega

/-- A short code that is issued without a cut is the one that was given. -/
theorem ApiRequest.Issues.plain {code : String} (h : r.Issues app code) (hr : r.WritesJson app db) :
    PlainText code := by
  cases r with
  | createEvent body now => exact h.elim
  | url r =>
    cases r with
    | createShortUrl body now rng =>
      obtain ⟨shortCode, originalUrl, hcreates, hcode⟩ := h
      obtain ⟨⟨hplain, hcut⟩, -⟩ := hr _ _ hcreates
      rwa [varchar_of_not_cut hcode hcut]
    | listUrls page perPage userId isActive => exact h.elim
    | updateUrl urlId body now => exact h.elim
    | deleteUrl urlId now => exact h.elim
    | redirectToUrl code now => exact h.elim
    | expire key => exact h.elim

end Requests

/-! ## Runs -/

section Runs

variable {scanner : Scanner} {app : App} {w w' w₀ : World Unit} {e : Event}

/-- One request, alone. If it is accepted, nothing it writes has to be escaped. -/
def JsonStep (scanner : Scanner) (app : App) (w w' : World Unit) : Prop :=
  ∃ r a, serveApi scanner app r w = some (a, w') ∧ (a.status < 400 → r.WritesJson app w.db)

/-- Every stored short code is plain. -/
def CodesPlain (w : World Unit) : Prop := ∀ u ∈ w.db.urls, PlainText u.shortCode

theorem JsonStep.codesPlain (h : JsonStep scanner app w w') (hw : CodesPlain w) :
    CodesPlain w' := by
  obtain ⟨r, a, hserve, hr⟩ := h
  intro v hv
  rcases (serveApi_outcome hserve).codes.codes v hv with ⟨v₀, hv₀, hcode⟩ | ⟨hstatus, hissued⟩
  · rw [← hcode]
    exact hw v₀ hv₀
  · exact hissued.plain (hr hstatus)

/-- No URL is lost, and none gets another short code. -/
theorem JsonStep.kept (h : JsonStep scanner app w w') {id : Int} {v : Url}
    (hv : w.db.urlGetById id = some v) :
    ∃ v', w'.db.urlGetById id = some v' ∧ v'.shortCode = v.shortCode := by
  obtain ⟨r, a, hserve, -⟩ := h
  exact (serveApi_outcome hserve).codes.kept id v hv

/-- What a step adds. -/
theorem JsonStep.details (h : JsonStep scanner app w w') (hw : CodesPlain w) (he : e ∈ w'.db.events)
    (hnew : e ∉ w.db.events) : parsesToContainer e.details = true ∧
      (e.eventType = "created" → ∃ u, w'.db.urlGetById e.urlId = some u ∧
        NamesUrl e.details u) := by
  obtain ⟨r, a, hserve, hr⟩ := h
  obtain ⟨hstatus, hwrote⟩ := ((serveApi_outcome hserve).events e he).resolve_left hnew
  exact hwrote.details (hr hstatus) hw

/-- A step of the run has written the event, and left the row `u` for its URL. -/
def WrittenAbout (scanner : Scanner) (app : App) (w₀ w : World Unit) (e : Event) (u : Url) : Prop :=
  ∃ w₁ w₂, ReflTransGen (JsonStep scanner app) w₀ w₁ ∧ JsonStep scanner app w₁ w₂ ∧
    ReflTransGen (JsonStep scanner app) w₂ w ∧ e ∉ w₁.db.events ∧ e ∈ w₂.db.events ∧
    w₂.db.urlGetById e.urlId = some u

theorem WrittenAbout.next {u : Url} (h : WrittenAbout scanner app w₀ w e u)
    (hstep : JsonStep scanner app w w') :
    WrittenAbout scanner app w₀ w' e u := by
  obtain ⟨w₁, w₂, hbefore, hwrites, hafter, hrest⟩ := h
  exact ⟨w₁, w₂, hbefore, hwrites, hafter.tail hstep, hrest⟩

/-- What holds of every event of a run. -/
def DetailsHold (scanner : Scanner) (app : App) (w₀ w : World Unit) (e : Event) : Prop :=
  parsesToContainer e.details = true ∧
    (e.eventType = "created" → ∃ u, WrittenAbout scanner app w₀ w e u ∧ NamesUrl e.details u ∧
      ∃ u', w.db.urlGetById e.urlId = some u' ∧ u'.shortCode = u.shortCode)

theorem DetailsHold.next (h : DetailsHold scanner app w₀ w e) (hstep : JsonStep scanner app w w') :
    DetailsHold scanner app w₀ w' e := by
  refine ⟨h.1, fun hcreated => ?_⟩
  obtain ⟨u, hwritten, hnames, u', hu', hcode⟩ := h.2 hcreated
  obtain ⟨v, hv, hcode'⟩ := hstep.kept hu'
  exact ⟨u, hwritten.next hstep, hnames, v, hv, hcode'.trans hcode⟩

/-- **The details of events are JSON**, and a `created` event names its URL with the short code it
still has and the address it had then. -/
theorem event_details_json (hrun : ReflTransGen (JsonStep scanner app) w₀ w)
    (hcodes : ∀ u ∈ w₀.db.urls, PlainText u.shortCode) (hevents : w₀.db.events = []) :
    ∀ e ∈ w.db.events, parsesToContainer e.details = true ∧
      (e.eventType = "created" → ∃ u, WrittenAbout scanner app w₀ w e u ∧ NamesUrl e.details u ∧
        ∃ u', w.db.urlGetById e.urlId = some u' ∧ u'.shortCode = u.shortCode) := by
  suffices h : CodesPlain w ∧ ∀ e ∈ w.db.events, DetailsHold scanner app w₀ w e from h.2
  induction hrun with
  | refl =>
    refine ⟨hcodes, fun e he => ?_⟩
    rw [hevents] at he
    cases he
  | @tail w w' hrun hstep ih =>
    obtain ⟨hw, hall⟩ := ih
    refine ⟨hstep.codesPlain hw, fun e he => ?_⟩
    by_cases hnew : e ∈ w.db.events
    · exact (hall e hnew).next hstep
    · obtain ⟨hparses, hcreated⟩ := hstep.details hw he hnew
      refine ⟨hparses, fun h => ?_⟩
      obtain ⟨u, hu, hnames⟩ := hcreated h
      exact ⟨u, ⟨w, w', hrun, hstep, .refl, hnew, he, hu⟩, hnames, u, hu, rfl⟩

/-! ### A small instance -/

/-- One user without URLs. -/
def userDb : Db :=
  { users := [sampleUser], urls := [], events := [], urlsIdSeq := 1, eventsIdSeq := 1,
    valid := by decide }

/-- A create, and an update whose body has one key. -/
def createThenUpdate (key : String) : ApiRequest × ApiRequest :=
  (.url (.createShortUrl (sampleCreate "abc123") (sampleTime 1) fun _ => sampleCode),
    .url (.updateUrl 1 (.json (.obj [(key, .str "x")])) (sampleTime 2)))

theorem sampleCreate_writesJson (db : Db) :
    (createThenUpdate "it's").1.WritesJson sampleApp db := by
  rintro shortCode originalUrl ⟨data, hbody, hurl, hcode⟩
  cases hbody
  cases hurl
  have hplain : PlainText "https://new.example" ∧ ¬ CutAt 2048 "https://new.example" := by decide
  refine ⟨?_, hplain⟩
  rcases hcode with hcode | ⟨code, rfl⟩
  · cases hcode
    decide
  · refine ⟨plainText_of_generated code, fun hcut => ?_⟩
    have := hcut.1
    rw [code.2.1] at this
    exact absurd this (by decide)

theorem sampleUpdate_writesJson (db : Db) :
    (createThenUpdate "it's").2.WritesJson sampleApp db := by
  intro d hd
  cases hd
  intro key hkey
  obtain rfl : key = "it's" := List.mem_singleton.1 hkey
  refine ⟨by decide, by decide, fun c hc => ?_⟩
  have hascii : ("it's".toList.all fun c => decide (32 ≤ c.toNat ∧ c.toNat < 127)) = true := by
    decide
  exact .inr (.inr (.inr (.inl (of_decide_eq_true (List.all_eq_true.1 hascii c hc)))))

theorem event_details_json_sample :
    ∃ w, ReflTransGen (JsonStep .onePage sampleApp) (.start userDb) w ∧
    w.db.events.length = 2 ∧ ∀ e ∈ w.db.events, parsesToContainer e.details = true := by
  have hrun : ∃ w, ReflTransGen (JsonStep .onePage sampleApp) (.start userDb) w ∧
      w.db.events.length = 2 :=
    ⟨_, .tail (.tail .refl ⟨(createThenUpdate "it's").1, _, rfl,
      fun _ => sampleCreate_writesJson _⟩)
      ⟨(createThenUpdate "it's").2, _, rfl, fun _ => sampleUpdate_writesJson _⟩, rfl⟩
  obtain ⟨w, hrun, hlength⟩ := hrun
  have hcodes : ∀ u ∈ (World.start userDb : World Unit).db.urls, PlainText u.shortCode :=
    fun u hu => nomatch hu
  exact ⟨w, hrun, hlength, fun e he => (event_details_json hrun hcodes rfl e he).1⟩

/-- The list of keys of an update is a Python list, and its single quotes are not JSON. -/
theorem event_details_not_json : ∃ a₁ w₁ a₂ w₂,
    serveApi .onePage sampleApp (createThenUpdate "title").1 (.start userDb) = some (a₁, w₁) ∧
      a₁.status = 201 ∧
      serveApi .onePage sampleApp (createThenUpdate "title").2 w₁ = some (a₂, w₂) ∧
      a₂.status = 200 ∧
      w₂.db.events.map Event.details =
        ["\x7b\"short_code\":\"abc123\",\"original_url\":\"https://new.example\"\x7d",
        "\x7b\"fields_updated\":['title']\x7d"] ∧
      w₂.db.events.any (fun e => !parsesToContainer e.details) = true :=
  ⟨_, _, _, _, rfl, rfl, rfl, rfl, by decide +kernel, by decide +kernel⟩

end Runs

end PeHackathon.UrlShortener
