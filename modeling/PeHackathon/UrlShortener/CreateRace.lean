import PeHackathon.UrlShortener.LostUpdate

/-!
# Creates of one code at the same time

`create_short_url` looks whether the code is there, and inserts the row in a later statement.
`one_winner_iff`: when any number of valid creates of one new code have returned, one has answered
201 and every other 409, with one row and one event, just when the code fits its column as it is,
every insert got new ids, and no request looked for the code while another was between its look and
its insert.
-/

namespace PeHackathon.UrlShortener

open Lib

/-! ## Requests -/

/-- What a create asks for, once its checks have passed. -/
structure NewUrl where
  userId : Int
  userIdJson : Json
  originalUrl : String
  title : String
  now : DateTime

def NewUrl.url (d : NewUrl) (code : String) : Url :=
  newUrl d.userId code d.originalUrl d.title d.now

def NewUrl.event (d : NewUrl) (code : String) : Event :=
  { id := 0, urlId := 0, userId := d.userId, eventType := "created", timestamp := d.now,
    details := createdDetails code d.originalUrl }

/-- The body is one of a create with the custom code, and valid otherwise: the fields are as they
must be, the user exists, and the columns take the row. -/
structure ValidCreate (app : App) (db : Tables) (code : String) (body : Body) (d : NewUrl) :
    Prop where
  body : ∃ data : JsonObject, body = .json (.obj data) ∧
    validateUrl app.hosts (data.getNone "original_url") = .valid d.originalUrl ∧
    data.getNone "user_id" = d.userIdJson ∧ d.userIdJson.asInt = some d.userId ∧
    newTitle data = some d.title ∧ data.getNone "short_code" = .str code
  nonempty : code.isEmpty = false
  user : (db.userGetById d.userId).isSome
  fits : (storeUrl (d.url code)).isSome

theorem JsonObject.has_of_getNone {d : JsonObject} {key : String} (h : d.getNone key ≠ .null) :
    d.has key = true := by
  unfold JsonObject.getNone at h
  unfold JsonObject.has
  cases hget : d.get? key with
  | none => simp [hget] at h
  | some v => rfl

/-! ### Texts -/

theorem sendable_append (s t : String) : sendable (s ++ t) = (sendable s && sendable t) := by
  unfold sendable
  rw [String.toList_append]
  simp only [List.contains_eq_mem, List.mem_append]
  by_cases hs : '\x00' ∈ s.toList <;> by_cases ht : '\x00' ∈ t.toList <;> simp [hs, ht]

theorem sendable_of_varchar {n : Nat} {s t : String} (h : varchar n s = some t) :
    sendable s = true := by
  unfold varchar at h
  split at h
  · assumption
  · cases h

theorem textColumn_createdDetails {code originalUrl : String} (hcode : sendable code = true)
    (hurl : sendable originalUrl = true) :
    (textColumn (createdDetails code originalUrl)).isSome = true := by
  have hdetails : sendable (createdDetails code originalUrl) = true := by
    unfold createdDetails
    rw [sendable_append, sendable_append, sendable_append, sendable_append, hcode, hurl]
    decide
  rw [textColumn, if_pos hdetails]
  rfl

section Valid

variable {app : App} {db : Tables} {code : String} {body : Body} {d : NewUrl}

/-- A valid create reads the user, and goes on to look for the code. -/
theorem ValidCreate.starts (h : ValidCreate app db code body d) (rng : Nat → GeneratedCode) :
    ∃ k, createShortUrl app body d.now rng = .call (.userGetById d.userId) k ∧
      ∀ user, k (some user) = insertUrl app d.userId d.userIdJson code d.originalUrl d.title
        d.now := by
  obtain ⟨data, rfl, hurl, huserJson, huser, htitle, hcode⟩ := h.body
  have hasUrl : data.has "original_url" = true := by
    refine JsonObject.has_of_getNone fun hnull => ?_
    rw [hnull] at hurl
    cases hurl
  have hasUser : data.has "user_id" = true := by
    refine JsonObject.has_of_getNone fun hnull => ?_
    rw [← huserJson, hnull] at huser
    cases huser
  have hrequested : requestedShortCode data = some (some code) := by
    unfold requestedShortCode
    rw [hcode]
  have hchoose : chooseShortCode app rng (some code) = .ret (.ok code) := by
    unfold chooseShortCode
    dsimp only
    rw [h.nonempty]
    rfl
  unfold createShortUrl parseJsonBody
  dsimp only
  rw [hasUrl, hasUser, huserJson, htitle]
  dsimp only [Bool.not_true, Bool.or_self]
  rw [hurl]
  dsimp only
  rw [huser]
  dsimp only
  refine ⟨_, rfl, fun user => ?_⟩
  rw [hrequested]
  dsimp only
  rw [hchoose]
  rfl

/-- The event of a create is stored. -/
theorem ValidCreate.event_fits (h : ValidCreate app db code body d) :
    varchar 50 (d.event code).eventType = some "created" ∧
      (textColumn (d.event code).details).isSome = true := by
  obtain ⟨row, hrow⟩ := Option.isSome_iff_exists.1 h.fits
  have hst := storeUrl_storedAs hrow
  exact ⟨varchar_of_fits (s := "created") (by decide) (by decide),
    textColumn_createdDetails (sendable_of_varchar hst.shortCode)
      (sendable_of_varchar hst.originalUrl)⟩

end Valid

/-! ## The transaction -/

section Transaction

variable {db : Tables} {u row : Url} {e : Event}

/-- The ids that the sequences give to the next row and the next event are free. -/
structure Tables.IdsFree (db : Tables) : Prop where
  url : db.urlGetById db.urlsIdSeq = none
  event : db.EventIdFree

/-- What the transaction of a create that commits leaves: one more row, and one more event about
it. -/
theorem Tables.createUrlTx_adds (h : db.Valid) (hrow : storeUrl u = some row) (hids : db.IdsFree)
    (hcode : db.urlByCode row.shortCode = none) (huser : (db.userGetById u.userId).isSome)
    (heuser : e.userId = u.userId) (htype : (varchar 50 e.eventType).isSome)
    (hdetails : (textColumn e.details).isSome) :
    (db.createUrlTx u e).1 = .ok db.urlsIdSeq ∧ (db.createUrlTx u e).2.users = db.users ∧
      (db.createUrlTx u e).2.urls = db.urls ++ [{ row with id := db.urlsIdSeq }] ∧
      ∃ event, (db.createUrlTx u e).2.events = db.events ++ [event] ∧
        varchar 50 e.eventType = some event.eventType ∧ event.urlId = db.urlsIdSeq := by
  have hst := storeUrl_storedAs hrow
  have hrowUser : (db.userGetById row.userId).isSome = true := by rw [hst.userId]; exact huser
  have hid := hids.url
  have hvalid := Tables.insertUrl_valid h hst.again hid hcode hrowUser
  have hfound : ((db.insertUrl row).urlGetById db.urlsIdSeq).isSome = true := by
    unfold Tables.urlGetById Tables.insertUrl
    rw [List.find?_isSome]
    exact ⟨{ row with id := db.urlsIdSeq }, List.mem_append_right _ (List.mem_singleton_self _), by
      simp⟩
  obtain ⟨newId, hevent⟩ := Tables.createEvent_ok (e := { e with urlId := db.urlsIdSeq })
    (show (db.insertUrl row).EventIdFree from hids.event) htype hdetails hfound
      (by rw [heuser]; exact huser)
  have hcommits : (db.createUrlTx u e).1 = .ok db.urlsIdSeq := by
    obtain ⟨err, herr, -⟩ | ⟨-, -, hok, -⟩ := Tables.createUrlTx_cases db u e
    · exfalso
      unfold Tables.createUrlTx at herr
      rw [hrow] at herr
      simp only [hid, hcode, Option.isSome_none, Bool.or_self, Bool.false_or,
        Option.isNone_iff_eq_none, Option.ne_none_iff_isSome.2 hrowUser, if_false] at herr
      unfold Tables.commitWith at herr
      split at herr
      · rename_i hc
        split at hc
        · rename_i hc'
          rw [hc'] at hevent
          cases hevent
        · cases hc
      · cases herr
    · exact hok
  obtain ⟨err, herr, -⟩ | ⟨row', hrow', -, -, -, -, hdb⟩ := Tables.createUrlTx_cases db u e
  · rw [hcommits] at herr
    cases herr
  · rw [hrow] at hrow'
    cases hrow'
    obtain ⟨err, herr, -⟩ | ⟨event, -, hsame, hevents, -, hstored, hurlId, -⟩ :=
      Tables.createEvent_cases (db.insertUrl row) { e with urlId := db.urlsIdSeq }
    · rw [hevent] at herr
      cases herr
    · rw [hdb]
      exact ⟨hcommits, hsame.users, hsame.urls, event, hevents, hstored, hurlId⟩

end Transaction

/-! ## Phases -/

inductive CreatePhase
  | begins
  | checks
  | inserts
  | created
  | taken
  | raised
  deriving DecidableEq

/-- The calls that Redis answers, and a loop that never ends. -/
def Call.ToRedis : Call → Prop
  | .redisGet _ | .redisSetex _ _ _ | .redisDelete _ | .redisScan _ | .hang => True
  | _ => False

theorem Call.ToRedis.leavesDb {q : Call} (h : q.ToRedis) : q.LeavesDb := by
  cases q with
  | createUrlTx u e | saveUrlTx u e | createEvent e => exact h
  | _ => trivial

theorem scanLoop_toRedis (fuel cursor : Nat) : (scanLoop fuel cursor).All Call.ToRedis := by
  induction fuel generalizing cursor with
  | zero => exact ⟨trivial, nofun⟩
  | succ fuel ih =>
    rw [scanLoop, Prog.perform_bind]
    refine ⟨trivial, fun r => ?_⟩
    cases r with
    | error err => trivial
    | ok reply =>
      dsimp only
      split
      · split
        · trivial
        · exact ih _
      · refine ⟨trivial, fun r => ?_⟩
        cases r with
        | error err => trivial
        | ok _ =>
          dsimp only
          split
          · trivial
          · exact ih _

theorem invalidateUrlLists_toRedis (client : Bool) (fuel : Nat) :
    (invalidateUrlLists client fuel).All Call.ToRedis := by
  cases client with
  | false => trivial
  | true => exact scanLoop_toRedis fuel 0

/-- What is left of a create in a phase. -/
def CreateAt (app : App) (code : String) (body : Body) (rng : Nat → GeneratedCode) (d : NewUrl) :
    CreatePhase → Handler Response → Prop
  | .begins, prog => prog = createShortUrl app body d.now rng
  | .checks, prog => prog = insertUrl app d.userId d.userIdJson code d.originalUrl d.title d.now
  | .inserts, prog => ∃ k, prog = .call (.createUrlTx (d.url code) (d.event code)) k ∧
      (∀ err, k (.error err) = .ret serverError) ∧
      ∀ id, (k (.ok id)).All Call.ToRedis ∧ (k (.ok id)).Returns fun resp => resp.status = 201
  | .created, prog => prog.All Call.ToRedis ∧ prog.Returns fun resp => resp.status = 201
  | .taken, prog => prog = .ret (errorResponse 409 "Short code already exists")
  | .raised, prog => prog = .ret serverError

/-- The look for the code: what follows each of its answers. -/
theorem insertUrl_looks (app : App) (code : String) (d : NewUrl) :
    ∃ k, insertUrl app d.userId d.userIdJson code d.originalUrl d.title d.now =
      .call (.shortCodeExists code) k ∧
      k (.ok true) = .ret (errorResponse 409 "Short code already exists") ∧
      ∃ k', k (.ok false) = .call (.createUrlTx (d.url code) (d.event code)) k' ∧
        (∀ err, k' (.error err) = .ret serverError) ∧
        ∀ id, (k' (.ok id)).All Call.ToRedis ∧ (k' (.ok id)).Returns fun resp =>
          resp.status = 201 := by
  refine ⟨_, rfl, rfl, _, rfl, fun err => rfl, fun id => ⟨?_, ?_⟩⟩
  · exact (cacheRedirect_all (fun _ _ => trivial) ..).bind fun _ =>
      (invalidateUrlLists_toRedis ..).bind fun _ => trivial
  · refine Prog.Returns.after (p := cacheRedirect app.redis code d.originalUrl true) fun _ => ?_
    refine Prog.Returns.after (p := invalidateUrlLists app.redis app.scanFuel) fun _ => ?_
    exact rfl

/-- The database has the rows it had. -/
structure SameRows (db₀ db : Tables) : Prop where
  users : db.users = db₀.users
  urls : db.urls = db₀.urls
  events : db.events = db₀.events

/-- The database has one more row, with the code, and one more event, about its creation. -/
structure AddedOne (code : String) (db₀ db : Tables) : Prop where
  users : db.users = db₀.users
  added : ∃ (row : Url) (event : Event), row.shortCode = code ∧ db₀.urlGetById row.id = none ∧
    event.eventType = "created" ∧ event.urlId = row.id ∧ db.urls = db₀.urls ++ [row] ∧
    db.events = db₀.events ++ [event]

theorem SameRows.refl (db : Tables) : SameRows db db := ⟨rfl, rfl, rfl⟩

theorem SameRows.trans {db₀ db db' : Tables} (h : SameRows db₀ db) (h' : SameRows db db') :
    SameRows db₀ db' :=
  ⟨h'.users.trans h.users, h'.urls.trans h.urls, h'.events.trans h.events⟩

theorem AddedOne.trans {code : String} {db₀ db db' : Tables} (h : AddedOne code db₀ db)
    (h' : SameRows db db') :
    AddedOne code db₀ db' := by
  refine ⟨h'.users.trans h.users, ?_⟩
  rw [h'.urls, h'.events]
  exact h.added

theorem SameRows.urlByCode {db₀ db : Tables} (h : SameRows db₀ db) (code : String) :
    db.urlByCode code = db₀.urlByCode code := by
  rw [Tables.urlByCode, h.urls]
  rfl

theorem AddedOne.urlByCode {code : String} {db₀ db : Tables} (h : AddedOne code db₀ db) :
    (db.urlByCode code).isSome = true := by
  obtain ⟨row, -, hcode, -, -, -, hurls, -⟩ := h.added
  rw [Tables.urlByCode, hurls, List.find?_isSome]
  exact ⟨row, List.mem_append_right _ (List.mem_singleton_self _), by simp [hcode]⟩

section Race

variable {ι : Type} [DecidableEq ι]

/-- The requests, by index. -/
structure Creates (ι : Type) where
  app : App
  code : String
  bodies : ι → Body
  draws : ι → Nat → GeneratedCode
  news : ι → NewUrl

namespace Creates

/-- The start: no request has taken a step. -/
def start (cs : Creates ι) (w : World ι) : RequestPool ι :=
  Pool.init (fun i => createShortUrl cs.app (cs.bodies i) (cs.news i).now (cs.draws i)) w

/-- Request `i` has found the code free, and not inserted its row yet. -/
def Inserting (p : RequestPool ι) (i : ι) : Prop :=
  ∃ u e, (p.procs i).next? = some (.createUrlTx u e)

/-- A request looks for the code while no other is about to insert, and an insert finds its ids
unused. -/
def InTurn (p : RequestPool ι) (i : ι) : Prop :=
  (∀ code, (p.procs i).next? = some (.shortCodeExists code) → ∀ j, j ≠ i → ¬ Inserting p j) ∧
    (∀ u e, (p.procs i).next? = some (.createUrlTx u e) → p.world.db.IdsFree)

/-- Nobody is past an insert or has found the code, and the rows are as they were; or one request
has added its row. -/
def PhasesMatch (code : String) (db₀ : Tables) (phase : ι → CreatePhase) (db : Tables) : Prop :=
  (SameRows db₀ db ∧ ∀ i, phase i ≠ .created ∧ phase i ≠ .taken) ∨
    (AddedOne code db₀ db ∧ ∃ i, phase i = .created ∧ ∀ j, phase j = .created → j = i)

/-- The phases of all requests, and what they make of the rows. -/
structure Inv (cs : Creates ι) (db₀ : Tables) (phase : ι → CreatePhase) (p : RequestPool ι) :
    Prop where
  at_ : ∀ i, CreateAt cs.app cs.code (cs.bodies i) (cs.draws i) (cs.news i) (phase i) (p.procs i)
  rows : PhasesMatch cs.code db₀ phase p.world.db.toTables

/-- Nobody has raised, and who is about to insert is alone with it and finds the code free. -/
structure Fair (cs : Creates ι) (p : RequestPool ι) : Prop where
  noneRaised : ∀ i, p.procs i ≠ .ret serverError
  free : ∀ i, Inserting p i → p.world.db.urlByCode cs.code = none
  alone : ∀ i j, Inserting p i → Inserting p j → j = i

variable {cs : Creates ι} {db₀ : Tables} {phase : ι → CreatePhase} {scanner : Scanner}
  {p p' : RequestPool ι} {i : ι} {c : Unit}

omit [DecidableEq ι] in
/-- The next call of a request in a phase. -/
theorem Inv.next? (hvalid : ∀ i, ValidCreate cs.app db₀ cs.code (cs.bodies i) (cs.news i))
    (h : Inv cs db₀ phase p) {q : Call} (hq : (p.procs i).next? = some q) :
    match phase i with
    | .begins => q = .userGetById (cs.news i).userId
    | .checks => q = .shortCodeExists cs.code
    | .inserts => q = .createUrlTx ((cs.news i).url cs.code) ((cs.news i).event cs.code)
    | .created => q.ToRedis
    | .taken | .raised => False := by
  have hat := h.at_ i
  cases hphase : phase i with
  | begins =>
    rw [hphase] at hat
    obtain ⟨k, hk, -⟩ := (hvalid i).starts (cs.draws i)
    rw [hat.trans hk] at hq
    exact (Option.some.inj hq).symm
  | checks =>
    rw [hphase] at hat
    obtain ⟨k, hk, -⟩ := insertUrl_looks cs.app cs.code (cs.news i)
    rw [hat.trans hk] at hq
    exact (Option.some.inj hq).symm
  | inserts =>
    rw [hphase] at hat
    obtain ⟨k, hk, -⟩ := hat
    rw [hk] at hq
    exact (Option.some.inj hq).symm
  | created =>
    rw [hphase] at hat
    exact hat.1.always.here q hq
  | taken | raised =>
    rw [hphase] at hat
    rw [hat] at hq
    cases hq

omit [DecidableEq ι] in
/-- A request about to insert is the one whose next call is the transaction. -/
theorem Inv.inserting_iff (hvalid : ∀ i, ValidCreate cs.app db₀ cs.code (cs.bodies i) (cs.news i))
    (h : Inv cs db₀ phase p) (i : ι) : Inserting p i ↔ phase i = .inserts := by
  constructor
  · rintro ⟨u, e, hnext⟩
    have hq := h.next? hvalid hnext
    cases hphase : phase i with
    | inserts => rfl
    | _ =>
      rw [hphase] at hq
      cases hq
  · intro hphase
    have hat := h.at_ i
    rw [hphase] at hat
    obtain ⟨k, hk, -⟩ := hat
    exact ⟨_, _, by rw [hk]; rfl⟩

omit [DecidableEq ι] in
theorem Inv.raised_iff (hvalid : ∀ i, ValidCreate cs.app db₀ cs.code (cs.bodies i) (cs.news i))
    (h : Inv cs db₀ phase p) (i : ι) : p.procs i = .ret serverError ↔ phase i = .raised := by
  have hat := h.at_ i
  constructor
  · intro hret
    rw [hret] at hat
    cases hphase : phase i with
    | raised => rfl
    | begins =>
      rw [hphase] at hat
      obtain ⟨k, hk, -⟩ := (hvalid i).starts (cs.draws i)
      cases hat.trans hk
    | checks =>
      rw [hphase] at hat
      obtain ⟨k, hk, -⟩ := insertUrl_looks cs.app cs.code (cs.news i)
      cases hat.trans hk
    | inserts =>
      rw [hphase] at hat
      obtain ⟨k, hk, -⟩ := hat
      cases hk
    | created =>
      rw [hphase] at hat
      cases hat.2
    | taken =>
      rw [hphase] at hat
      cases hat
  · intro hphase
    rw [hphase] at hat
    exact hat

/-- The same in terms of the phases. -/
structure FairAt (phase : ι → CreatePhase) (free : Prop) : Prop where
  noneRaised : ∀ i, phase i ≠ .raised
  free : ∀ i, phase i = .inserts → free
  alone : ∀ i j, phase i = .inserts → phase j = .inserts → j = i

omit [DecidableEq ι] in
theorem Inv.fair_iff (hvalid : ∀ i, ValidCreate cs.app db₀ cs.code (cs.bodies i) (cs.news i))
    (h : Inv cs db₀ phase p) : Fair cs p ↔ FairAt phase (p.world.db.urlByCode cs.code = none) := by
  have hins := h.inserting_iff hvalid
  have hraised := h.raised_iff hvalid
  constructor
  · intro hf
    exact ⟨fun i hi => hf.noneRaised i ((hraised i).2 hi), fun i hi => hf.free i ((hins i).2 hi),
      fun i j hi hj => hf.alone i j ((hins i).2 hi) ((hins j).2 hj)⟩
  · intro hf
    exact ⟨fun i hi => hf.noneRaised i ((hraised i).1 hi), fun i hi => hf.free i ((hins i).1 hi),
      fun i j hi hj => hf.alone i j ((hins i).1 hi) ((hins j).1 hj)⟩

/-- A request that neither was about to insert nor is, and has not raised. -/
theorem fairAt_update {x : CreatePhase} {free : Prop} (hi : phase i ≠ .inserts)
    (hi' : phase i ≠ .raised) (hx : x ≠ .inserts) (hx' : x ≠ .raised) :
    FairAt (Function.update phase i x) free ↔ FairAt phase free := by
  constructor
  · intro hf
    refine ⟨fun j => ?_, fun j hj => ?_, fun j k hj hk => ?_⟩
    · by_cases hji : j = i
      · exact hji ▸ hi'
      · simpa [Function.update_of_ne hji] using hf.noneRaised j
    · have hji : j ≠ i := fun hji => hi (hji ▸ hj)
      exact hf.free j (by rwa [Function.update_of_ne hji])
    · have hji : j ≠ i := fun hji => hi (hji ▸ hj)
      have hki : k ≠ i := fun hki => hi (hki ▸ hk)
      exact hf.alone j k (by rwa [Function.update_of_ne hji]) (by rwa [Function.update_of_ne hki])
  · intro hf
    refine ⟨fun j => ?_, fun j hj => ?_, fun j k hj hk => ?_⟩
    · by_cases hji : j = i
      · rw [hji, Function.update_self]
        exact hx'
      · rw [Function.update_of_ne hji]
        exact hf.noneRaised j
    · have hji : j ≠ i := fun hji => hx (by rwa [hji, Function.update_self] at hj)
      rw [Function.update_of_ne hji] at hj
      exact hf.free j hj
    · have hji : j ≠ i := fun hji => hx (by rwa [hji, Function.update_self] at hj)
      have hki : k ≠ i := fun hki => hx (by rwa [hki, Function.update_self] at hk)
      rw [Function.update_of_ne hji] at hj
      rw [Function.update_of_ne hki] at hk
      exact hf.alone j k hj hk

/-- A step that leaves the rows alone. -/
theorem PhasesMatch.of_same {code : String} {db db' : Tables} {x : CreatePhase}
    (h : PhasesMatch code db₀ phase db) (hsame : SameRows db db')
    (hcreated : x = .created ↔ phase i = .created) (htaken : x = .taken → ¬ SameRows db₀ db) :
    PhasesMatch code db₀ (Function.update phase i x) db' := by
  rcases h with ⟨hrows, hnone⟩ | ⟨hadded, j, hj, honly⟩
  · refine .inl ⟨hrows.trans hsame, fun k => ?_⟩
    by_cases hk : k = i
    · rw [hk, Function.update_self]
      exact ⟨fun hx => (hnone i).1 (hcreated.1 hx), fun hx => htaken hx hrows⟩
    · rw [Function.update_of_ne hk]
      exact hnone k
  · have hsame_iff : ∀ k, Function.update phase i x k = .created ↔ phase k = .created := by
      intro k
      by_cases hk : k = i
      · rw [hk, Function.update_self]
        exact hcreated
      · rw [Function.update_of_ne hk]
    exact .inr ⟨hadded.trans hsame, j, (hsame_iff j).2 hj, fun k hk => honly k ((hsame_iff k).1 hk)⟩

/-- The next phase of one request. -/
theorem Inv.update {x : CreatePhase} {prog : Handler Response} (h : Inv cs db₀ phase p)
    (hprocs : p'.procs = Function.update p.procs i prog)
    (hat : CreateAt cs.app cs.code (cs.bodies i) (cs.draws i) (cs.news i) x prog)
    (hrows : PhasesMatch cs.code db₀ (Function.update phase i x) p'.world.db.toTables) :
    Inv cs db₀ (Function.update phase i x) p' := by
  refine ⟨fun j => ?_, hrows⟩
  rw [hprocs]
  by_cases hj : j = i
  · subst hj
    simpa using hat
  · simpa [Function.update_of_ne hj] using h.at_ j

omit [DecidableEq ι] in
/-- The users are as they were. -/
theorem PhasesMatch.users {code : String} {db : Tables} (h : PhasesMatch code db₀ phase db) :
    db.users = db₀.users := by
  rcases h with ⟨hrows, -⟩ | ⟨hadded, -⟩
  · exact hrows.users
  · exact hadded.users

section Step

variable {q : Call} {k : Answer q → Handler Response} {r : Answer q} {w : World ι}

/-- The answer to a call leads to a next phase, and keeps the race fair just when the step is in
turn. -/
def Advances (cs : Creates ι) (db₀ : Tables) (phase : ι → CreatePhase) (p : RequestPool ι) (i : ι)
    (prog : Handler Response) (w : World ι) : Prop :=
  ∃ x, CreateAt cs.app cs.code (cs.bodies i) (cs.draws i) (cs.news i) x prog ∧
    PhasesMatch cs.code db₀ (Function.update phase i x) w.db.toTables ∧
    (FairAt (Function.update phase i x) (w.db.urlByCode cs.code = none) ↔
      FairAt phase (p.world.db.urlByCode cs.code = none) ∧ InTurn p i)

omit [DecidableEq ι] in
/-- A step that is neither a look nor an insert is in turn. -/
theorem inTurn_of_other (hnext : (p.procs i).next? = some q)
    (hlook : ∀ code, q ≠ .shortCodeExists code) (hinsert : ∀ u e, q ≠ .createUrlTx u e) :
    InTurn p i := by
  refine ⟨fun code hc => ?_, fun u e hc => ?_⟩
  · rw [hnext] at hc
    exact absurd (Option.some.inj hc) (hlook code)
  · rw [hnext] at hc
    exact absurd (Option.some.inj hc) (hinsert u e)

variable (hvalid : ∀ i, ValidCreate cs.app db₀ cs.code (cs.bodies i) (cs.news i))

include hvalid

theorem Inv.advances_begins (h : Inv cs db₀ phase p) (hphase : phase i = .begins)
    (hq : p.procs i = .call q k) (hr : respond scanner i p.world q = some (r, w)) :
    Advances cs db₀ phase p i (k r) w := by
  have hnext : (p.procs i).next? = some q := by rw [hq]; rfl
  have hcall := h.next? hvalid hnext
  have hat := h.at_ i
  rw [hphase] at hcall hat
  subst hcall
  cases hr
  obtain ⟨k', hk, hsome⟩ := (hvalid i).starts (cs.draws i)
  rw [hat.trans hk] at hq
  cases hq
  have huser : ∃ user, p.world.db.userGetById (cs.news i).userId = some user := by
    refine Option.isSome_iff_exists.1 ?_
    have hsome := (hvalid i).user
    rwa [Tables.userGetById, ← h.rows.users] at hsome
  obtain ⟨user, huser⟩ := huser
  refine ⟨.checks, ?_, h.rows.of_same (.refl _) (by simp [hphase]) (by simp), ?_⟩
  · rw [huser]
    exact hsome user
  · rw [fairAt_update (by simp [hphase]) (by simp [hphase]) (by simp) (by simp)]
    exact (and_iff_left (inTurn_of_other hnext (by simp) (by simp))).symm

theorem Inv.advances_created (h : Inv cs db₀ phase p) (hphase : phase i = .created)
    (hq : p.procs i = .call q k) (hr : respond scanner i p.world q = some (r, w)) :
    Advances cs db₀ phase p i (k r) w := by
  have hnext : (p.procs i).next? = some q := by rw [hq]; rfl
  have hcall := h.next? hvalid hnext
  have hat := h.at_ i
  rw [hphase] at hcall hat
  rw [hq] at hat
  have hdb : w.db = p.world.db := respond_leavesDb (Call.ToRedis.leavesDb hcall) hr
  refine ⟨.created, ⟨hat.1.2 r, hat.2 r⟩, ?_, ?_⟩
  · rw [hdb]
    exact h.rows.of_same (.refl _) (by simp [hphase]) (by simp)
  · rw [hdb, fairAt_update (by simp [hphase]) (by simp [hphase]) (by simp) (by simp)]
    refine (and_iff_left (inTurn_of_other hnext ?_ ?_)).symm
    · rintro code rfl
      exact hcall
    · rintro u e rfl
      exact hcall

variable (hcode : varchar 20 cs.code = some cs.code) (hfree : db₀.urlByCode cs.code = none)

include hcode hfree

/-- **A look** is in turn just when nobody else is about to insert. -/
theorem Inv.advances_checks (h : Inv cs db₀ phase p) (hphase : phase i = .checks)
    (hq : p.procs i = .call q k) (hr : respond scanner i p.world q = some (r, w)) :
    Advances cs db₀ phase p i (k r) w := by
  have hnext : (p.procs i).next? = some q := by rw [hq]; rfl
  have hcall := h.next? hvalid hnext
  have hat := h.at_ i
  rw [hphase] at hcall hat
  subst hcall
  cases hr
  obtain ⟨k', hk, htaken, k'', hk'', herr, hok⟩ := insertUrl_looks cs.app cs.code (cs.news i)
  rw [hat.trans hk] at hq
  cases hq
  have hturn : InTurn p i ↔ ∀ j, j ≠ i → phase j ≠ .inserts := by
    constructor
    · intro hturn j hj hins
      exact hturn.1 _ hnext j hj ((h.inserting_iff hvalid j).2 hins)
    · intro hnone
      refine ⟨fun code _ j hj hins => hnone j hj ((h.inserting_iff hvalid j).1 hins),
        fun u e hc => ?_⟩
      rw [hnext] at hc
      cases hc
  have hread : p.world.db.shortCodeExists cs.code = .ok (p.world.db.urlByCode cs.code).isSome := by
    unfold Tables.shortCodeExists Tables.urlGetByCode
    rw [if_pos (sendable_of_varchar hcode)]
    rfl
  unfold Advances
  simp only [hturn]
  cases hfound : p.world.db.urlByCode cs.code with
  | some row =>
    -- the code is there: the request answers 409, and whoever is about to insert is late
    refine ⟨.taken, ?_, ?_, ?_⟩
    · rw [hread, hfound]
      exact htaken
    · refine h.rows.of_same (.refl _) (by simp [hphase]) fun _ hsame => ?_
      rw [hsame.urlByCode, hfree] at hfound
      cases hfound
    · rw [fairAt_update (by simp [hphase]) (by simp [hphase]) (by simp) (by simp)]
      refine (and_iff_left_of_imp fun hf j _ hins => ?_).symm
      cases hf.free j hins
  | none =>
    refine ⟨.inserts, ?_, h.rows.of_same (.refl _) (by simp [hphase]) (by simp), ?_⟩
    · rw [hread, hfound]
      exact ⟨k'', hk'', herr, hok⟩
    · constructor
      · intro hf
        have halone : ∀ j, j ≠ i → phase j ≠ .inserts := by
          intro j hj hins
          exact hj (hf.alone i j (by simp) (by rwa [Function.update_of_ne hj]))
        refine ⟨⟨fun j => ?_, fun _ _ => rfl, fun j l hj hl => ?_⟩, halone⟩
        · by_cases hj : j = i
          · simp [hj, hphase]
          · simpa [Function.update_of_ne hj] using hf.noneRaised j
        · by_cases hji : j = i
          · rw [hji, hphase] at hj
            cases hj
          · exact absurd hj (halone j hji)
      · rintro ⟨hf, halone⟩
        refine ⟨fun j => ?_, fun _ _ => rfl, fun j l hj hl => ?_⟩
        · by_cases hj : j = i
          · simp [hj]
          · simpa [Function.update_of_ne hj] using hf.noneRaised j
        · have honly : ∀ j, Function.update phase i .inserts j = .inserts → j = i := by
            intro j hj
            by_contra hji
            rw [Function.update_of_ne hji] at hj
            exact halone j hji hj
          rw [honly j hj, honly l hl]

omit hfree in
/-- **An insert** is in turn just when it finds its ids unused. -/
theorem Inv.advances_inserts (h : Inv cs db₀ phase p) (hphase : phase i = .inserts)
    (hq : p.procs i = .call q k) (hr : respond scanner i p.world q = some (r, w)) :
    Advances cs db₀ phase p i (k r) w := by
  have hnext : (p.procs i).next? = some q := by rw [hq]; rfl
  have hcall := h.next? hvalid hnext
  have hat := h.at_ i
  rw [hphase] at hcall hat
  subst hcall
  obtain ⟨k', hk, herr, hok⟩ := hat
  rw [hk] at hq
  cases hq
  have hturn : InTurn p i ↔ p.world.db.IdsFree := by
    constructor
    · intro hturn
      exact hturn.2 _ _ hnext
    · intro hids
      refine ⟨fun code hc => ?_, fun _ _ _ => hids⟩
      rw [hnext] at hc
      cases hc
  obtain ⟨row, hrow⟩ := Option.isSome_iff_exists.1 (hvalid i).fits
  have hst := storeUrl_storedAs hrow
  have hrowCode : row.shortCode = cs.code := hst.shortCode_eq hcode
  have huser : (p.world.db.userGetById (cs.news i).userId).isSome = true := by
    have hsome := (hvalid i).user
    rwa [Tables.userGetById, ← h.rows.users] at hsome
  obtain ⟨htype, hdetails⟩ := (hvalid i).event_fits
  have hadds := fun hids (hfound : p.world.db.urlByCode cs.code = none) =>
    Tables.createUrlTx_adds (e := (cs.news i).event cs.code) p.world.db.valid hrow hids
      (by rw [hrowCode]; exact hfound) huser rfl (by rw [htype]; rfl) hdetails
  unfold Advances
  simp only [hturn]
  rw [respond_createUrlTx] at hr
  obtain ⟨err, hres, hsame, hevents, -⟩ | ⟨row', hrow', hres, hid, hfound, -, -⟩ :=
    Tables.createUrlTx_cases p.world.db.toTables ((cs.news i).url cs.code)
      ((cs.news i).event cs.code)
  · cases hr
    refine ⟨.raised, ?_, h.rows.of_same ⟨hsame.users, hsame.urls, hevents⟩ (by simp [hphase])
      (by simp), ?_⟩
    · rw [Db.createUrlTx, hres]
      exact herr err
    · refine iff_of_false (fun hf => hf.noneRaised i (by simp)) ?_
      rintro ⟨hf, hids⟩
      rw [(hadds hids (hf.free i hphase)).1] at hres
      cases hres
  · rw [hrow] at hrow'
    cases hrow'
    rw [hrowCode] at hfound
    have hids : p.world.db.IdsFree := ⟨hid, Tables.createUrlTx_free hres⟩
    obtain ⟨-, husers, hurls, event, hevents, hevent, hurlId⟩ := hadds hids hfound
    rw [htype] at hevent
    cases hr
    obtain ⟨hsame, hnone⟩ | ⟨hadded, -⟩ := h.rows
    · have hafter : AddedOne cs.code db₀
          (p.world.db.createUrlTx ((cs.news i).url cs.code)
            ((cs.news i).event cs.code)).2.toTables := by
        refine ⟨husers.trans hsame.users, { row with id := p.world.db.urlsIdSeq }, event,
          hrowCode, ?_, (Option.some.inj hevent).symm, hurlId, ?_, ?_⟩
        · rw [Tables.urlGetById, ← hsame.urls]
          exact hid
        · rw [← hsame.urls]
          exact hurls
        · rw [← hsame.events]
          exact hevents
      refine ⟨.created, ?_, .inr ⟨hafter, i, by simp, fun j hj => ?_⟩, ?_⟩
      · rw [Db.createUrlTx, hres]
        exact hok _
      · by_contra hji
        rw [Function.update_of_ne hji] at hj
        exact (hnone j).1 hj
      · -- the code is taken now, so nobody else may be about to insert
        constructor
        · intro hf
          have hothers : ∀ j, phase j = .inserts → j = i := by
            intro j hj
            by_contra hji
            have hlate := hf.free j (by rwa [Function.update_of_ne hji])
            rw [Option.eq_none_iff_forall_ne_some] at hlate
            obtain ⟨row'', hrow''⟩ := Option.isSome_iff_exists.1 hafter.urlByCode
            exact hlate _ hrow''
          refine ⟨⟨fun j => ?_, fun _ _ => hfound, fun j l hj hl => ?_⟩, hids⟩
          · by_cases hj : j = i
            · simp [hj, hphase]
            · simpa [Function.update_of_ne hj] using hf.noneRaised j
          · rw [hothers j hj, hothers l hl]
        · rintro ⟨hf, -⟩
          have hnobody : ∀ j, Function.update phase i .created j ≠ .inserts := by
            intro j hj
            by_cases hji : j = i
            · simp [hji] at hj
            · rw [Function.update_of_ne hji] at hj
              exact hji (hf.alone i j hphase hj)
          refine ⟨fun j => ?_, fun j hj => absurd hj (hnobody j), fun j l hj =>
            absurd hj (hnobody j)⟩
          by_cases hj : j = i
          · simp [hj]
          · simpa [Function.update_of_ne hj] using hf.noneRaised j
    · exact absurd hfound (Option.isSome_iff_ne_none.1 hadded.urlByCode)

/-- **One step**: it leads to the next phase of its request, and keeps the race fair just when it is
in turn. -/
theorem Inv.next (h : Inv cs db₀ phase p) (hn : p.next (server scanner) i c = some p') :
    ∃ phase', Inv cs db₀ phase' p' ∧ (Fair cs p' ↔ Fair cs p ∧ InTurn p i) := by
  obtain ⟨q, k, r, w, hq, hr, -, hp'⟩ := Pool.next_cases hn
  have hadvances : Advances cs db₀ phase p i (k r) w := by
    cases hphase : phase i with
    | begins => exact h.advances_begins hvalid hphase hq hr
    | checks => exact h.advances_checks hvalid hcode hfree hphase hq hr
    | inserts => exact h.advances_inserts hvalid hcode hphase hq hr
    | created => exact h.advances_created hvalid hphase hq hr
    | taken | raised =>
      have hcall := h.next? hvalid (q := q) (i := i) (by rw [hq]; rfl)
      rw [hphase] at hcall
      exact hcall.elim
  obtain ⟨x, hat, hrows, hfair⟩ := hadvances
  obtain rfl : p'.world = w := by rw [hp']
  have hinv := h.update (by rw [hp']) hat hrows
  refine ⟨_, hinv, ?_⟩
  rw [hinv.fair_iff hvalid, h.fair_iff hvalid]
  exact hfair

end Step

/-! ## Runs -/

/-- One request has answered 201 and every other 409, and there is one row with the code, and one
event about its creation. -/
structure OneWinner (cs : Creates ι) (p : RequestPool ι) : Prop where
  answers : ∃ i resp, p.procs i = .ret resp ∧ resp.status = 201 ∧
    ∀ j, j ≠ i → ∃ resp, p.procs j = .ret resp ∧ resp.status = 409
  rows : ∃ row, (p.world.db.urls.filter fun u => u.shortCode == cs.code) = [row] ∧
    (p.world.db.events.filter fun e => e.eventType == "created" && e.urlId == row.id).length = 1

omit [DecidableEq ι] in
/-- A code that PostgreSQL cuts is in no row. -/
theorem OneWinner.not_cut (h : OneWinner cs p) : ¬ CutAt 20 cs.code := by
  rintro ⟨hlong, -⟩
  obtain ⟨row, hrow, -⟩ := h.rows
  have hmem : row ∈ p.world.db.urls.filter fun u => u.shortCode == cs.code := by
    rw [hrow]
    exact List.mem_singleton_self row
  rw [List.mem_filter, beq_iff_eq] at hmem
  have hfits := (storeUrl_storedAs (p.world.db.valid.stored row hmem.1)).shortCode
  have hshort := (varchar_eq_some hfits).2.1
  rw [hmem.2] at hshort
  omega

section End

variable (hvalid : ∀ i, ValidCreate cs.app db₀ cs.code (cs.bodies i) (cs.news i))

include hvalid

omit [DecidableEq ι] in
/-- A request that has returned is in one of the last three phases. -/
theorem Inv.done (h : Inv cs db₀ phase p) (hdone : p.Done i) :
    phase i = .created ∧ (∃ resp, p.procs i = .ret resp ∧ resp.status = 201) ∨
      phase i = .taken ∧ (∃ resp, p.procs i = .ret resp ∧ resp.status = 409) ∨
      phase i = .raised := by
  obtain ⟨resp, hret⟩ := hdone
  have hat := h.at_ i
  cases hphase : phase i with
  | begins =>
    rw [hphase, hret] at hat
    obtain ⟨k, hk, -⟩ := (hvalid i).starts (cs.draws i)
    cases hat.trans hk
  | checks =>
    rw [hphase, hret] at hat
    obtain ⟨k, hk, -⟩ := insertUrl_looks cs.app cs.code (cs.news i)
    cases hat.trans hk
  | inserts =>
    rw [hphase, hret] at hat
    obtain ⟨k, hk, -⟩ := hat
    cases hk
  | created =>
    rw [hphase, hret] at hat
    exact .inl ⟨rfl, resp, hret, hat.2⟩
  | taken =>
    rw [hphase] at hat
    exact .inr (.inl ⟨rfl, _, hat, rfl⟩)
  | raised => exact .inr (.inr rfl)

omit [DecidableEq ι] in
/-- **The end of a race**: it was fair just when there is one winner. -/
theorem Inv.oneWinner_iff [Nonempty ι] (h : Inv cs db₀ phase p) (hdone : ∀ i, p.Done i)
    (hfree : db₀.urlByCode cs.code = none)
    (hrefs : ∀ e ∈ db₀.events, (db₀.urlGetById e.urlId).isSome) :
    OneWinner cs p ↔ Fair cs p := by
  constructor
  · intro hone
    obtain ⟨i, resp, hi, hstatus, hothers⟩ := hone.answers
    have hnone : ∀ j, ¬ Inserting p j := by
      rintro j ⟨u, e, hnext⟩
      obtain ⟨resp, hret⟩ := hdone j
      rw [hret] at hnext
      cases hnext
    refine ⟨fun j hj => ?_, fun j hj => absurd hj (hnone j), fun j _ hj => absurd hj (hnone j)⟩
    by_cases hji : j = i
    · rw [hji, hi] at hj
      cases hj
      cases hstatus
    · obtain ⟨resp', hj', hstatus'⟩ := hothers j hji
      rw [hj'] at hj
      cases hj
      cases hstatus'
  · intro hfair
    have hphases : ∀ i, phase i = .created ∧ (∃ resp, p.procs i = .ret resp ∧ resp.status = 201) ∨
        phase i = .taken ∧ (∃ resp, p.procs i = .ret resp ∧ resp.status = 409) := by
      intro i
      obtain hc | ht | hr := h.done hvalid (hdone i)
      · exact .inl hc
      · exact .inr ht
      · exact absurd ((h.raised_iff hvalid i).2 hr) (hfair.noneRaised i)
    obtain ⟨-, hnone⟩ | ⟨hadded, i, hi, honly⟩ := h.rows
    · -- somebody has returned
      obtain ⟨i⟩ := ‹Nonempty ι›
      obtain ⟨hc, -⟩ | ⟨ht, -⟩ := hphases i
      · exact absurd hc (hnone i).1
      · exact absurd ht (hnone i).2
    · refine ⟨?_, ?_⟩
      · obtain ⟨-, resp, hret, hstatus⟩ | ⟨ht, -⟩ := hphases i
        · refine ⟨i, resp, hret, hstatus, fun j hj => ?_⟩
          obtain ⟨hc, -⟩ | ⟨-, htaken⟩ := hphases j
          · exact absurd (honly j hc) hj
          · exact htaken
        · rw [hi] at ht
          cases ht
      · obtain ⟨row, event, hcode, hid, htype, hurlId, hurls, hevents⟩ := hadded.added
        refine ⟨row, ?_, ?_⟩
        · have hold : db₀.urls.filter (fun u => u.shortCode == cs.code) = [] := by
            rw [List.filter_eq_nil_iff]
            exact List.find?_eq_none.1 hfree
          rw [hurls, List.filter_append, hold]
          simp [hcode]
        · have hold :
              db₀.events.filter (fun e => e.eventType == "created" && e.urlId == row.id) = [] := by
            rw [List.filter_eq_nil_iff]
            intro e he hmatch
            have hfound := hrefs e he
            rw [Bool.and_eq_true, beq_iff_eq, beq_iff_eq] at hmatch
            rw [hmatch.2, hid] at hfound
            cases hfound
          rw [hevents, List.filter_append, hold]
          simp [htype, hurlId]

end End

/-- **One winner**: a database that meets its constraints, any number of creates of one new code
that are valid otherwise, and any interleaving of them until all have returned. One has answered 201
and every other 409, with one row and one event, just when the code fits its column as it is and
every step was in turn. -/
theorem one_winner_iff [Nonempty ι] (scanner : Scanner) (cs : Creates ι) (w : World ι)
    (hvalid : ∀ i, ValidCreate cs.app w.db.toTables cs.code (cs.bodies i) (cs.news i))
    (hfree : w.db.urlByCode cs.code = none)
    (hrefs : ∀ e ∈ w.db.events, (w.db.urlGetById e.urlId).isSome) {p : RequestPool ι}
    (hrun : Pool.Steps (server scanner) (fun _ _ _ => True) (cs.start w) p)
    (hdone : ∀ i, p.Done i) :
    OneWinner cs p ↔
      ¬ CutAt 20 cs.code ∧ Pool.Steps (server scanner) (fun p i _ => InTurn p i)
        (cs.start w) p := by
  have hnotCut : OneWinner cs p → ¬ CutAt 20 cs.code := OneWinner.not_cut
  rw [← and_iff_right_of_imp hnotCut]
  refine and_congr_right fun hcut => ?_
  -- the code is stored as it is
  have hcode : varchar 20 cs.code = some cs.code := by
    obtain ⟨i⟩ := ‹Nonempty ι›
    obtain ⟨row, hrow⟩ := Option.isSome_iff_exists.1 (hvalid i).fits
    have hstored : varchar 20 cs.code = some row.shortCode := (storeUrl_storedAs hrow).shortCode
    rw [hstored, varchar_of_not_cut hstored hcut]
  have hstart : Inv cs w.db.toTables (fun _ => .begins) (cs.start w) :=
    ⟨fun _ => rfl, .inl ⟨.refl _, fun _ => ⟨nofun, nofun⟩⟩⟩
  have hkeeps : ∀ p p' i c, p.next (server scanner) i c = some p' →
      (∃ phase, Inv cs w.db.toTables phase p) →
      ∃ phase, Inv cs w.db.toTables phase p' := by
    rintro p p' i c hn ⟨phase, hinv⟩
    obtain ⟨phase', hinv', -⟩ := hinv.next hvalid hcode hfree hn
    exact ⟨phase', hinv'⟩
  have hfair : ∀ p p' i c, p.next (server scanner) i c = some p' →
      (∃ phase, Inv cs w.db.toTables phase p) →
      (Fair cs p' ↔ Fair cs p ∧ InTurn p i) := by
    rintro p p' i c hn ⟨phase, hinv⟩
    obtain ⟨-, -, hiff⟩ := hinv.next hvalid hcode hfree hn
    exact hiff
  have hstartFair : Fair cs (cs.start w) :=
    (hstart.fair_iff hvalid).2 ⟨fun _ => nofun, fun _ => nofun, fun _ _ => nofun⟩
  obtain ⟨phase, hinv⟩ := hrun.inv (J := fun p => ∃ phase, Inv cs w.db.toTables phase p)
    (fun p p' i c _ => hkeeps p p' i c) ⟨_, hstart⟩
  rw [hinv.oneWinner_iff hvalid hdone hfree hrefs]
  exact hrun.iff_of_step hkeeps hfair ⟨_, hstart⟩ hstartFair

end Creates

end Race

/-! ## Two requests -/

/-- Two creates with the code `mycode` for the sample user, without Redis. -/
def twoCreates : Creates (Fin 2) where
  app := sampleApp.withRedis false
  code := "mycode"
  bodies _ := sampleCreate "mycode"
  draws _ _ := sampleCode
  news _ := ⟨1, .int 1, "https://new.example", "", sampleTime 2⟩

def sampleWorld : World (Fin 2) := .start sampleDb

theorem twoCreates_valid (i : Fin 2) :
    ValidCreate twoCreates.app sampleWorld.db.toTables twoCreates.code (twoCreates.bodies i)
      (twoCreates.news i) where
  body := ⟨_, rfl, rfl, rfl, rfl, rfl, rfl⟩
  nonempty := by decide
  user := rfl
  fits := by revert i; decide

/-- One after the other, the first answers 201 and the second 409. -/
theorem one_winner_sample :
    ∃ p, Pool.Steps (server .onePage) (fun _ _ _ => True) (twoCreates.start sampleWorld) p ∧
    (∀ i, p.Done i) ∧ (twoCreates.OneWinner p ↔ ¬ CutAt 20 twoCreates.code ∧
      Pool.Steps (server .onePage) (fun p i _ => Creates.InTurn p i)
        (twoCreates.start sampleWorld) p) := by
  obtain ⟨p, hrun, hdone⟩ :
      ∃ p, (twoCreates.start sampleWorld).runIf (server .onePage) (fun _ _ _ => True)
      [(0, ()), (0, ()), (0, ()), (1, ()), (1, ())] = some p ∧ ∀ i, p.Done i := by
    refine ⟨_, rfl, fun i => ?_⟩
    match i with
    | 0 => exact ⟨_, rfl⟩
    | 1 => exact ⟨_, rfl⟩
  exact ⟨p, .of_runIf hrun, hdone,
    Creates.one_winner_iff .onePage twoCreates sampleWorld twoCreates_valid rfl
    (by decide) (.of_runIf hrun) hdone⟩

/-- Both look for the code before either inserts: the second insert raises, and the answer is
500. -/
theorem second_create_raises :
    (∀ i, ValidCreate twoCreates.app sampleWorld.db.toTables twoCreates.code (twoCreates.bodies i)
      (twoCreates.news i)) ∧
    ∃ p, Pool.Steps (server .onePage) (fun _ _ _ => True) (twoCreates.start sampleWorld) p ∧
      (∀ i, p.Done i) ∧
      ¬ twoCreates.OneWinner p := by
  refine ⟨twoCreates_valid, ?_⟩
  obtain ⟨p, hrun, hdone, hraised⟩ : ∃ p, (twoCreates.start sampleWorld).runIf (server .onePage)
      (fun _ _ _ => True) [(0, ()), (0, ()), (1, ()), (1, ()), (0, ()), (1, ())] = some p ∧
        (∀ i, p.Done i) ∧
      p.procs 1 = .ret serverError := by
    refine ⟨_, rfl, fun i => ?_, rfl⟩
    match i with
    | 0 => exact ⟨_, rfl⟩
    | 1 => exact ⟨_, rfl⟩
  refine ⟨p, .of_runIf hrun, hdone, fun hone => ?_⟩
  obtain ⟨i, resp, hret, hstatus, hothers⟩ := hone.answers
  by_cases hi : i = 1
  · rw [hi, hraised] at hret
    cases hret
    cases hstatus
  · obtain ⟨resp', hret', hstatus'⟩ := hothers 1 (Ne.symm hi)
    rw [hraised] at hret'
    cases hret'
    cases hstatus'

end PeHackathon.UrlShortener
