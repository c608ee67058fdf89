import PeHackathon.UrlShortener.Database

/-!
# The constraints of the tables

`Tables.Valid` collects what the schema declares for `urls` (primary key, unique short code, owner,
column types) and what `sync_postgres_serial_sequences` sees to at startup: the next event id is
beyond every stored one. Every statement keeps it, and `Db` carries it.

Each statement that writes has one lemma with everything it can do (`createEvent_cases`,
`createUrlTx_cases`, `saveUrlTx_cases`); the rest of the development reads the statements through
these.
-/

namespace PeHackathon.UrlShortener

/-! ## Stored rows -/

/-- What `storeUrl` keeps of a row. -/
structure StoredAs (u row : Url) : Prop where
  id : row.id = u.id
  userId : row.userId = u.userId
  isActive : row.isActive = u.isActive
  shortCode : varchar 20 u.shortCode = some row.shortCode
  originalUrl : varchar 2048 u.originalUrl = some row.originalUrl
  again : storeUrl row = some row

theorem storeTitle_idem {t t' : Option String} (h : storeTitle t = some t') :
    storeTitle t' = some t' := by
  cases t with
  | none => cases h; rfl
  | some s =>
    obtain ⟨s', hs, rfl⟩ := Option.map_eq_some_iff.1 h
    simp [storeTitle, varchar_idem hs]

theorem storeUrl_eq_some {u row : Url} : storeUrl u = some row ↔
    ∃ shortCode originalUrl title, varchar 20 u.shortCode = some shortCode ∧
      varchar 2048 u.originalUrl = some originalUrl ∧ storeTitle u.title = some title ∧
      row = { u with shortCode, originalUrl, title } := by
  simp only [storeUrl, Option.bind_eq_bind, Option.bind_eq_some_iff]
  constructor
  · rintro ⟨code, hcode, url, hurl, title, htitle, h⟩
    exact ⟨code, url, title, hcode, hurl, htitle, (Option.some.inj h).symm⟩
  · rintro ⟨code, url, title, hcode, hurl, htitle, rfl⟩
    exact ⟨code, hcode, url, hurl, title, htitle, rfl⟩

theorem storeUrl_storedAs {u row : Url} (h : storeUrl u = some row) : StoredAs u row := by
  obtain ⟨code, url, title, hcode, hurl, htitle, rfl⟩ := storeUrl_eq_some.1 h
  exact ⟨rfl, rfl, rfl, hcode, hurl, storeUrl_eq_some.2
    ⟨code, url, title, varchar_idem hcode, varchar_idem hurl, storeTitle_idem htitle, rfl⟩⟩

/-- The stored row does not depend on the id it is stored under. -/
theorem storeUrl_withId {u row : Url} (id : Int) (h : storeUrl u = some row) :
    storeUrl { u with id } = some { row with id } := by
  obtain ⟨code, url, title, hcode, hurl, htitle, rfl⟩ := storeUrl_eq_some.1 h
  exact storeUrl_eq_some.2 ⟨code, url, title, hcode, hurl, htitle, rfl⟩

/-- A stored row whose flags change is stored as it is. -/
theorem StoredAs.shortCode_eq {u row : Url} (h : StoredAs u row)
    (hu : varchar 20 u.shortCode = some u.shortCode) : row.shortCode = u.shortCode := by
  have := h.shortCode
  rw [hu] at this
  exact (Option.some.inj this).symm

/-! ## Valid tables -/

structure Tables.Valid (db : Tables) : Prop where
  idsNodup : (db.urls.map Url.id).Nodup
  codesNodup : (db.urls.map Url.shortCode).Nodup
  stored : ∀ u ∈ db.urls, storeUrl u = some u
  owned : ∀ u ∈ db.urls, (db.userGetById u.userId).isSome

instance (db : Tables) : Decidable db.Valid :=
  decidable_of_iff ((db.urls.map Url.id).Nodup ∧ (db.urls.map Url.shortCode).Nodup ∧
      (∀ u ∈ db.urls, storeUrl u = some u) ∧ (∀ u ∈ db.urls, (db.userGetById u.userId).isSome))
    ⟨fun ⟨h₁, h₂, h₃, h₄⟩ => ⟨h₁, h₂, h₃, h₄⟩, fun ⟨h₁, h₂, h₃, h₄⟩ => ⟨h₁, h₂, h₃, h₄⟩⟩

/-! ## The sequence of the events

No constraint keeps it ahead of the ids: rows that are loaded with their ids leave it behind. -/

/-- The next id of the sequence is not that of an event. -/
def Tables.EventIdFree (db : Tables) : Prop := ∀ e ∈ db.events, e.id ≠ db.eventsIdSeq

/-- No id that the sequence has yet to give is that of an event. -/
def Tables.EventsAhead (db : Tables) : Prop := ∀ e ∈ db.events, e.id < db.eventsIdSeq

instance (db : Tables) : Decidable db.EventIdFree :=
  inferInstanceAs (Decidable (∀ e ∈ db.events, _))

instance (db : Tables) : Decidable db.EventsAhead :=
  inferInstanceAs (Decidable (∀ e ∈ db.events, _))

theorem Tables.EventsAhead.free {db : Tables} (h : db.EventsAhead) : db.EventIdFree :=
  fun e he => ne_of_lt (h e he)

/-- A search by a key that no two members share. -/
theorem find?_key {α κ : Type} [BEq κ] [LawfulBEq κ] {f : α → κ} {k : κ} {a : α} :
    ∀ {l : List α}, (l.map f).Nodup → (l.find? (fun x => f x == k) = some a ↔ a ∈ l ∧ f a = k)
  | [], _ => by simp
  | x :: l, h => by
    rw [List.map_cons, List.nodup_cons] at h
    rw [List.find?_cons]
    by_cases hx : f x = k
    · subst hx
      simp only [BEq.rfl, Option.some.injEq, List.mem_cons]
      constructor
      · rintro rfl; exact ⟨.inl rfl, rfl⟩
      · rintro ⟨rfl | ha, hk⟩
        · rfl
        · exact absurd (hk ▸ List.mem_map_of_mem ha) h.1
    · have hb : (f x == k) = false := by simpa using hx
      rw [hb]
      simp only [find?_key h.2, List.mem_cons]
      constructor
      · rintro ⟨ha, hk⟩; exact ⟨.inr ha, hk⟩
      · rintro ⟨rfl | ha, hk⟩
        · exact absurd hk hx
        · exact ⟨ha, hk⟩

namespace Tables

variable {db db' : Tables} {u row : Url} {e : Event} {id : Int} {code : String}

theorem Valid.urlByCode_eq_some (h : db.Valid) :
    db.urlByCode code = some u ↔ u ∈ db.urls ∧ u.shortCode = code := find?_key h.codesNodup

theorem Valid.urlGetById_eq_some (h : db.Valid) :
    db.urlGetById id = some u ↔ u ∈ db.urls ∧ u.id = id := find?_key h.idsNodup

/-- Only events and the sequences differ. -/
structure SameUrls (db db' : Tables) : Prop where
  users : db'.users = db.users
  urls : db'.urls = db.urls

theorem SameUrls.urlByCode (h : SameUrls db db') : db'.urlByCode code = db.urlByCode code := by
  rw [Tables.urlByCode, h.urls]; rfl

theorem SameUrls.urlGetById (h : SameUrls db db') : db'.urlGetById id = db.urlGetById id := by
  rw [Tables.urlGetById, h.urls]; rfl

theorem SameUrls.userGetById (h : SameUrls db db') : db'.userGetById id = db.userGetById id := by
  rw [Tables.userGetById, h.users]; rfl

theorem SameUrls.valid (h : SameUrls db db') (hv : db.Valid) : db'.Valid where
  idsNodup := by rw [h.urls]; exact hv.idsNodup
  codesNodup := by rw [h.urls]; exact hv.codesNodup
  stored := by rw [h.urls]; exact hv.stored
  owned u hu := by rw [h.userGetById]; exact hv.owned u (h.urls ▸ hu)

/-! ### `Event.create` -/

/-- Everything `createEvent` can do. -/
theorem createEvent_cases (db : Tables) (e : Event) :
    (∃ err, (db.createEvent e).1 = .error err ∧ SameUrls db (db.createEvent e).2 ∧
      (db.createEvent e).2.events = db.events ∧
      db.eventsIdSeq ≤ (db.createEvent e).2.eventsIdSeq) ∨
    (∃ row : Event, (db.createEvent e).1 = .ok row.id ∧ SameUrls db (db.createEvent e).2 ∧
      (db.createEvent e).2.events = db.events ++ [row] ∧ row.id = db.eventsIdSeq ∧
      varchar 50 e.eventType = some row.eventType ∧ row.urlId = e.urlId ∧
      (db.createEvent e).2.eventsIdSeq = db.eventsIdSeq + 1) := by
  unfold createEvent
  split
  · rename_i type details htype hdetails
    dsimp only
    split
    · exact .inl ⟨_, rfl, ⟨rfl, rfl⟩, rfl, by dsimp only; omega⟩
    · exact .inr ⟨{ e with id := db.eventsIdSeq, eventType := type, details }, rfl, ⟨rfl, rfl⟩, rfl,
        rfl, htype, rfl, rfl⟩
  · exact .inl ⟨_, rfl, ⟨rfl, rfl⟩, rfl, le_refl _⟩

theorem createEvent_sameUrls (db : Tables) (e : Event) : SameUrls db (db.createEvent e).2 := by
  obtain ⟨_, _, h, _⟩ | ⟨_, _, h, _⟩ := createEvent_cases db e <;> exact h

theorem createEvent_eventsAhead (h : db.EventsAhead) (e : Event) :
    (db.createEvent e).2.EventsAhead := by
  obtain ⟨_, _, _, hev, hseq⟩ | ⟨row, _, _, hev, hid, _, _, hseq⟩ := createEvent_cases db e
  · unfold EventsAhead
    rw [hev]
    exact fun e' he' => lt_of_lt_of_le (h e' he') hseq
  · unfold EventsAhead
    rw [hev, hseq]
    intro e' he'
    rcases List.mem_append.1 he' with he' | he'
    · have := h e' he'
      omega
    · rw [List.mem_singleton.1 he', hid]
      omega

theorem createEvent_valid (h : db.Valid) (e : Event) : (db.createEvent e).2.Valid :=
  (createEvent_sameUrls db e).valid h

theorem eventIdFree_iff :
    db.EventIdFree ↔ db.events.any (fun e => e.id == db.eventsIdSeq) = false := by
  simp [EventIdFree]

/-- An event with plain texts about a stored URL and user is stored exactly if its id is free. -/
theorem createEvent_ok_iff (htype : (varchar 50 e.eventType).isSome)
    (hdetails : (textColumn e.details).isSome) (hurl : (db.urlGetById e.urlId).isSome)
    (huser : (db.userGetById e.userId).isSome) :
    (∃ id, (db.createEvent e).1 = .ok id) ↔ db.EventIdFree := by
  obtain ⟨type, htype⟩ := Option.isSome_iff_exists.1 htype
  obtain ⟨details, hdetails⟩ := Option.isSome_iff_exists.1 hdetails
  rw [eventIdFree_iff]
  unfold createEvent
  rw [htype, hdetails]
  cases hfree : db.events.any fun e => e.id == db.eventsIdSeq <;>
    simp [hfree, Option.isNone_iff_eq_none, Option.ne_none_iff_isSome.2 hurl,
      Option.ne_none_iff_isSome.2 huser]

theorem createEvent_ok (hfree : db.EventIdFree) (htype : (varchar 50 e.eventType).isSome)
    (hdetails : (textColumn e.details).isSome) (hurl : (db.urlGetById e.urlId).isSome)
    (huser : (db.userGetById e.userId).isSome) : ∃ id, (db.createEvent e).1 = .ok id :=
  (createEvent_ok_iff htype hdetails hurl huser).2 hfree

/-- A sequence that is behind is behind after an event, unless it has met the id it was behind
of. -/
theorem createEvent_lags (hfree : db.EventIdFree) (h : ¬ db.EventsAhead) (e : Event) :
    ¬ (db.createEvent e).2.EventsAhead := by
  unfold EventsAhead at h ⊢
  push Not at h ⊢
  obtain ⟨e', he', hid⟩ := h
  have hne := hfree e' he'
  unfold createEvent
  split
  · dsimp only
    split
    · exact ⟨e', he', by dsimp only; omega⟩
    · exact ⟨e', List.mem_append_left _ he', by dsimp only; omega⟩
  · exact ⟨e', he', hid⟩

theorem createEvent_free (h : (db.createEvent e).1 = .ok id) : db.EventIdFree := by
  rw [eventIdFree_iff]
  unfold createEvent at h
  split at h
  · dsimp only at h
    split at h
    · cases h
    · rename_i hfree
      simp only [Bool.or_eq_true, not_or, Bool.not_eq_true] at hfree
      exact hfree.1.1
  · cases h

/-! ### Transactions -/

/-- Everything the tail of a transaction can do. -/
theorem commitWith_cases (before changed : Tables) (e : Event) :
    (∃ err, (commitWith before changed e).1 = .error err ∧
      SameUrls before (commitWith before changed e).2 ∧
      (commitWith before changed e).2.events = before.events ∧
      changed.eventsIdSeq ≤ (commitWith before changed e).2.eventsIdSeq) ∨
    ((commitWith before changed e).1 = .ok () ∧
      (commitWith before changed e).2 = (changed.createEvent e).2) := by
  unfold commitWith
  split
  · rename_i err db' hdb'
    have hseq : changed.eventsIdSeq ≤ db'.eventsIdSeq := by
      obtain ⟨_, _, _, _, h⟩ | ⟨_, h, _⟩ := createEvent_cases changed e
      · simpa [hdb'] using h
      · rw [hdb'] at h
        cases h
    exact .inl ⟨err, rfl, ⟨rfl, rfl⟩, rfl, hseq⟩
  · rename_i hdb'
    exact .inr ⟨rfl, by rw [hdb']⟩

/-- Everything `createUrlTx` can do. -/
theorem createUrlTx_cases (db : Tables) (u : Url) (e : Event) :
    (∃ err, (db.createUrlTx u e).1 = .error err ∧ SameUrls db (db.createUrlTx u e).2 ∧
      (db.createUrlTx u e).2.events = db.events ∧
      db.eventsIdSeq ≤ (db.createUrlTx u e).2.eventsIdSeq) ∨
    (∃ row, storeUrl u = some row ∧ (db.createUrlTx u e).1 = .ok db.urlsIdSeq ∧
      db.urlGetById db.urlsIdSeq = none ∧ db.urlByCode row.shortCode = none ∧
      (db.userGetById row.userId).isSome ∧
      (db.createUrlTx u e).2 =
        ((db.insertUrl row).createEvent { e with urlId := db.urlsIdSeq }).2) := by
  unfold createUrlTx
  cases hrow : storeUrl u with
  | none => exact .inl ⟨_, rfl, ⟨rfl, rfl⟩, rfl, le_refl _⟩
  | some row =>
    dsimp only
    split
    · exact .inl ⟨_, rfl, ⟨rfl, rfl⟩, rfl, le_refl _⟩
    · rename_i hfree
      simp only [Bool.or_eq_true, not_or, Option.not_isSome_iff_eq_none,
        Option.isNone_iff_eq_none] at hfree
      obtain ⟨⟨hid, hcode⟩, huser⟩ := hfree
      obtain ⟨err, h₁, h₂, h₃, h₄⟩ | ⟨h₁, h₂⟩ := commitWith_cases
        { db with urlsIdSeq := db.urlsIdSeq + 1 } (db.insertUrl row)
        { e with urlId := db.urlsIdSeq }
      · split
        · rename_i hc
          rw [hc] at h₂ h₃ h₄
          exact .inl ⟨_, rfl, ⟨h₂.users, h₂.urls⟩, h₃, h₄⟩
        · rename_i hc
          rw [hc] at h₁
          cases h₁
      · split
        · rename_i hc
          rw [hc] at h₁
          cases h₁
        · rename_i hc
          rw [hc] at h₂
          exact .inr ⟨row, rfl, rfl, hid, hcode, Option.ne_none_iff_isSome.1 huser, h₂⟩

/-- A create that commits has found the id of its event free. -/
theorem createUrlTx_free (h : (db.createUrlTx u e).1 = .ok id) : db.EventIdFree := by
  unfold createUrlTx at h
  split at h
  · cases h
  · dsimp only at h
    split at h
    · cases h
    · split at h
      · cases h
      · rename_i hcommit
        unfold commitWith at hcommit
        split at hcommit
        · cases hcommit
        · rename_i hevent
          have hfree := createEvent_free (congrArg Prod.fst hevent)
          exact hfree

theorem createUrlTx_lags (h : ¬ db.EventsAhead) (hok : (db.createUrlTx u e).1 = .ok id) :
    ¬ (db.createUrlTx u e).2.EventsAhead := by
  obtain ⟨_, herr, _⟩ | ⟨row, _, _, _, _, _, hdb⟩ := createUrlTx_cases db u e
  · rw [hok] at herr
    cases herr
  · have hfree : db.EventIdFree := createUrlTx_free hok
    rw [hdb]
    exact createEvent_lags (show (db.insertUrl row).EventIdFree from hfree) h _

/-- Everything `saveUrlTx` can do. -/
theorem saveUrlTx_cases (db : Tables) (u : Url) (e : Event) :
    (∃ err, (db.saveUrlTx u e).1 = .error err ∧ SameUrls db (db.saveUrlTx u e).2 ∧
      (db.saveUrlTx u e).2.events = db.events ∧
      db.eventsIdSeq ≤ (db.saveUrlTx u e).2.eventsIdSeq) ∨
    (∃ row, storeUrl u = some row ∧ (db.saveUrlTx u e).1 = .ok () ∧
      (∀ v ∈ db.urls, v.id ≠ u.id → v.shortCode ≠ row.shortCode) ∧
      (db.userGetById row.userId).isSome ∧
      (db.saveUrlTx u e).2 = ((db.replaceUrl row).createEvent e).2) := by
  unfold saveUrlTx
  cases hrow : storeUrl u with
  | none => exact .inl ⟨_, rfl, ⟨rfl, rfl⟩, rfl, le_refl _⟩
  | some row =>
    dsimp only
    split
    · exact .inl ⟨_, rfl, ⟨rfl, rfl⟩, rfl, le_refl _⟩
    · rename_i hfree
      simp only [Bool.or_eq_true, not_or, Option.isNone_iff_eq_none, List.any_eq_true, not_exists,
        not_and, Bool.and_eq_true, bne_iff_ne, ne_eq, beq_iff_eq] at hfree
      obtain ⟨hcode, huser⟩ := hfree
      obtain ⟨err, h₁, h₂, h₃, h₄⟩ | ⟨h₁, h₂⟩ := commitWith_cases db (db.replaceUrl row) e
      · exact .inl ⟨err, h₁, h₂, h₃, h₄⟩
      · exact .inr ⟨row, rfl, h₁, hcode, Option.ne_none_iff_isSome.1 huser, h₂⟩

/-- So has a save. -/
theorem saveUrlTx_free (h : (db.saveUrlTx u e).1 = .ok ()) : db.EventIdFree := by
  unfold saveUrlTx at h
  split at h
  · cases h
  · split at h
    · cases h
    · unfold commitWith at h
      split at h
      · cases h
      · rename_i hevent
        have hfree := createEvent_free (congrArg Prod.fst hevent)
        exact hfree

theorem insertUrl_valid (h : db.Valid) (hrow : storeUrl row = some row)
    (hid : db.urlGetById db.urlsIdSeq = none) (hcode : db.urlByCode row.shortCode = none)
    (huser : (db.userGetById row.userId).isSome) : (db.insertUrl row).Valid where
  idsNodup := by
    rw [insertUrl, List.map_append, List.nodup_append]
    refine ⟨h.idsNodup, by simp, ?_⟩
    rintro _ hm _ hm' rfl
    obtain ⟨v, hv, rfl⟩ := List.mem_map.1 hm
    simp only [List.map_cons, List.map_nil, List.mem_singleton] at hm'
    have := h.urlGetById_eq_some.2 ⟨hv, hm'⟩
    rw [hid] at this
    cases this
  codesNodup := by
    rw [insertUrl, List.map_append, List.nodup_append]
    refine ⟨h.codesNodup, by simp, ?_⟩
    rintro _ hm _ hm' rfl
    obtain ⟨v, hv, rfl⟩ := List.mem_map.1 hm
    simp only [List.map_cons, List.map_nil, List.mem_singleton] at hm'
    have := h.urlByCode_eq_some.2 ⟨hv, hm'⟩
    rw [hcode] at this
    cases this
  stored v hv := by
    rcases List.mem_append.1 hv with hv | hv
    · exact h.stored v hv
    · rw [List.mem_singleton.1 hv]
      exact storeUrl_withId _ hrow
  owned v hv := by
    rcases List.mem_append.1 hv with hv | hv
    · exact h.owned v hv
    · rw [List.mem_singleton.1 hv]
      exact huser

theorem replaceUrl_valid (h : db.Valid) (hrow : storeUrl row = some row)
    (hcode : ∀ v ∈ db.urls, v.id ≠ row.id → v.shortCode ≠ row.shortCode)
    (huser : (db.userGetById row.userId).isSome) : (db.replaceUrl row).Valid where
  idsNodup := by
    -- no id changes
    have : (db.replaceUrl row).urls.map Url.id = db.urls.map Url.id := by
      rw [replaceUrl, List.map_map]
      refine List.map_congr_left fun v _ => ?_
      by_cases hv : v.id = row.id <;> simp [hv]
    rw [this]
    exact h.idsNodup
  codesNodup := by
    -- the only row whose code may change is the one with the saved id
    rw [replaceUrl, List.map_map]
    refine List.Nodup.map_on ?_ (List.Nodup.of_map _ h.codesNodup)
    intro v hv v' hv' heq
    by_cases hvu : v.id = row.id <;> by_cases hvu' : v'.id = row.id
    · exact List.inj_on_of_nodup_map h.idsNodup hv hv' (hvu.trans hvu'.symm)
    · simp only [Function.comp, hvu, hvu', BEq.rfl, if_true, beq_iff_eq, if_false] at heq
      exact absurd heq.symm (hcode v' hv' hvu')
    · simp only [Function.comp, hvu, hvu', BEq.rfl, if_true, beq_iff_eq, if_false] at heq
      exact absurd heq (hcode v hv hvu)
    · simp only [Function.comp, hvu, hvu', beq_iff_eq, if_false] at heq
      exact List.inj_on_of_nodup_map h.codesNodup hv hv' heq
  stored v hv := by
    obtain ⟨v₀, hv₀, rfl⟩ := List.mem_map.1 hv
    split
    · exact hrow
    · exact h.stored v₀ hv₀
  owned v hv := by
    obtain ⟨v₀, hv₀, rfl⟩ := List.mem_map.1 hv
    split
    · exact huser
    · exact h.owned v₀ hv₀

/-- The rows after an `INSERT`, by short code. -/
theorem insertUrl_urlByCode (h : db.Valid) (h' : (db.insertUrl row).Valid)
    (hcode : db.urlByCode row.shortCode = none) (code : String) :
    (db.insertUrl row).urlByCode code =
      if code = row.shortCode then some { row with id := db.urlsIdSeq } else db.urlByCode code := by
  ext v
  rw [h'.urlByCode_eq_some]
  by_cases hc : code = row.shortCode
  · subst hc
    rw [if_pos rfl]
    constructor
    · rintro ⟨hv, hvc⟩
      rcases List.mem_append.1 hv with hv | hv
      · rw [h.urlByCode_eq_some.2 ⟨hv, hvc⟩] at hcode
        cases hcode
      · rw [List.mem_singleton.1 hv]
    · intro hv
      cases hv
      exact ⟨List.mem_append_right _ (List.mem_singleton_self _), rfl⟩
  · rw [if_neg hc, h.urlByCode_eq_some]
    constructor
    · rintro ⟨hv, hvc⟩
      rcases List.mem_append.1 hv with hv | hv
      · exact ⟨hv, hvc⟩
      · rw [List.mem_singleton.1 hv] at hvc
        exact absurd hvc.symm hc
    · rintro ⟨hv, hvc⟩
      exact ⟨List.mem_append_left _ hv, hvc⟩

/-- The rows after an `UPDATE` that leaves the short code alone, by short code. -/
theorem replaceUrl_urlByCode (h : db.Valid) (h' : (db.replaceUrl row).Valid) {v₀ : Url}
    (hid : db.urlGetById row.id = some v₀) (hkeep : row.shortCode = v₀.shortCode) (code : String) :
    (db.replaceUrl row).urlByCode code =
      if code = row.shortCode then some row else db.urlByCode code := by
  obtain ⟨hv₀, hv₀id⟩ := h.urlGetById_eq_some.1 hid
  have hother : ∀ v ∈ db.urls, v.shortCode = row.shortCode → v.id = row.id := fun v hv hvc =>
    hv₀id ▸ congrArg Url.id (List.inj_on_of_nodup_map h.codesNodup hv hv₀ (hvc.trans hkeep))
  ext v
  rw [h'.urlByCode_eq_some]
  by_cases hc : code = row.shortCode
  · subst hc
    rw [if_pos rfl]
    constructor
    · rintro ⟨hv, hvc⟩
      obtain ⟨v₁, hv₁, rfl⟩ := List.mem_map.1 hv
      by_cases hi : v₁.id = row.id
      · simp [hi]
      · simp only [beq_iff_eq, hi, if_false] at hvc
        exact absurd (hother v₁ hv₁ hvc) hi
    · intro hv
      cases hv
      exact ⟨List.mem_map.2 ⟨v₀, hv₀, by simp [hv₀id]⟩, rfl⟩
  · rw [if_neg hc, h.urlByCode_eq_some]
    constructor
    · rintro ⟨hv, hvc⟩
      obtain ⟨v₁, hv₁, rfl⟩ := List.mem_map.1 hv
      by_cases hi : v₁.id = row.id
      · simp only [hi, BEq.rfl, if_true] at hvc
        exact absurd hvc.symm hc
      · simp only [beq_iff_eq, hi, if_false] at hvc ⊢
        exact ⟨hv₁, hvc⟩
    · rintro ⟨hv, rfl⟩
      have hi : v.id ≠ row.id := by
        intro hi
        have := List.inj_on_of_nodup_map h.idsNodup hv hv₀ (hi.trans hv₀id.symm)
        exact hc (this ▸ hkeep.symm)
      exact ⟨List.mem_map.2 ⟨v, hv, by simp [hi]⟩, rfl⟩

theorem createUrlTx_valid (h : db.Valid) (u : Url) (e : Event) : (db.createUrlTx u e).2.Valid := by
  obtain ⟨_, _, hs, _, _⟩ | ⟨row, hrow, _, hid, hcode, huser, hdb⟩ := createUrlTx_cases db u e
  · exact hs.valid h
  · rw [hdb]
    exact createEvent_valid
      (insertUrl_valid h (storeUrl_storedAs hrow).again hid hcode huser) _

theorem saveUrlTx_valid (h : db.Valid) (u : Url) (e : Event) : (db.saveUrlTx u e).2.Valid := by
  obtain ⟨_, _, hs, _, _⟩ | ⟨row, hrow, _, hcode, huser, hdb⟩ := saveUrlTx_cases db u e
  · exact hs.valid h
  · have hst := storeUrl_storedAs hrow
    rw [hdb]
    exact createEvent_valid (replaceUrl_valid h hst.again (hst.id ▸ hcode) huser) _

theorem createUrlTx_eventsAhead (h : db.EventsAhead) (u : Url) (e : Event) :
    (db.createUrlTx u e).2.EventsAhead := by
  obtain ⟨_, _, _, hev, hseq⟩ | ⟨row, _, _, _, _, _, hdb⟩ := createUrlTx_cases db u e
  · unfold EventsAhead
    rw [hev]
    exact fun e he => lt_of_lt_of_le (h e he) hseq
  · rw [hdb]
    exact createEvent_eventsAhead (show (db.insertUrl row).EventsAhead from h) _

theorem saveUrlTx_eventsAhead (h : db.EventsAhead) (u : Url) (e : Event) :
    (db.saveUrlTx u e).2.EventsAhead := by
  obtain ⟨_, _, _, hev, hseq⟩ | ⟨row, _, _, _, _, hdb⟩ := saveUrlTx_cases db u e
  · unfold EventsAhead
    rw [hev]
    exact fun e he => lt_of_lt_of_le (h e he) hseq
  · rw [hdb]
    exact createEvent_eventsAhead (show (db.replaceUrl row).EventsAhead from h) _

end Tables

/-! ## The database -/

/-- Tables that meet their constraints. -/
structure Db extends Tables where
  valid : toTables.Valid
  deriving DecidableEq

namespace Db

def createEvent (db : Db) (e : Event) : Except DbError Int × Db :=
  ((db.toTables.createEvent e).1,
    ⟨(db.toTables.createEvent e).2, Tables.createEvent_valid db.valid e⟩)

def createUrlTx (db : Db) (u : Url) (e : Event) : Except DbError Int × Db :=
  ((db.toTables.createUrlTx u e).1,
    ⟨(db.toTables.createUrlTx u e).2, Tables.createUrlTx_valid db.valid u e⟩)

def saveUrlTx (db : Db) (u : Url) (e : Event) : Except DbError Unit × Db :=
  ((db.toTables.saveUrlTx u e).1,
    ⟨(db.toTables.saveUrlTx u e).2, Tables.saveUrlTx_valid db.valid u e⟩)

variable {db : Db} {u v₀ : Url} {e : Event} {id : Int} {err : DbError}

theorem createEvent_urlByCode (code : String) :
    (db.createEvent e).2.urlByCode code = db.urlByCode code :=
  (Tables.createEvent_sameUrls db.toTables e).urlByCode

theorem createEvent_urlGetById (id : Int) :
    (db.createEvent e).2.urlGetById id = db.urlGetById id :=
  (Tables.createEvent_sameUrls db.toTables e).urlGetById

/-- A `create` that raised leaves the rows alone. -/
theorem createUrlTx_error (h : (db.createUrlTx u e).1 = .error err) :
    Tables.SameUrls db.toTables (db.createUrlTx u e).2.toTables := by
  obtain ⟨_, _, hs, _⟩ | ⟨row, _, hok, _⟩ := Tables.createUrlTx_cases db.toTables u e
  · exact hs
  · rw [createUrlTx, hok] at h
    cases h

/-- **A committed `create`**: one more row, the stored form of the given one. -/
theorem createUrlTx_ok (h : (db.createUrlTx u e).1 = .ok id) :
    ∃ row, storeUrl u = some row ∧ db.urlByCode row.shortCode = none ∧
      (∀ code, (db.createUrlTx u e).2.urlByCode code =
        if code = row.shortCode then some { row with id := db.urlsIdSeq }
        else db.urlByCode code) ∧
      ∀ id v, db.urlGetById id = some v → (db.createUrlTx u e).2.urlGetById id = some v := by
  obtain ⟨err, herr, _⟩ | ⟨row, hrow, _, hid, hcode, huser, hdb⟩ :=
    Tables.createUrlTx_cases db.toTables u e
  · rw [createUrlTx, herr] at h
    cases h
  · have hvalid := Tables.insertUrl_valid db.valid (storeUrl_storedAs hrow).again hid hcode huser
    have hsame := Tables.createEvent_sameUrls (db.toTables.insertUrl row)
      { e with urlId := db.urlsIdSeq }
    refine ⟨row, hrow, hcode, fun code => ?_, fun id v hv => ?_⟩
    · rw [createUrlTx]
      dsimp only
      rw [hdb, hsame.urlByCode, Tables.insertUrl_urlByCode db.valid hvalid hcode]
    · rw [createUrlTx]
      dsimp only
      rw [hdb, hsame.urlGetById, hvalid.urlGetById_eq_some]
      obtain ⟨hm, hid⟩ := db.valid.urlGetById_eq_some.1 hv
      exact ⟨List.mem_append_left _ hm, hid⟩

/-- A `save` that raised leaves the rows alone. -/
theorem saveUrlTx_error (h : (db.saveUrlTx u e).1 = .error err) :
    Tables.SameUrls db.toTables (db.saveUrlTx u e).2.toTables := by
  obtain ⟨_, _, hs, _⟩ | ⟨row, _, hok, _⟩ := Tables.saveUrlTx_cases db.toTables u e
  · exact hs
  · rw [saveUrlTx, hok] at h
    cases h

/-- **A committed `save`** of a changed row whose short code is the stored one: the row with that
code is the stored form of the given one, every other code keeps its row, and every id its code. -/
theorem saveUrlTx_ok (h : (db.saveUrlTx u e).1 = .ok ()) (hload : db.urlGetById u.id = some v₀)
    (hcode : u.shortCode = v₀.shortCode) :
    ∃ row, storeUrl u = some row ∧ row.shortCode = u.shortCode ∧
      (∀ code, (db.saveUrlTx u e).2.urlByCode code =
        if code = u.shortCode then some row else db.urlByCode code) ∧
      ∀ id v, db.urlGetById id = some v → ∃ v', (db.saveUrlTx u e).2.urlGetById id = some v' ∧
        v'.shortCode = v.shortCode := by
  obtain ⟨err, herr, _⟩ | ⟨row, hrow, _, hfree, huser, hdb⟩ :=
    Tables.saveUrlTx_cases db.toTables u e
  · rw [saveUrlTx, herr] at h
    cases h
  · have hst := storeUrl_storedAs hrow
    have hmem := (db.valid.urlGetById_eq_some.1 hload).1
    have hfits := (storeUrl_storedAs (db.valid.stored v₀ hmem)).shortCode
    have hsc : row.shortCode = u.shortCode := hst.shortCode_eq (by rw [hcode]; exact hfits)
    have hvalid := Tables.replaceUrl_valid db.valid hst.again (hst.id ▸ hfree) huser
    have hsame := Tables.createEvent_sameUrls (db.toTables.replaceUrl row) e
    refine ⟨row, hrow, hsc, fun code => ?_, fun id v hv => ?_⟩
    · rw [saveUrlTx]
      dsimp only
      rw [hdb, hsame.urlByCode, Tables.replaceUrl_urlByCode db.valid hvalid (hst.id ▸ hload)
        (hsc.trans hcode), hsc]
    · rw [saveUrlTx]
      dsimp only
      rw [hdb, hsame.urlGetById]
      obtain ⟨hm, rfl⟩ := db.valid.urlGetById_eq_some.1 hv
      by_cases hid : v.id = row.id
      · rw [hid, hst.id, hload] at hv
        obtain rfl : v₀ = v := Option.some.inj hv
        exact ⟨row, hvalid.urlGetById_eq_some.2
          ⟨List.mem_map.2 ⟨v₀, hm, by simp [hid]⟩, hid.symm⟩, hsc.trans hcode⟩
      · exact ⟨v, hvalid.urlGetById_eq_some.2 ⟨List.mem_map.2 ⟨v, hm, by simp [hid]⟩, rfl⟩, rfl⟩

end Db

end PeHackathon.UrlShortener
