import PeHackathon.UrlShortener.CreateRace
import PeHackathon.UrlShortener.EventWrites
import PeHackathon.UrlShortener.RedirectRace
import PeHackathon.UrlShortener.SequentialRedirect

/-!
# A DELETE sent twice

`delete_url` answers "URL not found or already deleted" when the row is missing, but a deleted row
is still there: `is_active` is not looked at. The second DELETE of an existing URL stamps the row
once more and adds a second `deleted` event (`deleteUrl_existing`), so only a DELETE that found no
row can be repeated without effect (`delete_repeatable_iff`).
-/

namespace PeHackathon.UrlShortener

open Lib

/-! ## The transaction -/

/-- The row that `delete_url` saves. -/
def Url.deleted (u : Url) (now : DateTime) : Url := { u with isActive := false, updatedAt := now }

/-- The event that `delete_url` creates. -/
def deletedEvent (u : Url) (now : DateTime) : Event :=
  { id := 0, urlId := u.id, userId := u.userId, eventType := "deleted", timestamp := now,
    details := deletedDetails u.shortCode }

section Transaction

variable {db : Tables} {u v : Url} {id : Int} {now : DateTime}

theorem storeUrl_deleted (h : storeUrl u = some u) (now : DateTime) :
    storeUrl (u.deleted now) = some (u.deleted now) := by
  obtain ⟨code, url, title, hcode, hurl, htitle, hu⟩ := storeUrl_eq_some.1 h
  refine storeUrl_eq_some.2 ⟨code, url, title, hcode, hurl, htitle, ?_⟩
  rw [hu]
  rfl

theorem textColumn_deletedDetails {code : String} (h : sendable code) :
    textColumn (deletedDetails code) = some (deletedDetails code) := by
  have hparts : sendable "\x7b\"short_code\":\"" = true ∧
      sendable "\",\"reason\":\"user_deleted\"\x7d" = true := by
    decide
  have hs : sendable (deletedDetails code) = true := by
    unfold deletedDetails
    rw [sendable_append, sendable_append, hparts.1, hparts.2, h]
    rfl
  rw [textColumn, if_pos hs]

/-- A save whose row and event are both accepted commits. -/
theorem Tables.saveUrlTx_commits {row : Url} {e : Event} {eid : Int} (hrow : storeUrl u = some row)
    (hfree : ∀ v ∈ db.urls, v.id ≠ u.id → v.shortCode ≠ row.shortCode)
    (huser : (db.userGetById row.userId).isSome)
    (he : ((db.replaceUrl row).createEvent e).1 = .ok eid) :
    db.saveUrlTx u e = (.ok (), ((db.replaceUrl row).createEvent e).2) := by
  have hcode : db.urls.any (fun v => v.id != u.id && v.shortCode == row.shortCode) = false := by
    rw [List.any_eq_false]
    intro v hv
    simpa using hfree v hv
  have hnone : (db.userGetById row.userId).isNone = false := by
    rw [← Option.not_isSome, huser]
    rfl
  unfold saveUrlTx commitWith
  rw [hrow]
  dsimp only
  rw [hcode, hnone]
  cases hevent : (db.replaceUrl row).createEvent e with
  | mk answer db' =>
    rw [hevent] at he
    dsimp only at he
    subst he
    rfl

/-- A save of a row that was read, with its code and its owner, commits if the texts are stored and
the id of the event is free. -/
theorem Tables.saveUrlTx_loaded {v₀ row : Url} {e : Event} (h : db.Valid) (hevent : db.EventIdFree)
    (hload : db.urlGetById u.id = some v₀) (hcode : u.shortCode = v₀.shortCode)
    (howner : u.userId = v₀.userId) (hrow : storeUrl u = some row)
    (htype : (varchar 50 e.eventType).isSome) (hdetails : (textColumn e.details).isSome)
    (hurlId : e.urlId = u.id) (huserId : e.userId = u.userId) :
    ∃ eid, ((db.replaceUrl row).createEvent e).1 = .ok eid ∧
      db.saveUrlTx u e = (.ok (), ((db.replaceUrl row).createEvent e).2) := by
  obtain ⟨hmem, hid⟩ := h.urlGetById_eq_some.1 hload
  have hst := storeUrl_storedAs hrow
  have howned : (db.userGetById u.userId).isSome = true := by
    rw [howner]
    exact h.owned v₀ hmem
  have hrowOwned : (db.userGetById row.userId).isSome = true := by
    rw [hst.userId]
    exact howned
  -- no other row has the short code
  have hsame : row.shortCode = v₀.shortCode := by
    rw [hst.shortCode_eq (by rw [hcode]; exact (storeUrl_storedAs (h.stored v₀ hmem)).shortCode),
      hcode]
  have hfree : ∀ v ∈ db.urls, v.id ≠ u.id → v.shortCode ≠ row.shortCode := fun v hv hne hother => by
    have hv₀ := h.urlByCode_eq_some.2 ⟨hmem, rfl⟩
    have hv' := h.urlByCode_eq_some.2 ⟨hv, hother.trans hsame⟩
    rw [hv₀] at hv'
    exact hne (by rw [← Option.some.inj hv', hid])
  have hvalid : (db.replaceUrl row).Valid :=
    Tables.replaceUrl_valid h hst.again (hst.id ▸ hfree) hrowOwned
  have hthere : (db.replaceUrl row).urlGetById e.urlId = some row :=
    hvalid.urlGetById_eq_some.2
      ⟨List.mem_map.2 ⟨v₀, hmem, if_pos (by rw [hst.id, hid, beq_self_eq_true])⟩,
      by rw [hst.id, hurlId]⟩
  -- so the event can be created
  obtain ⟨eid, heid⟩ :=
    Tables.createEvent_ok (show (db.replaceUrl row).EventIdFree from hevent) htype
    hdetails (by rw [hthere]; rfl) (by rw [huserId]; exact howned)
  exact ⟨eid, heid, Tables.saveUrlTx_commits hrow hfree hrowOwned heid⟩

/-- **The transaction of a DELETE** commits whatever the row says of itself: the row is stamped, and
one event is added. -/
theorem Tables.saveUrlTx_deleted (h : db.Valid) (hevent : db.EventIdFree)
    (hu : db.urlGetById id = some u) (now : DateTime) :
    (db.saveUrlTx (u.deleted now) (deletedEvent u now)).1 = .ok () ∧
      (db.saveUrlTx (u.deleted now) (deletedEvent u now)).2.urls =
        (db.replaceUrl (u.deleted now)).urls ∧
      ∃ row : Event, row.eventType = "deleted" ∧ row.urlId = id ∧
        (db.saveUrlTx (u.deleted now) (deletedEvent u now)).2.events = db.events ++ [row] := by
  obtain ⟨hmem, rfl⟩ := h.urlGetById_eq_some.1 hu
  have hstored := h.stored u hmem
  have hrow := storeUrl_deleted hstored now
  have hsendable := (varchar_eq_some (storeUrl_storedAs hstored).shortCode).1
  have htype : varchar 50 "deleted" = some "deleted" := by decide
  obtain ⟨eid, heid, hcommits⟩ :=
    Tables.saveUrlTx_loaded (u := u.deleted now) (e := deletedEvent u now) h hevent hu rfl rfl hrow
    (by rw [deletedEvent, htype]; rfl)
      (by rw [deletedEvent, textColumn_deletedDetails hsendable]; rfl) rfl rfl
  rw [hcommits]
  obtain ⟨_, herr, -⟩ | ⟨row, -, hsame, hevents, -, hrowType, hrowUrl, -⟩ :=
    Tables.createEvent_cases (db.replaceUrl (u.deleted now)) (deletedEvent u now)
  · rw [heid] at herr
    cases herr
  · refine ⟨rfl, hsame.urls, row, ?_, hrowUrl, hevents⟩
    rw [deletedEvent, htype] at hrowType
    exact (Option.some.inj hrowType).symm

end Transaction

/-! ## The request -/

section Request

variable {scanner : Scanner} {app : App} {w w' w₁ : World Unit} {a : Response} {u : Url}
  {urlId : Int} {now : DateTime}

/-- The invalidations after a save touch Redis and the record only. -/
theorem invalidate_eval (hfuel : scanner.bound < app.scanFuel) (code : String) (response : Response)
    (w : World Unit) :
    ∃ w', (server scanner).eval () () (do
        invalidateRedirect app.redis code
        invalidateUrlLists app.redis app.scanFuel
        pure response) w = some (response, w') ∧ w'.db = w.db := by
  cases app.redis with
  | false => exact ⟨w, rfl, rfl⟩
  | true =>
    obtain ⟨r, hscan, -⟩ := invalidateUrlLists_eval (i := ())
      (w := w.delete () [.redirect code]) hfuel
    refine ⟨{ w.delete () [.redirect code] with redis := r }, ?_, rfl⟩
    rw [Server.eval_bind, invalidateRedirect_eval, Option.bind_some, Server.eval_bind, hscan]
    rfl

/-- A DELETE of a URL that has no row. -/
theorem deleteUrl_missing (hu : w.db.urlGetById urlId = none) :
    serveApi scanner app (.url (.deleteUrl urlId now)) w =
      some (jsonResponse 200 (.obj [("error", .str "URL not found"),
        ("message", .str "URL not found or already deleted")]), w) := by
  have hload : (server scanner).eval () () (urlGetById urlId) w = some (none, w) := by
    rw [← hu]
    rfl
  show (server scanner).eval () () (deleteUrl app urlId now) w = _
  unfold deleteUrl
  rw [Server.eval_bind, hload]
  rfl

/-- **A DELETE of a URL that has a row**, active or not. -/
theorem deleteUrl_existing (hfuel : scanner.bound < app.scanFuel) (hevent : w.db.EventIdFree)
    (hu : w.db.urlGetById urlId = some u) (now : DateTime) :
    ∃ w', serveApi scanner app (.url (.deleteUrl urlId now)) w =
        some (jsonResponse 200 (.obj [("message", .str "URL deleted (soft delete)")]), w') ∧
      w'.db.urls = (w.db.replaceUrl (u.deleted now)).urls ∧
      ∃ row : Event, row.eventType = "deleted" ∧ row.urlId = urlId ∧ w'.db.events = w.db.events ++
        [row] := by
  obtain ⟨hok, hurls, hevents⟩ := w.db.toTables.saveUrlTx_deleted w.db.valid hevent hu now
  have hload : (server scanner).eval () () (urlGetById urlId) w = some (some u, w) := by
    rw [← hu]
    rfl
  have hsave : (server scanner).eval () () (saveUrlTx (u.deleted now) (deletedEvent u now)) w =
      some (.ok (), w.noteWrite () u.shortCode
        (w.db.saveUrlTx (u.deleted now) (deletedEvent u now)).2) :=
    congrArg some (World.save_ok hok)
  obtain ⟨w', hrest, hdb⟩ := invalidate_eval hfuel u.shortCode
    (jsonResponse 200 (.obj [("message", .str "URL deleted (soft delete)")]))
    (w.noteWrite () u.shortCode (w.db.saveUrlTx (u.deleted now) (deletedEvent u now)).2)
  refine ⟨w', ?_, by rw [hdb]; exact hurls, by rw [hdb]; exact hevents⟩
  show (server scanner).eval () () (deleteUrl app urlId now) w = _
  unfold deleteUrl
  rw [Server.eval_bind, hload]
  show (server scanner).eval () () (saveUrl app (u.deleted now) (deletedEvent u now) _) w = _
  unfold saveUrl
  rw [Server.eval_bind, hsave]
  exact hrest

end Request

/-! ## Sent twice -/

/-- The URL an update or a delete is about. -/
def ApiRequest.writes : ApiRequest → Option Int
  | .url r => r.writes
  | .createEvent _ _ => none

/-- A redirect, or a list of URLs. -/
def ApiRequest.IsRead : ApiRequest → Prop
  | .url (.redirectToUrl _ _) => True
  | .url (.listUrls _ _ _ _) => True
  | _ => False

section Twice

variable (scanner : Scanner) (app : App)

/-- The world after a list of requests. -/
def apiHistory : List ApiRequest → World Unit → Option (World Unit)
  | [], w => some w
  | r :: rs, w => (serveApi scanner app r w).bind fun aw => apiHistory rs aw.2

/-- `between` leads from `w` to `w'` and does not write the URL: there is no update and no delete of
it, and no create gives its id to a new row. -/
structure WithoutWrite (urlId : Int) (between : List ApiRequest) (w w' : World Unit) : Prop where
  run : apiHistory scanner app between w = some w'
  writes : ∀ r ∈ between, r.writes ≠ some urlId
  creates : w.db.urlGetById urlId = none → w'.db.urlGetById urlId = none

/-- Every later redirect and list is answered alike. -/
def AnswersAlike (w w' : World Unit) : Prop :=
  ∀ (later : List ApiRequest) (r : ApiRequest), r.IsRead →
    ((apiHistory scanner app later w).bind (serveApi scanner app r)).map Prod.fst =
      ((apiHistory scanner app later w').bind (serveApi scanner app r)).map Prod.fst

/-- After a DELETE in `w` that succeeded, with no write of the URL since, another DELETE leaves both
tables and every later answer as they are. -/
def DeleteRepeatable (w : World Unit) (urlId : Int) (now : DateTime) : Prop :=
  ∀ a w₁, serveApi scanner app (.url (.deleteUrl urlId now)) w = some (a, w₁) → a.status = 200 →
    ∀ between w₂, WithoutWrite scanner app urlId between w₁ w₂ →
      ∀ again a' w₃, serveApi scanner app (.url (.deleteUrl urlId again)) w₂ = some (a', w₃) →
        w₃.db.urls = w₂.db.urls ∧ w₃.db.events = w₂.db.events ∧ AnswersAlike scanner app w₃ w₂

variable {scanner app} {w w₁ : World Unit} {urlId : Int} {now : DateTime}

/-- Without a row, neither DELETE changes anything. -/
theorem deleteRepeatable_missing (hu : w.db.urlGetById urlId = none) :
    DeleteRepeatable scanner app w urlId now := by
  intro a w₁ hfirst _ between w₂ hbetween again a' w₃ hagain
  rw [deleteUrl_missing hu] at hfirst
  obtain ⟨-, rfl⟩ := Prod.mk.inj (Option.some.inj hfirst)
  rw [deleteUrl_missing (hbetween.creates hu)] at hagain
  obtain ⟨-, rfl⟩ := Prod.mk.inj (Option.some.inj hagain)
  exact ⟨rfl, rfl, fun _ _ _ => rfl⟩

/-- With a row, a second DELETE at once adds a second event. -/
theorem not_deleteRepeatable_existing (hfuel : scanner.bound < app.scanFuel)
    (hahead : w.db.EventsAhead) {u : Url} (hu : w.db.urlGetById urlId = some u) :
    ¬ DeleteRepeatable scanner app w urlId now := by
  intro h
  obtain ⟨w₁, hfirst, -, -⟩ := deleteUrl_existing hfuel hahead.free hu now
  -- the row is still there
  obtain ⟨u₁, hu₁, -⟩ := (serveApi_outcome hfirst).codes.kept urlId u hu
  obtain ⟨w₂, hagain, -, row, -, -, hevents⟩ :=
    deleteUrl_existing hfuel (serveApi_eventsAhead hahead hfirst).free hu₁ now
  have hnone : WithoutWrite scanner app urlId [] w₁ w₁ :=
    ⟨rfl, fun r hr => absurd hr (List.not_mem_nil), id⟩
  obtain ⟨-, hsame, -⟩ := h _ w₁ hfirst rfl [] w₁ hnone now _ w₂ hagain
  rw [hevents] at hsame
  have hlength := congrArg List.length hsame
  rw [List.length_append, List.length_singleton] at hlength
  omega

/-- **A DELETE can be repeated without effect if it found no row**, and only then: behind a sequence
that is not ahead a DELETE of a row can fail, and then there is nothing to repeat. -/
theorem delete_repeatable_iff (hfuel : scanner.bound < app.scanFuel) :
    (w.db.urlGetById urlId = none → DeleteRepeatable scanner app w urlId now) ∧
      (w.db.EventsAhead → (DeleteRepeatable scanner app w urlId now ↔
        w.db.urlGetById urlId = none)) := by
  refine ⟨deleteRepeatable_missing, fun hahead => ⟨fun h => ?_, deleteRepeatable_missing⟩⟩
  cases hu : w.db.urlGetById urlId with
  | none => rfl
  | some u => exact absurd h (not_deleteRepeatable_existing hfuel hahead hu)

/-- The sample database has no URL with id 2. -/
theorem delete_repeatable_sample :
    DeleteRepeatable .onePage sampleApp (.start sampleDb) 2 (sampleTime 2) :=
  ((delete_repeatable_iff (by decide)).2 (by decide)).2 (by decide)

/-- The sample URL deleted twice has two `deleted` events. -/
theorem deleted_twice : ¬ DeleteRepeatable .onePage sampleApp (.start sampleDb) 1 (sampleTime 2) :=
  not_deleteRepeatable_existing (u := sampleUrl) (by decide) (by decide) (by decide)

end Twice

end PeHackathon.UrlShortener
