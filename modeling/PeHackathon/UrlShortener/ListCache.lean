import PeHackathon.UrlShortener.Calls
import PeHackathon.UrlShortener.History

/-!
# The cached list on sequential runs

A cached page of `GET /urls` is stored under `page` and `per_page` only, with dates as `str` writes
them; a page from the database is selected by the filters too, with dates as Flask writes them.
`listUrls_exact_iff` says when a list request is answered as the database would: no page is live
under its key, or both the live and the asked page are empty with the same total.
-/

namespace PeHackathon.UrlShortener

open Lib

variable {scanner : Scanner} {app : App}

/-! ## Pages -/

/-- What the database answers to a list request. -/
def dbList (db : Db) (filter : UrlFilter) (page perPage : Int) : Response :=
  match db.paginate filter page perPage with
  | .error _ => serverError
  | .ok urls => listResponse (listResult DateTime.httpDate urls page perPage (db.countUrls filter))

/-- Every live list page is a page of some list, under its own key. -/
def PagesStored (w : World Unit) : Prop :=
  ∀ page perPage cached, w.redis.lookup (.urlList page perPage) = some cached →
    Tables.pageInRange page perPage ∧
      ∃ urls total, cached = listResult DateTime.str urls page perPage total

/-- No page is live under the key of the request, or it is an empty one with the total the database
counts, where the database has an empty page too. -/
def NoOtherPage (w : World Unit) (filter : UrlFilter) (page perPage : Int) : Prop :=
  ∀ cached, w.redis.lookup (.urlList page perPage) = some cached →
    cached = listResult DateTime.str [] page perPage (w.db.countUrls filter) ∧
      w.db.paginate filter page perPage = .ok []

theorem listResult_inj {date date' : DateTime → String} {urls urls' : List Url}
    {page perPage : Int} {total total' : Nat}
    (h : listResult date urls page perPage total = listResult date' urls' page perPage total') :
    (urls.map fun u => urlJson date (.int u.userId) u) =
        (urls'.map fun u => urlJson date' (.int u.userId) u) ∧ total = total' := by
  have hfields := Json.obj.inj h
  obtain ⟨hdata, hfields⟩ := List.cons.inj hfields
  obtain ⟨-, hfields⟩ := List.cons.inj hfields
  obtain ⟨-, hfields⟩ := List.cons.inj hfields
  obtain ⟨htotal, -⟩ := List.cons.inj hfields
  exact ⟨Json.arr.inj (Prod.mk.inj hdata).2, Int.ofNat.inj (Json.int.inj (Prod.mk.inj htotal).2)⟩

/-- The `created_at` of a written row. -/
def createdAtOf : Json → String
  | .obj [_, _, _, _, _, _, (_, .str createdAt), _] => createdAt
  | _ => ""

theorem urlJson_createdAt {date date' : DateTime → String} {userId userId' : Json} {u u' : Url}
    (h : urlJson date userId u = urlJson date' userId' u') :
    date u.createdAt = date' u'.createdAt :=
  congrArg createdAtOf h

/-- A stored page is written as the database would write a page only where both are empty. -/
theorem listResult_eq_iff {urls urls' : List Url} {page perPage : Int} {total total' : Nat} :
    listResult DateTime.str urls page perPage total =
        listResult DateTime.httpDate urls' page perPage total' ↔
      urls = [] ∧ urls' = [] ∧ total = total' := by
  constructor
  · intro h
    obtain ⟨hdata, htotal⟩ := listResult_inj h
    cases urls with
    | nil => exact ⟨rfl, List.map_eq_nil_iff.1 hdata.symm, htotal⟩
    | cons u urls =>
      cases urls' with
      | nil => exact absurd hdata (List.cons_ne_nil _ _)
      | cons u' urls' =>
        -- the texts of the creation dates differ
        exact absurd (urlJson_createdAt (List.cons.inj hdata).1) (DateTime.str_ne_httpDate _ _)
  · rintro ⟨rfl, rfl, rfl⟩
    simp only [listResult, List.map_nil]

theorem listResponse_inj {a b : Json} : listResponse a = listResponse b ↔ a = b := by
  simp [listResponse]

/-! ## One list request -/

/-- Everything a list request can do. -/
theorem listUrls_eval (w : World Unit) (page perPage : Int) (userId : Option Int)
    (isActive : Option String) :
    serve scanner (app.withRedis true) (.listUrls page perPage userId isActive) w =
      match w.redis.lookup (.urlList page (min perPage 100)) with
      | some cached => some (listResponse cached, w)
      | none =>
        some (dbList w.db (listFilter userId isActive) page (min perPage 100),
          match w.db.paginate (listFilter userId isActive) page (min perPage 100) with
          | .error _ => w
          | .ok urls => { w with
              redis := w.redis.insert (.urlList page (min perPage 100))
                (listResult DateTime.str urls page (min perPage 100)
                  (w.db.countUrls (listFilter userId isActive))) }) := by
  have hget : (server scanner).eval () () (getCachedUrlList true page (min perPage 100)) w =
      some (w.redis.lookup (.urlList page (min perPage 100)), w) := rfl
  simp only [serve, handle, listUrls, App.withRedis_redis]
  rw [Server.eval_bind, hget, Option.bind_some]
  cases w.redis.lookup (.urlList page (min perPage 100)) with
  | some cached => rfl
  | none =>
    simp only [Prog.perform_bind, Server.eval_call, server_respond, respond_countUrls,
      respond_paginate, Option.bind_some, dbList]
    cases w.db.paginate (listFilter userId isActive) page (min perPage 100) <;> rfl

/-- One list request is answered as the database would iff no other page is live. -/
theorem listUrls_exact {w : World Unit} (hpages : PagesStored w) (page perPage : Int)
    (userId : Option Int) (isActive : Option String) :
    (∃ w', serve scanner (app.withRedis true) (.listUrls page perPage userId isActive) w =
        some (dbList w.db (listFilter userId isActive) page (min perPage 100), w')) ↔
      NoOtherPage w (listFilter userId isActive) page (min perPage 100) := by
  rw [listUrls_eval]
  generalize listFilter userId isActive = filter
  generalize min perPage 100 = perPage
  unfold NoOtherPage
  cases hlive : w.redis.lookup (.urlList page perPage) with
  | none =>
    dsimp only
    exact ⟨fun _ cached h => (by cases h), fun _ => ⟨_, rfl⟩⟩
  | some cached =>
    obtain ⟨hrange, urls, total, rfl⟩ := hpages page perPage cached hlive
    obtain ⟨urls', hurls'⟩ : ∃ urls', w.db.paginate filter page perPage = .ok urls' := by
      unfold Tables.paginate
      rw [if_pos hrange]
      exact ⟨_, rfl⟩
    simp only [dbList, hurls', Option.some.injEq, Prod.mk.injEq, listResponse_inj,
      listResult_eq_iff, Except.ok.injEq, exists_and_left, exists_eq', and_true]
    constructor
    · rintro ⟨rfl, rfl, rfl⟩ cached rfl
      exact ⟨rfl, rfl⟩
    · intro h
      obtain ⟨hc, rfl⟩ := h _ rfl
      obtain ⟨hdata, htotal⟩ := listResult_inj hc
      exact ⟨List.map_eq_nil_iff.1 hdata, rfl, htotal⟩

/-! ## The pages of a history -/

/-- The calls that store no list page. -/
def Call.StoresNoPage : Call → Prop
  | .redisSetex (.urlList _ _) _ _ => False
  | _ => True

theorem pagesStored_start (db : Db) : PagesStored (.start db) := fun page perPage cached h => by
  rw [World.start, AList.lookup_empty] at h
  cases h

theorem PagesStored.mono {w w' : World Unit} (h : PagesStored w)
    (hredis : ∀ page perPage, ∀ cached ∈ w'.redis.lookup (.urlList page perPage),
      cached ∈ w.redis.lookup (.urlList page perPage)) : PagesStored w' :=
  fun page perPage cached hl => h page perPage cached (hredis page perPage cached hl)

/-- No other call brings in a page. -/
theorem PagesStored.respond {w w' : World Unit} {q : Call} {r : Answer q} (hq : q.StoresNoPage)
    (h : PagesStored w) (hr : respond scanner () w q = some (r, w')) : PagesStored w' := by
  cases q with
  | redisSetex key ttl value =>
    cases hr
    cases key with
    | urlList page perPage => exact hq.elim
    | redirect code =>
      exact h.mono fun page perPage cached hl => by
        rwa [AList.lookup_insert_ne (by simp)] at hl
  | redisDelete keys =>
    cases hr
    refine h.mono fun page perPage cached hl => ?_
    rw [World.delete, lookup_foldl_erase] at hl
    split at hl
    · cases hl
    · exact hl
  | expire key =>
    cases hr
    refine h.mono fun page perPage cached hl => ?_
    by_cases hk : RedisKey.urlList page perPage = key
    · subst hk
      rw [AList.lookup_erase] at hl
      cases hl
    · rwa [AList.lookup_erase_ne hk] at hl
  | saveUrlTx u e =>
    obtain rfl : (w.save () u e).2 = w' := congrArg Prod.snd (Option.some.inj hr)
    exact h.mono fun page perPage cached hl => by rwa [World.save_redis] at hl
  | hang => cases hr
  | _ => cases hr; exact h

/-- Only `list_urls` stores pages. -/
theorem handle_storesNoPage (app : App) (r : Request)
    (hr : ∀ page perPage userId isActive, r ≠ .listUrls page perPage userId isActive) :
    (handle app r).All Call.StoresNoPage := by
  have hread : ∀ q : Call, q.Reads → q.StoresNoPage := fun q hq => by
    cases q with
    | redisSetex key ttl value => exact hq.elim
    | _ => trivial
  cases r with
  | createShortUrl body now rng =>
    exact createShortUrl_all hread (fun _ => trivial) (fun _ _ => trivial) (fun _ _ _ => trivial) ..
  | listUrls page perPage userId isActive => exact absurd rfl (hr page perPage userId isActive)
  | updateUrl urlId body now =>
    exact updateUrl_all hread (fun _ => trivial) (fun _ _ => trivial) ..
  | deleteUrl urlId now => exact deleteUrl_all hread (fun _ => trivial) (fun _ _ => trivial) ..
  | redirectToUrl code now =>
    exact redirectToUrl_all hread (fun _ _ => trivial) (fun _ => trivial) ..
  | expire key => exact ⟨trivial, fun _ => trivial⟩

/-- **Every request keeps the pages stored under their keys.** -/
theorem serve_pagesStored {w w' : World Unit} {r : Request} {a : Response} (h : PagesStored w)
    (hs : serve scanner (app.withRedis true) r w = some (a, w')) : PagesStored w' := by
  by_cases hr : ∃ page perPage userId isActive, r = .listUrls page perPage userId isActive
  · obtain ⟨page, perPage, userId, isActive, rfl⟩ := hr
    rw [listUrls_eval] at hs
    generalize listFilter userId isActive = filter at hs
    generalize min perPage 100 = perPage at hs
    split at hs
    · cases hs
      exact h
    · cases hs
      split
      · exact h
      · rename_i urls hurls
        intro page' perPage' cached hl
        by_cases hk : RedisKey.urlList page' perPage' = .urlList page perPage
        · cases hk
          rw [AList.lookup_insert] at hl
          cases hl
          refine ⟨?_, _, _, rfl⟩
          by_contra hrange
          rw [Tables.paginate, if_neg hrange] at hurls
          cases hurls
        · rw [AList.lookup_insert_ne hk] at hl
          exact h page' perPage' cached hl
  · exact Server.eval_inv _ _ (fun q w r w' hq hw hresp => hw.respond hq hresp)
      (handle_storesNoPage _ r fun page perPage userId isActive he =>
        hr ⟨page, perPage, userId, isActive, he⟩) hs h

/-! ## Histories -/

/-- The request, if it is a list request, is answered as the database would. -/
def ListsAsDatabase (scanner : Scanner) (app : App) (r : Request) (w : World Unit) : Prop :=
  ∀ page perPage userId isActive, r = .listUrls page perPage userId isActive →
    ∃ w', serve scanner (app.withRedis true) r w =
      some (dbList w.db (listFilter userId isActive) page (min perPage 100), w')

/-- The request, if it is a list request, finds no other page under its key. -/
def FindsNoOtherPage (r : Request) (w : World Unit) : Prop :=
  ∀ page perPage userId isActive, r = .listUrls page perPage userId isActive →
    NoOtherPage w (listFilter userId isActive) page (min perPage 100)

/-- **When the cached list agrees with the database**: in every history, exactly the list requests
that find no other page under their key are answered as the database would. -/
theorem list_exact_iff (scanner : Scanner) (app : App) (db : Db) (reqs : List Request) :
    Along scanner (app.withRedis true)
      (fun r w => ListsAsDatabase scanner app r w ↔ FindsNoOtherPage r w) reqs (.start db) := by
  refine Along.of_inv (J := PagesStored) (fun r w hw => ?_)
    (fun r w a w' hw hs => serve_pagesStored hw hs) reqs _ (pagesStored_start db)
  constructor
  · rintro h page perPage userId isActive rfl
    exact (listUrls_exact hw page perPage userId isActive).1 (h page perPage userId isActive rfl)
  · rintro h page perPage userId isActive rfl
    exact (listUrls_exact hw page perPage userId isActive).2 (h page perPage userId isActive rfl)

/-- The `total` of a list response. -/
def Response.total (a : Response) : Option Int :=
  match a.body with
  | .obj [_, _, _, (_, .int total)] => some total
  | _ => none

/-- **The cached list does not agree with the database**: the page of all URLs is served again to a
request for the URLs of a user who has none. -/
theorem list_not_exact :
    ¬ ∀ (scanner : Scanner) (app : App) (db : Db) (reqs : List Request),
      scanner.bound < app.scanFuel →
        Along scanner (app.withRedis true) (ListsAsDatabase scanner app) reqs (.start db) := by
  intro h
  obtain ⟨-, h⟩ := h .onePage sampleApp sampleDb
    [.listUrls 1 20 none none, .listUrls 1 20 (some 2) none] (by decide)
  obtain ⟨h, -⟩ := h _ _ rfl
  obtain ⟨w', hs⟩ := h 1 20 (some 2) none rfl
  have htotal : some (some 1) = some (dbList sampleDb (listFilter (some 2) none) 1 20).total :=
    congrArg (Option.map fun aw : Response × World Unit => aw.1.total) hs
  exact absurd htotal (by decide)

end PeHackathon.UrlShortener
