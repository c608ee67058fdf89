import PeHackathon.Lib.Dict
import PeHackathon.Lib.Pool
import PeHackathon.UrlShortener.Constraints

/-!
# What a request can ask for

The atomic steps of a request: the statements and transactions it runs on the database and the
commands it sends to Redis. `expire` is a step of Redis itself, a key reaching its TTL; the TTLs are
not counted, a key may expire at any moment.
-/

namespace PeHackathon.UrlShortener

/-! ## Redis -/

/-- The keys the URL routes use. -/
inductive RedisKey
  | redirect (shortCode : String)
  | urlList (page perPage : Int)
  deriving DecidableEq, Repr

namespace RedisKey

/-- The key as the code writes it. -/
def render : RedisKey → String
  | .redirect shortCode => "redirect:" ++ shortCode
  | .urlList page perPage => "url_list:" ++ toString page ++ ":" ++ toString perPage

/-- The match pattern `url_list:*`. -/
def isUrlList : RedisKey → Bool
  | .redirect _ => false
  | .urlList _ _ => true

end RedisKey

/-- The dictionary under `redirect:<code>`. -/
structure CachedRedirect where
  url : String
  active : Bool
  deriving DecidableEq, Repr

/-- What a key holds: the value whose JSON text is stored. -/
abbrev RedisKey.Value : RedisKey → Type
  | .redirect _ => CachedRedirect
  | .urlList _ _ => Json

/-- The contents of Redis. -/
abbrev Redis := AList RedisKey.Value

/-- A Redis command raised. -/
inductive RedisError
  | failed

/-- How `SCAN` walks through the keys: `slot` is the place of a key in the walk, and one call
answers the next cursor and some keys that match, among them every live one between the two cursors.
The walk moves on, and ends after `bound`. -/
structure Scanner where
  slot : RedisKey → Nat
  reply : List RedisKey → Nat → Nat × List RedisKey
  bound : Nat
  covers : ∀ live cursor k, k ∈ live → k.isUrlList → cursor ≤ slot k →
    ((reply live cursor).1 = 0 ∨ slot k < (reply live cursor).1) → k ∈ (reply live cursor).2
  isMatch : ∀ live cursor k, k ∈ (reply live cursor).2 → k.isUrlList
  moves : ∀ live cursor, (reply live cursor).1 = 0 ∨ cursor < (reply live cursor).1
  ends : ∀ live cursor, (reply live cursor).1 ≤ bound

/-- A walk in one call. -/
def Scanner.onePage : Scanner where
  slot _ := 0
  reply live _ := (0, live.filter RedisKey.isUrlList)
  bound := 0
  covers _ _ _ hk hl _ _ := List.mem_filter.2 ⟨hk, hl⟩
  isMatch _ _ _ hk := (List.mem_filter.1 hk).2
  moves _ _ := .inl rfl
  ends _ _ := Nat.le_refl 0

/-! ## Steps -/

inductive Call
  | userGetById (id : Int)
  | urlGetById (id : Int)
  | urlGetByCode (code : String)
  | shortCodeExists (code : String)
  | createUrlTx (u : Url) (e : Event)
  | saveUrlTx (u : Url) (e : Event)
  | createEvent (e : Event)
  | countUrls (f : UrlFilter)
  | paginate (f : UrlFilter) (page perPage : Int)
  | redisGet (key : RedisKey)
  | redisSetex (key : RedisKey) (ttl : Nat) (value : key.Value)
  | redisDelete (keys : List RedisKey)
  | redisScan (cursor : Nat)
  | expire (key : RedisKey)
  /-- A loop that never ends. -/
  | hang

abbrev Answer : Call → Type
  | .userGetById _ => Option User
  | .urlGetById _ => Option Url
  | .urlGetByCode _ => Except DbError (Option Url)
  | .shortCodeExists _ => Except DbError Bool
  | .createUrlTx _ _ => Except DbError Int
  | .saveUrlTx _ _ => Except DbError Unit
  | .createEvent _ => Except DbError Int
  | .countUrls _ => Nat
  | .paginate _ _ _ => Except DbError (List Url)
  | .redisGet key => Except RedisError (Option key.Value)
  | .redisSetex _ _ _ => Except RedisError Unit
  | .redisDelete _ => Except RedisError Unit
  | .redisScan _ => Except RedisError (Nat × List RedisKey)
  | .expire _ => Unit
  | .hang => Empty

/-- A request handler, or a part of one. -/
abbrev Handler := Lib.Prog Answer

/-! ### Steps as programs -/

abbrev ask (q : Call) : Handler (Answer q) := Lib.Prog.perform q

abbrev userGetById (id : Int) : Handler (Option User) := ask (.userGetById id)

abbrev urlGetById (id : Int) : Handler (Option Url) := ask (.urlGetById id)

abbrev urlGetByCode (code : String) : Handler (Except DbError (Option Url)) :=
  ask (.urlGetByCode code)

abbrev shortCodeExists (code : String) : Handler (Except DbError Bool) :=
  ask (.shortCodeExists code)

abbrev createUrlTx (u : Url) (e : Event) : Handler (Except DbError Int) :=
  ask (.createUrlTx u e)

abbrev saveUrlTx (u : Url) (e : Event) : Handler (Except DbError Unit) :=
  ask (.saveUrlTx u e)

abbrev createEvent (e : Event) : Handler (Except DbError Int) := ask (.createEvent e)

abbrev countUrls (f : UrlFilter) : Handler Nat := ask (.countUrls f)

abbrev paginate (f : UrlFilter) (page perPage : Int) : Handler (Except DbError (List Url)) :=
  ask (.paginate f page perPage)

abbrev redisGet (key : RedisKey) : Handler (Except RedisError (Option key.Value)) :=
  ask (.redisGet key)

abbrev redisSetex (key : RedisKey) (ttl : Nat) (value : key.Value) :
    Handler (Except RedisError Unit) :=
  ask (.redisSetex key ttl value)

abbrev redisDelete (keys : List RedisKey) : Handler (Except RedisError Unit) :=
  ask (.redisDelete keys)

abbrev redisScan (cursor : Nat) : Handler (Except RedisError (Nat × List RedisKey)) :=
  ask (.redisScan cursor)

abbrev expire (key : RedisKey) : Handler Unit := ask (.expire key)

abbrev hang {α : Type} : Handler α := Lib.Prog.call .hang fun never => nomatch (never : Empty)

/-! ## The world -/

/-- The database, Redis, and a record of the `UPDATE`s of each short code: who committed the last
one, and who committed it without having sent the `DEL` for the code since. -/
structure World (ι : Type) where
  db : Db
  redis : Redis
  lastWriter : String → Option ι
  invalidationDue : String → Option ι

/-- A database that nothing has written to yet, and an empty Redis. -/
def World.start {ι : Type} (db : Db) : World ι := ⟨db, ∅, fun _ => none, fun _ => none⟩

variable {ι : Type} [DecidableEq ι]

/-- A committed write of a row is recorded. -/
def World.noteWrite (w : World ι) (i : ι) (code : String) (db : Db) : World ι :=
  { w with
    db
    lastWriter := Function.update w.lastWriter code (some i)
    invalidationDue := Function.update w.invalidationDue code (some i) }

/-- The transaction of `update_url` and `delete_url`, run by `i`. -/
def World.save (w : World ι) (i : ι) (u : Url) (e : Event) : Except DbError Unit × World ι :=
  match w.db.saveUrlTx u e with
  | (.ok _, db) => (.ok (), w.noteWrite i u.shortCode db)
  | (.error err, db) => (.error err, { w with db })

/-- `DEL` of some keys by `i`. -/
def World.delete (w : World ι) (i : ι) (keys : List RedisKey) : World ι :=
  { w with
    redis := keys.foldl (fun r k => r.erase k) w.redis
    invalidationDue := fun code =>
      if RedisKey.redirect code ∈ keys ∧ w.invalidationDue code = some i then none
      else w.invalidationDue code }

/-- One step of caller `i`. No Redis command fails here. -/
def respond (scanner : Scanner) (i : ι) (w : World ι) : (q : Call) → Option (Answer q × World ι)
  | .userGetById id => some (w.db.userGetById id, w)
  | .urlGetById id => some (w.db.urlGetById id, w)
  | .urlGetByCode code => some (w.db.urlGetByCode code, w)
  | .shortCodeExists code => some (w.db.shortCodeExists code, w)
  | .createUrlTx u e => some ((w.db.createUrlTx u e).1, { w with db := (w.db.createUrlTx u e).2 })
  | .saveUrlTx u e => some (w.save i u e)
  | .createEvent e => some ((w.db.createEvent e).1, { w with db := (w.db.createEvent e).2 })
  | .countUrls f => some (w.db.countUrls f, w)
  | .paginate f page perPage => some (w.db.paginate f page perPage, w)
  | .redisGet key => some (.ok (w.redis.lookup key), w)
  | .redisSetex key _ value => some (.ok (), { w with redis := w.redis.insert key value })
  | .redisDelete keys => some (.ok (), w.delete i keys)
  | .redisScan cursor => some (.ok (scanner.reply w.redis.keys cursor), w)
  | .expire key => some ((), { w with redis := w.redis.erase key })
  | .hang => none

omit [DecidableEq ι] in
theorem World.save_ok {w : World ι} {i : ι} {u : Url} {e : Event}
    (h : (w.db.saveUrlTx u e).1 = .ok ()) :
    w.save i u e = (.ok (), w.noteWrite i u.shortCode (w.db.saveUrlTx u e).2) := by
  unfold World.save
  split <;> simp_all

omit [DecidableEq ι] in
theorem World.save_error {w : World ι} {i : ι} {u : Url} {e : Event} {err : DbError}
    (h : (w.db.saveUrlTx u e).1 = .error err) :
    w.save i u e = (.error err, { w with db := (w.db.saveUrlTx u e).2 }) := by
  unfold World.save
  split <;> simp_all

omit [DecidableEq ι] in
theorem World.save_db (w : World ι) (i : ι) (u : Url) (e : Event) :
    w.save i u e = ((w.db.saveUrlTx u e).1, (w.save i u e).2) ∧
      (w.save i u e).2.db = (w.db.saveUrlTx u e).2 := by
  cases hres : (w.db.saveUrlTx u e).1 with
  | error err => rw [World.save_error hres]; exact ⟨rfl, rfl⟩
  | ok _ => rw [World.save_ok hres]; exact ⟨rfl, rfl⟩

omit [DecidableEq ι] in
@[simp] theorem World.save_redis (w : World ι) (i : ι) (u : Url) (e : Event) [DecidableEq ι] :
    (w.save i u e).2.redis = w.redis := by
  unfold World.save
  split <;> rfl

section Respond

variable (scanner : Scanner) (i : ι) (w : World ι)

@[simp] theorem respond_userGetById (id : Int) :
    respond scanner i w (.userGetById id) = some (w.db.userGetById id, w) := rfl

@[simp] theorem respond_urlGetById (id : Int) :
    respond scanner i w (.urlGetById id) = some (w.db.urlGetById id, w) := rfl

@[simp] theorem respond_urlGetByCode (code : String) :
    respond scanner i w (.urlGetByCode code) = some (w.db.urlGetByCode code, w) := rfl

@[simp] theorem respond_shortCodeExists (code : String) :
    respond scanner i w (.shortCodeExists code) = some (w.db.shortCodeExists code, w) := rfl

@[simp] theorem respond_createUrlTx (u : Url) (e : Event) :
    respond scanner i w (.createUrlTx u e) =
      some ((w.db.createUrlTx u e).1, { w with db := (w.db.createUrlTx u e).2 }) := rfl

@[simp] theorem respond_saveUrlTx (u : Url) (e : Event) :
    respond scanner i w (.saveUrlTx u e) = some (w.save i u e) := rfl

@[simp] theorem respond_createEvent (e : Event) :
    respond scanner i w (.createEvent e) =
      some ((w.db.createEvent e).1, { w with db := (w.db.createEvent e).2 }) := rfl

@[simp] theorem respond_countUrls (f : UrlFilter) :
    respond scanner i w (.countUrls f) = some (w.db.countUrls f, w) := rfl

@[simp] theorem respond_paginate (f : UrlFilter) (page perPage : Int) :
    respond scanner i w (.paginate f page perPage) = some (w.db.paginate f page perPage, w) := rfl

@[simp] theorem respond_redisGet (key : RedisKey) :
    respond scanner i w (.redisGet key) = some (.ok (w.redis.lookup key), w) := rfl

@[simp] theorem respond_redisSetex (key : RedisKey) (ttl : Nat) (value : key.Value) :
    respond scanner i w (.redisSetex key ttl value) =
      some (.ok (), { w with redis := w.redis.insert key value }) := rfl

@[simp] theorem respond_redisDelete (keys : List RedisKey) :
    respond scanner i w (.redisDelete keys) = some (.ok (), w.delete i keys) := rfl

@[simp] theorem respond_redisScan (cursor : Nat) :
    respond scanner i w (.redisScan cursor) =
      some (.ok (scanner.reply w.redis.keys cursor), w) := rfl

@[simp] theorem respond_expire (key : RedisKey) :
    respond scanner i w (.expire key) = some ((), { w with redis := w.redis.erase key }) := rfl

@[simp] theorem respond_hang : respond scanner i w .hang = none := rfl

variable {scanner i w} in
/-- No call leaves the sequence behind the events. -/
theorem respond_eventsAhead {q : Call} {r : Answer q} {w' : World ι} (hw : w.db.EventsAhead)
    (h : respond scanner i w q = some (r, w')) : w'.db.EventsAhead := by
  cases q with
  | createUrlTx u e =>
    cases h
    exact Tables.createUrlTx_eventsAhead hw u e
  | createEvent e =>
    cases h
    exact Tables.createEvent_eventsAhead hw e
  | saveUrlTx u e =>
    obtain rfl : (w.save i u e).2 = w' := (Prod.ext_iff.1 (Option.some.inj h)).2
    rw [(w.save_db i u e).2]
    exact Tables.saveUrlTx_eventsAhead hw u e
  | hang => cases h
  | _ =>
    cases h
    exact hw

end Respond

/-- The database and Redis: every step is atomic, and others may step in between. -/
def server (scanner : Scanner) : Lib.Server Answer ι Unit (World ι) where
  respond i _ w q := respond scanner i w q
  yields _ := true

@[simp] theorem server_respond (scanner : Scanner) (i : ι) (c : Unit) (w : World ι) (q : Call) :
    (server scanner).respond i c w q = respond scanner i w q := rfl

end PeHackathon.UrlShortener
