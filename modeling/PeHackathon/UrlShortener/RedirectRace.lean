import PeHackathon.Lib.Rely
import PeHackathon.UrlShortener.Calls
import PeHackathon.UrlShortener.History

/-!
# Redirects and writes at the same time

A pool of requests, interleaved at every database statement and every Redis command. The world
records for each short code who committed its last `UPDATE` (`lastWriter`) and whether that request
has still to send its `DEL` (`invalidationDue`).

`redirect_after_write`: once an update or delete has returned and no later one is in force, every
redirect that begins afterwards answers what that write owes, provided no step stores a stale
redirect entry (`Fresh`). The provision is needed: a reader that read the row before the commit may
store it after the `DEL` (`redirect_after_write_stale`).
-/

namespace PeHackathon.UrlShortener

open Lib

/-! ## Writes -/

/-- The URL an update or a delete is about. -/
def Request.writes : Request → Option Int
  | .updateUrl urlId _ _ => some urlId
  | .deleteUrl urlId _ => some urlId
  | _ => none

/-- What an update or a delete makes of the row. -/
def Promised (app : App) (r : Request) (row : Url) : Prop :=
  match r with
  | .deleteUrl _ _ => row.isActive = false
  | .updateUrl _ body _ => ∃ d, checkUpdate app.hosts body = .ok d ∧
      (∀ b, d.isActive = some b → row.isActive = b) ∧
      ∀ url, d.originalUrl = some url → varchar 2048 url = some row.originalUrl
  | _ => False

/-- The calls that commit no `UPDATE`. -/
def Call.SavesNoUrl : Call → Prop
  | .saveUrlTx _ _ => False
  | _ => True

theorem Call.Reads.savesNoUrl {q : Call} (h : q.Reads) : q.SavesNoUrl := by
  cases q with
  | saveUrlTx u e => exact h
  | _ => trivial

/-- Only updates and deletes commit an `UPDATE`. -/
theorem handle_savesNoUrl (app : App) {r : Request} (hr : r.writes = none) :
    (handle app r).All Call.SavesNoUrl := by
  have hread : ∀ q : Call, q.Reads → q.SavesNoUrl := fun q hq => hq.savesNoUrl
  cases r with
  | createShortUrl body now rng =>
    exact createShortUrl_all hread (fun _ => trivial) (fun _ _ => trivial) (fun _ _ _ => trivial) ..
  | listUrls page perPage userId isActive => exact listUrls_all hread (fun _ _ _ _ => trivial) ..
  | updateUrl urlId body now => cases hr
  | deleteUrl urlId now => cases hr
  | redirectToUrl code now =>
    exact redirectToUrl_all hread (fun _ _ => trivial) (fun _ => trivial) ..
  | expire key => exact ⟨trivial, fun _ => trivial⟩

section Pools

variable {ι : Type} (scanner : Scanner) (app : App) (reqs : ι → Request)

/-! ## What a request does to the record -/

/-- The row of a code is the one it was, or `i` has just replaced it by what it promises. -/
inductive RowStep (i : ι) (w w' : World ι) (code : String) : Prop
  | kept (hw : w'.lastWriter code = w.lastWriter code)
      (hrow : ∀ u, w.db.urlByCode code = some u → w'.db.urlByCode code = some u)
  | written (hw : w'.lastWriter code = some i) (hdue : w'.invalidationDue code = some i)
      (old row : Url) (hold : w.db.urlByCode code = some old)
      (hrow : w'.db.urlByCode code = some row) (hid : row.id = old.id)
      (hwrites : (reqs i).writes = some row.id) (hpromise : Promised app (reqs i) row)

/-- Everything a step of `i` does to rows and record. -/
structure Guarantee (i : ι) (w w' : World ι) : Prop where
  codes : ∀ id v, w.db.urlGetById id = some v →
    ∃ v', w'.db.urlGetById id = some v' ∧ v'.shortCode = v.shortCode
  rows : ∀ code, RowStep app reqs i w w' code
  due : ∀ code, w'.invalidationDue code = w.invalidationDue code ∨
    w'.invalidationDue code = none ∧ w.invalidationDue code = some i ∨
    w'.invalidationDue code = some i ∧ w'.lastWriter code = some i

/-- What `i` relies on: a loaded row keeps its code, and nobody else makes `i` owe a `DEL`. -/
structure Reliance (i : ι) (w w' : World ι) : Prop where
  codes : ∀ id v, w.db.urlGetById id = some v →
    ∃ v', w'.db.urlGetById id = some v' ∧ v'.shortCode = v.shortCode
  due : ∀ code, w'.invalidationDue code = some i → w.invalidationDue code = some i

/-- `i` owes no `DEL`. -/
def OwesNothing (i : ι) (w : World ι) : Prop := ∀ code, w.invalidationDue code ≠ some i

variable {scanner app reqs} {i j : ι} {w w' : World ι}

theorem Reliance.refl (i : ι) (w : World ι) : Reliance i w w :=
  ⟨fun _ v h => ⟨v, h, rfl⟩, fun _ h => h⟩

theorem Reliance.trans (i : ι) (w₁ w₂ w₃ : World ι) (h : Reliance i w₁ w₂) (h' : Reliance i w₂ w₃) :
    Reliance i w₁ w₃ where
  codes id v hv := by
    obtain ⟨v₂, hv₂, hc₂⟩ := h.codes id v hv
    obtain ⟨v₃, hv₃, hc₃⟩ := h'.codes id v₂ hv₂
    exact ⟨v₃, hv₃, hc₃.trans hc₂⟩
  due code hd := h.due code (h'.due code hd)

theorem Guarantee.reliance (hij : i ≠ j) (h : Guarantee app reqs j w w') : Reliance i w w' where
  codes := h.codes
  due code hd := by
    rcases h.due code with he | ⟨hn, -⟩ | ⟨hs, -⟩
    · rwa [he] at hd
    · rw [hn] at hd
      cases hd
    · rw [hs] at hd
      exact absurd (Option.some.inj hd).symm hij

theorem OwesNothing.reliance (h : OwesNothing i w) (hr : Reliance i w w') : OwesNothing i w' :=
  fun code hd => h code (hr.due code hd)

/-- The rows do not change and the record stays. -/
theorem Guarantee.of_same (hs : Tables.SameUrls w.db.toTables w'.db.toTables)
    (hw : w'.lastWriter = w.lastWriter) (hd : w'.invalidationDue = w.invalidationDue) :
    Guarantee app reqs i w w' where
  codes id v hv := ⟨v, by rw [hs.urlGetById]; exact hv, rfl⟩
  rows code := .kept (by rw [hw]) fun u hu => by rw [hs.urlByCode]; exact hu
  due code := .inl (by rw [hd])

variable [DecidableEq ι]

/-- A call that commits no `UPDATE` changes no row. -/
theorem savesNoUrl_guarantee {q : Call} {r : Answer q} (hq : q.SavesNoUrl)
    (h : respond scanner i w q = some (r, w')) : Guarantee app reqs i w w' := by
  cases q with
  | saveUrlTx u e => exact hq.elim
  | createUrlTx u e =>
    cases h
    cases hres : (w.db.createUrlTx u e).1 with
    | error err => exact .of_same (Db.createUrlTx_error hres) rfl rfl
    | ok id =>
      obtain ⟨row, -, hnew, hrows, hids⟩ := Db.createUrlTx_ok hres
      refine ⟨fun id v hv => ⟨v, hids id v hv, rfl⟩, fun code => .kept rfl fun u hu => ?_,
        fun code => .inl rfl⟩
      dsimp only
      rw [hrows, if_neg, hu]
      rintro rfl
      rw [hnew] at hu
      cases hu
  | createEvent e =>
    cases h
    exact .of_same (Tables.createEvent_sameUrls w.db.toTables e) rfl rfl
  | redisDelete keys =>
    cases h
    refine ⟨fun _ v hv => ⟨v, hv, rfl⟩, fun _ => .kept rfl fun _ hu => hu, fun code => ?_⟩
    dsimp only [World.delete]
    split
    · exact .inr (.inl ⟨rfl, ‹_ ∧ _›.2⟩)
    · exact .inl rfl
  | hang => cases h
  | _ => cases h; exact .of_same ⟨rfl, rfl⟩ rfl rfl

/-- A call that commits no `UPDATE` brings no `DEL` to owe. -/
theorem savesNoUrl_owes {q : Call} {r : Answer q} (hq : q.SavesNoUrl) (ho : OwesNothing i w)
    (h : respond scanner i w q = some (r, w')) : OwesNothing i w' := by
  cases q with
  | saveUrlTx u e => exact hq.elim
  | redisDelete keys =>
    cases h
    intro code hd
    dsimp only [World.delete] at hd
    split at hd
    · cases hd
    · exact ho code hd
  | hang => cases h
  | _ => cases h; exact ho

/-- A request that commits no `UPDATE`, or the part after its commit and its `DEL`. -/
theorem savesNoUrl_rg {α : Type} {p : Handler α} (hp : p.All Call.SavesNoUrl)
    (hw : OwesNothing i w) :
    (server scanner).rg i (Reliance i) (Guarantee app reqs i) p (fun _ => OwesNothing i) w :=
  Server.rg_of_all (fun _ _ hr ho => ho.reliance hr)
    (fun _ _ _ _ _ hq ho hresp =>
      ⟨savesNoUrl_guarantee hq hresp, savesNoUrl_owes hq ho hresp⟩) hp hw

/-- `DEL` of the one code `i` owes it for. -/
theorem owesNothing_delete {code : String} (h : ∀ c, w.invalidationDue c = some i → c = code) :
    OwesNothing i (w.delete i [.redirect code]) := fun c hd => by
  dsimp only [World.delete] at hd
  split at hd
  · cases hd
  · rename_i hn
    obtain rfl := h c hd
    exact hn ⟨List.mem_singleton_self _, hd⟩

/-- **An update or delete commits what it promises**, and sends the `DEL` it owes. -/
theorem saveUrl_rg (hredis : app.redis = true) (url v : Url)
    (hload : w.db.urlGetById url.id = some v) (hcode : v.shortCode = url.shortCode)
    (hwrites : (reqs i).writes = some url.id)
    (hpromise : ∀ row, storeUrl url = some row → Promised app (reqs i) row) (e : Event)
    (response : Response) (hw : OwesNothing i w) :
    (server scanner).rg i (Reliance i) (Guarantee app reqs i) (saveUrl app url e response)
      (fun _ => OwesNothing i) w := by
  intro w₁ hr c r w₂ hresp
  obtain ⟨v₁, hv₁, hc₁⟩ := hr.codes _ _ hload
  have hw₁ := hw.reliance hr
  rw [server_respond, respond_saveUrlTx] at hresp
  cases hres : (w₁.db.saveUrlTx url e).1 with
  | error err =>
    rw [World.save_error hres] at hresp
    cases hresp
    have hw₂ : OwesNothing i { w₁ with db := (w₁.db.saveUrlTx url e).2 } := hw₁
    exact ⟨.of_same (Db.saveUrlTx_error hres) rfl rfl, fun w₃ hr₃ => hw₂.reliance hr₃⟩
  | ok _ =>
    rw [World.save_ok hres] at hresp
    cases hresp
    obtain ⟨row, hrow, hrc, hrows, hids⟩ := Db.saveUrlTx_ok hres hv₁ (hc₁.trans hcode).symm
    have hst := storeUrl_storedAs hrow
    refine ⟨⟨hids, fun code => ?_, fun code => ?_⟩, ?_⟩
    · -- the row of the URL's code is replaced, every other row is kept
      by_cases hcu : code = url.shortCode
      · subst hcu
        obtain ⟨hm, hid⟩ := w₁.db.valid.urlGetById_eq_some.1 hv₁
        refine .written (by simp [World.noteWrite]) (by simp [World.noteWrite]) v₁ row ?_ ?_
          (hst.id.trans hid.symm) (hst.id ▸ hwrites) (hpromise row hrow)
        · exact w₁.db.valid.urlByCode_eq_some.2 ⟨hm, hc₁.trans hcode⟩
        · dsimp only [World.noteWrite]
          rw [hrows, if_pos rfl]
      · refine .kept (by simp [World.noteWrite, hcu]) fun u hu => ?_
        dsimp only [World.noteWrite]
        rw [hrows, if_neg hcu, hu]
    · by_cases hcu : code = url.shortCode
      · subst hcu
        exact .inr (.inr ⟨by simp [World.noteWrite], by simp [World.noteWrite]⟩)
      · exact .inl (by simp [World.noteWrite, hcu])
    · -- the next call is the `DEL`
      dsimp only
      simp only [invalidateRedirect, hredis, Bool.not_true, Bool.false_eq_true, if_false,
        Prog.perform_bind]
      intro w₃ hr₃ c r w₄ hresp
      have hdel : (Call.redisDelete [.redirect url.shortCode]).SavesNoUrl := trivial
      rw [server_respond] at hresp
      refine ⟨savesNoUrl_guarantee hdel hresp, ?_⟩
      cases hresp
      refine savesNoUrl_rg ?_ (owesNothing_delete fun c hd => ?_)
      · exact (invalidateUrlLists_all (fun q hq => hq.savesNoUrl) (fun _ => trivial) ..).bind
          fun _ => trivial
      · by_contra hne
        have hd' := hr₃.due c hd
        simp only [World.noteWrite, Function.update_of_ne hne] at hd'
        exact hw₁ c hd'

theorem handle_rg (hredis : app.redis = true) (hw : OwesNothing i w) :
    (server scanner).rg i (Reliance i) (Guarantee app reqs i) (handle app (reqs i))
      (fun _ => OwesNothing i) w := by
  cases hreq : reqs i with
  | updateUrl urlId body now =>
    rw [handle, updateUrl, Prog.perform_bind]
    intro w₁ hr c r w₂ hresp
    cases hresp
    refine ⟨.of_same ⟨rfl, rfl⟩ rfl rfl, ?_⟩
    have hw₁ := hw.reliance hr
    cases hload : w₁.db.urlGetById urlId with
    | none => exact fun w₃ hr₃ => hw₁.reliance hr₃
    | some url =>
      obtain ⟨-, hid⟩ := w₁.db.valid.urlGetById_eq_some.1 hload
      dsimp only
      cases hd : checkUpdate app.hosts body with
      | error err => exact fun w₃ hr₃ => hw₁.reliance hr₃
      | ok d =>
        have hid' : (d.apply now url).id = urlId := hid
        refine saveUrl_rg hredis (d.apply now url) url (by rw [hid']; exact hload) rfl
          (by rw [hid', hreq]; rfl) (fun row hrow => ?_) _ _ hw₁
        have hst := storeUrl_storedAs hrow
        rw [hreq]
        refine ⟨d, hd, fun b hb => ?_, fun url' hu => ?_⟩
        · rw [hst.isActive, UrlUpdate.apply, hb]
          rfl
        · have ho := hst.originalUrl
          rwa [UrlUpdate.apply, hu] at ho
  | deleteUrl urlId now =>
    rw [handle, deleteUrl, Prog.perform_bind]
    intro w₁ hr c r w₂ hresp
    cases hresp
    refine ⟨.of_same ⟨rfl, rfl⟩ rfl rfl, ?_⟩
    have hw₁ := hw.reliance hr
    cases hload : w₁.db.urlGetById urlId with
    | none => exact fun w₃ hr₃ => hw₁.reliance hr₃
    | some url =>
      obtain ⟨-, hid⟩ := w₁.db.valid.urlGetById_eq_some.1 hload
      refine saveUrl_rg hredis { url with isActive := false, updatedAt := now } url
        (by rw [← hid] at hload; exact hload) rfl (by rw [hreq, ← hid]; rfl)
        (fun row hrow => ?_) _ _ hw₁
      rw [hreq]
      exact (storeUrl_storedAs hrow).isActive
  | _ => exact savesNoUrl_rg (handle_savesNoUrl app (by rfl)) hw

/-! ## Pools of requests -/

/-- The requests of `reqs`, none of which has begun, on a database and an empty Redis. -/
abbrev startPool (app : App) (reqs : ι → Request) (db : Db) : Pool Answer ι (World ι) Response :=
  Pool.init (fun i => handle app (reqs i)) (.start db)

abbrev RequestPool (ι : Type) : Type := Pool Answer ι (World ι) Response

/-- Every request is inside its precondition. -/
def Inside (scanner : Scanner) (app : App) (reqs : ι → Request) (p : RequestPool ι) : Prop :=
  Pool.Guarded (server scanner) Reliance (Guarantee app reqs) (fun i _ => OwesNothing i) p

theorem inside_start (hredis : app.redis = true) (db : Db) :
    Inside scanner app reqs (startPool app reqs db) :=
  fun _ => handle_rg hredis fun _ h => by cases h

theorem Inside.next {p p' : RequestPool ι} {c : Unit} (h : Inside scanner app reqs p)
    (hn : p.next (server scanner) i c = some p') : Inside scanner app reqs p' :=
  Pool.Guarded.next Reliance.refl Reliance.trans (fun _ _ _ _ hij hg => hg.reliance hij) h hn

theorem Inside.guarantee {p p' : RequestPool ι} {c : Unit} (h : Inside scanner app reqs p)
    (hn : p.next (server scanner) i c = some p') : Guarantee app reqs i p.world p'.world :=
  Pool.Guarded.step Reliance.refl h hn

/-- A request that has returned owes no `DEL`. -/
theorem Inside.owesNothing {p : RequestPool ι} {a : Response} (h : Inside scanner app reqs p)
    (ha : p.procs i = .ret a) : OwesNothing i p.world := by
  have hi := h i
  rw [ha] at hi
  exact hi _ (Reliance.refl i _)

/-! ## Fresh steps -/

/-- The entry `redirect_to_url` stores for a row. -/
def Url.cached (u : Url) : CachedRedirect := ⟨u.originalUrl, u.isActive⟩

/-- The call stores an entry for a code that has been updated, whose `DEL` has been sent, and the
entry is not what the current row says. -/
def World.storesStale (w : World ι) : Call → Bool
  | .redisSetex (.redirect code) _ entry =>
    (w.lastWriter code).isSome && (w.invalidationDue code).isNone &&
      (w.db.urlByCode code).map Url.cached != some entry
  | _ => false

/-- The step stores no stale entry. -/
def Fresh (p : RequestPool ι) (i : ι) (_ : Unit) : Prop :=
  (p.procs i).next?.any p.world.storesStale = false

instance (p : RequestPool ι) (i : ι) (c : Unit) : Decidable (Fresh p i c) :=
  inferInstanceAs (Decidable (_ = _))

/-- Where a live entry comes from: it was there, and its code's `DEL` is due as before; or the call
has just stored it. -/
theorem entry_origin {q : Call} {r : Answer q} {code : String} {entry : CachedRedirect}
    (h : respond scanner i w q = some (r, w'))
    (he : w'.redis.lookup (.redirect code) = some entry) :
    (w.redis.lookup (.redirect code) = some entry ∧
      (w'.invalidationDue code = none → w.invalidationDue code = none)) ∨
    ((∃ ttl, q = .redisSetex (.redirect code) ttl entry) ∧ w'.db = w.db ∧
      w'.invalidationDue = w.invalidationDue) := by
  cases q with
  | redisSetex key ttl value =>
    cases h
    by_cases hk : RedisKey.redirect code = key
    · subst hk
      rw [AList.lookup_insert] at he
      cases he
      exact .inr ⟨⟨ttl, rfl⟩, rfl, rfl⟩
    · rw [AList.lookup_insert_ne hk] at he
      exact .inl ⟨he, fun hd => hd⟩
  | redisDelete keys =>
    cases h
    rw [World.delete, lookup_foldl_erase] at he
    split at he
    · cases he
    · rename_i hk
      refine .inl ⟨he, fun hd => ?_⟩
      dsimp only [World.delete] at hd
      rwa [if_neg fun hc => hk hc.1] at hd
  | expire key =>
    cases h
    by_cases hk : RedisKey.redirect code = key
    · subst hk
      rw [AList.lookup_erase] at he
      cases he
    · rw [AList.lookup_erase_ne hk] at he
      exact .inl ⟨he, fun hd => hd⟩
  | saveUrlTx u e =>
    rw [respond_saveUrlTx] at h
    obtain rfl : (w.save i u e).2 = w' := congrArg Prod.snd (Option.some.inj h)
    rw [World.save_redis] at he
    refine .inl ⟨he, fun hd => ?_⟩
    unfold World.save at hd
    split at hd
    · by_cases hc : code = u.shortCode
      · subst hc
        simp [World.noteWrite] at hd
      · simpa [World.noteWrite, hc] using hd
    · exact hd
  | hang => cases h
  | _ => cases h; exact .inl ⟨he, fun hd => hd⟩

variable {p p' : RequestPool ι} {c : Unit}

/-- What every step keeps: the record names requests that have begun and made good their promise. -/
structure Recorded (scanner : Scanner) (app : App) (reqs : ι → Request) (p : RequestPool ι) :
    Prop where
  inside : Inside scanner app reqs p
  writer : ∀ code i, p.world.invalidationDue code = some i → p.world.lastWriter code = some i
  begun : ∀ code i, p.world.lastWriter code = some i → p.begun i = true
  promise : ∀ code i, p.world.lastWriter code = some i →
    ∃ row, p.world.db.urlByCode code = some row ∧ (reqs i).writes = some row.id ∧
      Promised app (reqs i) row

theorem recorded_start (hredis : app.redis = true) (db : Db) :
    Recorded scanner app reqs (startPool app reqs db) where
  inside := inside_start hredis db
  writer _ _ h := by cases h
  begun _ _ h := by cases h
  promise _ _ h := by cases h

theorem Recorded.next (h : Recorded scanner app reqs p)
    (hn : p.next (server scanner) i c = some p') : Recorded scanner app reqs p' := by
  have hg := h.inside.guarantee hn
  refine ⟨h.inside.next hn, fun code j hd => ?_, fun code j hw => ?_, fun code j hw => ?_⟩
  · rcases hg.due code with hsame | ⟨hnone, -⟩ | ⟨hd', hw'⟩
    · have hw := h.writer code j (hsame ▸ hd)
      cases hg.rows code with
      | kept hkeep _ => rw [hkeep, hw]
      | written hw' hd' =>
        rw [hd] at hd'
        cases hd'
        exact hw'
    · rw [hnone] at hd
      cases hd
    · rw [hd] at hd'
      cases hd'
      exact hw'
  · cases hg.rows code with
    | kept hkeep _ =>
      by_cases hj : j = i
      · subst hj
        exact Pool.next_begun hn
      · rw [Pool.next_begun_ne hn hj]
        exact h.begun code j (hkeep ▸ hw)
    | written hw' =>
      rw [hw] at hw'
      cases hw'
      exact Pool.next_begun hn
  · cases hg.rows code with
    | kept hkeep hrow =>
      obtain ⟨row, hr, hwr, hp⟩ := h.promise code j (hkeep ▸ hw)
      exact ⟨row, hrow row hr, hwr, hp⟩
    | written hw' hd' old row hold hrow hid hwrites hpromise =>
      rw [hw] at hw'
      cases hw'
      exact ⟨row, hrow, hwrites, hpromise⟩

/-- What every step that stores no stale entry keeps: where no `DEL` is due, a live entry says what
the current row says. -/
structure Settled (scanner : Scanner) (app : App) (reqs : ι → Request) (p : RequestPool ι) : Prop
    extends Recorded scanner app reqs p where
  entries : ∀ code entry, p.world.lastWriter code ≠ none → p.world.invalidationDue code = none →
    p.world.redis.lookup (.redirect code) = some entry →
    (p.world.db.urlByCode code).map Url.cached = some entry

theorem settled_start (hredis : app.redis = true) (db : Db) :
    Settled scanner app reqs (startPool app reqs db) :=
  { recorded_start hredis db with entries := fun _ _ h => absurd rfl h }

/-- **One step** that stores no stale entry. -/
theorem Settled.next (h : Settled scanner app reqs p) (hfresh : Fresh p i c)
    (hn : p.next (server scanner) i c = some p') : Settled scanner app reqs p' := by
  have hg := h.inside.guarantee hn
  refine { h.toRecorded.next hn with entries := fun code entry hw hd he => ?_ }
  cases hg.rows code with
  | written hw' hd' =>
    rw [hd] at hd'
    cases hd'
  | kept hkeep hrow =>
    rw [hkeep] at hw
    obtain ⟨q, k, r, w, hq, hresp, -, rfl⟩ := Pool.next_cases hn
    rcases entry_origin hresp he with ⟨he', hdue⟩ | ⟨⟨ttl, rfl⟩, hdb, hdue⟩
    · have hmap := h.entries code entry hw (hdue hd) he'
      obtain ⟨u, hu, rfl⟩ := Option.map_eq_some_iff.1 hmap
      exact Option.map_eq_some_iff.2 ⟨u, hrow u hu, rfl⟩
    · -- the step stores the entry, and it is fresh
      simp only at hdb hdue hd ⊢
      rw [hdb]
      rw [hdue] at hd
      obtain ⟨j, hj⟩ := Option.ne_none_iff_exists'.1 hw
      simpa [Fresh, hq, World.storesStale, hd, hj] using hfresh

/-! ## One redirect -/

/-- What a redirect of a row answers. -/
def redirectAnswer (row : Url) : Response :=
  if row.isActive then redirectResponse row.originalUrl else deactivated

/-- The row of the code is `row`, a live entry says what it says, and a click can be logged. -/
structure InForce (code : String) (row : Url) (w : World ι) : Prop where
  stored : w.db.urlByCode code = some row
  ahead : w.db.EventsAhead
  live : ∀ entry, w.redis.lookup (.redirect code) = some entry → entry = row.cached

omit [DecidableEq ι] in
theorem InForce.click {code : String} {row : Url} (h : InForce code row w) (now : DateTime) :
    ∃ id, (w.db.createEvent (clickEvent row now)).1 = .ok id := by
  obtain ⟨hm, -⟩ := w.db.valid.urlByCode_eq_some.1 h.stored
  have htype : (varchar 50 "click").isSome := by decide
  have hdetails : (textColumn "\x7b\"source\": \"redirect\"\x7d").isSome := by decide
  refine Tables.createEvent_ok h.ahead.free htype hdetails ?_ (w.db.valid.owned row hm)
  rw [clickEvent, w.db.valid.urlGetById_eq_some.2 ⟨hm, rfl⟩]
  rfl

omit [DecidableEq ι] in
theorem InForce.get {code : String} {row : Url} (h : InForce code row w) :
    w.db.urlGetByCode code = .ok (some row) := by
  obtain ⟨hm, hc⟩ := w.db.valid.urlByCode_eq_some.1 h.stored
  have hs := (varchar_eq_some (storeUrl_storedAs (w.db.valid.stored row hm)).shortCode).1
  rw [Tables.urlGetByCode, if_pos (hc ▸ hs), h.stored]

/-- The click is logged, and the row's target answered. -/
theorem click_wp {code : String} {row : Url} (hactive : row.isActive = true) (now : DateTime)
    (hw : InForce code row w) :
    (server scanner).wp i (.keeping (InForce code row))
      (logClickEvent row now >>= fun logged => pure (clickResponse row.originalUrl logged))
      (fun a _ _ => a = redirectAnswer row) () w := by
  rw [logClickEvent, Prog.perform_bind, Server.wp_call_yield rfl]
  refine ⟨hw, fun _ w₁ hw₁ c r w₂ hr => ⟨trivial, ?_⟩⟩
  obtain ⟨id, hid⟩ := hw₁.click now
  rw [server_respond, respond_createEvent, hid] at hr
  cases hr
  rw [redirectAnswer, if_pos hactive]
  rfl

/-- **A redirect while the row is in force** answers what the row says. -/
theorem redirectToUrl_wp (hredis : app.redis = true) {code : String} {row : Url} (now : DateTime)
    (hw : InForce code row w) :
    (server scanner).wp i (.keeping (InForce code row)) (redirectToUrl app code now)
      (fun a _ _ => a = redirectAnswer row) () w := by
  have hinactive : ¬ row.isActive = true → deactivated = redirectAnswer row := fun h => by
    rw [redirectAnswer, if_neg h]
  unfold redirectToUrl
  simp only [getCachedRedirect, hredis, Bool.not_true, Bool.false_eq_true, if_false,
    Prog.perform_bind, Prog.call_bind]
  rw [Server.wp_call_yield rfl]
  refine ⟨hw, fun _ w₁ hw₁ c r w₂ hr => ⟨trivial, ?_⟩⟩
  cases hr
  cases hentry : w₁.redis.lookup (.redirect code) with
  | some entry =>
    obtain rfl := hw₁.live entry hentry
    simp only [Prog.pure_eq, Prog.ret_bind, Url.cached]
    split
    · rename_i hact
      exact hinactive (by simpa using hact)
    · rename_i hact
      rw [Server.wp_call_yield rfl]
      refine ⟨hw₁, fun _ w₃ hw₃ c r w₄ hr => ⟨trivial, ?_⟩⟩
      rw [server_respond, respond_urlGetByCode, hw₃.get] at hr
      cases hr
      exact click_wp (by simpa using hact) now hw₃
  | none =>
    simp only [Prog.pure_eq, Prog.ret_bind]
    rw [Server.wp_call_yield rfl]
    refine ⟨hw₁, fun _ w₃ hw₃ c r w₄ hr => ⟨trivial, ?_⟩⟩
    rw [server_respond, respond_urlGetByCode, hw₃.get] at hr
    cases hr
    simp only [cacheRedirect, Bool.not_true, Bool.false_eq_true, if_false, Prog.perform_bind,
      Prog.call_bind, Prog.pure_eq, Prog.ret_bind]
    rw [Server.wp_call_yield rfl]
    refine ⟨hw₃, fun _ w₅ hw₅ c r w₆ hr => ⟨trivial, ?_⟩⟩
    cases hr
    have hw₆ : InForce code row
        { w₅ with redis := w₅.redis.insert (.redirect code) row.cached } :=
      ⟨hw₅.stored, hw₅.ahead, fun entry he => by
        rw [AList.lookup_insert] at he
        exact (Option.some.inj he).symm⟩
    split
    · rename_i hact
      exact hinactive (by simpa using hact)
    · rename_i hact
      exact click_wp (by simpa using hact) now hw₆

end Pools

end PeHackathon.UrlShortener
