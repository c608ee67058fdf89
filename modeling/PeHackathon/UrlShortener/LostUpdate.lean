import PeHackathon.Lib.Record
import PeHackathon.UrlShortener.RedirectRace

/-!
# Updates and deletes of one URL at the same time

`update_url` and `delete_url` read the row, and later save all of its columns. `fields_hold_iff`: in
a run of such requests on one URL every field holds at every point what the last request that set it
has written, exactly when every committed save finds, in the fields its request does not set, what
the request has read.
-/

namespace PeHackathon.UrlShortener

open Lib

/-! ## Fields -/

/-- The fields that a request can set. -/
inductive Field
  | originalUrl
  | title
  | isActive

namespace Field

abbrev Value : Field → Type
  | .originalUrl => String
  | .title => Option String
  | .isActive => Bool

def get : (f : Field) → Url → f.Value
  | .originalUrl, u => u.originalUrl
  | .title, u => u.title
  | .isActive, u => u.isActive

/-- What the column of the field stores for a value. -/
def store : (f : Field) → f.Value → Option f.Value
  | .originalUrl, url => varchar 2048 url
  | .title, t => storeTitle t
  | .isActive, b => some b

/-- A row is stored field by field. -/
theorem store_get {u row : Url} (h : storeUrl u = some row) (f : Field) :
    f.store (f.get u) = some (f.get row) := by
  obtain ⟨code, url, title, -, hurl, htitle, rfl⟩ := storeUrl_eq_some.1 h
  cases f with
  | originalUrl => exact hurl
  | title => exact htitle
  | isActive => rfl

end Field

/-- The value a request sets a field to. -/
def Request.sets (app : App) (r : Request) (f : Field) : Option f.Value :=
  match r with
  | .updateUrl _ body _ =>
    match checkUpdate app.hosts body with
    | .error _ => none
    | .ok d =>
      match f with
      | .originalUrl => d.originalUrl
      | .title => d.title.map some
      | .isActive => d.isActive
  | .deleteUrl _ _ =>
    match f with
    | .isActive => some false
    | _ => none
  | _ => none

/-- What a request makes of the row it has read. -/
def Request.change (app : App) (r : Request) (u : Url) : Url :=
  match r with
  | .updateUrl _ body now =>
    match checkUpdate app.hosts body with
    | .error _ => u
    | .ok d => d.apply now u
  | .deleteUrl _ now => { u with isActive := false, updatedAt := now }
  | _ => u

/-- A request changes the fields it sets, and leaves the others as it has read them. -/
theorem Request.change_get (app : App) (r : Request) (u : Url) (f : Field) :
    f.get (r.change app u) = (r.sets app f).getD (f.get u) := by
  cases r with
  | updateUrl urlId body now =>
    unfold Request.change Request.sets
    dsimp only
    cases checkUpdate app.hosts body with
    | error err => rfl
    | ok d =>
      cases f with
      | title => cases h : d.title <;> simp [Field.get, UrlUpdate.apply, h]
      | originalUrl => rfl
      | isActive => rfl
  | deleteUrl urlId now => cases f <;> rfl
  | _ => rfl

theorem Request.change_id (app : App) (r : Request) (u : Url) : (r.change app u).id = u.id := by
  unfold Request.change
  split
  · split <;> rfl
  · rfl
  · rfl

/-! ## The row of a URL -/

/-- **A committed save** replaces the row by the stored form of the one given. -/
theorem Db.saveUrlTx_urlGetById {db : Db} {u v₀ : Url} {e : Event}
    (h : (db.saveUrlTx u e).1 = .ok ()) (hload : db.urlGetById u.id = some v₀) :
    ∃ row, storeUrl u = some row ∧ (db.saveUrlTx u e).2.urlGetById u.id = some row := by
  obtain ⟨err, herr, _⟩ | ⟨row, hrow, _, hfree, huser, hdb⟩ :=
    Tables.saveUrlTx_cases db.toTables u e
  · rw [Db.saveUrlTx, herr] at h
    cases h
  · have hst := storeUrl_storedAs hrow
    have hvalid := Tables.replaceUrl_valid db.valid hst.again (hst.id ▸ hfree) huser
    obtain ⟨hm, hid⟩ := db.valid.urlGetById_eq_some.1 hload
    refine ⟨row, hrow, ?_⟩
    rw [Db.saveUrlTx]
    dsimp only
    rw [hdb, (Tables.createEvent_sameUrls _ e).urlGetById, hvalid.urlGetById_eq_some]
    exact ⟨List.mem_map.2 ⟨v₀, hm, by simp [hid, hst.id]⟩, hst.id⟩

/-! ## The stages of a request -/

/-- An update or a delete has read nothing yet, or is about to save what it made of the row it has
read, or is past its save. -/
inductive Stage (app : App) (urlId : Int) (r : Request) : Handler Response → Prop
  | reads : Stage app urlId r (handle app r)
  | saves (v : Url) (event : Event) (response : Response) (hv : storeUrl v = some v)
      (hid : v.id = urlId) : Stage app urlId r (saveUrl app (r.change app v) event response)
  | finished {prog : Handler Response} (h : prog.All Call.LeavesDb) : Stage app urlId r prog

section Runs

variable {ι : Type} [DecidableEq ι] {scanner : Scanner} {app : App} {reqs : ι → Request}
  {urlId : Int} {i : ι} {w w' : World ι}

/-- What a save leaves to do. -/
theorem saveUrl_rest (app : App) (url : Url) (event : Event) (response : Response) :
    ∃ k, saveUrl app url event response = .call (.saveUrlTx url event) k ∧
      ∀ r, (k r).All Call.LeavesDb := by
  refine ⟨_, rfl, fun r => ?_⟩
  cases r with
  | error err => trivial
  | ok _ =>
    exact (invalidateRedirect_all (fun _ => trivial) ..).bind fun _ =>
      (invalidateUrlLists_all (fun q hq => hq.leavesDb) (fun _ => trivial) ..).bind fun _ => trivial

/-- A read of the row leads to the save of what the request makes of it, or to an error. -/
theorem stage_read (app : App) {r : Request} (hr : r.writes = some urlId) :
    ∃ k, handle app r = .call (.urlGetById urlId) k ∧
      (k none).All Call.LeavesDb ∧
      ∀ v, storeUrl v = some v → v.id = urlId → Stage app urlId r (k (some v)) := by
  cases r with
  | updateUrl id body now =>
    cases hr
    refine ⟨_, rfl, trivial, fun v hv hid => ?_⟩
    dsimp only
    cases hd : checkUpdate app.hosts body with
    | error err => exact .finished trivial
    | ok d =>
      have hchange : d.apply now v = (Request.updateUrl urlId body now).change app v := by
        simp only [Request.change, hd]
      have hsaves : ∀ event response, Stage app urlId (.updateUrl urlId body now)
          (saveUrl app (d.apply now v) event response) := fun event response => by
        rw [hchange]
        exact .saves v event response hv hid
      exact hsaves _ _
  | deleteUrl id now =>
    cases hr
    exact ⟨_, rfl, trivial, fun v hv hid => .saves v _ _ hv hid⟩
  | _ => cases hr

/-- The next stage. -/
theorem Stage.next {r : Request} {q : Call} {a : Answer q} {k : Answer q → Handler Response}
    (hr : r.writes = some urlId) (h : Stage app urlId r (.call q k))
    (hresp : respond scanner i w q = some (a, w')) : Stage app urlId r (k a) := by
  generalize hprog : Prog.call q k = prog at h
  cases h with
  | reads =>
    obtain ⟨k', hk, hnone, hsome⟩ := stage_read app hr
    rw [hk] at hprog
    cases hprog
    cases hresp
    cases hload : w.db.urlGetById urlId with
    | none => exact .finished hnone
    | some v =>
      obtain ⟨hm, hid⟩ := w.db.valid.urlGetById_eq_some.1 hload
      exact hsome v (w.db.valid.stored v hm) hid
  | saves v event response hv hid =>
    obtain ⟨k', hk, hrest⟩ := saveUrl_rest app (r.change app v) event response
    rw [hk] at hprog
    cases hprog
    exact .finished (hrest a)
  | finished h =>
    subst hprog
    exact .finished (h.2 a)

/-! ## Runs -/

/-- Whether a call committed an `UPDATE` of a row. -/
def committed : Made Answer ι → Bool
  | ⟨_, .saveUrlTx _ _, .ok _⟩ => true
  | _ => false

/-- The value of the last request, in a record, that set a field and committed. -/
def lastSet (app : App) (reqs : ι → Request) (f : Field) (l : List (Made Answer ι)) :
    Option f.Value :=
  l.findSome? fun m => if committed m then (reqs m.caller).sets app f else none

/-- Every field of the row holds what the last request that set it has written, or else what it held
at the start. -/
def FieldsHold (app : App) (reqs : ι → Request) (urlId : Int) (row₀ : Url)
    (l : List (Made Answer ι)) (w : World ι) : Prop :=
  ∃ row, w.db.urlGetById urlId = some row ∧
    ∀ f : Field, f.store ((lastSet app reqs f l).getD (f.get row₀)) = some (f.get row)

/-- If `i` is about to commit a save, then the row holds what `i` has read, in the fields its
request does not set. -/
def FindsWhatItRead (app : App) (reqs : ι → Request) (urlId : Int) (p : RequestPool ι) (i : ι) :
    Prop :=
  ∀ u e row, (p.procs i).next? = some (.saveUrlTx u e) →
    (p.world.db.saveUrlTx u e).1 = .ok () → p.world.db.urlGetById urlId = some row →
    ∀ f : Field, (reqs i).sets app f = none → f.get u = f.get row

omit [DecidableEq ι] in
/-- A step that commits nothing keeps every field. -/
theorem FieldsHold.of_same {row₀ : Url} {l : List (Made Answer ι)} {m : Made Answer ι}
    (hm : committed m = false) (hw : w'.db.urlGetById urlId = w.db.urlGetById urlId)
    (h : FieldsHold app reqs urlId row₀ l w) : FieldsHold app reqs urlId row₀ (m :: l) w' := by
  obtain ⟨row, hrow, hfields⟩ := h
  refine ⟨row, hw.trans hrow, fun f => ?_⟩
  unfold lastSet
  rw [List.findSome?_cons, hm]
  exact hfields f

omit [DecidableEq ι] in
/-- **A committed save keeps the fields exactly when it finds what the request has read** in those
it does not set. -/
theorem fieldsHold_save_iff {row₀ v row : Url} {l : List (Made Answer ι)} {event : Event}
    {m : Made Answer ι} (hm : committed m = true) (hcaller : m.caller = i)
    (hv : storeUrl v = some v) (hid : v.id = urlId)
    (hok : (w.db.saveUrlTx ((reqs i).change app v) event).1 = .ok ())
    (hw : w'.db = (w.db.saveUrlTx ((reqs i).change app v) event).2)
    (hrow : w.db.urlGetById urlId = some row)
    (hfields : ∀ f : Field, f.store ((lastSet app reqs f l).getD (f.get row₀)) = some (f.get row)) :
    FieldsHold app reqs urlId row₀ (m :: l) w' ↔
      ∀ f : Field, (reqs i).sets app f = none → f.get ((reqs i).change app v) = f.get row := by
  have hchange : ((reqs i).change app v).id = urlId := (Request.change_id ..).trans hid
  obtain ⟨row', hrow', hget⟩ := Db.saveUrlTx_urlGetById hok (by rw [hchange]; exact hrow)
  rw [hchange, ← hw] at hget
  have hlast : ∀ f : Field, lastSet app reqs f (m :: l) =
      ((reqs i).sets app f).orElse fun _ => lastSet app reqs f l := by
    intro f
    unfold lastSet
    rw [List.findSome?_cons, hm, if_pos rfl, hcaller]
    cases (reqs i).sets app f <;> rfl
  -- what is saved of a field that is not set is what was read
  have hkept : ∀ f : Field, (reqs i).sets app f = none →
      f.get row' = f.get ((reqs i).change app v) := by
    intro f hf
    have hread : f.get ((reqs i).change app v) = f.get v := by
      rw [Request.change_get, hf, Option.getD_none]
    have hstored := Field.store_get hrow' f
    rw [hread, Field.store_get hv f] at hstored
    rw [hread]
    exact (Option.some.inj hstored).symm
  constructor
  · rintro ⟨row'', hget', hfields'⟩ f hf
    rw [hget] at hget'
    cases hget'
    have hf' := hfields' f
    rw [hlast, hf, Option.orElse_none, hfields f] at hf'
    rw [← hkept f hf]
    exact (Option.some.inj hf').symm
  · intro hfinds
    refine ⟨row', hget, fun f => ?_⟩
    rw [hlast]
    cases hf : (reqs i).sets app f with
    | none =>
      rw [Option.orElse_none, hfields f, hkept f hf, hfinds f hf]
    | some x =>
      have hset : f.get ((reqs i).change app v) = x := by
        rw [Request.change_get, hf, Option.getD_some]
      rw [Option.orElse_some, Option.getD_some, ← hset]
      exact Field.store_get hrow' f

/-- Every request is at a stage, and the fields hold. -/
structure FieldsInv (app : App) (reqs : ι → Request) (urlId : Int) (row₀ : Url)
    (l : List (Made Answer ι)) (p : RequestPool ι) : Prop where
  stages : ∀ i, Stage app urlId (reqs i) (p.procs i)
  fields : FieldsHold app reqs urlId row₀ l p.world

variable {row₀ : Url} {p p' : RequestPool ι} {l : List (Made Answer ι)} {m : Made Answer ι}
  {c : Unit}

/-- Every step leads to the next stage of its request. -/
theorem FieldsInv.stages_next (hreqs : ∀ i, (reqs i).writes = some urlId)
    (h : FieldsInv app reqs urlId row₀ l p) (hn : p.next (server scanner) i c = some p') (j : ι) :
    Stage app urlId (reqs j) (p'.procs j) := by
  obtain ⟨q, k, r, w, hq, hr, -, rfl⟩ := Pool.next_cases hn
  by_cases hj : j = i
  · subst hj
    have hstage := h.stages j
    rw [hq] at hstage
    simp only [Function.update_self]
    exact hstage.next (hreqs j) hr
  · simp only [Function.update_of_ne hj]
    exact h.stages j

/-- **One step keeps the fields exactly when it finds what its request has read.** -/
theorem FieldsInv.fields_next_iff (hreqs : ∀ i, (reqs i).writes = some urlId)
    (h : FieldsInv app reqs urlId row₀ l p) (hm : p.made? (server scanner) i c = some m)
    (hn : p.next (server scanner) i c = some p') :
    FieldsHold app reqs urlId row₀ (m :: l) p'.world ↔ FindsWhatItRead app reqs urlId p i := by
  obtain ⟨q, k, r, w, hq, hr, rfl, rfl⟩ := Pool.made_cases hm hn
  have hstage := h.stages i
  generalize hprog : p.procs i = prog at hstage
  have hnext : prog.next? = some q := by rw [← hprog, hq]; rfl
  -- a step that is not a save keeps the fields, and no save is about to commit
  have hother : q.LeavesDb →
      (FieldsHold app reqs urlId row₀ (⟨i, q, r⟩ :: l) w ↔ FindsWhatItRead app reqs urlId p i) := by
    intro hleaves
    refine iff_of_true ?_ fun u e row hsave => ?_
    · refine h.fields.of_same ?_ ?_
      · cases q with
        | saveUrlTx u e => exact hleaves.elim
        | _ => rfl
      · rw [respond_leavesDb hleaves hr]
    · rw [hprog, hnext] at hsave
      cases hsave
      exact hleaves.elim
  cases hstage with
  | reads =>
    obtain ⟨k', hk, -⟩ := stage_read app (hreqs i)
    rw [hk] at hnext
    cases hnext
    exact hother trivial
  | finished hall =>
    rw [← hprog, hq] at hall
    exact hother hall.1
  | saves v event response hv hid =>
    obtain ⟨k', hk, -⟩ := saveUrl_rest app ((reqs i).change app v) event response
    rw [hk] at hnext
    cases hnext
    change some (p.world.save i ((reqs i).change app v) event) = some (r, w) at hr
    cases hres : (p.world.db.saveUrlTx ((reqs i).change app v) event).1 with
    | error err =>
      rw [World.save_error hres] at hr
      cases hr
      refine iff_of_true ?_ fun u e row hsave hok => ?_
      · exact h.fields.of_same rfl (Db.saveUrlTx_error hres).urlGetById
      · rw [hprog, hk] at hsave
        cases hsave
        rw [hres] at hok
        cases hok
    | ok _ =>
      rw [World.save_ok hres] at hr
      cases hr
      obtain ⟨row, hrow, hfields⟩ := h.fields
      refine Iff.trans (b := ∀ f : Field, (reqs i).sets app f = none →
          f.get ((reqs i).change app v) = f.get row)
        (fieldsHold_save_iff rfl rfl hv hid hres rfl hrow hfields) ?_
      constructor
      · intro hfinds u e row' hsave _ hrow' f hf
        rw [hprog, hk] at hsave
        cases hsave
        rw [hrow] at hrow'
        cases hrow'
        exact hfinds f hf
      · intro hfinds f hf
        exact hfinds _ event row (by rw [hprog, hk]; rfl) hres hrow f hf

/-- **No update of a field is lost, exactly when every committed save finds what its request has
read.** The run is one of updates and deletes of one URL; its fields are compared after every
step. -/
theorem fields_hold_iff (hreqs : ∀ i, (reqs i).writes = some urlId) {db : Db}
    (hrow : db.urlGetById urlId = some row₀) :
    Pool.Record (server scanner) (startPool app reqs db)
        (fun l p i c => ∀ m p', p.made? (server scanner) i c = some m →
          p.next (server scanner) i c = some p' → FieldsHold app reqs urlId row₀ (m :: l) p'.world)
        l p ↔
      Pool.Record (server scanner) (startPool app reqs db)
        (fun _ p i _ => FindsWhatItRead app reqs urlId p i) l p := by
  refine Pool.Record.iff_of_inv (J := FieldsInv app reqs urlId row₀) ?_ ?_ ?_
  · refine ⟨fun i => .reads, row₀, hrow, fun f => ?_⟩
    exact Field.store_get (db.valid.stored row₀ (db.valid.urlGetById_eq_some.1 hrow).1) f
  · intro l p i c m p' hinv hholds hm hn
    exact ⟨hinv.stages_next hreqs hn, hholds m p' hm hn⟩
  · intro l p i c m p' hinv hm hn
    rw [← hinv.fields_next_iff hreqs hm hn]
    constructor
    · intro hholds
      exact hholds m p' hm hn
    · intro hholds m' p'' hm' hn'
      rw [hm] at hm'
      rw [hn] at hn'
      cases hm'
      cases hn'
      exact hholds

end Runs

/-! ## Samples -/

/-- A rename of the sample URL, and its delete. -/
def renameRace : Fin 2 → Request
  | 0 => .updateUrl 1 (.json (.obj [("title", .str "new")])) (sampleTime 2)
  | 1 => .deleteUrl 1 (sampleTime 3)

/-- The delete runs after the rename, and every field holds what was set last. -/
theorem fields_hold_sample : ∃ (l : List (Made Answer (Fin 2))) (p : RequestPool (Fin 2)),
    lastSet sampleApp renameRace .title l = some (some "new") ∧
      lastSet sampleApp renameRace .isActive l = some false ∧
      (Pool.Record (server .onePage) (startPool sampleApp renameRace sampleDb)
          (fun l p i c => ∀ m p', p.made? (server .onePage) i c = some m →
            p.next (server .onePage) i c = some p' →
            FieldsHold sampleApp renameRace 1 sampleUrl (m :: l) p'.world) l p ↔
        Pool.Record (server .onePage) (startPool sampleApp renameRace sampleDb)
          (fun _ p i _ => FindsWhatItRead sampleApp renameRace 1 p i) l p) := by
  obtain ⟨l, p, hrun, htitle, hactive⟩ :
      ∃ (l : List (Made Answer (Fin 2))) (p : RequestPool (Fin 2)),
        Pool.recordIf (server .onePage) (fun _ _ _ _ => True) []
          (startPool sampleApp renameRace sampleDb)
          [(0, ()), (0, ()), (1, ()), (1, ())] = some (l, p) ∧
        lastSet sampleApp renameRace .title l = some (some "new") ∧
        lastSet sampleApp renameRace .isActive l = some false :=
    ⟨_, _, rfl, rfl, rfl⟩
  refine ⟨l, p, htitle, hactive, fields_hold_iff (fun i => ?_) rfl⟩
  match i with
  | 0 => rfl
  | 1 => rfl

/-- The rename reads the row, the delete runs, and the rename saves: the URL is active again. -/
theorem fields_lost : ∃ (l : List (Made Answer (Fin 2))) (p : RequestPool (Fin 2)),
    Pool.Record (server .onePage) (startPool sampleApp renameRace sampleDb)
      (fun _ _ _ _ => True) l p ∧
      lastSet sampleApp renameRace .isActive l = some false ∧
      ¬ FieldsHold sampleApp renameRace 1 sampleUrl l p.world := by
  obtain ⟨l, p, row, hrun, hlast, hrow, hactive⟩ :
      ∃ (l : List (Made Answer (Fin 2))) (p : RequestPool (Fin 2)) (row : Url),
        Pool.recordIf (server .onePage) (fun _ _ _ _ => True) []
          (startPool sampleApp renameRace sampleDb)
          [(0, ()), (1, ()), (1, ()), (0, ())] = some (l, p) ∧
        lastSet sampleApp renameRace .isActive l = some false ∧
        p.world.db.urlGetById 1 = some row ∧ row.isActive = true :=
    ⟨_, _, _, rfl, rfl, rfl, rfl⟩
  refine ⟨l, p, .of_recordIf .refl hrun, hlast, ?_⟩
  rintro ⟨row', hrow', hfields⟩
  rw [hrow] at hrow'
  cases hrow'
  have hset := hfields .isActive
  rw [hlast] at hset
  change some false = some row.isActive at hset
  rw [hactive] at hset
  cases hset

end PeHackathon.UrlShortener
