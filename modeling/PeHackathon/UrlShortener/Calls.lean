import PeHackathon.UrlShortener.Routes.Urls

/-!
# The calls of the handlers

Which calls a handler can make, whatever it is answered: for each handler, a property of calls holds
of all of its calls when it holds of the reads and of the writes the handler makes.
-/

namespace PeHackathon.UrlShortener

open Lib

/-- The calls that change nothing. -/
def Call.Reads : Call → Prop
  | .createUrlTx _ _ => False
  | .saveUrlTx _ _ => False
  | .createEvent _ => False
  | .redisSetex _ _ _ => False
  | .redisDelete _ => False
  | .expire _ => False
  | _ => True

/-- The calls that leave the database as it is. -/
def Call.LeavesDb : Call → Prop
  | .createUrlTx _ _ | .saveUrlTx _ _ | .createEvent _ => False
  | _ => True

theorem Call.Reads.leavesDb {q : Call} (h : q.Reads) : q.LeavesDb := by
  cases q with
  | createUrlTx u e | saveUrlTx u e | createEvent e => exact h
  | _ => trivial

theorem respond_leavesDb {ι : Type} [DecidableEq ι] {scanner : Scanner} {i : ι} {w w' : World ι}
    {q : Call} {r : Answer q} (hq : q.LeavesDb) (h : respond scanner i w q = some (r, w')) :
    w'.db = w.db := by
  cases q with
  | createUrlTx u e | saveUrlTx u e | createEvent e => exact hq.elim
  | hang => cases h
  | _ => cases h; rfl

variable {φ : Call → Prop} {app : App}

section Reads

variable (hread : ∀ q : Call, q.Reads → φ q)

include hread

theorem hang_all {α : Type} : (hang : Handler α).All φ := ⟨hread _ trivial, fun r => nomatch r⟩

theorem getCachedRedirect_all (client : Bool) (code : String) :
    (getCachedRedirect client code).All φ := by
  cases client with
  | false => trivial
  | true => exact ⟨hread _ trivial, fun r => by cases r <;> trivial⟩

theorem getCachedUrlList_all (client : Bool) (page perPage : Int) :
    (getCachedUrlList client page perPage).All φ := by
  cases client with
  | false => trivial
  | true => exact ⟨hread _ trivial, fun r => by cases r <;> trivial⟩

theorem generateShortCode_all (rng : Nat → GeneratedCode) (fuel n : Nat) :
    (generateShortCode rng fuel n).All φ := by
  induction fuel generalizing n with
  | zero => exact hang_all hread
  | succ fuel ih =>
    refine ⟨hread _ trivial, fun r => ?_⟩
    rcases r with err | taken | taken
    · trivial
    · trivial
    · exact ih _

theorem chooseShortCode_all (rng : Nat → GeneratedCode) (requested : Option String) :
    (chooseShortCode app rng requested).All φ := by
  unfold chooseShortCode
  split
  · split
    · exact generateShortCode_all hread ..
    · trivial
  · exact generateShortCode_all hread ..

variable (hdel : ∀ keys, φ (.redisDelete keys))

section Delete

include hdel

theorem scanLoop_all (fuel cursor : Nat) : (scanLoop fuel cursor).All φ := by
  induction fuel generalizing cursor with
  | zero => exact hang_all hread
  | succ fuel ih =>
    rw [scanLoop, Prog.perform_bind]
    refine ⟨hread _ trivial, fun r => ?_⟩
    cases r with
    | error err => trivial
    | ok reply =>
      dsimp only
      split
      · split
        · trivial
        · exact ih _
      · refine ⟨hdel _, fun r => ?_⟩
        cases r with
        | error err => trivial
        | ok _ =>
          dsimp only
          split
          · trivial
          · exact ih _

theorem invalidateUrlLists_all (client : Bool) (fuel : Nat) :
    (invalidateUrlLists client fuel).All φ := by
  cases client with
  | false => trivial
  | true => exact scanLoop_all hread hdel _ _

omit hread in
theorem invalidateRedirect_all (client : Bool) (code : String) :
    (invalidateRedirect client code).All φ := by
  cases client with
  | false => trivial
  | true => exact ⟨hdel _, fun _ => trivial⟩

end Delete

variable {code : String} (hset : ∀ ttl value, φ (.redisSetex (.redirect code) ttl value))
  (hpage : ∀ page perPage ttl value, φ (.redisSetex (.urlList page perPage) ttl value))
  (hevent : ∀ e, φ (.createEvent e)) (hcreate : ∀ u e, φ (.createUrlTx u e))
  (hsave : ∀ u e, φ (.saveUrlTx u e))

omit hread in
include hset in
theorem cacheRedirect_all (client : Bool) (url : String) (active : Bool) :
    (cacheRedirect client code url active).All φ := by
  cases client with
  | false => trivial
  | true => exact ⟨hset _ _, fun _ => trivial⟩

omit hread in
include hpage in
theorem cacheUrlList_all (client : Bool) (page perPage : Int) (data : Json) :
    (cacheUrlList client page perPage data).All φ := by
  cases client with
  | false => trivial
  | true => exact ⟨hpage _ _ _ _, fun _ => trivial⟩

include hdel hset hcreate in
theorem insertUrl_all (userId : Int) (userIdJson : Json) (originalUrl title : String)
    (now : DateTime) :
    (insertUrl app userId userIdJson code originalUrl title now).All φ := by
  refine ⟨hread _ trivial, fun r => ?_⟩
  rcases r with err | taken | taken
  · trivial
  · refine ⟨hcreate _ _, fun r => ?_⟩
    cases r with
    | error err => trivial
    | ok id =>
      exact (cacheRedirect_all hset ..).bind fun _ =>
        (invalidateUrlLists_all hread hdel ..).bind fun _ => trivial
  · trivial

omit hset in
include hdel hcreate in
theorem createShortUrl_all (hset : ∀ code ttl value, φ (.redisSetex (.redirect code) ttl value))
    (body : Body) (now : DateTime) (rng : Nat → GeneratedCode) :
    (createShortUrl app body now rng).All φ := by
  unfold createShortUrl
  split
  · trivial
  · split
    · trivial
    · split
      · trivial
      · trivial
      · split
        · trivial
        · split
          · trivial
          · rw [Prog.perform_bind]
            refine ⟨hread _ trivial, fun r => ?_⟩
            cases r with
            | none => trivial
            | some user =>
              dsimp only
              split
              · trivial
              · refine (chooseShortCode_all hread _ _).bind fun r => ?_
                cases r with
                | error err => trivial
                | ok shortCode => exact insertUrl_all hread hdel (hset shortCode) hcreate ..

include hpage in
theorem listUrls_all (page perPage : Int) (userId : Option Int) (isActive : Option String) :
    (listUrls app page perPage userId isActive).All φ := by
  refine (getCachedUrlList_all hread _ _ _).bind fun r => ?_
  cases r with
  | some cached => trivial
  | none =>
    refine ⟨hread _ trivial, fun total => ⟨hread _ trivial, fun r => ?_⟩⟩
    cases r with
    | error err => trivial
    | ok urls => exact (cacheUrlList_all hpage ..).bind fun _ => trivial

include hdel in
theorem saveUrl_all {url : Url} {event : Event} (hsave : φ (.saveUrlTx url event))
    (response : Response) :
    (saveUrl app url event response).All φ := by
  refine ⟨hsave, fun r => ?_⟩
  cases r with
  | error err => trivial
  | ok _ =>
    exact (invalidateRedirect_all hdel ..).bind fun _ =>
      (invalidateUrlLists_all hread hdel ..).bind fun _ => trivial

include hdel hsave in
theorem updateUrl_all (urlId : Int) (body : Body) (now : DateTime) :
    (updateUrl app urlId body now).All φ := by
  rw [updateUrl, Prog.perform_bind]
  refine ⟨hread _ trivial, fun r => ?_⟩
  cases r with
  | none => trivial
  | some url =>
    dsimp only
    split
    · trivial
    · exact saveUrl_all hread hdel (hsave _ _) _

include hdel hsave in
theorem deleteUrl_all (urlId : Int) (now : DateTime) : (deleteUrl app urlId now).All φ := by
  refine ⟨hread _ trivial, fun r => ?_⟩
  cases r with
  | none => trivial
  | some url => exact saveUrl_all hread hdel (hsave _ _) _

include hset hevent in
theorem redirectToUrl_all (now : DateTime) : (redirectToUrl app code now).All φ := by
  refine (getCachedRedirect_all hread _ _).bind fun r => ?_
  cases r with
  | some cached =>
    dsimp only
    split
    · trivial
    · refine ⟨hread _ trivial, fun r => ?_⟩
      rcases r with err | _ | url
      · trivial
      · trivial
      · exact ⟨hevent _, fun _ => trivial⟩
  | none =>
    dsimp only
    rw [Prog.perform_bind]
    refine ⟨hread _ trivial, fun r => ?_⟩
    rcases r with err | _ | url
    · trivial
    · trivial
    · refine (cacheRedirect_all hset ..).bind fun _ => ?_
      split
      · trivial
      · exact ⟨hevent _, fun _ => trivial⟩

end Reads

end PeHackathon.UrlShortener
