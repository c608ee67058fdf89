import PeHackathon.Lib.Agree
import PeHackathon.UrlShortener.Routes.Urls

/-!
# Requests one after the other

`history` serves a list of requests, each alone. `invalidateUrlLists_eval` says what the `SCAN` loop
leaves in Redis: no list page, and every redirect entry.
-/

namespace PeHackathon.UrlShortener

open Lib

/-! ## The `SCAN` loop -/

section Scan

variable {ι : Type} [DecidableEq ι] {scanner : Scanner} {i : ι} {w : World ι} {keys : List RedisKey}

/-- `DEL` of list pages touches no redirect entry. -/
theorem World.delete_urlLists (h : ∀ k ∈ keys, k.isUrlList) :
    w.delete i keys = { w with redis := keys.foldl (fun r k => r.erase k) w.redis } := by
  have hne : ∀ code, RedisKey.redirect code ∉ keys := fun code hm => by
    have := h _ hm
    cases this
  simp [World.delete, hne]

/-- One round of the loop: the keys of the reply go. -/
theorem scanLoop_round {fuel cursor cursor' : Nat}
    (hr : scanner.reply w.redis.keys cursor = (cursor', keys)) :
    (server scanner).eval i () (scanLoop (fuel + 1) cursor) w =
      (server scanner).eval i () (if cursor' = 0 then .ret () else scanLoop fuel cursor')
        { w with redis := keys.foldl (fun r k => r.erase k) w.redis } := by
  have hmatch : ∀ k ∈ keys, k.isUrlList := by
    simpa [hr] using scanner.isMatch w.redis.keys cursor
  have hresp : respond scanner i w (.redisScan cursor) = some (.ok (cursor', keys), w) := by
    rw [respond_redisScan, hr]
  simp only [scanLoop, Prog.perform_bind, Prog.pure_eq, Server.eval_call, server_respond, hresp,
    Option.bind_some]
  cases keys with
  | nil => rfl
  | cons k keys =>
    simp only [List.isEmpty_cons, Bool.false_eq_true, if_false, Server.eval_call, server_respond,
      respond_redisDelete, Option.bind_some, World.delete_urlLists hmatch]

omit [DecidableEq ι] in
/-- What one round leaves: the list pages before the next cursor are gone. -/
theorem scan_covers {cursor : Nat} {k : RedisKey} (hk : k.isUrlList)
    (hseen : scanner.slot k < cursor → w.redis.lookup k = none)
    (hnext : (scanner.reply w.redis.keys cursor).1 = 0 ∨
      scanner.slot k < (scanner.reply w.redis.keys cursor).1) :
    k ∈ (scanner.reply w.redis.keys cursor).2 ∨ w.redis.lookup k = none := by
  by_cases hlt : scanner.slot k < cursor
  · exact .inr (hseen hlt)
  · by_cases hlive : k ∈ w.redis.keys
    · exact .inl (scanner.covers _ _ _ hlive hk (by omega) hnext)
    · exact .inr (AList.lookup_eq_none.2 hlive)

theorem scanLoop_eval {fuel cursor : Nat} (hfuel : scanner.bound < fuel + cursor)
    (hcursor : cursor ≤ scanner.bound)
    (hseen : ∀ k, k.isUrlList → scanner.slot k < cursor → w.redis.lookup k = none) :
    ∃ r : Redis, (server scanner).eval i () (scanLoop fuel cursor) w =
        some ((), { w with redis := r }) ∧
      ∀ k, r.lookup k = if k.isUrlList then none else w.redis.lookup k := by
  induction fuel generalizing cursor w with
  | zero => omega
  | succ fuel ih =>
    have hmatch := scanner.isMatch w.redis.keys cursor
    have hmoves := scanner.moves w.redis.keys cursor
    have hends := scanner.ends w.redis.keys cursor
    have hcov := fun k hk => scan_covers hk (hseen k hk)
    cases hr : scanner.reply w.redis.keys cursor with
    | mk cursor' keys =>
      rw [scanLoop_round hr]
      rw [hr] at hmatch hmoves hends hcov
      dsimp only at hmatch hmoves hends hcov ⊢
      split
      · rename_i hz
        refine ⟨_, rfl, fun k => ?_⟩
        rw [lookup_foldl_erase]
        by_cases hk : k.isUrlList = true
        · rcases hcov k hk (.inl hz) with h | h <;> simp [hk, h]
        · have hnm : k ∉ keys := fun hm => hk (hmatch k hm)
          simp [hk, hnm]
      · rename_i hz
        have hlt : cursor < cursor' := hmoves.resolve_left hz
        obtain ⟨r, hev, hlook⟩ := ih
          (w := { w with redis := keys.foldl (fun r k => r.erase k) w.redis }) (by omega) hends
          (fun k hk hs => by
            dsimp only
            rw [lookup_foldl_erase]
            rcases hcov k hk (.inr hs) with h | h <;> simp [h])
        refine ⟨r, hev, fun k => ?_⟩
        rw [hlook k]
        by_cases hk : k.isUrlList = true
        · simp [hk]
        · have hnm : k ∉ keys := fun hm => hk (hmatch k hm)
          simp [hk, lookup_foldl_erase, hnm]

/-- **`invalidate_url_lists`** removes the list pages and nothing else. -/
theorem invalidateUrlLists_eval {fuel : Nat} (hfuel : scanner.bound < fuel) :
    ∃ r : Redis, (server scanner).eval i () (invalidateUrlLists true fuel) w =
        some ((), { w with redis := r }) ∧
      ∀ k, r.lookup k = if k.isUrlList then none else w.redis.lookup k :=
  scanLoop_eval (by omega) (Nat.zero_le _) fun _ _ h => absurd h (Nat.not_lt_zero _)

end Scan

/-! ## Histories -/

section History

variable (scanner : Scanner) (app : App)

/-- One request, alone. -/
def serve (r : Request) (w : World Unit) : Option (Response × World Unit) :=
  (server scanner).eval () () (handle app r) w

/-- The world after a list of requests. -/
def history : List Request → World Unit → Option (World Unit)
  | [], w => some w
  | r :: rs, w => (serve scanner app r w).bind fun aw => history rs aw.2

/-- Every request of the list meets `P` in the world it is served in. -/
def Along (P : Request → World Unit → Prop) : List Request → World Unit → Prop
  | [], _ => True
  | r :: rs, w => P r w ∧ ∀ a w', serve scanner app r w = some (a, w') → Along P rs w'

variable {scanner app} {P P' : Request → World Unit → Prop} {J : World Unit → Prop}

/-- **Induction over a history**. -/
theorem Along.of_inv (hP : ∀ r w, J w → P r w)
    (hJ : ∀ r w a w', J w → serve scanner app r w = some (a, w') → J w') :
    ∀ (reqs : List Request) (w : World Unit), J w → Along scanner app P reqs w
  | [], _, _ => trivial
  | r :: rs, w, hw =>
    ⟨hP r w hw, fun a w' h => Along.of_inv hP hJ rs w' (hJ r w a w' hw h)⟩

end History

/-! ## A small instance -/

section Sample

/-- Noon of the `n`-th of January 2026. -/
def sampleTime (n : Nat) : DateTime := ⟨2026, 1, n, 12, 0, 0, 0⟩

def sampleUser : User := ⟨1, "ana", "ana@example.com", sampleTime 1⟩

def sampleUrl : Url :=
  ⟨1, 1, "abc123", "https://old.example", none, true, sampleTime 1, sampleTime 1⟩

/-- One user with one active URL. -/
def sampleDb : Db where
  users := [sampleUser]
  urls := [sampleUrl]
  events := []
  urlsIdSeq := 2
  eventsIdSeq := 1
  valid := by decide

def sampleApp : App where
  redis := true
  scanFuel := 1
  codeFuel := 1
  hosts := ⟨fun _ => true, fun s => s⟩
  printable := fun _ => true

/-- The body of a create for the sample user. -/
def sampleCreate (shortCode : String) : Body :=
  .json (.obj [("original_url", .str "https://new.example"), ("user_id", .int 1),
    ("short_code", .str shortCode)])

def sampleCode : GeneratedCode := ⟨"aaaaaa", by decide⟩

end Sample

end PeHackathon.UrlShortener
