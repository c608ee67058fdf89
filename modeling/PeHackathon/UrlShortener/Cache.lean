import PeHackathon.UrlShortener.Server

/-!
# `app/cache.py`

`client` is whether `_redis_client` is set. A command that raises is logged and counts as a miss.
-/

namespace PeHackathon.UrlShortener

open Lib

/-- 5 minutes for short code to URL mappings. -/
def REDIRECT_TTL : Nat := 300

/-- 10 seconds for list pages. -/
def URL_LIST_TTL : Nat := 10

/-! ## Redirect cache -/

def cacheRedirect (client : Bool) (shortCode originalUrl : String) (isActive : Bool) :
    Handler Unit :=
  if !client then pure ()
  else do
    let _ ← redisSetex (.redirect shortCode) REDIRECT_TTL ⟨originalUrl, isActive⟩
    pure ()

def getCachedRedirect (client : Bool) (shortCode : String) : Handler (Option CachedRedirect) :=
  if !client then pure none
  else do
    match ← redisGet (.redirect shortCode) with
    | .ok raw => pure raw
    | .error _ => pure none

def invalidateRedirect (client : Bool) (shortCode : String) : Handler Unit :=
  if !client then pure ()
  else do
    let _ ← redisDelete [.redirect shortCode]
    pure ()

/-! ## URL list cache -/

def cacheUrlList (client : Bool) (page perPage : Int) (data : Json) : Handler Unit :=
  if !client then pure ()
  else do
    let _ ← redisSetex (.urlList page perPage) URL_LIST_TTL data
    pure ()

def getCachedUrlList (client : Bool) (page perPage : Int) : Handler (Option Json) :=
  if !client then pure none
  else do
    match ← redisGet (.urlList page perPage) with
    | .ok raw => pure raw
    | .error _ => pure none

/-- The `while True` loop of `invalidate_url_lists`, for at most `fuel` rounds. -/
def scanLoop : Nat → Nat → Handler Unit
  | 0, _ => hang
  | fuel + 1, cursor => do
    match ← redisScan cursor with
    | .error _ => pure ()
    | .ok (cursor', keys) =>
      if keys.isEmpty then
        if cursor' = 0 then pure () else scanLoop fuel cursor'
      else
        match ← redisDelete keys with
        | .error _ => pure ()
        | .ok _ => if cursor' = 0 then pure () else scanLoop fuel cursor'

def invalidateUrlLists (client : Bool) (scanFuel : Nat) : Handler Unit :=
  if !client then pure () else scanLoop scanFuel 0

end PeHackathon.UrlShortener
