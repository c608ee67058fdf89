import PeHackathon.Lib.UrlMap
import PeHackathon.Python.Quote

/-!
# The URL map of the app

The rules of `create_app` and of its blueprints, in the order of their registration, and which view
a `GET` reaches. A path of one segment is for `redirect_to_url`, unless it is the path of a page
(`ownPages`).
-/

namespace PeHackathon.UrlShortener

open Lib

inductive HttpMethod
  | get
  | post
  | put
  | delete
  deriving DecidableEq

/-- The view functions. -/
inductive View
  | static
  | favicon
  | index
  | health
  | live
  | ready
  | metrics
  | instanceStats
  | adminUi
  | listBans
  | getBanStatus
  | adminUnban
  | toggleBanSystem
  | banSystemStatus
  | rateLimitStatus
  | updateRateLimitConfig
  | storeTestResult
  | listTestResults
  | listUsers
  | getUser
  | createUser
  | updateUser
  | deleteUser
  | bulkLoadUsers
  | listEvents
  | createEvent
  | createShortUrl
  | listUrls
  | getUrl
  | updateUrl
  | deleteUrl
  | listUserUrls
  | listUrlEvents
  | redirectToUrl
  deriving DecidableEq

def urlMap : List (UrlRule HttpMethod View) :=
  [ -- `Flask(__name__)`
    ⟨"/static/<path:filename>", [.get], .static⟩,
    -- `create_app`
    ⟨"/favicon.ico", [.get], .favicon⟩,
    ⟨"/", [.get], .index⟩,
    ⟨"/health", [.get], .health⟩,
    ⟨"/live", [.get], .live⟩,
    ⟨"/ready", [.get], .ready⟩,
    ⟨"/metrics", [.get], .metrics⟩,
    ⟨"/api/instance-stats", [.get], .instanceStats⟩,
    -- `admin_bp`, with its prefix
    ⟨"/admin/", [.get], .adminUi⟩,
    ⟨"/admin/bans", [.get], .listBans⟩,
    ⟨"/admin/bans/<ip>", [.get], .getBanStatus⟩,
    ⟨"/admin/bans/<ip>/unban", [.post], .adminUnban⟩,
    ⟨"/admin/bans/toggle", [.post], .toggleBanSystem⟩,
    ⟨"/admin/bans/toggle", [.get], .banSystemStatus⟩,
    ⟨"/admin/rate-limit", [.get], .rateLimitStatus⟩,
    ⟨"/admin/rate-limit/config", [.put], .updateRateLimitConfig⟩,
    -- `test_results_bp`
    ⟨"/test-results", [.post], .storeTestResult⟩,
    ⟨"/test-results", [.get], .listTestResults⟩,
    -- `users_bp`
    ⟨"/users", [.get], .listUsers⟩,
    ⟨"/users/<int:user_id>", [.get], .getUser⟩,
    ⟨"/users", [.post], .createUser⟩,
    ⟨"/users/<int:user_id>", [.put], .updateUser⟩,
    ⟨"/users/<int:user_id>", [.delete], .deleteUser⟩,
    ⟨"/users/bulk", [.post], .bulkLoadUsers⟩,
    -- `events_bp`
    ⟨"/events", [.get], .listEvents⟩,
    ⟨"/events", [.post], .createEvent⟩,
    -- `urls_bp`
    ⟨"/shorten", [.post], .createShortUrl⟩,
    ⟨"/urls", [.post], .createShortUrl⟩,
    ⟨"/urls", [.get], .listUrls⟩,
    ⟨"/urls/<int:url_id>", [.get], .getUrl⟩,
    ⟨"/urls/<int:url_id>", [.put], .updateUrl⟩,
    ⟨"/urls/<int:url_id>", [.delete], .deleteUrl⟩,
    ⟨"/users/<int:user_id>/urls", [.get], .listUserUrls⟩,
    ⟨"/urls/<int:url_id>/events", [.get], .listUrlEvents⟩,
    ⟨"/<short_code>", [.get], .redirectToUrl⟩ ]

/-- What stands after the slash in the paths of the pages. `admin` is short for `admin/`. -/
def ownPages : List String :=
  ["favicon.ico", "", "health", "live", "ready", "metrics", "admin", "test-results", "users",
    "events", "urls"]

/-! ## Its rules -/

theorem urlMap_names :
    (urlMap.filter (.get ∈ ·.methods)).filterMap UrlRule.name? = ownPages.map String.toList := by
  decide

theorem urlMap_open : ∀ r ∈ urlMap, r.isOpen = true →
    r.parts = [.static [], .string] ∧ r.endpoint = .redirectToUrl := by
  decide

theorem urlMap_redirect :
    ∀ r ∈ urlMap, r.endpoint = .redirectToUrl → r.parts = [.static [], .string] := by
  decide

/-- The segments that a rule for `GET` is about. -/
theorem urlMap_named (code : String) :
    (∃ r ∈ urlMap, .get ∈ r.methods ∧ r.name? = some code.toList) ↔ code ∈ ownPages := by
  have hmem : (∃ r ∈ urlMap, .get ∈ r.methods ∧ r.name? = some code.toList) ↔
      code.toList ∈ (urlMap.filter (.get ∈ ·.methods)).filterMap UrlRule.name? := by
    simp only [List.mem_filterMap, List.mem_filter, decide_eq_true_eq, and_assoc]
  rw [hmem, urlMap_names, List.mem_map_of_injective fun _ _ => String.toList_injective]

/-! ## Dispatch -/

section Dispatch

variable (router : Router urlMap) {code : String} {target : List Char} {args : List (List Char)}

/-- What becomes of a `GET` of a path, as it stands in the request. -/
def getPath (target : List Char) : Dispatch View := router.dispatch .get (pathInfo target)

/-- The path of a short code. -/
def codePath (code : String) : List Char := '/' :: quote code.toList

theorem getPath_codePath (code : String) :
    getPath router (codePath code) = router.dispatch .get ('/' :: code.toList) := by
  rw [getPath, codePath, pathInfo_quote]

/-- `redirect_to_url` is called with one segment. -/
theorem getPath_redirect (h : getPath router target = .view .redirectToUrl args) :
    ∃ code : String, args = [code.toList] ∧ '/' ∉ code.toList := by
  obtain ⟨d, rfl, hd⟩ := router.dispatch_string urlMap_redirect h
  exact ⟨String.ofList d, by rw [String.toList_ofList], by rw [String.toList_ofList]; exact hd⟩

/-- A code with the name of a page leads to that page. -/
theorem getPath_ownPage (hcode : '/' ∉ code.toList) (hpage : code ∈ ownPages) :
    getPath router (codePath code) ≠ .view .redirectToUrl args := by
  intro h
  obtain ⟨d, rfl, -⟩ := getPath_redirect router h
  rw [getPath_codePath] at h
  rcases router.dispatch_named hcode ((urlMap_named code).2 hpage) with ⟨e, hview⟩ | hmoved
  · rw [hview] at h
    cases h
  · rw [hmoved] at h
    cases h

/-- **Another code of one segment leads to `redirect_to_url`.** -/
theorem getPath_code (hcode : '/' ∉ code.toList) (hpage : code ∉ ownPages) :
    getPath router (codePath code) = .view .redirectToUrl [code.toList] := by
  have hne : code.toList ≠ [] := fun h => by
    rw [String.toList_eq_nil_iff] at h
    exact hpage (by rw [h]; decide)
  have hfree : ∀ r ∈ urlMap, .get ∈ r.methods → r.name? ≠ some code.toList := fun r hr hm hname =>
    hpage ((urlMap_named code).1 ⟨r, hr, hm, hname⟩)
  have hrule : ⟨"/<short_code>", [.get], .redirectToUrl⟩ ∈ urlMap := by simp [urlMap]
  rw [getPath_codePath]
  exact router.dispatch_free hrule (by decide) (urlMap_redirect _ hrule rfl)
    (fun r hr _ => urlMap_open r hr) hcode hne hfree

end Dispatch

end PeHackathon.UrlShortener
