import Mathlib.Data.Int.Interval
import Mathlib.Order.OrderDual
import PeHackathon.Lib.Pages
import PeHackathon.UrlShortener.Database

/-!
# Pages of the three lists

`list_urls`, `list_events` and `list_users` read a page each with `ORDER BY`, `LIMIT` and `OFFSET`:
by `created_at` and by `timestamp`, newest first, and by `id`. Every query may order the rows that
compare equal in its own way. `pages_partition`: the pages of the users make up the table; those of
the URLs and of the events do just when no bound between pages has the same time on both sides.
-/

namespace PeHackathon.UrlShortener

open Lib

/-! ## The queries -/

/-- `query.paginate(page, per_page)` of the rows in the order the database has chosen. -/
def pageRows {α : Type} (order : List α) (page perPage : Int) : Except DbError (List α) :=
  if Tables.pageInRange page perPage then
    .ok ((order.drop (Tables.pageOffset page perPage).toNat).take perPage.toNat)
  else .error .data

/-- `Url.created_at.desc()`. -/
def Url.newestFirst (u : Url) : (List Nat)ᵒᵈ := OrderDual.toDual u.createdAt.key

/-- `Event.timestamp.desc()`. -/
def Event.newestFirst (e : Event) : (List Nat)ᵒᵈ := OrderDual.toDual e.timestamp.key

/-- The rows of a page of `list_urls`, with no cached page. -/
def listUrlsRows (order : List Url) (page perPage : Int) : Except DbError (List Url) :=
  pageRows order page (min perPage 100)

/-- The rows of a page of `list_events`. -/
def listEventsRows (order : List Event) (page perPage : Int) : Except DbError (List Event) :=
  pageRows order page (min perPage 100)

/-- The rows of a page of `list_users`. -/
def listUsersRows (order : List User) (page perPage : Int) : Except DbError (List User) :=
  pageRows order page (min perPage 100)

/-- The statement the handler of `list_urls` makes is one of these queries. -/
theorem paginate_eq_pageRows (db : Tables) (f : UrlFilter) (page perPage : Int) :
    db.paginate f page perPage = pageRows (db.orderedUrls f) page perPage := rfl

theorem orderedUrls_sortOf (db : Tables) (f : UrlFilter) :
    SortOf Url.newestFirst (db.urls.filter f.holds) (db.orderedUrls f) := by
  refine ⟨List.perm_insertionSort _ _, ?_⟩
  have : Std.Total fun a b : Url => b.createdAt.key ≤ a.createdAt.key :=
    ⟨fun a b => le_total b.createdAt.key a.createdAt.key⟩
  have : IsTrans Url fun a b => b.createdAt.key ≤ a.createdAt.key :=
    ⟨fun _ _ _ h h' => le_trans h' h⟩
  exact List.pairwise_insertionSort (fun a b : Url => b.createdAt.key ≤ a.createdAt.key) _

/-! ## All pages of a list -/

section

variable {α κ : Type} [LinearOrder κ] {key : α → κ} {rows : List α} {perPage : Nat}

/-- Pages 1 to `n`, one after the other. -/
def concatPages (page : Nat → Except DbError (List α)) : Nat → Except DbError (List α)
  | 0 => .ok []
  | n + 1 => do
    let before ← concatPages page n
    let rows ← page (n + 1)
    return before ++ rows

/-- Pages 1 to `ceil(n / per_page)` contain every row exactly once, whatever order each query
chooses. -/
def PagesPartition (query : List α → Int → Int → Except DbError (List α)) (key : α → κ)
    (rows : List α) (perPage : Nat) : Prop :=
  ∀ order : Nat → List α, (∀ page, SortOf key rows (order page)) →
    ∃ l, concatPages (fun page => query (order page) page perPage)
      ((rows.length + perPage - 1) / perPage) =
      .ok l ∧ l.Perm rows

theorem pageOffset_succ (n perPage : Nat) :
    Tables.pageOffset ((n + 1 : Nat) : Int) perPage = ((n * perPage : Nat) : Int) := by
  unfold Tables.pageOffset
  rw [if_pos (by omega)]
  push_cast
  rw [Int.add_sub_cancel]

theorem pageRows_succ {order : List α} {n : Nat} (hrange : n * perPage < 2 ^ 63)
    (hmax : perPage ≤ 100) :
    pageRows order ((n + 1 : Nat) : Int) perPage = .ok (pageAt perPage n order) := by
  unfold pageRows
  rw [if_pos, pageOffset_succ, Int.toNat_natCast, Int.toNat_natCast]
  · rfl
  · unfold Tables.pageInRange
    rw [pageOffset_succ]
    simp only [Bool.and_eq_true, decide_eq_true_eq]
    omega

/-- The pages that are read are those of the lists. -/
theorem concatPages_eq {order : Nat → List α} {n : Nat} (hrange : n * perPage < 2 ^ 63 + perPage)
    (hmax : perPage ≤ 100) :
    concatPages (fun page => pageRows (order page) page (min (perPage : Int) 100)) n =
      .ok (pages (fun k => order (k + 1)) perPage n) := by
  have hmin : min (perPage : Int) 100 = perPage := by omega
  induction n with
  | zero => rfl
  | succ n ih =>
    rw [Nat.succ_mul] at hrange
    have hpage : pageRows (order (n + 1)) ((n + 1 : Nat) : Int) (min (perPage : Int) 100) =
        .ok (pageAt perPage n (order (n + 1))) := by
      rw [hmin]
      exact pageRows_succ (by omega) hmax
    rw [concatPages, ih (by omega), hpage]
    rfl

/-- Ids of a `SERIAL` column. -/
def SerialIds (ids : List Int) : Prop := ids.Nodup ∧ ∀ id ∈ ids, -2 ^ 31 ≤ id ∧ id < 2 ^ 31

theorem SerialIds.length_le {ids : List Int} (h : SerialIds ids) : ids.length ≤ 2 ^ 32 := by
  have hsub : ids.toFinset ⊆ Finset.Ico (-2 ^ 31 : Int) (2 ^ 31) := by
    intro id hid
    exact Finset.mem_Ico.2 (h.2 id (List.mem_toFinset.1 hid))
  have hcard := Finset.card_le_card hsub
  rw [List.toFinset_card_of_nodup h.1, Int.card_Ico] at hcard
  exact hcard.trans (by decide)

/-- The pages of a list partition its rows just when no bound between pages is a tie. -/
theorem pagesPartition_iff {id : α → Int} (hids : SerialIds (rows.map id)) (hmin : 1 ≤ perPage)
    (hmax : perPage ≤ 100) :
    PagesPartition (fun order page perPage => pageRows order page (min perPage 100))
      key rows perPage ↔
      NoTies key rows perPage := by
  have hlength : rows.length ≤ 2 ^ 32 := by
    have := hids.length_le
    rwa [List.length_map] at this
  have hrange : (rows.length + perPage - 1) / perPage * perPage < 2 ^ 63 + perPage := by
    have := Nat.div_mul_le_self (rows.length + perPage - 1) perPage
    omega
  rw [← pages_perm_iff hmin hids.1.of_map]
  constructor
  · intro h order horder
    obtain ⟨l, hl, hperm⟩ := h (fun page => order (page - 1)) fun page => horder (page - 1)
    have hread :
        concatPages (fun page => pageRows (order (page - 1)) page (min (perPage : Int) 100))
        ((rows.length + perPage - 1) / perPage) =
          .ok (pages order perPage ((rows.length + perPage - 1) / perPage)) :=
            concatPages_eq hrange hmax
    rw [hread] at hl
    cases hl
    exact hperm
  · intro h order horder
    exact ⟨_, concatPages_eq hrange hmax, h _ fun k => horder (k + 1)⟩

end

/-! ## The three lists -/

/-- **Pages of the lists**: with ids as the columns keep them and a page size from 1 to 100, pages 1
to `ceil(n / per_page)` of the URLs, and those of the events, contain every row exactly once
whatever the orders among equal times just when no bound between pages has the same time on both
sides; those of the users always do. -/
theorem pages_partition (db : Tables) (perPage : Nat) (hmin : 1 ≤ perPage) (hmax : perPage ≤ 100)
    (hurls : SerialIds (db.urls.map Url.id)) (hevents : SerialIds (db.events.map Event.id))
    (husers : SerialIds (db.users.map User.id)) :
    (PagesPartition listUrlsRows Url.newestFirst db.urls perPage ↔
      NoTies Url.newestFirst db.urls perPage) ∧
    (PagesPartition listEventsRows Event.newestFirst db.events perPage ↔
      NoTies Event.newestFirst db.events perPage) ∧
    PagesPartition listUsersRows User.id db.users perPage :=
  ⟨pagesPartition_iff hurls hmin hmax, pagesPartition_iff hevents hmin hmax,
    (pagesPartition_iff husers hmin hmax).2 (noTies_of_nodup husers.1 hmin)⟩

/-! ## Two rows -/

def pageTime (second : Nat) : DateTime := ⟨2026, 1, 1, 0, 0, second, 0⟩

/-- A user with two URLs, made at the times of two seconds. -/
def twoUrls (second second' : Nat) : Tables where
  users := [⟨1, "default", "default@example.com", pageTime 0⟩]
  urls := [⟨1, 1, "aaaaaa", "https://a.com", some "", true, pageTime second, pageTime second⟩,
    ⟨2, 1, "bbbbbb", "https://b.com", some "", true, pageTime second', pageTime second'⟩]
  events := []
  urlsIdSeq := 3
  eventsIdSeq := 1

theorem serialIds_two : SerialIds ((twoUrls 0 0).urls.map Url.id) := by
  refine ⟨by decide, fun id hid => ?_⟩
  simp [twoUrls] at hid
  omega

theorem serialIds_one : SerialIds ((twoUrls 0 0).users.map User.id) := by
  refine ⟨by decide, fun id hid => ?_⟩
  simp [twoUrls] at hid
  omega

theorem pages_partition_sample : PagesPartition listUrlsRows Url.newestFirst (twoUrls 1 2).urls 1 ∧
    PagesPartition listUsersRows User.id (twoUrls 1 2).users 1 := by
  obtain ⟨hurls, -, husers⟩ := pages_partition (twoUrls 1 2) 1 (by decide) (by decide) serialIds_two
    ⟨List.nodup_nil, nofun⟩ serialIds_one
  refine ⟨hurls.2 (noTies_of_nodup ?_ Nat.one_pos), husers⟩
  decide

/-- Of two URLs made at the same time the first page may show the first, and so may the second
page. -/
theorem pages_repeat : ¬ PagesPartition listUrlsRows Url.newestFirst (twoUrls 1 1).urls 1 := by
  intro h
  obtain ⟨l, hl, hperm⟩ := h
    (fun page => if page = 1 then (twoUrls 1 1).urls else (twoUrls 1 1).urls.reverse) <| by
    intro page
    split
    · exact ⟨.refl _, by decide⟩
    · exact ⟨List.reverse_perm _, by decide⟩
  cases hl
  exact absurd (hperm.nodup_iff.2 (by decide)) (by decide)

end PeHackathon.UrlShortener
