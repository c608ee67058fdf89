import PeHackathon.Lib.Loop
import PeHackathon.UrlShortener.Routes.BulkUsers

/-!
# What a bulk load accounts for

A row is imported, skipped, passed over or raises (`importRow_cases`), and the first two are for the
rows that fit what the rows before them have left (`RowFits`). The answer accounts for every row
exactly if the file can be read and all its rows fit (`bulk_accounted_iff`).
-/

namespace PeHackathon.UrlShortener

open Lib

/-! ## Rows that fit -/

/-- A row has the id, a username and an email, so an import of it replaces the user with that id. -/
def Replaces (row : CsvRow) (id : Int) : Prop :=
  (cell row "id").bind explicitId = some (some id) ∧
    ∃ username email, cell row "username" = some username ∧ cell row "email" = some email ∧
      username ≠ "" ∧ email ≠ ""

section Fits

variable (dates : String → Option DateTime)

/-- The date of a row can be read, if it gives one. -/
def DateFits (createdAt : String) : Prop := createdAt = "" ∨ (dates createdAt).isSome = true

/-- The values fit the columns, and no other user has the username or the email. -/
def UpdateFits (t : Users) (u : User) : Prop := Users.Storable u ∧ ¬ t.Taken u

/-- The username or the email is taken, and the row is skipped; or the row can be inserted: its date
can be read, its values fit, and no user has its id, or the next one of the sequence. -/
def InsertFits (t : Users) (id : Option Int) (username email createdAt : String) : Prop :=
  sendable username = true ∧ sendable email = true ∧
    (usernameOrEmailTaken t username email = true ∨
      DateFits dates createdAt ∧ int4 (id.getD t.idSeq) = true ∧ Fits 100 username ∧
        Fits 255 email ∧
        ∀ v ∈ t.rows, v.id ≠ id.getD t.idSeq)

/-- What a row brings can be imported or skipped, which depends on whether a user has its id. -/
def ImportFits (t : Users) (id : Option Int) (username email createdAt : String) : Prop :=
  match id.bind t.getById with
  | some existing => DateFits dates createdAt ∧ UpdateFits t { existing with username, email }
  | none => InsertFits dates t id username email createdAt

/-- A row that can be imported or skipped: no cell that is read is missing, there is a username and
an email, and the id is a number or not given. -/
def RowFits (st : BulkImport) (row : CsvRow) : Prop :=
  ∃ username email createdAt id, cell row "username" = some username ∧
    cell row "email" = some email ∧
    username ≠ "" ∧ email ≠ "" ∧ cell row "created_at" = some createdAt ∧
    (cell row "id").bind explicitId = some id ∧
    ImportFits dates st.users id username email createdAt

end Fits

/-- A row without a username or an email, which is passed over. -/
def RowBlank (row : CsvRow) : Prop :=
  ∃ username email, cell row "username" = some username ∧ cell row "email" = some email ∧
    (username = "" ∨ email = "")

/-! ## One row -/

/-- The row is in the table, and only the user it replaces is not there any more. -/
structure Imported (t t' : Users) (row : CsvRow) : Prop where
  there : ∃ username email, cell row "username" = some username ∧ cell row "email" = some email ∧
    ∃ v ∈ t'.rows, v.username = username ∧ v.email = email
  others : ∀ v ∈ t.rows, v ∈ t'.rows ∨ Replaces row v.id

section Step

variable {dates : String → Option DateTime} {now : Nat → DateTime} {st st' : BulkImport}
  {row : CsvRow} {username email createdAt : String} {id : Option Int} {existing : User}

theorem date_of_fits {other : DateTime} (h : DateFits dates createdAt) :
    ∃ date, (if createdAt = "" then some other else dates createdAt) = some date := by
  by_cases hnone : createdAt = ""
  · exact ⟨other, if_pos hnone⟩
  · obtain ⟨date, hdate⟩ := Option.isSome_iff_exists.1 (h.resolve_left hnone)
    exact ⟨date, by rw [if_neg hnone, hdate]⟩

theorem date_of_not_fits {other : DateTime} (h : ¬ DateFits dates createdAt) :
    (if createdAt = "" then some other else dates createdAt) = none := by
  rw [DateFits, not_or] at h
  rw [if_neg h.1]
  exact Option.not_isSome_iff_eq_none.1 h.2

/-- Everything the row with an id that is there can do. -/
theorem replaceUser_cases (st : BulkImport) (existing : User) (createdAt : String)
    (hcut : Users.Uncut { existing with username, email }) :
    (DateFits dates createdAt ∧ UpdateFits st.users { existing with username, email } ∧
      ∃ date, replaceUser dates st existing username email createdAt = .ok { st with
        users := { st.users with rows := st.users.rows.map fun v =>
          if v.id == existing.id then { existing with username, email, createdAt := date } else v }
        created := st.created + 1, line := st.line + 1 }) ∨
    (¬ (DateFits dates createdAt ∧ UpdateFits st.users { existing with username, email }) ∧
      ∃ idSeq, replaceUser dates st existing username email createdAt = .error idSeq) := by
  unfold replaceUser
  by_cases hdate : DateFits dates createdAt
  · obtain ⟨date, hread⟩ := @date_of_fits dates createdAt existing.createdAt hdate
    rw [hread]
    dsimp only
    have hcut' : Users.Uncut { existing with username, email, createdAt := date } := hcut
    rcases Users.save_cases st.users hcut' with ⟨hstorable, hsave⟩ | ⟨hstorable,
      ⟨htaken, hsave⟩ | ⟨htaken, hsave⟩⟩
    · rw [hsave]
      exact .inr ⟨fun hfits => hstorable hfits.2.1, _, rfl⟩
    · rw [hsave]
      exact .inr ⟨fun hfits => hfits.2.2 htaken, _, rfl⟩
    · rw [hsave]
      exact .inl ⟨hdate, ⟨hstorable, htaken⟩, date, rfl⟩
  · rw [date_of_not_fits hdate]
    exact .inr ⟨fun hfits => hdate hfits.1, _, rfl⟩

theorem usernameOrEmailTaken_iff {t : Users} :
    usernameOrEmailTaken t username email = true ↔ ∃ v ∈ t.rows, v.username = username ∨
      v.email = email := by
  simp [usernameOrEmailTaken]

/-- Everything a row with a new id, or with none, can do. -/
theorem addUser_cases (st : BulkImport) (id : Option Int) (createdAt : String)
    (hname : ¬ CutAt 100 username) (hemail : ¬ CutAt 255 email) :
    (InsertFits dates st.users id username email createdAt ∧
      (addUser dates now st id username email createdAt =
          .ok { st with skipped := st.skipped + 1, line := st.line + 1 } ∨
        ∃ date idSeq, addUser dates now st id username email createdAt = .ok { st with
          users := ⟨st.users.rows ++ [st.users.newRow id username email date], idSeq⟩
          created := st.created + 1, line := st.line + 1 })) ∨
    (¬ InsertFits dates st.users id username email createdAt ∧
      ∃ idSeq, addUser dates now st id username email createdAt = .error idSeq) := by
  unfold addUser
  by_cases hsend : sendable username = true ∧ sendable email = true
  · rw [hsend.1, hsend.2]
    by_cases htaken : usernameOrEmailTaken st.users username email = true
    · exact .inl ⟨⟨hsend.1, hsend.2, .inl htaken⟩, .inl (by simp [htaken])⟩
    · have hfree : ∀ date, ¬ st.users.Taken (st.users.newRow id username email date) := by
        rintro date ⟨v, hv, -, hsame⟩
        exact htaken (usernameOrEmailTaken_iff.2 ⟨v, hv, hsame⟩)
      rw [if_neg htaken]
      by_cases hdate : DateFits dates createdAt
      · obtain ⟨date, hread⟩ := @date_of_fits dates createdAt (now st.line) hdate
        rw [hread]
        dsimp only
        rcases Users.insert_cases (rfl : st.users.newRow id username email date = _)
            ⟨hname, hemail⟩ with
          ⟨hstorable, hinsert⟩ | ⟨idSeq, hstorable,
            ⟨⟨v, hv, hvid⟩, hinsert⟩ | ⟨hnew, ⟨hdup, -⟩ | ⟨-, hinsert⟩⟩⟩
        · rw [hinsert]
          refine .inr ⟨fun hfits => ?_, _, rfl⟩
          obtain ⟨-, hint, hlen, hlen', -⟩ := hfits.2.2.resolve_left htaken
          exact hstorable ⟨hint, hlen, hlen'⟩
        · rw [hinsert]
          refine .inr ⟨fun hfits => ?_, _, rfl⟩
          exact (hfits.2.2.resolve_left htaken).2.2.2.2 v hv hvid
        · exact absurd hdup (hfree date)
        · rw [hinsert]
          exact .inl
            ⟨⟨hsend.1, hsend.2, .inr ⟨hdate, hstorable.1, hstorable.2.1, hstorable.2.2, hnew⟩⟩,
            .inr ⟨date, idSeq, rfl⟩⟩
      · rw [date_of_not_fits hdate]
        exact .inr ⟨fun hfits => hdate (hfits.2.2.resolve_left htaken).1, _, rfl⟩
  · have hraises : (!(sendable username && sendable email)) = true := by
      rw [Bool.not_eq_true', Bool.and_eq_false_iff, ← Bool.not_eq_true, ← Bool.not_eq_true]
      exact not_and_or.1 hsend
    rw [if_pos hraises]
    exact .inr ⟨fun hfits => hsend ⟨hfits.1, hfits.2.1⟩, _, rfl⟩

/-- Everything that what a row brings can do. -/
theorem importUser_cases (st : BulkImport) (id : Option Int) (createdAt : String)
    (hname : ¬ CutAt 100 username) (hemail : ¬ CutAt 255 email) :
    (ImportFits dates st.users id username email createdAt ∧
      ((∃ users, importUser dates now st id username email createdAt =
          .ok { st with users, created := st.created + 1, line := st.line + 1 } ∧
          (∃ v ∈ users.rows, v.username = username ∧ v.email = email) ∧
          ∀ v ∈ st.users.rows, v ∈ users.rows ∨ id = some v.id) ∨
        importUser dates now st id username email createdAt =
          .ok { st with skipped := st.skipped + 1, line := st.line + 1 })) ∨
    (¬ ImportFits dates st.users id username email createdAt ∧
      ∃ idSeq, importUser dates now st id username email createdAt = .error idSeq) := by
  unfold importUser ImportFits
  cases hfound : id.bind st.users.getById with
  | some existing =>
    obtain ⟨userId, rfl, hget⟩ := Option.bind_eq_some_iff.1 hfound
    obtain ⟨hmem, hid⟩ := Users.getById_eq_some hget
    dsimp only
    rcases @replaceUser_cases dates username email st existing createdAt ⟨hname, hemail⟩ with
      ⟨hdate, hfits, date, hreplace⟩ | hnot
    · refine .inl ⟨⟨hdate, hfits⟩, .inl ⟨_, hreplace, ?_, fun v hv => ?_⟩⟩
      · refine ⟨{ existing with username, email, createdAt := date },
          List.mem_map.2 ⟨existing, hmem, ?_⟩, rfl, rfl⟩
        rw [if_pos (beq_self_eq_true _)]
      · by_cases hv' : v.id = existing.id
        · exact .inr (by rw [hv', hid])
        · refine .inl (List.mem_map.2 ⟨v, hv, ?_⟩)
          rw [if_neg (by rwa [beq_iff_eq])]
    · exact .inr hnot
  | none =>
    dsimp only
    rcases @addUser_cases dates now username email st id createdAt hname hemail with
      ⟨hfits, hskip | ⟨date, idSeq, hadd⟩⟩ | hnot
    · exact .inl ⟨hfits, .inr hskip⟩
    · refine .inl ⟨hfits, .inl ⟨_, hadd, ?_, fun v hv => .inl (List.mem_append_left _ hv)⟩⟩
      exact ⟨_, List.mem_append_right _ (List.mem_singleton_self _), rfl, rfl⟩
    · exact .inr hnot

/-- **Everything a row can do**: it fits, and is imported or skipped; or it is passed over, or
raises. -/
theorem importRow_cases (dates : String → Option DateTime) (now : Nat → DateTime) (st : BulkImport)
    (row : CsvRow) :
    (RowFits dates st row ∧
      ((∃ users,
          importRow dates now st row =
              .ok { st with users, created := st.created + 1, line := st.line + 1 } ∧
            Imported st.users users row) ∨
        importRow dates now st row =
          .ok { st with skipped := st.skipped + 1, line := st.line + 1 })) ∨
    (¬ RowFits dates st row ∧
      (RowBlank row ∧ importRow dates now st row = .ok { st with line := st.line + 1 } ∨
        ∃ idSeq, importRow dates now st row = .error idSeq)) := by
  unfold importRow RowFits RowBlank
  cases hname : cell row "username" with
  | none => exact .inr ⟨by simp, .inr ⟨_, rfl⟩⟩
  | some username =>
    cases hemail : cell row "email" with
    | none => exact .inr ⟨by simp, .inr ⟨_, rfl⟩⟩
    | some email =>
      dsimp only
      by_cases hblank : username = "" ∨ email = ""
      · rw [if_pos hblank]
        refine .inr ⟨?_, .inl ⟨⟨_, _, rfl, rfl, hblank⟩, rfl⟩⟩
        rintro ⟨_, _, _, _, hu, he, hu', he', -⟩
        cases hu
        cases he
        exact hblank.elim hu' he'
      · rw [if_neg hblank]
        rw [not_or] at hblank
        cases hdate : cell row "created_at" with
        | none => exact .inr ⟨by simp, .inr ⟨_, rfl⟩⟩
        | some createdAt =>
          cases hid : (cell row "id").bind explicitId with
          | none => exact .inr ⟨by simp, .inr ⟨_, rfl⟩⟩
          | some id =>
            dsimp only
            rcases @importUser_cases dates now username email st id createdAt (cell_uncut 100 hname)
              (cell_uncut 255 hemail) with ⟨hfits,
                ⟨users, himport, hthere, hothers⟩ | hskip⟩ | ⟨hnot, hraises⟩
            · refine .inl ⟨⟨_, _, _, _, rfl, rfl, hblank.1, hblank.2, rfl, rfl, hfits⟩,
                .inl ⟨users, himport, ?_⟩⟩
              refine ⟨⟨username, email, hname, hemail, hthere⟩,
                fun v hv => (hothers v hv).imp_right fun hv' => ?_⟩
              exact ⟨by rw [hid, hv'], username, email, hname, hemail, hblank⟩
            · exact .inl ⟨⟨_, _, _, _, rfl, rfl, hblank.1, hblank.2, rfl, rfl, hfits⟩, .inr hskip⟩
            · refine .inr ⟨?_, .inr hraises⟩
              rintro ⟨_, _, _, _, hu, he, -, -, hd, hi, hfits⟩
              cases hu
              cases he
              cases hd
              cases hi
              exact hnot hfits

/-- Everything a row can do that does not raise. -/
theorem importRow_ok_cases (h : importRow dates now st row = .ok st') :
    (RowFits dates st row ∧
      ((∃ users, st' = { st with users, created := st.created + 1, line := st.line + 1 } ∧
          Imported st.users users row) ∨
        st' = { st with skipped := st.skipped + 1, line := st.line + 1 })) ∨
    (¬ RowFits dates st row ∧ st' = { st with line := st.line + 1 }) := by
  rcases importRow_cases dates now st row with ⟨hfits, ⟨users, himport, himported⟩ | hskip⟩ |
    ⟨hnot, ⟨-, hblank⟩ | ⟨idSeq, hraise⟩⟩
  · cases himport.symm.trans h
    exact .inl ⟨hfits, .inl ⟨users, rfl, himported⟩⟩
  · cases hskip.symm.trans h
    exact .inl ⟨hfits, .inr rfl⟩
  · cases hblank.symm.trans h
    exact .inr ⟨hnot, rfl⟩
  · cases hraise.symm.trans h

/-- A user stays, unless the row replaces it. -/
theorem importRow_keeps {v : User} (h : importRow dates now st row = .ok st')
    (hv : v ∈ st.users.rows) :
    v ∈ st'.users.rows ∨ Replaces row v.id := by
  rcases importRow_ok_cases h with ⟨-, ⟨users, rfl, himported⟩ | rfl⟩ | ⟨-, rfl⟩
  · exact himported.others v hv
  · exact .inl hv
  · exact .inl hv

/-- The counters go up by one exactly for a row that fits. -/
theorem importRow_counts (h : importRow dates now st row = .ok st') :
    st'.created + st'.skipped ≤ st.created + st.skipped + 1 ∧
      (st'.created + st'.skipped = st.created + st.skipped + 1 → RowFits dates st row) := by
  rcases importRow_ok_cases h with ⟨hfits, ⟨users, rfl, -⟩ | rfl⟩ | ⟨-, rfl⟩
  · exact ⟨by dsimp only; omega, fun _ => hfits⟩
  · exact ⟨by dsimp only; omega, fun _ => hfits⟩
  · exact ⟨by dsimp only; omega, fun heq => by dsimp only at heq; omega⟩

end Step

/-! ## The file -/

section File

variable (dates : String → Option DateTime) (now : Nat → DateTime)

def afterRow (st : BulkImport) (row : CsvRow) : BulkImport :=
  match importRow dates now st row with
  | .ok st => st
  | .error _ => st

/-- Each row fits what the rows before it have left. -/
def RowsFit (st : BulkImport) (rows : List CsvRow) : Prop :=
  Throughout (fun st row => RowFits dates st row) (afterRow dates now) st rows

/-- The values of each imported row are in the table afterwards, unless a later row replaces that
user, and a skipped row has changed nothing. -/
def EachAccounted (t final : Users) (rows : List CsvRow) : Prop :=
  ∀ front row back, rows = front ++ row :: back →
    ∀ st st', front.foldlM (importRow dates now) ⟨t, 0, 0, 0⟩ = .ok st →
    importRow dates now st row = .ok st' →
      (st'.created = st.created + 1 → ∃ username email, cell row "username" = some username ∧
        cell row "email" = some email ∧ ∃ v : User, v.username = username ∧ v.email = email ∧
          (v ∈ final.rows ∨ ∃ later ∈ back, Replaces later v.id)) ∧
      (st'.skipped = st.skipped + 1 → st'.users = st.users)

/-- The upload is answered with 201 and every row is accounted for, or it is answered as a mistake
of the client and changes nothing. -/
def BulkAccounted (files : String → Option (Option String)) (t : Users) (text : String) : Prop :=
  let answer := bulkLoadUsers dates now files t (.ofUpload text)
  (answer.1.status = 201 ∧ ∃ rows imported skipped rowCount,
    csvDictRows (textLines text.toList) = some rows ∧ rowCount = (rows.length : Int) ∧
    pyItem answer.1.body "imported" = some (.int imported) ∧
    pyItem answer.1.body "skipped" = some (.int skipped) ∧
    pyItem answer.1.body "row_count" = some (.int rowCount) ∧ imported + skipped = rowCount ∧
    EachAccounted dates now t answer.2 rows) ∨
  (400 ≤ answer.1.status ∧ answer.1.status ≤ 499 ∧ answer.2.rows = t.rows)

variable {dates now} {st st' : BulkImport} {rows : List CsvRow}

theorem run_of_fits (h : RowsFit dates now st rows) :
    ∃ st', rows.foldlM (importRow dates now) st = .ok st' ∧
    st'.created + st'.skipped = st.created + st.skipped + rows.length := by
  induction rows generalizing st with
  | nil => exact ⟨st, rfl, rfl⟩
  | cons row rows ih =>
    have hstep : ∃ next, importRow dates now st row = .ok next ∧
        next.created + next.skipped = st.created + st.skipped + 1 := by
      rcases importRow_cases dates now st row with ⟨-, ⟨users, himport, -⟩ | hskip⟩ | ⟨hnot, -⟩
      · exact ⟨_, himport, by dsimp only; omega⟩
      · exact ⟨_, hskip, by dsimp only; omega⟩
      · exact absurd h.1 hnot
    obtain ⟨next, hnext, hcount⟩ := hstep
    have hafter : afterRow dates now st row = next := by rw [afterRow, hnext]
    obtain ⟨st', hrun, hcounts⟩ := ih (hafter ▸ h.2)
    refine ⟨st', ?_, ?_⟩
    · rw [List.foldlM_cons, hnext]
      exact hrun
    · rw [hcounts, hcount, List.length_cons]
      omega

theorem fits_of_run (h : rows.foldlM (importRow dates now) st = .ok st') :
    st'.created + st'.skipped ≤ st.created + st.skipped + rows.length ∧
      (st'.created + st'.skipped = st.created + st.skipped + rows.length →
        RowsFit dates now st rows) := by
  induction rows generalizing st with
  | nil =>
    cases h
    exact ⟨Nat.le_refl _, fun _ => trivial⟩
  | cons row rows ih =>
    rw [List.foldlM_cons] at h
    cases hnext : importRow dates now st row with
    | error idSeq =>
      rw [hnext] at h
      cases h
    | ok next =>
      rw [hnext] at h
      obtain ⟨hle, hfits⟩ := importRow_counts hnext
      obtain ⟨hle', hfits'⟩ := ih h
      rw [List.length_cons]
      refine ⟨by omega, fun heq => ⟨hfits (by omega), ?_⟩⟩
      have hafter : afterRow dates now st row = next := by rw [afterRow, hnext]
      rw [hafter]
      exact hfits' (by omega)

/-- A user stays, unless a row replaces it. -/
theorem run_keeps {v : User} (h : rows.foldlM (importRow dates now) st = .ok st')
    (hv : v ∈ st.users.rows) :
    v ∈ st'.users.rows ∨ ∃ row ∈ rows, Replaces row v.id := by
  induction rows generalizing st with
  | nil =>
    cases h
    exact .inl hv
  | cons row rows ih =>
    rw [List.foldlM_cons] at h
    cases hnext : importRow dates now st row with
    | error idSeq =>
      rw [hnext] at h
      cases h
    | ok next =>
      rw [hnext] at h
      rcases importRow_keeps hnext hv with hv | hreplaces
      · refine (ih h hv).imp_right ?_
        rintro ⟨later, hlater, hreplaces⟩
        exact ⟨later, List.mem_cons_of_mem row hlater, hreplaces⟩
      · exact .inr ⟨row, List.mem_cons_self, hreplaces⟩

theorem fixSequence_rows (t : Users) : (fixSequence t).rows = t.rows := by
  unfold fixSequence
  dsimp only
  split
  · rfl
  · rfl

theorem eachAccounted_of_run {t final : Users}
    (h : rows.foldlM (importRow dates now) ⟨t, 0, 0, 0⟩ = .ok st')
    (hfinal : final.rows = st'.users.rows) : EachAccounted dates now t final rows := by
  rintro front row back rfl st next hfront hrow
  have hback : back.foldlM (importRow dates now) next = .ok st' := by
    rw [List.foldlM_append, hfront] at h
    change (row :: back).foldlM (importRow dates now) st = .ok st' at h
    rw [List.foldlM_cons, hrow] at h
    exact h
  rcases importRow_ok_cases hrow with ⟨-, ⟨users, rfl, himported⟩ | rfl⟩ | ⟨-, rfl⟩
  · refine ⟨fun _ => ?_, fun hcount => absurd hcount (Nat.ne_of_lt (Nat.lt_succ_self _))⟩
    obtain ⟨username, email, hname, hemail, v, hv, hvname, hvemail⟩ := himported.there
    exact ⟨username, email, hname, hemail, v, hvname, hvemail, hfinal ▸ run_keeps hback hv⟩
  · exact ⟨fun hcount => absurd hcount (Nat.ne_of_lt (Nat.lt_succ_self _)), fun _ => rfl⟩
  · exact ⟨fun hcount => absurd hcount (Nat.ne_of_lt (Nat.lt_succ_self _)), fun _ => rfl⟩

variable {files : String → Option (Option String)} {t : Users} {text : String}

theorem bulkRows_ofUpload :
    bulkRows files (.ofUpload text) = orServerError (csvDictRows (textLines text.toList)) := rfl

theorem not_accounted_of_serverError {t' : Users}
    (h : bulkLoadUsers dates now files t (.ofUpload text) = (serverError, t')) :
    ¬ BulkAccounted dates now files t text := by
  unfold BulkAccounted
  rw [h]
  have hcreated : ¬ 500 = 201 := by decide
  have hclient : ¬ 500 ≤ 499 := by decide
  rintro (⟨hstatus, -⟩ | ⟨-, hstatus, -⟩)
  · exact hcreated hstatus
  · exact hclient hstatus

end File

/-- **A bulk load accounts for every row** exactly if the file can be read, and each row fits what
the rows before it have left. -/
theorem bulk_accounted_iff (dates : String → Option DateTime) (now : Nat → DateTime)
    (files : String → Option (Option String)) (t : Users) (text : String) :
    BulkAccounted dates now files t text ↔
      ∃ rows, csvDictRows (textLines text.toList) = some rows ∧
        RowsFit dates now ⟨t, 0, 0, 0⟩ rows := by
  cases hread : csvDictRows (textLines text.toList) with
  | none =>
    have hanswer : bulkLoadUsers dates now files t (.ofUpload text) = (serverError, t) := by
      rw [bulkLoadUsers, bulkRows_ofUpload, hread]
      rfl
    refine iff_of_false (not_accounted_of_serverError hanswer) ?_
    rintro ⟨rows, hrows, -⟩
    cases hrows
  | some rows =>
    have hanswer :
        bulkLoadUsers dates now files t (.ofUpload text) = importRows dates now t rows := by
      rw [bulkLoadUsers, bulkRows_ofUpload, hread]
      rfl
    unfold importRows at hanswer
    cases hrun : rows.foldlM (importRow dates now) ⟨t, 0, 0, 0⟩ with
    | error idSeq =>
      rw [hrun] at hanswer
      refine iff_of_false (not_accounted_of_serverError hanswer) ?_
      rintro ⟨rows', hrows, hfits⟩
      cases hrows
      obtain ⟨st, hst, -⟩ := run_of_fits hfits
      cases hst.symm.trans hrun
    | ok st =>
      rw [hrun] at hanswer
      unfold BulkAccounted
      rw [hanswer, hread]
      constructor
      · rintro (⟨-, rows', imported, skipped, rowCount, hrows, hcount, himported, hskipped,
          hrowCount, hsum, -⟩ |
          ⟨hstatus, -⟩)
        · cases hrows
          cases himported
          cases hskipped
          refine ⟨rows, rfl, (fits_of_run hrun).2 ?_⟩
          dsimp only
          omega
        · have hclient : ¬ 400 ≤ 201 := by decide
          exact absurd hstatus hclient
      · rintro ⟨rows', hrows, hfits⟩
        cases hrows
        obtain ⟨st', hst', hcount⟩ := run_of_fits hfits
        cases hst'.symm.trans hrun
        refine .inl ⟨rfl, rows, st.created, st.skipped, rows.length, rfl, rfl, rfl, rfl,
          rfl, ?_, ?_⟩
        · dsimp only at hcount
          omega
        · exact eachAccounted_of_run hrun (fixSequence_rows st.users)

/-! ## Samples -/

/-- A file with a row that is blank, and one that is short. -/
def blankRow : String := "username,email\n,\nada,ada@example.com\n"

def shortRow : String := "id,username,email\n1,ada\n"

/-- **The blank row is in no counter, and the short one raises.** -/
theorem rows_not_accounted :
    (∃ t', bulkLoadUsers (fun _ => none) (fun _ => sampleNow) (fun _ => none) ⟨[], 1⟩
      (.ofUpload blankRow) =
      (bulkResponse 1 0 2, t')) ∧
    bulkLoadUsers (fun _ => none) (fun _ => sampleNow) (fun _ => none) ⟨[], 1⟩
      (.ofUpload shortRow) =
      (serverError, ⟨[], 1⟩) ∧
    ¬ BulkAccounted (fun _ => none) (fun _ => sampleNow) (fun _ => none) ⟨[], 1⟩ blankRow ∧
    ¬ BulkAccounted (fun _ => none) (fun _ => sampleNow) (fun _ => none) ⟨[], 1⟩ shortRow := by
  have hblank : csvDictRows (textLines blankRow.toList) =
      some [[("username", some ""), ("email", some "")],
        [("username", some "ada"), ("email", some "ada@example.com")]] := by decide +kernel
  have hshort : csvDictRows (textLines shortRow.toList) =
      some [[("id", some "1"), ("username", some "ada"), ("email", none)]] := by decide +kernel
  have hblankAnswer :
      ∃ t', bulkLoadUsers (fun _ => none) (fun _ => sampleNow) (fun _ => none) ⟨[], 1⟩
      (.ofUpload blankRow) = (bulkResponse 1 0 2, t') := by
    rw [bulkLoadUsers, bulkRows_ofUpload, hblank]
    exact ⟨_, rfl⟩
  have hshortAnswer : bulkLoadUsers (fun _ => none) (fun _ => sampleNow) (fun _ => none) ⟨[], 1⟩
      (.ofUpload shortRow) = (serverError, ⟨[], 1⟩) := by
    rw [bulkLoadUsers, bulkRows_ofUpload, hshort]
    rfl
  refine ⟨hblankAnswer, hshortAnswer, ?_, not_accounted_of_serverError hshortAnswer⟩
  obtain ⟨t', hanswer⟩ := hblankAnswer
  unfold BulkAccounted
  rw [hanswer]
  have hclient : ¬ 400 ≤ 201 := by decide
  rintro (⟨-, rows, imported, skipped, rowCount, -, -, himported, hskipped, hrowCount, hsum,
    -⟩ | ⟨hstatus, -⟩)
  · cases himported
    cases hskipped
    cases hrowCount
    revert hsum
    decide
  · exact hclient hstatus

end PeHackathon.UrlShortener
