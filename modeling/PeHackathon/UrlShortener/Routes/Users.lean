import PeHackathon.UrlShortener.Routes.Urls
import PeHackathon.UrlShortener.Users

/-!
# `app/routes/users.py`: creating and updating a user

One `except` stands around each write, so every failure of it is answered with 409. That is the
right answer exactly if the values fit, the id is free and the database answers (`conflict_iff`).
-/

namespace PeHackathon.UrlShortener

/-! ## The handlers -/

/-- What becomes of a write on its way to the database. -/
inductive Link
  | up
  /-- It does not get there. -/
  | down
  /-- It gets there, and its answer does not get back. -/
  | lost
  deriving DecidableEq

/-- The write as the handler sees it, and the table after it. -/
def Link.carry {α : Type} (link : Link) (t : Users) (result : Except UserWriteError α × Users) :
    Except UserWriteError α × Users :=
  match link with
  | .up => result
  | .down => (.error .connection, t)
  | .lost => (.error .connection, result.2)

/-- `model_to_dict(user, backrefs=False)`. -/
def userJson (u : User) : Json :=
  .obj [("id", .int u.id), ("username", .str u.username), ("email", .str u.email),
    ("created_at", .str u.createdAt.httpDate)]

/-- The username and the email that `create_user` writes. -/
def submittedUser (body : Body) : Except Response (String × String) :=
  match parseJsonBody body with
  | .error err => .error err
  | .ok data =>
    if !pyTruthy (data.getNone "email") || !pyTruthy (data.getNone "username") then
      .error (errorResponse 400 "email and username are required")
    else
      match data.getNone "email", data.getNone "username" with
      | .str email, .str username =>
        if (pyStrip email).isEmpty || (pyStrip username).isEmpty then
          .error (errorResponse 400 "email and username must not be blank")
        else if !pySubstring "@" (pyStrip email) then
          .error (errorResponse 400 "email must be a valid email address")
        else .ok (pyStrip username, pyStrip email)
      | _, _ => .error (errorResponse 400 "email and username must be strings")

/-- `create_user`. -/
def createUser (t : Users) (now : DateTime) (link : Link) (body : Body) : Response × Users :=
  match submittedUser body with
  | .error err => (err, t)
  | .ok (username, email) =>
    match link.carry t (t.insert none username email now) with
    | (.error _, t) => (errorResponse 409 "User with that username or email already exists", t)
    | (.ok user, t) => (jsonResponse 201 (userJson { user with username, email }), t)

def withUsername (user : User) (data : JsonObject) : Except Response User :=
  match data.get? "username" with
  | none => .ok user
  | some (.str s) =>
    if (pyStrip s).isEmpty then .error (errorResponse 400 "username must be a non-empty string")
    else .ok { user with username := pyStrip s }
  | some _ => .error (errorResponse 400 "username must be a non-empty string")

/-- The `@` is looked for before the text is stripped. -/
def withEmail (user : User) (data : JsonObject) : Except Response User :=
  match data.get? "email" with
  | none => .ok user
  | some (.str s) =>
    if (pyStrip s).isEmpty then .error (errorResponse 400 "email must be a non-empty string")
    else if !pySubstring "@" s then .error (errorResponse 400 "email must be a valid email address")
    else .ok { user with email := pyStrip s }
  | some _ => .error (errorResponse 400 "email must be a non-empty string")

/-- The row that `update_user` writes. -/
def submittedUpdate (t : Users) (userId : Int) (body : Body) :
    Except Response (JsonObject × User) :=
  match t.getById userId with
  | none => .error (errorResponse 404 "User not found")
  | some user =>
    match parseJsonBody body with
    | .error err => .error err
    | .ok data =>
      match withUsername user data with
      | .error err => .error err
      | .ok user => (withEmail user data).map fun user => (data, user)

/-- `update_user`. -/
def updateUser (t : Users) (link : Link) (userId : Int) (body : Body) : Response × Users :=
  match submittedUpdate t userId body with
  | .error err => (err, t)
  | .ok (_, user) =>
    match link.carry t (t.save user) with
    | (.error _, t) => (errorResponse 409 "Username or email already taken", t)
    | (.ok (), t) => (jsonResponse 200 (userJson user), t)

/-! ## What 409 should mean -/

inductive UserRequest
  | create (body : Body)
  | update (userId : Int) (body : Body)

namespace UserRequest

variable (t : Users) (now : DateTime) (link : Link)

def answer : UserRequest → Response × Users
  | .create body => createUser t now link body
  | .update userId body => updateUser t link userId body

/-- Another user has the username or the email that the request has submitted. -/
def Conflict : UserRequest → Prop
  | .create body => ∃ username email, submittedUser body = .ok (username, email) ∧
      ∃ v ∈ t.rows, v.username = username ∨ v.email = email
  | .update userId body => ∃ data user, submittedUpdate t userId body = .ok (data, user) ∧
      ∃ v ∈ t.rows, v.id ≠ userId ∧ (data.has "username" = true ∧ v.username = user.username ∨
        data.has "email" = true ∧ v.email = user.email)

/-- The write of the request raises `err`. -/
def Raises (err : UserWriteError) : UserRequest → Prop
  | .create body => ∃ username email, submittedUser body = .ok (username, email) ∧
      (link.carry t (t.insert none username email now)).1 = .error err
  | .update userId body => ∃ data user, submittedUpdate t userId body = .ok (data, user) ∧
      (link.carry t (t.save user)).1 = .error err

/-- 409 is the answer to a conflict, and to no other failure of the write; then the table is
unchanged. -/
structure ConflictOnly (req : UserRequest) : Prop where
  iff : (req.answer t now link).1.status = 409 ↔ req.Conflict t
  others : ∀ err, req.Raises t now link err → err ≠ .taken → (req.answer t now link).1.status ≠ 409
  unchanged : (req.answer t now link).1.status = 409 → (req.answer t now link).2.rows = t.rows

/-- What a request brings to the write can be written, unless there is a conflict: the database
answers, the values fit their columns, and for a new user the next id of the sequence is in range
and free. -/
def Writable : UserRequest → Prop
  | .create body => ∀ username email, submittedUser body = .ok (username, email) →
      link = .up ∧ Users.Storable ⟨t.idSeq, username, email, now⟩ ∧ ∀ v ∈ t.rows, v.id ≠ t.idSeq
  | .update userId body => ∀ data user, submittedUpdate t userId body = .ok (data, user) →
      link = .up ∧ Users.Storable user

end UserRequest

/-! ## What is submitted -/

section Submitted

variable {t : Users} {body : Body} {data : JsonObject} {user user' : User} {err : Response}

theorem parseJsonBody_status (h : parseJsonBody body = .error err) :
    err.status ≠ 409 ∧ err.status < 500 := by
  obtain ⟨status, message, rfl, hstatus⟩ := parseJsonBody_error h
  show status ≠ 409 ∧ status < 500
  omega

theorem submittedUser_status (h : submittedUser body = .error err) :
    err.status ≠ 409 ∧ err.status < 500 := by
  unfold submittedUser at h
  split at h
  · rename_i hparse
    cases h
    exact parseJsonBody_status hparse
  · split at h
    · cases h
      decide
    · split at h
      · split at h
        · cases h
          decide
        · split at h
          · cases h
            decide
          · cases h
      · cases h
        decide

/-- What `create_user` writes is stripped. -/
theorem submittedUser_ok {username email : String}
    (h : submittedUser body = .ok (username, email)) :
    ∃ s s', username = pyStrip s ∧ email = pyStrip s' := by
  unfold submittedUser at h
  split at h
  · cases h
  · split at h
    · cases h
    · split at h
      · split at h
        · cases h
        · split at h
          · cases h
          · cases h
            exact ⟨_, _, rfl, rfl⟩
      · cases h

theorem withUsername_cases (user : User) (data : JsonObject) :
    (∃ err, withUsername user data = .error err ∧ err.status ≠ 409 ∧ err.status < 500) ∨
    (data.has "username" = false ∧ withUsername user data = .ok user) ∨
    ∃ s, data.has "username" = true ∧
      withUsername user data = .ok { user with username := pyStrip s } := by
  unfold withUsername JsonObject.has
  cases hget : data.get? "username" with
  | none => exact .inr (.inl ⟨rfl, rfl⟩)
  | some x =>
    cases x with
    | str s =>
      dsimp only
      split
      · exact .inl ⟨_, rfl, by decide⟩
      · exact .inr (.inr ⟨s, rfl, rfl⟩)
    | _ => exact .inl ⟨_, rfl, by decide⟩

theorem withEmail_cases (user : User) (data : JsonObject) :
    (∃ err, withEmail user data = .error err ∧ err.status ≠ 409 ∧ err.status < 500) ∨
    (data.has "email" = false ∧ withEmail user data = .ok user) ∨
    ∃ s, data.has "email" = true ∧ withEmail user data = .ok { user with email := pyStrip s } := by
  unfold withEmail JsonObject.has
  cases hget : data.get? "email" with
  | none => exact .inr (.inl ⟨rfl, rfl⟩)
  | some x =>
    cases x with
    | str s =>
      dsimp only
      split
      · exact .inl ⟨_, rfl, by decide⟩
      · split
        · exact .inl ⟨_, rfl, by decide⟩
        · exact .inr (.inr ⟨s, rfl, rfl⟩)
    | _ => exact .inl ⟨_, rfl, by decide⟩

/-- Everything `update_user` can bring to its write: each text is the stored one, or submitted and
stripped. -/
theorem submittedUpdate_cases (t : Users) (userId : Int) (body : Body) :
    (∃ err, submittedUpdate t userId body = .error err ∧ err.status ≠ 409 ∧ err.status < 500) ∨
    ∃ data old user, t.getById userId = some old ∧ submittedUpdate t userId body =
      .ok (data, user) ∧
      user.id = old.id ∧
      (data.has "username" = false ∧ user.username = old.username ∨
        ∃ s, data.has "username" = true ∧ user.username = pyStrip s) ∧
      (data.has "email" = false ∧ user.email = old.email ∨
        ∃ s, data.has "email" = true ∧ user.email = pyStrip s) := by
  unfold submittedUpdate
  cases hold : t.getById userId with
  | none => exact .inl ⟨_, rfl, by decide⟩
  | some old =>
    dsimp only
    cases hparse : parseJsonBody body with
    | error err => exact .inl ⟨err, rfl, parseJsonBody_status hparse⟩
    | ok data =>
      dsimp only
      rcases withUsername_cases old data with ⟨err, hname, hstatus⟩ | ⟨hhas, hname⟩ | ⟨s,
        hhas, hname⟩
      · rw [hname]
        exact .inl ⟨err, rfl, hstatus⟩
      · rw [hname]
        dsimp only
        rcases withEmail_cases old data with ⟨err, hemail, hstatus⟩ | ⟨hhas', hemail⟩ | ⟨s',
          hhas', hemail⟩
        · rw [hemail]
          exact .inl ⟨err, rfl, hstatus⟩
        · rw [hemail]
          exact .inr ⟨data, old, old, rfl, rfl, rfl, .inl ⟨hhas, rfl⟩, .inl ⟨hhas', rfl⟩⟩
        · rw [hemail]
          exact .inr ⟨data, old, _, rfl, rfl, rfl, .inl ⟨hhas, rfl⟩, .inr ⟨s', hhas', rfl⟩⟩
      · rw [hname]
        dsimp only
        rcases withEmail_cases { old with username := pyStrip s } data with
          ⟨err, hemail, hstatus⟩ | ⟨hhas', hemail⟩ | ⟨s', hhas', hemail⟩
        · rw [hemail]
          exact .inl ⟨err, rfl, hstatus⟩
        · rw [hemail]
          exact .inr ⟨data, old, _, rfl, rfl, rfl, .inr ⟨s, hhas, rfl⟩, .inl ⟨hhas', rfl⟩⟩
        · rw [hemail]
          exact .inr ⟨data, old, _, rfl, rfl, rfl, .inr ⟨s, hhas, rfl⟩, .inr ⟨s', hhas', rfl⟩⟩

end Submitted

/-! ## What 409 means -/

namespace UserRequest

variable {t : Users} {now : DateTime} {link : Link} {body : Body} {userId : Int} {req : UserRequest}

/-- A request that is refused before the write. -/
theorem conflictOnly_of_refused (hstatus : (req.answer t now link).1.status ≠ 409)
    (hconflict : ¬ req.Conflict t) (hraises : ∀ err, ¬ req.Raises t now link err) :
    req.ConflictOnly t now link :=
  ⟨iff_of_false hstatus hconflict, fun err h => absurd h (hraises err), fun h => absurd h hstatus⟩

/-- The request gets to the write, which goes as `wrote`. -/
structure Wrote {α : Type} (t : Users) (now : DateTime) (link : Link) (req : UserRequest)
    (wrote : Except UserWriteError α × Users) : Prop where
  raises : ∀ err, req.Raises t now link err → wrote.1 = .error err
  error : ∀ err t', wrote = (.error err, t') →
    req.Raises t now link err ∧ (req.answer t now link).1.status = 409 ∧
      (req.answer t now link).2 = t'
  ok : ∀ a t', wrote = (.ok a, t') → (req.answer t now link).1.status ≠ 409

namespace Wrote

variable {α : Type} {wrote : Except UserWriteError α × Users} {t' : Users}
  (h : Wrote t now link req wrote)
include h

/-- The write raises what is no conflict. -/
theorem not_conflictOnly {err : UserWriteError} (hwrote : wrote = (.error err, t'))
    (herr : err ≠ .taken) :
    ¬ req.ConflictOnly t now link := by
  obtain ⟨hraises, hstatus, -⟩ := h.error err t' hwrote
  exact fun honly => honly.others err hraises herr hstatus

/-- The write finds a conflict, and changes nothing. -/
theorem conflictOnly_of_taken (hwrote : wrote = (.error .taken, t')) (hrows : t'.rows = t.rows)
    (hconflict : req.Conflict t) : req.ConflictOnly t now link := by
  obtain ⟨-, hstatus, htable⟩ := h.error _ t' hwrote
  refine ⟨iff_of_true hstatus hconflict, fun err hraises herr => ?_, fun _ => ?_⟩
  · have herror := h.raises err hraises
    rw [hwrote] at herror
    exact absurd (Except.error.inj herror).symm herr
  · rw [htable, hrows]

/-- The write succeeds, and there is no conflict. -/
theorem conflictOnly_of_ok {a : α} (hwrote : wrote = (.ok a, t')) (hconflict : ¬ req.Conflict t) :
    req.ConflictOnly t now link := by
  refine conflictOnly_of_refused (h.ok a t' hwrote) hconflict fun err hraises => ?_
  have herror := h.raises err hraises
  rw [hwrote] at herror
  cases herror

end Wrote

/-- A link that is not up raises, whatever the write does. -/
theorem carry_of_not_up {α : Type} (result : Except UserWriteError α × Users) (hlink : link ≠ .up) :
    ∃ t', link.carry t result = (.error .connection, t') := by
  cases link with
  | up => exact absurd rfl hlink
  | down => exact ⟨t, rfl⟩
  | lost => exact ⟨result.2, rfl⟩

theorem create_wrote {username email : String} (hsub : submittedUser body = .ok (username, email)) :
    Wrote t now link (create body) (link.carry t (t.insert none username email now)) where
  raises := by
    rintro err ⟨username', email', hsub', hraises⟩
    cases hsub.symm.trans hsub'
    exact hraises
  error err t' hwrote := by
    refine ⟨⟨username, email, hsub, congrArg Prod.fst hwrote⟩, ?_⟩
    rw [answer, createUser, hsub]
    dsimp only
    rw [hwrote]
    exact ⟨rfl, rfl⟩
  ok user t' hwrote := by
    rw [answer, createUser, hsub]
    dsimp only
    rw [hwrote]
    exact Nat.ne_of_lt (by decide : 201 < 409)

theorem update_wrote {data : JsonObject} {user : User}
    (hsub : submittedUpdate t userId body = .ok (data, user)) :
    Wrote t now link (update userId body) (link.carry t (t.save user)) where
  raises := by
    rintro err ⟨data', user', hsub', hraises⟩
    cases hsub.symm.trans hsub'
    exact hraises
  error err t' hwrote := by
    refine ⟨⟨data, user, hsub, congrArg Prod.fst hwrote⟩, ?_⟩
    rw [answer, updateUser, hsub]
    dsimp only
    rw [hwrote]
    exact ⟨rfl, rfl⟩
  ok _ t' hwrote := by
    rw [answer, updateUser, hsub]
    dsimp only
    rw [hwrote]
    exact Nat.ne_of_lt (by decide : 200 < 409)

theorem create_conflictOnly_iff :
    (create body).ConflictOnly t now link ↔ (create body).Writable t now link := by
  cases hsub : submittedUser body with
  | error err =>
    have hnone : ∀ username email, submittedUser body ≠ .ok (username, email) := by
      intro username email hok
      rw [hsub] at hok
      cases hok
    refine iff_of_true (conflictOnly_of_refused ?_ ?_ ?_) fun username email hok =>
      absurd hok (hnone _ _)
    · rw [answer, createUser, hsub]
      exact (submittedUser_status hsub).1
    · rintro ⟨username, email, hok, -⟩
      exact hnone _ _ hok
    · rintro err' ⟨username, email, hok, -⟩
      exact hnone _ _ hok
  | ok submitted =>
    obtain ⟨username, email⟩ := submitted
    obtain ⟨s, s', rfl, rfl⟩ := submittedUser_ok hsub
    by_cases hlink : link = .up
    · subst hlink
      have hcut : Users.Uncut ⟨t.idSeq, pyStrip s, pyStrip s', now⟩ :=
        ⟨not_cutAt_strip 100 s, not_cutAt_strip 255 s'⟩
      have hwrote : Wrote t now .up (create body) (t.insert none (pyStrip s) (pyStrip s') now) :=
        create_wrote hsub
      have hnew :
          t.newRow none (pyStrip s) (pyStrip s') now = ⟨t.idSeq, pyStrip s, pyStrip s', now⟩ := rfl
      rcases Users.insert_cases hnew hcut with ⟨hvalue, hwrite⟩ |
        ⟨idSeq, hvalue, ⟨⟨v, hv, hid⟩, hwrite⟩ | ⟨hfree,
          ⟨⟨v, hv, -, htaken⟩, hwrite⟩ | ⟨htaken, hwrite⟩⟩⟩
      · exact iff_of_false (hwrote.not_conflictOnly hwrite (by decide))
          fun hwritable => hvalue (hwritable _ _ hsub).2.1
      · exact iff_of_false (hwrote.not_conflictOnly hwrite (by decide))
          fun hwritable => (hwritable _ _ hsub).2.2 v hv hid
      all_goals
        have hwritable : (create body).Writable t now .up := by
          intro username email hsub'
          cases hsub.symm.trans hsub'
          exact ⟨rfl, hvalue, hfree⟩
      · exact iff_of_true (hwrote.conflictOnly_of_taken hwrite rfl ⟨_, _, hsub, v, hv, htaken⟩)
          hwritable
      · refine iff_of_true (hwrote.conflictOnly_of_ok hwrite ?_) hwritable
        rintro ⟨username, email, hsub', v, hv, hsame⟩
        cases hsub.symm.trans hsub'
        exact htaken ⟨v, hv, hfree v hv, hsame⟩
    · obtain ⟨t', hwrite⟩ := carry_of_not_up (t.insert none (pyStrip s) (pyStrip s') now) hlink
      exact iff_of_false ((create_wrote hsub).not_conflictOnly hwrite (by decide))
        fun hwritable => hlink (hwritable _ _ hsub).1

/-- A text that the request does not submit is that of no other row. -/
theorem Conflict.of_taken {data : JsonObject} {old user : User} (h : t.Valid)
    (hold : t.getById userId = some old) (hsub : submittedUpdate t userId body = .ok (data, user))
    (hid : user.id = old.id) (hname : data.has "username" = false → user.username = old.username)
    (hemail : data.has "email" = false → user.email = old.email) (htaken : t.Taken user) :
    (update userId body).Conflict t := by
  obtain ⟨hmem, holdId⟩ := Users.getById_eq_some hold
  obtain ⟨v, hv, hne, hsame⟩ := htaken
  rw [hid] at hne
  refine ⟨data, user, hsub, v, hv, holdId ▸ hne, ?_⟩
  rcases hsame with hsame | hsame
  · refine .inl ⟨?_, hsame⟩
    cases hhas : data.has "username" with
    | true => rfl
    | false =>
      rw [hname hhas] at hsame
      exact absurd (congrArg User.id (List.inj_on_of_nodup_map h.usernamesNodup hv hmem hsame)) hne
  · refine .inr ⟨?_, hsame⟩
    cases hhas : data.has "email" with
    | true => rfl
    | false =>
      rw [hemail hhas] at hsame
      exact absurd (congrArg User.id (List.inj_on_of_nodup_map h.emailsNodup hv hmem hsame)) hne

/-- Each text of the row is a stored one or stripped. -/
theorem uncut_of_submitted {data : JsonObject} {user : User} (h : t.Valid)
    (hsub : submittedUpdate t userId body = .ok (data, user)) : Users.Uncut user := by
  rcases submittedUpdate_cases t userId body with ⟨err, hsub', -⟩ | ⟨data', old, user', hold, hsub',
    -, hname, hemail⟩
  · cases hsub.symm.trans hsub'
  · cases hsub.symm.trans hsub'
    obtain ⟨hmem, -⟩ := Users.getById_eq_some hold
    constructor
    · rcases hname with ⟨-, hname⟩ | ⟨s, -, hname⟩
      · exact hname ▸ (h.uncut hmem).1
      · exact hname ▸ not_cutAt_strip 100 s
    · rcases hemail with ⟨-, hemail⟩ | ⟨s, -, hemail⟩
      · exact hemail ▸ (h.uncut hmem).2
      · exact hemail ▸ not_cutAt_strip 255 s

theorem update_conflictOnly_iff (h : t.Valid) :
    (update userId body).ConflictOnly t now link ↔ (update userId body).Writable t now link := by
  rcases submittedUpdate_cases t userId body with ⟨err, hsub, hstatus, -⟩ |
    ⟨data, old, user, hold, hsub, hid, hname, hemail⟩
  · have hnone : ∀ data user, submittedUpdate t userId body ≠ .ok (data, user) := by
      intro data user hok
      rw [hsub] at hok
      cases hok
    refine iff_of_true (conflictOnly_of_refused ?_ ?_ ?_) fun data user hok =>
      absurd hok (hnone _ _)
    · rw [answer, updateUser, hsub]
      exact hstatus
    · rintro ⟨data, user, hok, -⟩
      exact hnone _ _ hok
    · rintro err' ⟨data, user, hok, -⟩
      exact hnone _ _ hok
  · by_cases hlink : link = .up
    · subst hlink
      obtain ⟨hmem, holdId⟩ := Users.getById_eq_some hold
      have hcut := uncut_of_submitted h hsub
      have hwrote : Wrote t now .up (update userId body) (t.save user) := update_wrote hsub
      rcases Users.save_cases t hcut with ⟨hvalue, hwrite⟩ | ⟨hvalue,
        ⟨htaken, hwrite⟩ | ⟨htaken, hwrite⟩⟩
      · exact iff_of_false (hwrote.not_conflictOnly hwrite (by decide))
          fun hwritable => hvalue (hwritable _ _ hsub).2
      all_goals
        have hwritable : (update userId body).Writable t now .up := by
          intro data user hsub'
          cases hsub.symm.trans hsub'
          exact ⟨rfl, hvalue⟩
      · refine iff_of_true (hwrote.conflictOnly_of_taken hwrite rfl ?_) hwritable
        refine Conflict.of_taken h hold hsub hid (fun hhas => ?_) (fun hhas => ?_) htaken
        · rcases hname with ⟨-, hname⟩ | ⟨s, hhas', -⟩
          · exact hname
          · cases hhas.symm.trans hhas'
        · rcases hemail with ⟨-, hemail⟩ | ⟨s, hhas', -⟩
          · exact hemail
          · cases hhas.symm.trans hhas'
      · refine iff_of_true (hwrote.conflictOnly_of_ok hwrite ?_) hwritable
        rintro ⟨data, user, hsub', v, hv, hne, hsame⟩
        cases hsub.symm.trans hsub'
        refine htaken ⟨v, hv, by rwa [hid, holdId], ?_⟩
        exact hsame.imp And.right And.right
    · obtain ⟨t', hwrite⟩ := carry_of_not_up (t.save user) hlink
      exact iff_of_false ((update_wrote hsub).not_conflictOnly hwrite (by decide))
        fun hwritable => hlink (hwritable _ _ hsub).1

end UserRequest

/-! ## The table stays valid -/

theorem Link.carry_valid {α : Type} {t : Users} (link : Link)
    {result : Except UserWriteError α × Users} (h : t.Valid) (hresult : result.2.Valid) :
    (link.carry t result).2.Valid := by
  cases link with
  | up => exact hresult
  | down => exact h
  | lost => exact hresult

theorem answer_valid {t : Users} (h : t.Valid) (now : DateTime) (link : Link) (req : UserRequest) :
    (req.answer t now link).2.Valid := by
  cases req with
  | create body =>
    change (createUser t now link body).2.Valid
    unfold createUser
    split
    · exact h
    · rename_i username email hsub
      obtain ⟨s, s', rfl, rfl⟩ := submittedUser_ok hsub
      have hcut : Users.Uncut (t.newRow none (pyStrip s) (pyStrip s') now) :=
        ⟨not_cutAt_strip 100 s, not_cutAt_strip 255 s'⟩
      have hcarry := link.carry_valid h (Users.insert_valid h hcut)
      split
      · rename_i t' hwrite
        rw [hwrite] at hcarry
        exact hcarry
      · rename_i t' hwrite
        rw [hwrite] at hcarry
        exact hcarry
  | update userId body =>
    change (updateUser t link userId body).2.Valid
    unfold updateUser
    split
    · exact h
    · rename_i data user hsub
      have hcarry := link.carry_valid h (Users.save_valid h (UserRequest.uncut_of_submitted h hsub))
      split
      · rename_i t' hwrite
        rw [hwrite] at hcarry
        exact hcarry
      · rename_i t' hwrite
        rw [hwrite] at hcarry
        exact hcarry

/-- **409 means a conflict** exactly if what the request brings to the write can be written. -/
theorem conflict_iff {t : Users} (h : t.Valid) (now : DateTime) (link : Link) (req : UserRequest) :
    req.ConflictOnly t now link ↔ req.Writable t now link := by
  cases req with
  | create body => exact UserRequest.create_conflictOnly_iff
  | update userId body => exact UserRequest.update_conflictOnly_iff h

/-! ## Samples -/

def sampleNow : DateTime := ⟨2026, 1, 1, 9, 0, 0, 0⟩

/-- A table with one user. -/
def oneUser : Users := ⟨[⟨1, "ada", "ada@example.com", sampleNow⟩], 2⟩

/-- A new user with the name of the one who is there. -/
def secondAda : UserRequest :=
  .create (.json (.obj [("username", .str " ada "), ("email", .str "lovelace@example.com")]))

theorem conflict_sample : oneUser.Valid ∧
    (secondAda.ConflictOnly oneUser sampleNow .up ↔ secondAda.Writable oneUser sampleNow .up) := by
  have hvalid : oneUser.Valid := by decide +kernel
  exact ⟨hvalid, conflict_iff hvalid sampleNow .up secondAda⟩

/-- A new user whom nobody is in the way of. -/
def grace : UserRequest :=
  .create (.json (.obj [("username", .str "grace"), ("email", .str "grace@example.com")]))

/-- **The database cannot be reached, and the answer is 409.** -/
theorem unreachable_409 : oneUser.Valid ∧ grace.Raises oneUser sampleNow .down .connection ∧
    (grace.answer oneUser sampleNow .down).1.status = 409 ∧ ¬ grace.Conflict oneUser ∧
    ¬ grace.ConflictOnly oneUser sampleNow .down := by
  have hsub :
      submittedUser
        (.json (.obj [("username", .str "grace"), ("email", .str "grace@example.com")])) =
      .ok ("grace", "grace@example.com") := rfl
  have hwrote : UserRequest.Wrote oneUser sampleNow .down grace (.error .connection, oneUser) :=
    UserRequest.create_wrote hsub
  obtain ⟨hraises, hstatus, -⟩ := hwrote.error .connection oneUser rfl
  refine ⟨by decide +kernel, hraises, hstatus, ?_, hwrote.not_conflictOnly rfl (by decide)⟩
  rintro ⟨username, email, hsub', v, hv, hsame⟩
  cases hsub.symm.trans hsub'
  rw [List.mem_singleton.1 hv] at hsame
  revert hsame
  decide

end PeHackathon.UrlShortener
