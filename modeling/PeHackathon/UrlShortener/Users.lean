import PeHackathon.UrlShortener.Columns

/-!
# The `users` table

The statements the user routes run. PostgreSQL checks the values before it takes an id from the
sequence, and the primary key before the unique username and email (`insert_cases`, `save_cases`). A
text the routes have stripped is never cut (`not_cutAt_strip`), so it is stored as it is. The writes
keep what the schema declares (`insert_valid`, `save_valid`).
-/

namespace PeHackathon.UrlShortener

/-- The `users` table, and the next value of `users_id_seq`. -/
structure Users where
  rows : List User
  idSeq : Int
  deriving DecidableEq

/-- What a write raises. -/
inductive UserWriteError
  /-- The connection (`OperationalError`). -/
  | connection
  /-- A value that the column or the adapter refuses. -/
  | value
  /-- The id of another row. -/
  | primaryKey
  /-- The username or the email of another row. -/
  | taken
  deriving DecidableEq

namespace Users

/-- `User.get_by_id(id)`. -/
def getById (t : Users) (id : Int) : Option User := t.rows.find? fun u => u.id == id

/-- The row a `users` row is stored as. -/
def storeRow (u : User) : Option User := if int4 u.id then storeUser u else none

/-- Another row has the username or the email of this one. -/
def taken (t : Users) (u : User) : Bool :=
  t.rows.any fun v => v.id != u.id && (v.username == u.username || v.email == u.email)

/-- The row of an `INSERT`, with `id` from the sequence if none is given. -/
def newRow (t : Users) (id : Option Int) (username email : String) (createdAt : DateTime) : User :=
  { id := id.getD t.idSeq, username, email, createdAt }

/-- `User.create(...)`. -/
def insert (t : Users) (id : Option Int) (username email : String) (createdAt : DateTime) :
    Except UserWriteError User × Users :=
  match storeRow (t.newRow id username email createdAt) with
  | none => (.error .value, t)
  | some row =>
    -- `nextval` is not rolled back
    let t' := { t with idSeq := if id.isSome then t.idSeq else t.idSeq + 1 }
    if t.rows.any fun v => v.id == row.id then (.error .primaryKey, t')
    else if t.taken row then (.error .taken, t')
    else (.ok row, { t' with rows := t.rows ++ [row] })

/-- `user.save()` of a row that was read: an `UPDATE` of all its columns. -/
def save (t : Users) (u : User) : Except UserWriteError Unit × Users :=
  match storeRow u with
  | none => (.error .value, t)
  | some row =>
    if t.taken row then (.error .taken, t)
    else (.ok (), { t with rows := t.rows.map fun v => if v.id == row.id then row else v })

/-- What the schema declares: the keys, and the types of the columns. -/
structure Valid (t : Users) : Prop where
  idsNodup : (t.rows.map User.id).Nodup
  usernamesNodup : (t.rows.map User.username).Nodup
  emailsNodup : (t.rows.map User.email).Nodup
  stored : ∀ u ∈ t.rows, storeRow u = some u

instance (t : Users) : Decidable t.Valid :=
  decidable_of_iff ((t.rows.map User.id).Nodup ∧ (t.rows.map User.username).Nodup ∧
      (t.rows.map User.email).Nodup ∧ ∀ u ∈ t.rows, storeRow u = some u)
    ⟨fun ⟨h₁, h₂, h₃, h₄⟩ => ⟨h₁, h₂, h₃, h₄⟩, fun ⟨h₁, h₂, h₃, h₄⟩ => ⟨h₁, h₂, h₃, h₄⟩⟩

/-- The values of a row that its columns take. -/
def Storable (u : User) : Prop := int4 u.id = true ∧ Fits 100 u.username ∧ Fits 255 u.email

instance (u : User) : Decidable (Storable u) := inferInstanceAs (Decidable (_ ∧ _ ∧ _))

/-- Another row has the username or the email. -/
def Taken (t : Users) (u : User) : Prop :=
  ∃ v ∈ t.rows, v.id ≠ u.id ∧ (v.username = u.username ∨ v.email = u.email)

instance (t : Users) (u : User) : Decidable (t.Taken u) :=
  inferInstanceAs (Decidable (∃ v ∈ t.rows, _))

/-- No text of the row is cut. -/
def Uncut (u : User) : Prop := ¬ CutAt 100 u.username ∧ ¬ CutAt 255 u.email

end Users

/-! ## Texts that are not cut -/

/-- A stripped text does not end with a space. -/
theorem not_cutAt_strip (n : Nat) (s : String) : ¬ CutAt n (pyStrip s) := by
  rintro ⟨hlong, hstored⟩
  obtain ⟨t, ht⟩ := Option.isSome_iff_exists.1 hstored
  unfold varchar at ht
  split at ht
  · rw [if_neg (Nat.not_le_of_lt hlong)] at ht
    split at ht
    · rename_i hspaces
      rw [pyStrip, String.length_ofList] at hlong
      rw [pyStrip, String.toList_ofList] at hspaces
      cases hrest : (s.toList.dropWhile pyIsSpace).reverse.dropWhile pyIsSpace with
      | nil =>
        rw [hrest] at hlong
        exact absurd hlong (Nat.not_lt_zero n)
      | cons c rest =>
        rw [hrest, List.reverse_cons] at hlong hspaces
        rw [List.length_append, List.length_singleton] at hlong
        have hlast : pyIsSpace c = false := by
          have hhead := List.head?_dropWhile_not pyIsSpace (s.toList.dropWhile pyIsSpace).reverse
          rw [hrest] at hhead
          exact hhead
        rw [List.drop_append_of_le_length (Nat.le_of_lt_succ hlong), List.all_append,
          Bool.and_eq_true] at hspaces
        have hspace : c = ' ' := by simpa using hspaces.2
        rw [hspace] at hlast
        cases hlast
    · cases ht
  · cases ht

namespace Users

variable {t t' : Users} {u row : User} {id : Option Int} {username email : String}
  {createdAt : DateTime}

theorem storeRow_uncut (hcut : Uncut u) : storeRow u = if Storable u then some u else none := by
  unfold storeRow storeUser Storable
  rw [varchar_uncut hcut.1, varchar_uncut hcut.2]
  by_cases hid : int4 u.id = true
  · by_cases hname : Fits 100 u.username
    · by_cases hemail : Fits 255 u.email
      · simp [hid, hname, hemail]
      · simp [hid, hname, hemail]
    · simp [hid, hname]
  · simp [hid]

theorem taken_iff : t.taken u = true ↔ t.Taken u := by
  simp [taken, Taken]

theorem Valid.uncut (h : t.Valid) (hu : u ∈ t.rows) : Uncut u := by
  have hstored := h.stored u hu
  unfold storeRow at hstored
  split at hstored
  · obtain ⟨username, email, husername, hemail, heq⟩ := storeUser_eq_some.1 hstored
    have hname : u.username = username := congrArg User.username heq
    have haddress : u.email = email := congrArg User.email heq
    rw [← hname] at husername
    rw [← haddress] at hemail
    exact ⟨not_cutAt_of_stored husername, not_cutAt_of_stored hemail⟩
  · cases hstored

theorem getById_eq_some {userId : Int} (h : t.getById userId = some u) :
    u ∈ t.rows ∧ u.id = userId := by
  have hid := List.find?_some h
  rw [beq_iff_eq] at hid
  exact ⟨List.mem_of_find?_eq_some h, hid⟩

theorem any_id_iff {userId : Int} :
    (t.rows.any fun v => v.id == userId) = true ↔ ∃ v ∈ t.rows, v.id = userId := by
  simp

/-! ## What the writes can do -/

/-- Everything an `INSERT` can do. -/
theorem insert_cases (hu : t.newRow id username email createdAt = u) (hcut : Uncut u) :
    (¬ Storable u ∧ t.insert id username email createdAt = (.error .value, t)) ∨
    ∃ idSeq, Storable u ∧
      ((∃ v ∈ t.rows, v.id = u.id) ∧
        t.insert id username email createdAt = (.error .primaryKey, ⟨t.rows, idSeq⟩) ∨
      (∀ v ∈ t.rows, v.id ≠ u.id) ∧
        (t.Taken u ∧ t.insert id username email createdAt = (.error .taken, ⟨t.rows, idSeq⟩) ∨
        ¬ t.Taken u ∧ t.insert id username email createdAt = (.ok u, ⟨t.rows ++ [u], idSeq⟩))) := by
  unfold insert
  rw [hu, storeRow_uncut hcut]
  by_cases hstorable : Storable u
  · rw [if_pos hstorable]
    refine .inr ⟨if id.isSome then t.idSeq else t.idSeq + 1, hstorable, ?_⟩
    dsimp only
    by_cases hid : ∃ v ∈ t.rows, v.id = u.id
    · rw [if_pos (any_id_iff.2 hid)]
      exact .inl ⟨hid, rfl⟩
    · rw [if_neg (mt any_id_iff.1 hid)]
      refine .inr ⟨fun v hv hvid => hid ⟨v, hv, hvid⟩, ?_⟩
      by_cases htaken : t.Taken u
      · rw [if_pos (taken_iff.2 htaken)]
        exact .inl ⟨htaken, rfl⟩
      · rw [if_neg (mt taken_iff.1 htaken)]
        exact .inr ⟨htaken, rfl⟩
  · rw [if_neg hstorable]
    exact .inl ⟨hstorable, rfl⟩

/-- Everything an `UPDATE` can do. -/
theorem save_cases (t : Users) (hcut : Uncut u) :
    (¬ Storable u ∧ t.save u = (.error .value, t)) ∨
    Storable u ∧ (t.Taken u ∧ t.save u = (.error .taken, t) ∨
      ¬ t.Taken u ∧ t.save u =
        (.ok (), { t with rows := t.rows.map fun v => if v.id == u.id then u else v })) := by
  unfold save
  rw [storeRow_uncut hcut]
  by_cases hstorable : Storable u
  · rw [if_pos hstorable]
    refine .inr ⟨hstorable, ?_⟩
    dsimp only
    by_cases htaken : t.Taken u
    · rw [if_pos (taken_iff.2 htaken)]
      exact .inl ⟨htaken, rfl⟩
    · rw [if_neg (mt taken_iff.1 htaken)]
      exact .inr ⟨htaken, rfl⟩
  · rw [if_neg hstorable]
    exact .inl ⟨hstorable, rfl⟩

/-- A key that only the new row could share with another stays unique. -/
theorem nodup_snoc {β : Type} {f : User → β} {rows : List User} (h : (rows.map f).Nodup)
    (hfree : ∀ v ∈ rows, f v ≠ f u) : ((rows ++ [u]).map f).Nodup := by
  rw [List.map_append, List.map_singleton]
  refine List.nodup_append.2 ⟨h, List.nodup_singleton _, ?_⟩
  rintro a ha b hb rfl
  obtain ⟨v, hv, rfl⟩ := List.mem_map.1 ha
  exact hfree v hv (List.mem_singleton.1 hb)

/-- The same for a row in the place of the one with its id. -/
theorem nodup_replace {β : Type} {f : User → β} {rows : List User} (hids : (rows.map User.id).Nodup)
    (h : (rows.map f).Nodup) (hfree : ∀ v ∈ rows, v.id ≠ u.id → f v ≠ f u) :
    ((rows.map fun v => if v.id == u.id then u else v).map f).Nodup := by
  rw [List.map_map]
  refine List.Nodup.map_on ?_ (List.Nodup.of_map _ hids)
  intro v hv w hw heq
  by_cases hvu : v.id = u.id <;> by_cases hwu : w.id = u.id
  · exact List.inj_on_of_nodup_map hids hv hw (hvu.trans hwu.symm)
  · simp only [Function.comp, hvu, hwu, BEq.rfl, if_true, beq_iff_eq, if_false] at heq
    exact absurd heq.symm (hfree w hw hwu)
  · simp only [Function.comp, hvu, hwu, BEq.rfl, if_true, beq_iff_eq, if_false] at heq
    exact absurd heq (hfree v hv hvu)
  · simp only [Function.comp, hvu, hwu, beq_iff_eq, if_false] at heq
    exact List.inj_on_of_nodup_map h hv hw heq

/-- The sequence is no part of what makes a table valid. -/
theorem Valid.with_idSeq (h : t.Valid) (idSeq : Int) : ({ t with idSeq } : Users).Valid :=
  ⟨h.idsNodup, h.usernamesNodup, h.emailsNodup, h.stored⟩

theorem insert_valid (h : t.Valid) (hcut : Uncut (t.newRow id username email createdAt)) :
    (t.insert id username email createdAt).2.Valid := by
  rcases insert_cases rfl hcut with ⟨-, hinsert⟩ | ⟨idSeq, hstorable, ⟨-, hinsert⟩ |
    ⟨hfree, ⟨-, hinsert⟩ | ⟨htaken, hinsert⟩⟩⟩
  · rw [hinsert]
    exact h
  · rw [hinsert]
    exact h.with_idSeq idSeq
  · rw [hinsert]
    exact h.with_idSeq idSeq
  · rw [hinsert]
    refine ⟨nodup_snoc h.idsNodup hfree, nodup_snoc h.usernamesNodup ?_,
      nodup_snoc h.emailsNodup ?_, ?_⟩
    · exact fun v hv hname => htaken ⟨v, hv, hfree v hv, .inl hname⟩
    · exact fun v hv hemail => htaken ⟨v, hv, hfree v hv, .inr hemail⟩
    · intro v hv
      rcases List.mem_append.1 hv with hv | hv
      · exact h.stored v hv
      · rw [List.mem_singleton.1 hv, storeRow_uncut hcut, if_pos hstorable]

theorem save_valid (h : t.Valid) (hcut : Uncut u) : (t.save u).2.Valid := by
  rcases save_cases t hcut with ⟨-, hsave⟩ | ⟨hstorable, ⟨-, hsave⟩ | ⟨htaken, hsave⟩⟩
  · rw [hsave]
    exact h
  · rw [hsave]
    exact h
  · rw [hsave]
    refine ⟨nodup_replace h.idsNodup h.idsNodup (fun _ _ hne => hne),
      nodup_replace h.idsNodup h.usernamesNodup ?_, nodup_replace h.idsNodup h.emailsNodup ?_, ?_⟩
    · exact fun v hv hne hname => htaken ⟨v, hv, hne, .inl hname⟩
    · exact fun v hv hne hemail => htaken ⟨v, hv, hne, .inr hemail⟩
    · intro v hv
      obtain ⟨w, hw, rfl⟩ := List.mem_map.1 hv
      split
      · rw [storeRow_uncut hcut, if_pos hstorable]
      · exact h.stored w hw

end Users

end PeHackathon.UrlShortener
