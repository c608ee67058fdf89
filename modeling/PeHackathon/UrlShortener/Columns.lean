import PeHackathon.UrlShortener.Constraints

/-!
# What the columns take

The rows of `users` and `events` as they are stored, and the range of an `INTEGER` column. A row
that is stored is stored as it is.
-/

namespace PeHackathon.UrlShortener

/-- Whether an `INTEGER` column takes the number. -/
def int4 (i : Int) : Bool := -2147483648 ≤ i && i ≤ 2147483647

/-- The row a `users` row is stored as. -/
def storeUser (u : User) : Option User := do
  let username ← varchar 100 u.username
  let email ← varchar 255 u.email
  some { u with username, email }

/-- The row an `events` row is stored as. -/
def storeEvent (e : Event) : Option Event := do
  let eventType ← varchar 50 e.eventType
  let details ← textColumn e.details
  some { e with eventType, details }

section

variable {u row : User} {e e' : Event}

theorem storeUser_eq_some : storeUser u = some row ↔
    ∃ username email, varchar 100 u.username = some username ∧ varchar 255 u.email = some email ∧
      row = { u with username, email } := by
  simp only [storeUser, Option.bind_eq_bind, Option.bind_eq_some_iff]
  constructor
  · rintro ⟨username, husername, email, hemail, h⟩
    exact ⟨username, email, husername, hemail, (Option.some.inj h).symm⟩
  · rintro ⟨username, email, husername, hemail, rfl⟩
    exact ⟨username, husername, email, hemail, rfl⟩

theorem storeUser_idem (h : storeUser u = some row) : storeUser row = some row := by
  obtain ⟨username, email, husername, hemail, rfl⟩ := storeUser_eq_some.1 h
  exact storeUser_eq_some.2 ⟨username, email, varchar_idem husername, varchar_idem hemail, rfl⟩

theorem storeUser_id (h : storeUser u = some row) : row.id = u.id := by
  obtain ⟨_, _, -, -, rfl⟩ := storeUser_eq_some.1 h
  rfl

theorem textColumn_idem {s t : String} (h : textColumn s = some t) : textColumn t = some t := by
  unfold textColumn at h
  split at h
  · cases h
    rename_i hs
    exact if_pos hs
  · cases h

theorem storeEvent_eq_some : storeEvent e = some e' ↔
    ∃ eventType details, varchar 50 e.eventType = some eventType ∧
      textColumn e.details = some details ∧
      e' = { e with eventType, details } := by
  simp only [storeEvent, Option.bind_eq_bind, Option.bind_eq_some_iff]
  constructor
  · rintro ⟨eventType, htype, details, hdetails, h⟩
    exact ⟨eventType, details, htype, hdetails, (Option.some.inj h).symm⟩
  · rintro ⟨eventType, details, htype, hdetails, rfl⟩
    exact ⟨eventType, htype, details, hdetails, rfl⟩

theorem storeEvent_idem (h : storeEvent e = some e') : storeEvent e' = some e' := by
  obtain ⟨eventType, details, htype, hdetails, rfl⟩ := storeEvent_eq_some.1 h
  exact storeEvent_eq_some.2 ⟨eventType, details, varchar_idem htype, textColumn_idem hdetails, rfl⟩

end

end PeHackathon.UrlShortener
