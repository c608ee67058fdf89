import PeHackathon.Python.JsonRoundTrip

/-!
# Fields of a `dict`

Which fields an update leaves (`mem_update`, `keys_update`), and an object that is written and read
back (`mem_reread`, `keys_reread`).
-/

namespace PeHackathon

section Fields

variable {d fields : JsonObject} {key : String} {x : Json} {kv : String × Json}

theorem mem_of_get (h : JsonObject.get? d key = some x) : (key, x) ∈ d := by
  obtain ⟨kv, hfind, rfl⟩ := Option.map_eq_some_iff.1 h
  have hkey : kv.1 = key := by simpa using List.find?_some hfind
  rw [← hkey]
  exact List.mem_of_find?_eq_some hfind

theorem get_of_mem_keys (h : key ∈ d.map Prod.fst) : ∃ x, JsonObject.get? d key = some x := by
  obtain ⟨kv, hkv, rfl⟩ := List.mem_map.1 h
  have hfind : (d.find? fun kv' => kv'.1 == kv.1).isSome = true := by
    rw [List.find?_isSome]
    exact ⟨kv, hkv, by simp⟩
  obtain ⟨kv', hkv'⟩ := Option.isSome_iff_exists.1 hfind
  exact ⟨kv'.2, by rw [JsonObject.get?, hkv']; rfl⟩

/-- A field of the changed object is the new one or an old one. -/
theorem mem_set (h : kv ∈ JsonObject.set d key x) : kv = (key, x) ∨ kv ∈ d := by
  unfold JsonObject.set at h
  split at h
  · obtain ⟨kv', hkv', rfl⟩ := List.mem_map.1 h
    split
    · exact .inl rfl
    · exact .inr hkv'
  · rcases List.mem_append.1 h with h | h
    · exact .inr h
    · exact .inl (List.mem_singleton.1 h)

theorem keys_set : key ∈ (JsonObject.set d key x).map Prod.fst ∧
    ∀ key' ∈ d.map Prod.fst, key' ∈ (JsonObject.set d key x).map Prod.fst := by
  unfold JsonObject.set
  split
  · rename_i hhas
    have hkeys :
        (d.map fun kv => if kv.1 == key then (key, x) else kv).map Prod.fst = d.map Prod.fst := by
      rw [List.map_map]
      refine List.map_congr_left fun kv _ => ?_
      by_cases hkv : kv.1 = key <;> simp [hkv]
    rw [hkeys]
    refine ⟨?_, fun _ h => h⟩
    obtain ⟨y, hy⟩ := Option.isSome_iff_exists.1 hhas
    exact List.mem_map_of_mem (mem_of_get hy)
  · rw [List.map_append]
    exact ⟨List.mem_append_right _ (List.mem_singleton_self _), fun _ h => List.mem_append_left _ h⟩

/-- Fields that are set one after the other. -/
theorem mem_update (h : kv ∈ JsonObject.update d fields) : kv ∈ fields ∨ kv ∈ d := by
  induction fields generalizing d with
  | nil => exact .inr h
  | cons f fields ih =>
    rcases ih h with h | h
    · exact .inl (List.mem_cons_of_mem _ h)
    · rcases mem_set h with h | h
      · rw [h]
        exact .inl List.mem_cons_self
      · exact .inr h

theorem keys_update :
    (∀ key ∈ fields.map Prod.fst, key ∈ (JsonObject.update d fields).map Prod.fst) ∧
    ∀ key ∈ d.map Prod.fst, key ∈ (JsonObject.update d fields).map Prod.fst := by
  induction fields generalizing d with
  | nil => exact ⟨fun _ h => absurd h List.not_mem_nil, fun _ h => h⟩
  | cons f fields ih =>
    have hset : f.1 ∈ (JsonObject.set d f.1 f.2).map Prod.fst ∧
        ∀ key ∈ d.map Prod.fst, key ∈ (JsonObject.set d f.1 f.2).map Prod.fst := keys_set
    have hrest := ih (d := JsonObject.set d f.1 f.2)
    refine ⟨fun key h => ?_, fun key h => hrest.2 key (hset.2 key h)⟩
    rcases List.mem_cons.1 h with rfl | h
    · exact hrest.2 _ hset.1
    · exact hrest.1 key h

theorem pyDict_eq_update (pairs : List (String × Json)) :
    pyDict pairs = JsonObject.update [] pairs := rfl

theorem mem_rereadFields (h : kv ∈ Json.rereadFields fields) :
    ∃ x, (kv.1, x) ∈ fields ∧ kv.2 = x.reread := by
  induction fields with
  | nil => cases h
  | cons f fields ih =>
    obtain ⟨key, y⟩ := f
    rw [Json.rereadFields] at h
    rcases List.mem_cons.1 h with rfl | h
    · exact ⟨y, List.mem_cons_self, rfl⟩
    · obtain ⟨x, hx, hr⟩ := ih h
      exact ⟨x, List.mem_cons_of_mem _ hx, hr⟩

theorem keys_rereadFields (fields : JsonObject) :
    (Json.rereadFields fields).map Prod.fst = fields.map Prod.fst := by
  induction fields with
  | nil => rfl
  | cons f fields ih =>
    obtain ⟨key, y⟩ := f
    rw [Json.rereadFields, List.map_cons, List.map_cons, ih]

theorem mem_rereadAll {l : List Json} (h : x ∈ Json.rereadAll l) : ∃ y ∈ l, x = y.reread := by
  induction l with
  | nil => cases h
  | cons y l ih =>
    rw [Json.rereadAll] at h
    rcases List.mem_cons.1 h with rfl | h
    · exact ⟨y, List.mem_cons_self, rfl⟩
    · obtain ⟨z, hz, hx⟩ := ih h
      exact ⟨z, List.mem_cons_of_mem _ hz, hx⟩

/-- The fields of an object that is written and read back. -/
theorem mem_reread (h : kv ∈ pyDict (Json.rereadFields fields)) :
    ∃ x, (kv.1, x) ∈ fields ∧ kv.2 = x.reread := by
  rw [pyDict_eq_update] at h
  rcases mem_update h with h | h
  · exact mem_rereadFields h
  · cases h

theorem keys_reread (h : key ∈ fields.map Prod.fst) :
    key ∈ (pyDict (Json.rereadFields fields)).map Prod.fst := by
  rw [pyDict_eq_update]
  refine keys_update.1 key ?_
  rwa [keys_rereadFields]

/-! ### An object whose values are read back -/

/-- A field whose value is read back. -/
def rereadField (kv : String × Json) : String × Json := (kv.1, kv.2.reread)

theorem rereadFields_eq_map (fields : JsonObject) :
    Json.rereadFields fields = fields.map rereadField := by
  induction fields with
  | nil => rfl
  | cons f fields ih =>
    obtain ⟨key, y⟩ := f
    rw [Json.rereadFields, ih]
    rfl

theorem get_map_reread (d : JsonObject) (key : String) :
    JsonObject.get? (d.map rereadField) key = (JsonObject.get? d key).map Json.reread := by
  induction d with
  | nil => rfl
  | cons f d ih =>
    unfold JsonObject.get? at ih ⊢
    rw [List.map_cons, List.find?_cons, List.find?_cons]
    have hkey : ((rereadField f).1 == key) = (f.1 == key) := rfl
    rw [hkey]
    cases f.1 == key with
    | true => rfl
    | false => exact ih

theorem set_map_reread (d : JsonObject) (key : String) (x : Json) :
    JsonObject.set (d.map rereadField) key x.reread = (JsonObject.set d key x).map rereadField := by
  have hhas : JsonObject.has (d.map rereadField) key = JsonObject.has d key := by
    rw [JsonObject.has, get_map_reread, Option.isSome_map]
    rfl
  unfold JsonObject.set
  rw [hhas]
  split
  · rw [List.map_map, List.map_map]
    refine List.map_congr_left fun kv _ => ?_
    by_cases hkv : kv.1 = key <;> simp [rereadField, hkv]
  · rw [List.map_append]
    rfl

theorem update_map_reread (d fields : JsonObject) :
    JsonObject.update (d.map rereadField) (fields.map rereadField) =
      (JsonObject.update d fields).map rereadField := by
  induction fields generalizing d with
  | nil => rfl
  | cons f fields ih =>
    have hstep := ih (JsonObject.set d f.1 f.2)
    rw [← set_map_reread] at hstep
    exact hstep

/-- The value under a key after an object is written and read back. -/
theorem get_reread (fields : JsonObject) (key : String) :
    JsonObject.get? (pyDict (Json.rereadFields fields)) key =
      (JsonObject.get? (pyDict fields) key).map Json.reread := by
  rw [← get_map_reread, rereadFields_eq_map, pyDict_eq_update,
    pyDict_eq_update, ← update_map_reread]
  rfl

end Fields

end PeHackathon
