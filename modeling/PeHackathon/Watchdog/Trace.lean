import PeHackathon.Watchdog.State

/-!
# Reading a history

Histories are read newest first. `Everywhere` says of every mark what the marks before it allow.
-/

namespace PeHackathon.Watchdog

/-- `Q` holds of every mark and the marks before it. -/
def Everywhere (Q : Mark → List Mark → Prop) : List Mark → Prop
  | [] => True
  | mark :: before => Q mark before ∧ Everywhere Q before

theorem everywhere_iff {Q : Mark → List Mark → Prop} {trace : List Mark} :
    Everywhere Q trace ↔ ∀ later mark before, trace = later ++ mark :: before → Q mark before := by
  induction trace with
  | nil => exact ⟨fun _ later mark before h => by simp at h, fun _ => trivial⟩
  | cons m trace ih =>
    constructor
    · rintro ⟨hm, htrace⟩ later mark before h
      cases later with
      | nil =>
        obtain ⟨rfl, rfl⟩ := List.cons.inj h
        exact hm
      | cons m' later =>
        exact ih.1 htrace later mark before (List.cons.inj h).2
    · intro h
      exact ⟨h [] m trace rfl, ih.2 fun later mark before hl =>
        h (m :: later) mark before (by rw [hl, List.cons_append])⟩

/-- The mark is a deploy sent for `sid` at `site`. -/
def Mark.attempts (mark : Mark) (site : DeploySite) (sid : String) : Bool :=
  match mark.kind with
  | .attempt site' sid' => site' = site ∧ sid' = sid
  | _ => false

theorem Mark.attempts_iff {mark : Mark} {site : DeploySite} {sid : String} :
    mark.attempts site sid = true ↔ mark.kind = .attempt site sid := by
  unfold Mark.attempts
  split
  · rename_i site' sid' hk
    simp [hk]
  · rename_i hk
    exact ⟨fun h => by simp at h, fun h => absurd h (hk _ _)⟩

/-- The row a tick is at, and the environment it runs in. -/
def currentRow : List Mark → Option (Environment × RailwayVisibilityRow)
  | [] => none
  | mark :: before => match mark.kind with
    | .row env row => some (env, row)
    | _ => currentRow before

theorem currentRow_mem {env : Environment} {row : RailwayVisibilityRow} {trace : List Mark}
    (h : currentRow trace = some (env, row)) : ∃ mark ∈ trace, mark.kind = .row env row := by
  induction trace with
  | nil => exact absurd h.symm (Option.some_ne_none _)
  | cons mark before ih =>
    simp only [currentRow] at h
    split at h
    · rename_i env' row' hk
      cases h
      exact ⟨mark, List.mem_cons_self, hk⟩
    · obtain ⟨m, hm, hk⟩ := ih h
      exact ⟨m, List.mem_cons_of_mem _ hm, hk⟩

/-- A deploy was sent for the row a tick is at. -/
def attempted : List Mark → Bool
  | [] => false
  | mark :: before => match mark.kind with
    | .row _ _ => false
    | .attempt _ _ => true
    | _ => attempted before

end PeHackathon.Watchdog
