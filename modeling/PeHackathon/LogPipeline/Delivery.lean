import PeHackathon.LogPipeline.Transport

/-!
# What the dashboard has of the logs

Whatever is lost on the way, the entries in the cache of the dashboard are the payloads of the
processes, each at most once, in the order in which they were logged, and as they were logged
(`pipeline_delivers`). A process whose POSTs are admitted and not lost has all of them there.
-/

namespace PeHackathon.LogPipeline

open Dashboard UrlShortener Lib

/-! ## One shipper -/

section Shipper

variable {depth : Nat} {h : HttpLogIngest}

/-- The queue has been worked off in its order, and holds payloads. -/
structure InOrder (h : HttpLogIngest) : Prop where
  order : h.queued = h.handled ++ h.current ++ h.queue
  keyed : ∀ payload ∈ h.queued, Keyed payload

/-- The same handler, as far as its POSTs go. -/
structure SameHandler (h h' : HttpLogIngest) : Prop where
  url : h'.url = h.url
  token : h'.token = h.token
  instanceId : h'.instanceId = h.instanceId

theorem SameHandler.refl (h : HttpLogIngest) : SameHandler h h := ⟨rfl, rfl, rfl⟩

theorem SameHandler.trans {h' h'' : HttpLogIngest} (hs : SameHandler h h')
    (hs' : SameHandler h' h'') :
    SameHandler h h'' :=
  ⟨hs'.url.trans hs.url, hs'.token.trans hs.token, hs'.instanceId.trans hs.instanceId⟩

theorem SameHandler.admits {h' : HttpLogIngest} (hs : SameHandler h h') (cfg : IngestSettings) :
    Admits cfg h' ↔ Admits cfg h := by
  unfold Admits received HttpLogIngest.request
  rw [hs.token]

theorem SameHandler.posted {h' : HttpLogIngest} (hs : SameHandler h h') (depth : Nat) :
    Posted depth h' = Posted depth h := by
  funext payload
  unfold Posted
  rw [hs.url]

/-- What a turn of the thread does: the payload in `_post` is handled, and nothing is queued. -/
theorem turn_spec (depth : Nat) (h : HttpLogIngest) (outcome : UrlopenOutcome) :
    SameHandler h (h.turn depth outcome) ∧ (h.turn depth outcome).queued = h.queued ∧
      (h.turn depth outcome).handled = h.handled ++ h.current ∧
      (h.turn depth outcome).current ++ (h.turn depth outcome).queue = h.queue := by
  unfold HttpLogIngest.turn
  cases hthread : h.thread with
  | looping =>
    have hcurrent := HttpLogIngest.current_looping hthread
    dsimp only
    split
    · exact ⟨⟨rfl, rfl, rfl⟩, rfl, by rw [hcurrent, List.append_nil], rfl⟩
    · cases hqueue : h.queue with
      | nil =>
        exact ⟨.refl h, rfl, by rw [hcurrent, List.append_nil], by rw [hcurrent, hqueue]; rfl⟩
      | cons payload queue => exact ⟨⟨rfl, rfl, rfl⟩, rfl, by rw [hcurrent, List.append_nil], rfl⟩
  | posting payload =>
    rw [HttpLogIngest.current_posting hthread]
    dsimp only [HttpLogIngest.post]
    cases jsonBytes depth (payloadValue payload) with
    | none => exact ⟨⟨rfl, rfl, rfl⟩, rfl, rfl, rfl⟩
    | some data =>
      dsimp only
      split
      · cases outcome with
        | response status =>
          unfold HttpLogIngest.opened
          dsimp only
          split
          · exact ⟨⟨rfl, rfl, rfl⟩, rfl, rfl, rfl⟩
          · exact ⟨⟨rfl, rfl, rfl⟩, rfl, rfl, rfl⟩
        | osError text => exact ⟨⟨rfl, rfl, rfl⟩, rfl, rfl, rfl⟩
        | httpException => exact ⟨⟨rfl, rfl, rfl⟩, rfl, rfl, rfl⟩
      · exact ⟨⟨rfl, rfl, rfl⟩, rfl, rfl, rfl⟩
  | returned =>
    exact ⟨.refl h, rfl, by simp [HttpLogIngest.current, hthread], by
      simp [HttpLogIngest.current, hthread]⟩
  | died =>
    exact ⟨.refl h, rfl, by simp [HttpLogIngest.current, hthread], by
      simp [HttpLogIngest.current, hthread]⟩

theorem InOrder.turn (hs : InOrder h) (outcome : UrlopenOutcome) :
    InOrder (h.turn depth outcome) := by
  obtain ⟨-, hqueued, hhandled, hrest⟩ := turn_spec depth h outcome
  refine ⟨?_, hqueued ▸ hs.keyed⟩
  rw [hqueued, hhandled, List.append_assoc, hrest]
  exact hs.order

/-- What logging a record does: it may queue the payload. -/
theorem emit_spec (h : HttpLogIngest) (now : Int) (record : EmittedRecord) :
    SameHandler h (h.emit now record) ∧ (h.emit now record).handled = h.handled ∧
      (h.emit now record).current = h.current ∧
      ∃ new, new.Sublist (emitPayload now record h.instanceId).toList ∧
        (h.emit now record).queued = h.queued ++ new ∧
        (h.emit now record).queue = h.queue ++ new := by
  rcases HttpLogIngest.emit_cases h now record with hemit | hemit | ⟨payload, hpayload, hemit⟩
  · rw [hemit]
    exact ⟨⟨rfl, rfl, rfl⟩, rfl, rfl, [], List.nil_sublist _, (List.append_nil _).symm,
      (List.append_nil _).symm⟩
  · rw [hemit]
    exact ⟨.refl h, rfl, rfl, [], List.nil_sublist _, (List.append_nil _).symm,
      (List.append_nil _).symm⟩
  · rw [hemit, hpayload]
    exact ⟨⟨rfl, rfl, rfl⟩, rfl, rfl, [payload], List.Sublist.refl _, rfl, rfl⟩

theorem InOrder.emit (hs : InOrder h) (now : Int) (record : EmittedRecord) :
    InOrder (h.emit now record) := by
  obtain ⟨-, hhandled, hcurrent, new, hnew, hqueued, hqueue⟩ := emit_spec h now record
  constructor
  · rw [hqueued, hhandled, hcurrent, hqueue, hs.order, List.append_assoc (h.handled ++ h.current)]
  · rw [hqueued]
    intro payload hpayload
    rcases List.mem_append.1 hpayload with hold | hold
    · exact hs.keyed payload hold
    · exact emitPayload_keyed (Option.mem_toList.1 (hnew.subset hold))

theorem InOrder.current_keyed (hs : InOrder h) {payload : LogPayload}
    (hthread : h.thread = .posting payload) :
    Keyed payload := by
  refine hs.keyed payload ?_
  rw [hs.order, HttpLogIngest.current_posting hthread]
  exact List.mem_append_left _ (List.mem_append_right _ (List.mem_singleton_self _))

end Shipper

/-! ## One exchange -/

namespace Pipeline

variable {ι : Type} {env : Surroundings} {w : Pipeline ι} {i : ι} {now : Int} {payload : LogPayload}
  {transport : Transport}

/-- The cache is given an entry. -/
def arrive (w : Pipeline ι) (now : Int) (source : Option (ι × LogPayload)) (entry : Json) :
    Pipeline ι :=
  { w with dashboard := (w.dashboard.add now entry).1, arrived := w.arrived ++ [⟨source, entry⟩] }

theorem setDashboard_add (w : Pipeline ι) (now : Int) (source : Option (ι × LogPayload))
    (entry : Json) :
    w.setDashboard source (w.dashboard.add now entry).1 = w.arrive now source entry := by
  unfold setDashboard arrive
  rw [(StatsCache.add_lists now entry w.dashboard).2.2.1, List.drop_left]
  rfl

theorem setDashboard_self (w : Pipeline ι) (source : Option (ι × LogPayload)) :
    w.setDashboard source w.dashboard = w := by
  unfold setDashboard
  rw [List.drop_length, List.map_nil, List.append_nil]

/-- What is admitted does not depend on the body. -/
theorem refusal_request (cfg : IngestSettings) (h : HttpLogIngest) (data : List UInt8) :
    cfg.refusal (received (h.request data)) = cfg.refusal (received (h.request [])) := rfl

theorem deliver_fst (w : Pipeline ι) (i : ι) (now : Int) (payload : LogPayload)
    (post : IngestPost) :
    (w.deliver env i now payload post).1 =
      w.setDashboard (some (i, payload))
        (w.dashboard.receive env.ingest env.other now (received post)).1 := rfl

theorem deliver_of_admits {data : List UInt8} (now : Int) (hkeyed : Keyed payload)
    (hdata : jsonBytes env.depth (payloadValue payload) = some data)
    (hadmits : Admits env.ingest (w.shippers i)) :
    (w.deliver env i now payload ((w.shippers i).request data)).1 =
      w.arrive now (some (i, payload)) (.obj (payloadFields payload)) := by
  have hbody : jsonLoadsBytes env.other (received ((w.shippers i).request data)).body =
      some (.obj (payloadFields payload)) := json_payload env.other hkeyed hdata
  rw [deliver_fst, StatsCache.receive_entry ((refusal_request _ _ data).trans hadmits) hbody
    (entries_payloadFields hkeyed), setDashboard_add]

theorem deliver_of_refused {data : List UInt8} (hadmits : ¬ Admits env.ingest (w.shippers i)) :
    (w.deliver env i now payload ((w.shippers i).request data)).1 = w := by
  obtain ⟨reply, hreply⟩ := Option.ne_none_iff_exists'.1 hadmits
  rw [deliver_fst, StatsCache.receive_of_refusal ((refusal_request _ _ data).trans hreply),
    setDashboard_self]

theorem attempt_eq_some {depth : Nat} {h : HttpLogIngest} {post : IngestPost}
    (hattempt : attempt depth h = some (payload, post)) :
    h.thread = .posting payload ∧ Posted depth h payload = true ∧
      ∃ data, jsonBytes depth (payloadValue payload) = some data ∧ post = h.request data := by
  unfold attempt at hattempt
  split at hattempt
  · rename_i payload' hthread
    obtain ⟨data, hdata, hattempt⟩ := Option.bind_eq_some_iff.1 hattempt
    split at hattempt
    · rename_i htype
      cases hattempt
      refine ⟨hthread, ?_, data, hdata, rfl⟩
      rw [Posted, hdata, htype]
      rfl
    · cases hattempt
  · cases hattempt

theorem attempt_of_posted {depth : Nat} {h : HttpLogIngest} (hthread : h.thread = .posting payload)
    (hposted : Posted depth h payload = true) :
    ∃ data, jsonBytes depth (payloadValue payload) = some data ∧
      attempt depth h = some (payload, h.request data) := by
  rw [Posted, Bool.and_eq_true] at hposted
  obtain ⟨data, hdata⟩ := Option.isSome_iff_exists.1 hposted.1
  refine ⟨data, hdata, ?_⟩
  unfold attempt
  rw [hthread]
  dsimp only
  rw [hdata, Option.bind_some, if_pos hposted.2]

/-- **An exchange** lets one entry arrive, the payload that was posted, or none. -/
theorem exchange_cases (env : Surroundings) (now : Int) (transport : Transport)
    (hs : InOrder (w.shippers i)) :
    (w.exchange env i now transport).1 = w ∨
      ∃ payload, (w.shippers i).thread = .posting payload ∧
        Posted env.depth (w.shippers i) payload = true ∧
        Admits env.ingest (w.shippers i) ∧
        (w.exchange env i now transport).1 = w.arrive now (some (i, payload))
          (.obj (payloadFields payload)) := by
  unfold exchange
  cases hattempt : attempt env.depth (w.shippers i) with
  | none => exact .inl rfl
  | some sent =>
    obtain ⟨payload, post⟩ := sent
    obtain ⟨hthread, hposted, data, hdata, rfl⟩ := attempt_eq_some hattempt
    have hdeliver : (w.deliver env i now payload ((w.shippers i).request data)).1 = w ∨
        Admits env.ingest (w.shippers i) ∧
          (w.deliver env i now payload ((w.shippers i).request data)).1 =
          w.arrive now (some (i, payload)) (.obj (payloadFields payload)) := by
      by_cases hadmits : Admits env.ingest (w.shippers i)
      · exact .inr ⟨hadmits, deliver_of_admits now (hs.current_keyed hthread) hdata hadmits⟩
      · exact .inl (deliver_of_refused hadmits)
    cases transport with
    | answered reason => exact hdeliver.imp_right fun h => ⟨payload, hthread, hposted, h⟩
    | unanswered outcome => exact hdeliver.imp_right fun h => ⟨payload, hthread, hposted, h⟩
    | lost outcome => exact .inl rfl

/-- A POST that is not lost arrives. -/
theorem exchange_arrives (now : Int) (hs : InOrder (w.shippers i))
    (hthread : (w.shippers i).thread = .posting payload)
    (hposted : Posted env.depth (w.shippers i) payload = true)
    (hadmits : Admits env.ingest (w.shippers i)) (hkept : ∀ outcome, transport ≠ .lost outcome) :
    (w.exchange env i now transport).1 = w.arrive now (some (i, payload))
      (.obj (payloadFields payload)) := by
  obtain ⟨data, hdata, hattempt⟩ := attempt_of_posted hthread hposted
  have hdeliver := deliver_of_admits now (hs.current_keyed hthread) hdata hadmits
  unfold exchange
  rw [hattempt]
  cases transport with
  | answered reason => exact hdeliver
  | unanswered outcome => exact hdeliver
  | lost outcome => exact absurd rfl (hkept outcome)

theorem payloadsFrom_arrive [DecidableEq ι] (w : Pipeline ι) (now : Int) (i j : ι)
    (payload : LogPayload) (entry : Json) :
    (w.arrive now (some (j, payload)) entry).payloadsFrom i =
      w.payloadsFrom i ++ if j = i then [payload] else [] := by
  unfold payloadsFrom arrive
  rw [List.filterMap_append]
  congr 1
  by_cases hj : j = i <;> simp [hj]

theorem payloadsFrom_other [DecidableEq ι] (w : Pipeline ι) (now : Int) (i : ι) (entry : Json) :
    (w.arrive now none entry).payloadsFrom i = w.payloadsFrom i := by
  unfold payloadsFrom arrive
  rw [List.filterMap_append]
  exact List.append_nil _

end Pipeline

/-! ## A run -/

/-- What a run of these steps, from these handlers on, has come to. -/
structure Delivered {ι : Type} [DecidableEq ι] (env : Surroundings) (shippers : ι → HttpLogIngest)
    (maxEntries : Nat) (steps : List (PipelineStep ι)) (w : Pipeline ι) : Prop where
  /-- The ring has the last of what has arrived since the cache was cleared. -/
  ring : ∃ since, since <:+ w.arrived ∧ (.clear ∉ steps → since = w.arrived) ∧
    w.dashboard.logs = lastEntries maxEntries (since.map (·.entry)) ∧
    w.dashboard.totalIngested = since.length
  /-- What has arrived is what was logged. -/
  unchanged : ∀ a ∈ w.arrived, ∀ i payload, a.source = some (i, payload) →
    a.entry = .obj (payloadFields payload)
  /-- It has arrived at most once, and in the order in which it was logged. -/
  once : ∀ i, (w.payloadsFrom i).Sublist (emitted (shippers i).instanceId i steps)
  /-- Nothing has arrived from a process that is not admitted. -/
  refused : ∀ i, ¬ Admits env.ingest (shippers i) → w.payloadsFrom i = []
  /-- All that could be posted has arrived, as far as the queue is worked off. -/
  whole : ∀ i, Admits env.ingest (shippers i) → Reliable i steps →
    w.payloadsFrom i = (w.shippers i).handled.filter (Posted env.depth (shippers i)) ∧
      (w.shippers i).queued = (w.shippers i).handled ++ (w.shippers i).current ++
        (w.shippers i).queue

/-! ### One process -/

section Process

variable {ι : Type} [DecidableEq ι] {env : Surroundings} {i : ι} {h₀ h : HttpLogIngest}
  {steps : List (PipelineStep ι)} {s : PipelineStep ι} {from' new : List LogPayload}

/-- What holds of the handler of process `i`, and of its payloads that have arrived, after these
steps. -/
structure Process (env : Surroundings) (i : ι) (h₀ : HttpLogIngest) (steps : List (PipelineStep ι))
    (h : HttpLogIngest) (arrived : List LogPayload) : Prop where
  same : SameHandler h₀ h
  inOrder : InOrder h
  queued : h.queued.Sublist (emitted h₀.instanceId i steps)
  handled : arrived.Sublist h.handled
  refused : ¬ Admits env.ingest h₀ → arrived = []
  whole : Admits env.ingest h₀ → Reliable i steps → arrived = h.handled.filter (Posted env.depth h₀)

theorem emitted_concat (instanceId : PyText) (i : ι) (steps : List (PipelineStep ι))
    (s : PipelineStep ι) :
    emitted instanceId i (steps ++ [s]) = emitted instanceId i steps ++ emitted instanceId i [s] :=
  List.filterMap_append

omit [DecidableEq ι] in
theorem Reliable.of_concat (h : Reliable i (steps ++ [s])) : Reliable i steps :=
  fun now outcome hmem => h now outcome (List.mem_append_left _ hmem)

/-- A step of another process, or of the dashboard. -/
theorem Process.idle (hp : Process env i h₀ steps h new) (s : PipelineStep ι) :
    Process env i h₀ (steps ++ [s]) h new where
  same := hp.same
  inOrder := hp.inOrder
  queued := by
    rw [emitted_concat]
    exact hp.queued.trans (List.sublist_append_left _ _)
  handled := hp.handled
  refused := hp.refused
  whole hadmits hreliable := hp.whole hadmits hreliable.of_concat

theorem Process.emit (hp : Process env i h₀ steps h new) (now : Int) (record : EmittedRecord) :
    Process env i h₀ (steps ++ [.emit i now record]) (h.emit now record) new := by
  obtain ⟨hsame, hhandled, -, more, hmore, hqueued, -⟩ := emit_spec h now record
  refine ⟨hp.same.trans hsame, hp.inOrder.emit now record, ?_, hhandled ▸ hp.handled, hp.refused,
    fun hadmits hreliable => ?_⟩
  · have hlogged : emitted h₀.instanceId i [.emit i now record] =
        (emitPayload now record h.instanceId).toList := by
      rw [hp.same.instanceId, emitted, List.filterMap_cons]
      dsimp only
      rw [if_pos rfl]
      cases emitPayload now record h₀.instanceId <;> rfl
    rw [hqueued, emitted_concat, hlogged]
    exact hp.queued.append hmore
  · rw [hhandled]
    exact hp.whole hadmits hreliable.of_concat

theorem Process.close (hp : Process env i h₀ steps h new) :
    Process env i h₀ (steps ++ [.close i]) h.close new :=
  have hp := hp.idle (.close i)
  ⟨hp.same.trans ⟨rfl, rfl, rfl⟩, ⟨hp.inOrder.order, hp.inOrder.keyed⟩, hp.queued, hp.handled,
    hp.refused, hp.whole⟩

/-- A turn of the thread, where `new` has arrived of the payload in `_post`. -/
theorem Process.turn {now : Int} {transport : Transport} (hp : Process env i h₀ steps h from')
    (outcome : UrlopenOutcome) (hnew : new.Sublist h.current)
    (hrefused : ¬ Admits env.ingest h → new = [])
    (hkept : Admits env.ingest h → (∀ outcome, transport ≠ .lost outcome) →
      new = h.current.filter (Posted env.depth h)) :
    Process env i h₀ (steps ++ [.turn i now transport]) (h.turn env.depth outcome)
      (from' ++ new) := by
  obtain ⟨hsame, hqueued, hhandled, -⟩ := turn_spec env.depth h outcome
  refine ⟨hp.same.trans hsame, hp.inOrder.turn outcome, ?_, ?_, fun hadmits => ?_,
    fun hadmits hreliable => ?_⟩
  · rw [hqueued, emitted_concat]
    exact hp.queued.trans (List.sublist_append_left _ _)
  · rw [hhandled]
    exact hp.handled.append hnew
  · rw [hp.refused hadmits, hrefused fun h => hadmits ((hp.same.admits _).1 h)]
    rfl
  · have hlast : ∀ outcome, transport ≠ .lost outcome := fun outcome heq =>
      hreliable now outcome (List.mem_append_right _ (heq ▸ List.mem_singleton_self _))
    rw [hhandled, List.filter_append, hp.whole hadmits hreliable.of_concat,
      hkept ((hp.same.admits _).2 hadmits) hlast, hp.same.posted]

end Process

/-! ### The cache -/

section Cache

variable {ι : Type} {maxEntries : Nat} {steps : List (PipelineStep ι)} {cache : StatsCache}
  {arrived : List (Arrival ι)}

/-- What holds of the cache after these steps. -/
structure Cache (maxEntries : Nat) (steps : List (PipelineStep ι)) (cache : StatsCache)
    (arrived : List (Arrival ι)) :
    Prop where
  size : cache.maxEntries = maxEntries
  ring : ∃ since, since <:+ arrived ∧ (.clear ∉ steps → since = arrived) ∧
    cache.logs = lastEntries maxEntries (since.map (·.entry)) ∧ cache.totalIngested = since.length
  unchanged : ∀ a ∈ arrived, ∀ i payload, a.source = some (i, payload) →
    a.entry = .obj (payloadFields payload)

theorem Cache.idle (hc : Cache maxEntries steps cache arrived) (s : PipelineStep ι) :
    Cache maxEntries (steps ++ [s]) cache arrived where
  size := hc.size
  ring := by
    obtain ⟨since, hsuffix, hall, hring⟩ := hc.ring
    exact ⟨since, hsuffix, fun hno => hall fun hmem => hno (List.mem_append_left _ hmem), hring⟩
  unchanged := hc.unchanged

theorem Cache.add (hc : Cache maxEntries steps cache arrived) (now : Int)
    (source : Option (ι × LogPayload)) (entry : Json)
    (hentry : ∀ i payload, source = some (i, payload) → entry = .obj (payloadFields payload)) :
    Cache maxEntries steps (cache.add now entry).1 (arrived ++ [⟨source, entry⟩]) := by
  obtain ⟨since, ⟨before, hsuffix⟩, hall, hlogs, htotal⟩ := hc.ring
  obtain ⟨hsize, hadd, -, hcount⟩ := StatsCache.add_lists now entry cache
  refine ⟨hsize.trans hc.size, ⟨since ++ [⟨source, entry⟩], ⟨before, ?_⟩, fun hno => ?_, ?_, ?_⟩,
    ?_⟩
  · rw [← List.append_assoc, hsuffix]
  · rw [hall hno]
  · rw [hadd, hc.size, hlogs, dequeAppend_last, List.map_append]
    rfl
  · rw [hcount, htotal, List.length_append]
    rfl
  · intro a ha
    rcases List.mem_append.1 ha with ha | ha
    · exact hc.unchanged a ha
    · rw [List.mem_singleton.1 ha]
      exact hentry

theorem Cache.clear (hc : Cache maxEntries steps cache arrived) :
    Cache maxEntries (steps ++ [.clear]) cache.clear arrived where
  size := hc.size
  ring := by
    refine ⟨[], List.nil_suffix, fun hno => ?_, ?_, rfl⟩
    · exact absurd (List.mem_append_right _ (List.mem_singleton_self _)) hno
    · simp [StatsCache.clear, lastEntries]
  unchanged := hc.unchanged

end Cache

/-! ### All of them -/

section Run

variable {ι : Type} [DecidableEq ι] {env : Surroundings} {shippers : ι → HttpLogIngest}
  {maxEntries : Nat} {steps : List (PipelineStep ι)} {w : Pipeline ι}

structure Sound (env : Surroundings) (shippers : ι → HttpLogIngest) (maxEntries : Nat)
    (steps : List (PipelineStep ι)) (w : Pipeline ι) : Prop where
  process : ∀ i, Process env i (shippers i) steps (w.shippers i) (w.payloadsFrom i)
  cache : Cache maxEntries steps w.dashboard w.arrived

/-- The processes after a step of process `i`, in which `new` has arrived. -/
theorem process_setShipper {w' : Pipeline ι} {i : ι} {h : HttpLogIngest} {s : PipelineStep ι}
    (hs : Sound env shippers maxEntries steps w) (new : List LogPayload)
    (hshippers : w'.shippers = w.shippers)
    (harrived : ∀ j, w'.payloadsFrom j = w.payloadsFrom j ++ if i = j then new else [])
    (hi : Process env i (shippers i) (steps ++ [s]) h (w.payloadsFrom i ++ new)) (j : ι) :
    Process env j (shippers j) (steps ++ [s]) ((w'.setShipper i h).shippers j)
      ((w'.setShipper i h).payloadsFrom j) := by
  change Process env j (shippers j) (steps ++ [s]) (if j = i then h else w'.shippers j)
    (w'.payloadsFrom j)
  rw [harrived j, hshippers]
  by_cases hj : j = i
  · subst hj
    rw [if_pos rfl, if_pos rfl]
    exact hi
  · rw [if_neg hj, if_neg (Ne.symm hj), List.append_nil]
    exact (hs.process j).idle s

theorem Sound.turn (hs : Sound env shippers maxEntries steps w) (i : ι) (now : Int)
    (transport : Transport) :
    Sound env shippers maxEntries (steps ++ [.turn i now transport])
      (w.step env (.turn i now transport)) := by
  have hi := hs.process i
  change Sound env shippers maxEntries _ (((w.exchange env i now transport).1).setShipper i
    ((w.shippers i).turn env.depth (w.exchange env i now transport).2))
  rcases Pipeline.exchange_cases env now transport hi.inOrder with hexchange |
    ⟨payload, hthread, hposted, hadmits, hexchange⟩
  · rw [hexchange]
    refine ⟨process_setShipper hs [] rfl (fun j => by simp) ?_, hs.cache.idle _⟩
    refine hi.turn _ (List.nil_sublist _) (fun _ => rfl) fun hadmits hkept => ?_
    -- what could have been posted would have arrived
    cases hthread : (w.shippers i).thread with
    | posting payload =>
      rw [HttpLogIngest.current_posting hthread]
      by_cases hposted : Posted env.depth (w.shippers i) payload = true
      · have harrives := Pipeline.exchange_arrives now hi.inOrder hthread hposted hadmits hkept
        have hlength := congrArg (fun w => w.arrived.length) (hexchange.symm.trans harrives)
        simp [Pipeline.arrive] at hlength
      · rw [List.filter_cons_of_neg hposted]
        rfl
    | looping => rw [HttpLogIngest.current_looping hthread]; rfl
    | returned => simp [HttpLogIngest.current, hthread]
    | died => simp [HttpLogIngest.current, hthread]
  · rw [hexchange]
    have hcurrent := HttpLogIngest.current_posting hthread
    refine ⟨process_setShipper hs [payload] rfl (fun j => w.payloadsFrom_arrive now j i payload _)
      ?_, ?_⟩
    · refine hi.turn _ ?_ (fun hno => absurd hadmits hno) fun _ _ => ?_
      · rw [hcurrent]
      · rw [hcurrent, List.filter_cons_of_pos hposted]
        rfl
    · exact (hs.cache.idle _).add now _ _ fun j payload' heq => by cases heq; rfl

/-- **One step.** -/
theorem Sound.step (hs : Sound env shippers maxEntries steps w) (s : PipelineStep ι) :
    Sound env shippers maxEntries (steps ++ [s]) (w.step env s) := by
  cases s with
  | emit i now record =>
    exact ⟨process_setShipper hs [] rfl (fun j => by simp)
      (by simpa using (hs.process i).emit now record), hs.cache.idle _⟩
  | turn i now transport => exact hs.turn i now transport
  | close i =>
    exact ⟨process_setShipper hs [] rfl (fun j => by simp) (by simpa using (hs.process i).close),
      hs.cache.idle _⟩
  | other now entry =>
    change Sound env shippers maxEntries _ (w.setDashboard none (w.dashboard.add now entry).1)
    rw [Pipeline.setDashboard_add]
    refine ⟨fun j => ?_, (hs.cache.idle _).add now none entry fun i payload heq => by cases heq⟩
    rw [Pipeline.payloadsFrom_other]
    exact (hs.process j).idle _
  | flush pending =>
    have hcache := hs.cache.idle (.flush pending)
    exact ⟨fun j => (hs.process j).idle _, hcache.size, hcache.ring, hcache.unchanged⟩
  | clear => exact ⟨fun j => (hs.process j).idle _, hs.cache.clear⟩

theorem Sound.run (hs : Sound env shippers maxEntries steps w) (more : List (PipelineStep ι)) :
    Sound env shippers maxEntries (steps ++ more) (w.run env more) := by
  induction more generalizing steps w with
  | nil => rwa [List.append_nil]
  | cons s more ih =>
    have hrest := ih (hs.step s)
    rwa [List.append_assoc, List.singleton_append] at hrest

end Run

end PeHackathon.LogPipeline
