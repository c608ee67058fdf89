import Mathlib.Data.Fintype.Basic
import PeHackathon.Lib.Linearize
import PeHackathon.Lib.Record
import PeHackathon.UrlShortener.IpBan

/-!
# Violations of one IP at the same time

Any number of `record_violation` calls for one IP against one Redis, no command of which raises,
while time passes. `violations_linearizable`: they are answered, and leave the keys, as in some
order one after the other, as long as every call finds, at its first write, the keys as it has read
them. `violations_not_linearizable`: two calls that read the keys before either writes.
-/

namespace PeHackathon.UrlShortener

open Lib

/-! ## Runs -/

/-- Redis when no command raises. The choice of a step is how many milliseconds pass before the
command. -/
def calmServer (ι : Type) : Server BanAnswer ι Nat BanWorld where
  respond i millis w q := (banServer ι).respond i .answers (w.elapse millis) q
  yields _ := true

abbrev ViolationPool (ι : Type) := Pool BanAnswer ι BanWorld ViolationResult

/-- Any number of calls for one IP, none of which has begun. -/
def violations {ι : Type} (ip : String) (w : BanWorld) : ViolationPool ι :=
  .init (fun _ => recordViolation .on ip) w

/-- Time passes. -/
def Later (w w' : BanWorld) : Prop := ∃ millis, w' = w.elapse millis

/-- The actions returned, and the keys once nobody is in flight, are those of some order of the
calls. -/
def ViolationsLinearizable {ι : Type} [DecidableEq ι] (ip : String) (w₀ : BanWorld)
    (p : ViolationPool ι) : Prop :=
  Linearizable (calmServer ι) Later ViolationResult.action (violations ip w₀) p

/-! ## The condition on a step -/

/-- Whether a command is the first write of a violation: it sets a ban, or stores the first
strike. -/
def BanCall.firstWrite : BanCall → Bool
  | .set _ _ => true
  | .setex (.banned _) _ _ => true
  | .setex (.strikes _) _ info => info.strikes == some 1
  | _ => false

/-- Whether it is a write that comes after the first. -/
def BanCall.laterWrite : BanCall → Bool
  | .delete _ => true
  | .setex (.strikes _) _ info => info.strikes != some 1
  | _ => false

variable {ι : Type} [DecidableEq ι]

/-- The strike data that call `i` has read last. -/
def readStrikes (l : List (Made BanAnswer ι)) (i : ι) : Option (Option StrikeInfo) :=
  l.findSome? fun m =>
    if m.caller = i then
      match m with
      | ⟨_, .get (.strikes _), .ok data⟩ => some data
      | _ => none
    else none

/-- What a run asks of a command of `i` that comes after a while: a first write finds no ban, and
the strike data that `i` has read, and no call is between its writes for so long that its ban is
over. -/
def Undisturbed (ip : String) (l : List (Made BanAnswer ι)) (p : ViolationPool ι) (i : ι)
    (millis : Nat) : Prop :=
  ((p.procs i).next?.any (·.firstWrite) = true → ¬ (p.world.elapse millis).Banned ip ∧
    readStrikes l i = some ((p.world.elapse millis).get (.strikes ip))) ∧
  ∀ j, (p.procs j).next?.any (·.laterWrite) = true → (p.world.elapse millis).Banned ip

instance [Fintype ι] (ip : String) (l : List (Made BanAnswer ι)) (p : ViolationPool ι) (i : ι)
    (millis : Nat) : Decidable (Undisturbed ip l p i millis) :=
  inferInstanceAs (Decidable (_ ∧ _))

/-! ## The writes of a strike -/

section Writes

variable (ip : String) (info : StrikeInfo)

/-- The first write is one, and the others come after it. -/
theorem strikeWrites_shape : ∃ q rest, strikeWrites ip info = q :: rest ∧ q.firstWrite = true ∧
    ∀ q' ∈ rest, q'.laterWrite = true := by
  unfold strikeWrites
  dsimp only
  split
  · rename_i h
    exact ⟨_, _, rfl, by simp [BanCall.firstWrite, h], nofun⟩
  · rename_i h
    have hne : ((some (info.strikes.getD 0 + 1) : Option Nat) != some 1) = true := by simpa using h
    split
    · refine ⟨_, _, rfl, rfl, fun q' hq' => ?_⟩
      simp only [List.mem_cons, List.not_mem_nil, or_false] at hq'
      obtain rfl | rfl := hq'
      · rfl
      · exact hne
    · refine ⟨_, _, rfl, rfl, fun q' hq' => ?_⟩
      simp only [List.mem_cons, List.not_mem_nil, or_false] at hq'
      obtain rfl | rfl := hq'
      · exact hne
      · rfl

/-- The last write stores the strike data. -/
theorem strikeWrites_last :
    ∃ seconds v, (strikeWrites ip info).getLast? = some (.setex (.strikes ip) seconds v) := by
  unfold strikeWrites
  dsimp only
  split
  · exact ⟨_, _, rfl⟩
  · split <;> exact ⟨_, _, rfl⟩

/-- Several writes ban the IP. -/
theorem banned_apply (w : BanWorld) {q q' : BanCall} {rest : List BanCall}
    (h : strikeWrites ip info = q :: q' :: rest) : (w.apply (strikeWrites ip info)).Banned ip := by
  have hban := banned_apply_take ip info w (by rw [h]; simp) (strikeWrites ip info).length
  rwa [List.take_of_length_le (Nat.le_succ _)] at hban

end Writes

/-! ## Runs of one call -/

section Alone

variable {i : ι} {ip : String} {w w' : BanWorld} {a : ViolationResult}

omit [DecidableEq ι] in
theorem runs_attempt {failed : ViolationResult} {q : BanCall}
    {k : BanReply q → BanProg ViolationResult}
    (h : (calmServer ι).Runs i (k (banServe w q).1) (banServe w q).2 a w') :
    (calmServer ι).Runs i (attempt failed q k) w a w' := by
  have hr : (calmServer ι).respond i 0 w q = some (.ok (banServe w q).1, (banServe w q).2) := rfl
  exact .call hr h

omit [DecidableEq ι] in
/-- A call may come later. -/
theorem runs_elapse {q : BanCall} {k : BanAnswer q → BanProg ViolationResult} {millis : Nat}
    (h : (calmServer ι).Runs i (.call q k) (w.elapse millis) a w') :
    (calmServer ι).Runs i (.call q k) w a w' := by
  obtain ⟨c, r, w₁, hr, hk⟩ := ((calmServer ι).runs_call i).1 h
  have hr' : (calmServer ι).respond i (millis + c) w q = some (r, w₁) := by
    rw [← hr]
    simp only [calmServer, BanWorld.elapse, Nat.add_assoc]
  exact .call hr' hk

omit [DecidableEq ι] in
/-- A run in which no time passes. -/
theorem runs_of_eval {p : BanProg ViolationResult}
    (h : (banServer ι).eval i .answers p w = some (a, w')) : (calmServer ι).Runs i p w a w' := by
  induction p generalizing w with
  | ret b =>
    cases h
    exact .ret _ _
  | call q k ih =>
    rw [Server.eval_call, Option.bind_eq_some_iff] at h
    obtain ⟨⟨r, w₁⟩, hr, hk⟩ := h
    have hr' : (calmServer ι).respond i 0 w q = some (r, w₁) := hr
    exact .call hr' (ih r hk)

omit [DecidableEq ι] in
/-- A run takes time, or is one in which no time passes. -/
theorem eval_of_runs {p : BanProg ViolationResult} (h : (calmServer ι).Runs i p w a w') :
    w.now ≤ w'.now ∧ (w'.now = w.now → (banServer ι).eval i .answers p w = some (a, w')) := by
  induction h with
  | ret a w => exact ⟨le_refl _, fun _ => rfl⟩
  | @call q k c w w₁ w' r a hr hk ih =>
    cases hr
    have hnow : (banServe (w.elapse c) q).2.now = w.now + c := by cases q <;> rfl
    rw [hnow] at ih
    refine ⟨by omega, fun heq => ?_⟩
    obtain rfl : c = 0 := by omega
    exact ih.2 (by omega)

omit [DecidableEq ι] in
/-- A call for an IP that is banned answers so, and changes nothing. -/
theorem runs_banned (h : w.Banned ip) :
    (w.violate ip).1.action = .alreadyBanned ∧
      (calmServer ι).Runs i (recordViolation .on ip) w (w.violate ip).1 w := by
  have hviolate : (w.violate ip).1.action = .alreadyBanned ∧ (w.violate ip).2 = w := by
    unfold BanWorld.violate
    by_cases hperm : (w.get (.permanent ip)).isSome
    · rw [if_pos hperm]
      exact ⟨rfl, rfl⟩
    · rw [if_neg hperm, if_pos (h.resolve_left hperm)]
      exact ⟨rfl, rfl⟩
  refine ⟨hviolate.1, runs_of_eval ?_⟩
  rw [eval_recordViolation, Option.some.injEq]
  exact Prod.ext rfl hviolate.2

omit [DecidableEq ι] in
/-- A call for one that is not may write all at once. -/
theorem runs_violate (h : ¬ w.Banned ip) :
    (calmServer ι).Runs i (recordViolation .on ip) w
      (strikeResult ((w.get (.strikes ip)).getD .fresh))
      (w.apply (strikeWrites ip ((w.get (.strikes ip)).getD .fresh))) := by
  obtain ⟨hperm, hban⟩ := not_or.1 h
  refine runs_of_eval ?_
  rw [eval_recordViolation, BanWorld.violate, if_neg hperm, if_neg hban]

omit [DecidableEq ι] in
/-- A call for one that is not records a strike. -/
theorem runs_strike (h : ¬ w.Banned ip)
    (hr : (calmServer ι).Runs i (recordStrike ip ((w.get (.strikes ip)).getD .fresh)) w a w') :
    (calmServer ι).Runs i (recordViolation .on ip) w a w' := by
  obtain ⟨hperm, hban⟩ := not_or.1 h
  change (calmServer ι).Runs i (checkPermanentBan ip) w a w'
  refine runs_attempt ?_
  change (calmServer ι).Runs i (if (w.get (.permanent ip)).isSome then _ else checkTimedBan ip)
    w a w'
  rw [if_neg hperm]
  refine runs_attempt ?_
  change (calmServer ι).Runs i (if w.ttl (.banned ip) > 0 then _ else loadStrikes ip) w a w'
  rw [if_neg hban]
  exact runs_attempt hr

end Alone

/-! ## The stages of a call -/

/-- How far a call has come. -/
inductive ViolationStage
  | permanent
  | timed
  | load
  | strike (info : StrikeInfo)
  | between (info : StrikeInfo) (q : BanCall) (rest : List BanCall)
  | finished (result : ViolationResult)

namespace ViolationStage

/-- What is left of the call. -/
def prog (ip : String) : ViolationStage → BanProg ViolationResult
  | permanent => checkPermanentBan ip
  | timed => checkTimedBan ip
  | load => loadStrikes ip
  | strike info => recordStrike ip info
  | between info q rest => writeAll (strikeResult info) (q :: rest)
  | finished result => .ret result

/-- What a record says of call `i` at a stage. -/
def Sound (ip : String) (l : List (Made BanAnswer ι)) (i : ι) : ViolationStage → Prop
  | strike info => ∃ data, readStrikes l i = some data ∧ info = data.getD .fresh
  | between info q rest => ∃ done, done ≠ [] ∧ strikeWrites ip info = done ++ q :: rest
  | _ => True

def Writing (s : ViolationStage) : Prop := ∃ info q rest, s = .between info q rest

/-- What a command does to the call that makes it, when it is answered in world `w`. -/
inductive Step (ip : String) (w : BanWorld) : ViolationStage → ViolationStage → BanWorld → Prop
  | expelled (h : (w.get (.permanent ip)).isSome) :
      Step ip w .permanent (.finished (.alreadyBanned none)) w
  | notExpelled : Step ip w .permanent .timed w
  | banned (h : 0 < w.ttl (.banned ip)) :
      Step ip w .timed (.finished (.alreadyBanned (some (w.ttl (.banned ip))))) w
  | notBanned : Step ip w .timed .load w
  | loaded (info : StrikeInfo) : Step ip w .load (.strike info) w
  | single {info : StrikeInfo} {q : BanCall} (h : strikeWrites ip info = [q]) :
      Step ip w (.strike info) (.finished (strikeResult info)) (banServe w q).2
  | first {info : StrikeInfo} {q q' : BanCall} {rest : List BanCall}
      (h : strikeWrites ip info = q :: q' :: rest) :
      Step ip w (.strike info) (.between info q' rest) (banServe w q).2
  | later {info : StrikeInfo} {q q' : BanCall} {rest : List BanCall} :
      Step ip w (.between info q (q' :: rest)) (.between info q' rest) (banServe w q).2
  | last {info : StrikeInfo} {q : BanCall} :
      Step ip w (.between info q []) (.finished (strikeResult info)) (banServe w q).2

variable {ip : String} {l : List (Made BanAnswer ι)} {i j : ι} {w w' : BanWorld} {millis : Nat}
  {s : ViolationStage} {q : BanCall} {k : BanAnswer q → BanProg ViolationResult} {r : BanAnswer q}

/-- What the others do, says nothing new of a call. -/
theorem Sound.of_ne {m : Made BanAnswer ι} (hm : m.caller ≠ i) (h : s.Sound ip l i) :
    s.Sound ip (m :: l) i := by
  cases s with
  | strike info =>
    obtain ⟨data, hdata, hinfo⟩ := h
    refine ⟨data, ?_, hinfo⟩
    rw [readStrikes, List.findSome?_cons, if_neg hm]
    exact hdata
  | _ => exact h

/-- Everything a step can do. -/
theorem step (h : s.Sound ip l i) (hprog : s.prog ip = .call q k)
    (hr : (calmServer ι).respond i millis w q = some (r, w')) :
    ∃ s', k r = s'.prog ip ∧ s'.Sound ip (⟨i, q, r⟩ :: l) i ∧
      Step ip (w.elapse millis) s s' w' := by
  cases s with
  | permanent =>
    cases hprog
    cases hr
    cases hperm : ((w.elapse millis).get (.permanent ip)).isSome with
    | true =>
      refine ⟨.finished (.alreadyBanned none), ?_, trivial, .expelled hperm⟩
      change (if ((w.elapse millis).get (.permanent ip)).isSome then _ else _) = _
      rw [hperm]
      rfl
    | false =>
      refine ⟨.timed, ?_, trivial, .notExpelled⟩
      change (if ((w.elapse millis).get (.permanent ip)).isSome then _ else checkTimedBan ip) = _
      rw [hperm]
      rfl
  | timed =>
    cases hprog
    cases hr
    by_cases hban : 0 < (w.elapse millis).ttl (.banned ip)
    · refine ⟨.finished (.alreadyBanned (some ((w.elapse millis).ttl (.banned ip)))), ?_, trivial,
        .banned hban⟩
      exact if_pos hban
    · exact ⟨.load, if_neg hban, trivial, .notBanned⟩
  | load =>
    cases hprog
    cases hr
    refine ⟨.strike _, rfl, ⟨(w.elapse millis).get (.strikes ip), ?_, rfl⟩, .loaded _⟩
    rw [readStrikes, List.findSome?_cons, if_pos rfl]
    rfl
  | strike info =>
    rw [prog, recordStrike_eq] at hprog
    obtain ⟨q₁, rest, hwrites, -⟩ := strikeWrites_shape ip info
    rw [hwrites] at hprog
    cases hprog
    cases hr
    cases rest with
    | nil => exact ⟨.finished (strikeResult info), rfl, trivial, .single hwrites⟩
    | cons q' rest => exact ⟨.between info q' rest, rfl, ⟨[q], nofun, hwrites⟩, .first hwrites⟩
  | between info q₁ rest =>
    cases hprog
    cases hr
    cases rest with
    | nil => exact ⟨.finished (strikeResult info), rfl, trivial, .last⟩
    | cons q' rest =>
      obtain ⟨done, -, hwrites⟩ := h
      refine ⟨.between info q' rest, rfl, ⟨done ++ [q], by simp, ?_⟩, .later⟩
      rw [hwrites, List.append_assoc]
      rfl
  | finished result => cases hprog

/-- A strike has something to write. -/
theorem strike_ne_ret (ip : String) (info : StrikeInfo) (a : ViolationResult) :
    (strike info).prog ip ≠ .ret a := by
  obtain ⟨q, rest, hwrites, -⟩ := strikeWrites_shape ip info
  rw [prog, recordStrike_eq, hwrites]
  nofun

/-- The first write of a call. -/
theorem next?_strike (ip : String) (info : StrikeInfo) :
    ((strike info).prog ip).next?.any (·.firstWrite) = true := by
  obtain ⟨q, rest, hwrites, hq, -⟩ := strikeWrites_shape ip info
  rw [prog, recordStrike_eq, hwrites]
  exact hq

/-- A write after it. -/
theorem Sound.next?_between {info : StrikeInfo} {q : BanCall} {rest : List BanCall}
    (h : (between info q rest).Sound ip l i) :
    ((between info q rest).prog ip).next?.any (·.laterWrite) = true := by
  obtain ⟨done, hdone, hwrites⟩ := h
  obtain ⟨q₁, rest₁, hshape, -, hlater⟩ := strikeWrites_shape ip info
  obtain ⟨q₂, done, rfl⟩ := List.exists_cons_of_ne_nil hdone
  rw [hwrites, List.cons_append] at hshape
  cases hshape
  exact hlater q (by simp)

/-- The last write of a call does not lift the ban. -/
theorem Sound.banned_last {info : StrikeInfo} {q : BanCall} (h : (between info q []).Sound ip l i)
    (hban : w.Banned ip) : (banServe w q).2.Banned ip := by
  obtain ⟨done, hdone, hwrites⟩ := h
  obtain ⟨n, v, hlast⟩ := strikeWrites_last ip info
  rw [hwrites, List.getLast?_concat] at hlast
  cases hlast
  exact banned_setex_strikes.2 hban

end ViolationStage

/-! ## The calls that have returned -/

/-- The calls that have returned are those of `l`, each with the action listed, and those of `late`,
which found a ban. -/
structure Listed (procs : ι → BanProg ViolationResult) (l : List (ι × ViolationResult))
    (late : List ι) : Prop where
  done : ∀ x ∈ l, ∃ a, procs x.1 = .ret a
  late_banned : ∀ i ∈ late, ∃ a, procs i = .ret a ∧ a.action = .alreadyBanned
  nodup : (l.map Prod.fst ++ late).Nodup
  covered : ∀ i a, procs i = .ret a → (∃ b, (i, b) ∈ l ∧ b.action = a.action) ∨ i ∈ late

namespace Listed

variable {procs : ι → BanProg ViolationResult} {l : List (ι × ViolationResult)} {late : List ι}
  {i : ι} {prog : BanProg ViolationResult} {a b : ViolationResult}

omit [DecidableEq ι] in
theorem not_mem (h : Listed procs l late) (hi : ∀ a, procs i ≠ .ret a) :
    i ∉ l.map Prod.fst ++ late := by
  intro hmem
  rcases List.mem_append.1 hmem with hl | hlate
  · obtain ⟨x, hx, rfl⟩ := List.mem_map.1 hl
    obtain ⟨a, ha⟩ := h.done x hx
    exact hi a ha
  · obtain ⟨a, ha, -⟩ := h.late_banned i hlate
    exact hi a ha

/-- Those that have returned do not change. -/
theorem ret_update (hi : ∀ a, procs i ≠ .ret a) {j : ι} (hj : procs j = .ret a) :
    Function.update procs i prog j = .ret a := by
  have hne : j ≠ i := by
    rintro rfl
    exact hi a hj
  rw [Function.update_of_ne hne, hj]

/-- A call goes on. -/
theorem move (h : Listed procs l late) (hi : ∀ a, procs i ≠ .ret a) (hprog : ∀ a, prog ≠ .ret a) :
    Listed (Function.update procs i prog) l late where
  done x hx := (h.done x hx).imp fun _ => ret_update hi
  late_banned j hj := (h.late_banned j hj).imp fun _ ha => ⟨ret_update hi ha.1, ha.2⟩
  nodup := h.nodup
  covered j a hj := by
    by_cases hji : j = i
    · subst hji
      rw [Function.update_self] at hj
      exact absurd hj (hprog a)
    · rw [Function.update_of_ne hji] at hj
      exact h.covered j a hj

/-- A call returns. -/
theorem snoc (h : Listed procs l late) (hi : ∀ a, procs i ≠ .ret a) (hb : b.action = a.action) :
    Listed (Function.update procs i (.ret a)) (l ++ [(i, b)]) late where
  done x hx := by
    rcases List.mem_append.1 hx with hx | hx
    · exact (h.done x hx).imp fun _ => ret_update hi
    · rw [List.mem_singleton] at hx
      subst hx
      exact ⟨a, Function.update_self ..⟩
  late_banned j hj := (h.late_banned j hj).imp fun _ ha => ⟨ret_update hi ha.1, ha.2⟩
  nodup := by
    have hcons := List.nodup_cons.2 ⟨h.not_mem hi, h.nodup⟩
    rw [List.map_append, List.append_assoc]
    exact List.nodup_middle.2 hcons
  covered j c hj := by
    by_cases hji : j = i
    · subst hji
      rw [Function.update_self, Prog.ret.injEq] at hj
      subst hj
      exact .inl ⟨b, List.mem_append_right _ List.mem_cons_self, hb⟩
    · rw [Function.update_of_ne hji] at hj
      rcases h.covered j c hj with ⟨b', hmem, hb'⟩ | hlate
      · exact .inl ⟨b', List.mem_append_left _ hmem, hb'⟩
      · exact .inr hlate

/-- A call returns that has found a ban. -/
theorem found (h : Listed procs l late) (hi : ∀ a, procs i ≠ .ret a)
    (ha : a.action = .alreadyBanned) :
    Listed (Function.update procs i (.ret a)) l (i :: late) where
  done x hx := (h.done x hx).imp fun _ => ret_update hi
  late_banned j hj := by
    rcases List.mem_cons.1 hj with rfl | hj
    · exact ⟨a, Function.update_self .., ha⟩
    · exact (h.late_banned j hj).imp fun _ ha => ⟨ret_update hi ha.1, ha.2⟩
  nodup := List.nodup_middle.2 (List.nodup_cons.2 ⟨h.not_mem hi, h.nodup⟩)
  covered j c hj := by
    by_cases hji : j = i
    · subst hji
      exact .inr List.mem_cons_self
    · rw [Function.update_of_ne hji] at hj
      exact (h.covered j c hj).imp_right (List.mem_cons_of_mem _)

omit [DecidableEq ι] in
/-- Those that have found a ban are put at the end. -/
theorem settle (h : Listed procs l late) (hb : b.action = .alreadyBanned) :
    Listed procs (l ++ late.map fun j => (j, b)) [] where
  done x hx := by
    rcases List.mem_append.1 hx with hx | hx
    · exact h.done x hx
    · obtain ⟨j, hj, rfl⟩ := List.mem_map.1 hx
      exact (h.late_banned j hj).imp fun _ ha => ha.1
  late_banned j hj := absurd hj List.not_mem_nil
  nodup := by simpa [Function.comp_def] using h.nodup
  covered j a hj := by
    rcases h.covered j a hj with ⟨b', hmem, hb'⟩ | hlate
    · exact .inl ⟨b', List.mem_append_left _ hmem, hb'⟩
    · obtain ⟨a', ha', hbanned⟩ := h.late_banned j hlate
      rw [hj, Prog.ret.injEq] at ha'
      subst ha'
      exact .inl ⟨b, List.mem_append_right _ (List.mem_map.2 ⟨j, hlate, rfl⟩),
        hb.trans hbanned.symm⟩

end Listed

/-! ## The invariant -/

/-- What the calls of a pool have done so far, explained by a sequence. Only one call at a time is
between its writes. The calls that find its ban meanwhile come after it in the sequence. -/
inductive Explained (ip : String) (w₀ : BanWorld) (stages : ι → ViolationStage)
    (p : ViolationPool ι) : Prop
  | quiet (l : List (ι × ViolationResult)) (listed : Listed p.procs l [])
      (seq : Sequential (calmServer ι) Later (fun _ => recordViolation .on ip) w₀ l p.world)
      (free : ∀ i, ¬ (stages i).Writing)
  | writing (l : List (ι × ViolationResult)) (late : List ι) (w : BanWorld) (j : ι)
      (listed : Listed p.procs l late)
      (seq : Sequential (calmServer ι) Later (fun _ => recordViolation .on ip) w₀ l w)
      (writer : (stages j).Writing) (free : ∀ i, i ≠ j → ¬ (stages i).Writing)
      (resumes : ∀ a w', (calmServer ι).Runs j (p.procs j) p.world a w' →
        (calmServer ι).Runs j (recordViolation .on ip) w a w')
      (bans : ∃ a w', (calmServer ι).Runs j (recordViolation .on ip) w a w' ∧ w'.Banned ip)

/-- Every call is at a stage, and what they have done is explained. -/
structure ViolationInv (ip : String) (w₀ : BanWorld) (l : List (Made BanAnswer ι))
    (stages : ι → ViolationStage) (p : ViolationPool ι) : Prop where
  progs : ∀ i, p.procs i = (stages i).prog ip
  sound : ∀ i, (stages i).Sound ip l i
  explained : Explained ip w₀ stages p

section Step

variable {ip : String} {w₀ w w' : BanWorld} {l : List (Made BanAnswer ι)}
  {stages : ι → ViolationStage} {p p' : ViolationPool ι} {i j : ι} {s s' : ViolationStage}
  {millis : Nat} {q : BanCall} {k : BanAnswer q → BanProg ViolationResult} {r : BanAnswer q}

theorem writing_update (hs : ¬ s.Writing) (hfree : j ≠ i → ¬ (stages j).Writing) :
    ¬ (Function.update stages i s j).Writing := by
  by_cases hj : j = i
  · subst hj
    rwa [Function.update_self]
  · rw [Function.update_of_ne hj]
    exact hfree hj

/-- The first write of a call finds the IP without a ban, and the strike data the call has
loaded. -/
theorem Undisturbed.strike {info : StrikeInfo} (hP : Undisturbed ip l p i millis)
    (hprog : p.procs i = (ViolationStage.strike info).prog ip)
    (hsound : (ViolationStage.strike info).Sound ip l i) :
    ¬ (p.world.elapse millis).Banned ip ∧
      info = ((p.world.elapse millis).get (.strikes ip)).getD .fresh := by
  obtain ⟨hban, hread⟩ := hP.1 (by rw [hprog]; exact ViolationStage.next?_strike ip info)
  obtain ⟨data, hdata, rfl⟩ := hsound
  rw [hdata] at hread
  cases hread
  exact ⟨hban, rfl⟩

/-- A first write starts a run of the call alone. -/
theorem Undisturbed.resumes {info : StrikeInfo} (hP : Undisturbed ip l p i millis)
    (hprog : p.procs i = (ViolationStage.strike info).prog ip)
    (hsound : (ViolationStage.strike info).Sound ip l i) (hi : p.procs i = .call q k)
    (hr : (calmServer ι).respond i millis p.world q = some (r, w')) {a : ViolationResult}
    (hk : (calmServer ι).Runs i (k r) w' a w) :
    (calmServer ι).Runs i (recordViolation .on ip) (p.world.elapse millis) a w := by
  obtain ⟨hban, hinfo⟩ := hP.strike hprog hsound
  have hr' : (calmServer ι).respond i 0 (p.world.elapse millis) q = some (r, w') := hr
  refine runs_strike hban ?_
  change (calmServer ι).Runs i ((ViolationStage.strike _).prog ip) _ a w
  rw [← hinfo, ← hprog, hi]
  exact .call hr' hk

/-- A step while no call is between its writes. -/
theorem explained_quiet {ls : List (ι × ViolationResult)} (listed : Listed p.procs ls [])
    (seq : Sequential (calmServer ι) Later (fun _ => recordViolation .on ip) w₀ ls p.world)
    (free : ∀ i, ¬ (stages i).Writing) (hP : Undisturbed ip l p i millis)
    (hs : stages i = s) (hprog : p.procs i = s.prog ip) (hsound : s.Sound ip l i)
    (hi : p.procs i = .call q k)
    (hr : (calmServer ι).respond i millis p.world q = some (r, w')) (hk : k r = s'.prog ip)
    (hstep : s.Step ip (p.world.elapse millis) s' w')
    (hp : p'.procs = Function.update p.procs i (k r)) (hw : p'.world = w') :
    Explained ip w₀ (Function.update stages i s') p' := by
  have hret : ∀ a, p.procs i ≠ .ret a := fun a ha => by rw [hi] at ha; cases ha
  have hwait := seq.wait ⟨millis, rfl⟩
  have hmem : i ∉ ls.map Prod.fst := by simpa using listed.not_mem hret
  have hfree : ¬ s'.Writing → ∀ j, ¬ (Function.update stages i s' j).Writing :=
    fun hs' j => writing_update hs' fun _ => free j
  -- a call that finds a ban comes last in the sequence
  have hfound : ∀ a : ViolationResult, s' = .finished a → a.action = .alreadyBanned →
      w' = p.world.elapse millis → (p.world.elapse millis).Banned ip →
      Explained ip w₀ (Function.update stages i s') p' := by
    rintro a rfl ha rfl hban
    obtain ⟨haction, hruns⟩ := runs_banned (i := i) hban
    refine .quiet (ls ++ [(i, ((p.world.elapse millis).violate ip).1)]) ?_ ?_ (hfree ?_)
    · rw [hp, hk]
      exact listed.snoc hret (haction.trans ha.symm)
    · rw [hw]
      exact hwait.snoc hmem hruns
    · rintro ⟨_, _, _, h⟩
      cases h
  -- a call that goes on to its next read
  have hread : w' = p.world.elapse millis → (∀ a, s'.prog ip ≠ .ret a) → ¬ s'.Writing →
      Explained ip w₀ (Function.update stages i s') p' := by
    rintro rfl hne hs'
    refine .quiet ls ?_ ?_ (hfree hs')
    · rw [hp, hk]
      exact listed.move hret hne
    · rw [hw]
      exact hwait
  cases hstep with
  | expelled h => exact hfound _ rfl rfl rfl (.inl h)
  | banned h => exact hfound _ rfl rfl rfl (.inr h)
  | notExpelled => exact hread rfl nofun (by rintro ⟨_, _, _, h⟩; cases h)
  | notBanned => exact hread rfl nofun (by rintro ⟨_, _, _, h⟩; cases h)
  | loaded info =>
    exact hread rfl (ViolationStage.strike_ne_ret ip info) (by rintro ⟨_, _, _, h⟩; cases h)
  | single h =>
    rename_i info q₁
    refine .quiet (ls ++ [(i, strikeResult info)]) ?_ (hw ▸ hwait.snoc hmem ?_) (hfree ?_)
    · rw [hp, hk]
      exact listed.snoc hret rfl
    · refine hP.resumes hprog hsound hi hr ?_
      rw [hk]
      exact .ret _ _
    · rintro ⟨_, _, _, h⟩
      cases h
  | first h =>
    rename_i info q₁ q₂ rest
    refine .writing ls [] (p.world.elapse millis) i ?_ hwait ?_ ?_ (fun a w'' hrest => ?_) ?_
    · rw [hp, hk]
      exact listed.move hret nofun
    · rw [Function.update_self]
      exact ⟨info, q₂, rest, rfl⟩
    · intro j hj
      rw [Function.update_of_ne hj]
      exact free j
    · rw [hp, Function.update_self, hw] at hrest
      exact hP.resumes hprog hsound hi hr hrest
    · obtain ⟨hban, rfl⟩ := hP.strike hprog hsound
      exact ⟨_, _, runs_violate hban, banned_apply ip _ _ h⟩
  | later => exact absurd ⟨_, _, _, hs⟩ (free i)
  | last => exact absurd ⟨_, _, _, hs⟩ (free i)

/-- A step while call `j` is between its writes. -/
theorem explained_writing {ls : List (ι × ViolationResult)} {late : List ι}
    (hj : (stages j).Writing) (listed : Listed p.procs ls late)
    (seq : Sequential (calmServer ι) Later (fun _ => recordViolation .on ip) w₀ ls w)
    (free : ∀ i, i ≠ j → ¬ (stages i).Writing)
    (resumes : ∀ a w', (calmServer ι).Runs j (p.procs j) p.world a w' →
      (calmServer ι).Runs j (recordViolation .on ip) w a w')
    (bans : ∃ a w', (calmServer ι).Runs j (recordViolation .on ip) w a w' ∧ w'.Banned ip)
    (hP : Undisturbed ip l p i millis) (hprogs : ∀ i, p.procs i = (stages i).prog ip)
    (hsounds : ∀ i, (stages i).Sound ip l i) (hi : p.procs i = .call q k)
    (hr : (calmServer ι).respond i millis p.world q = some (r, w')) (hk : k r = s'.prog ip)
    (hstep : (stages i).Step ip (p.world.elapse millis) s' w')
    (hp : p'.procs = Function.update p.procs i (k r)) (hw : p'.world = w') :
    Explained ip w₀ (Function.update stages i s') p' := by
  have hret : ∀ a, p.procs i ≠ .ret a := fun a ha => by rw [hi] at ha; cases ha
  obtain ⟨info, q₁, rest, hinfo⟩ := hj
  have hban : (p.world.elapse millis).Banned ip := by
    refine hP.2 j ?_
    have hsound := hsounds j
    rw [hprogs j, hinfo] at *
    exact hsound.next?_between
  by_cases hij : i = j
  · subst hij
    have hsound := hsounds i
    rw [hinfo] at hstep hsound
    cases hstep with
    | later =>
      rename_i q₂ rest
      refine .writing ls late w i ?_ seq ?_ (fun j hj => ?_) (fun a w'' hrest => ?_) bans
      · rw [hp, hk]
        exact listed.move hret nofun
      · rw [Function.update_self]
        exact ⟨info, q₂, rest, rfl⟩
      · rw [Function.update_of_ne hj]
        exact free j hj
      · rw [hp, Function.update_self, hw] at hrest
        refine resumes a w'' ?_
        rw [hi]
        exact .call hr hrest
    | last =>
      have hlisted : Listed p'.procs (ls ++ [(i, strikeResult info)]) late := by
        rw [hp, hk]
        exact listed.snoc hret rfl
      have hruns :
          (calmServer ι).Runs i (recordViolation .on ip) w (strikeResult info) p'.world := by
        refine resumes _ _ ?_
        rw [hi]
        refine .call hr ?_
        rw [hk, hw]
        exact .ret _ _
      have hban' : p'.world.Banned ip := hw ▸ hsound.banned_last hban
      have hmem : i ∉ ls.map Prod.fst := fun hmem =>
        listed.not_mem hret (List.mem_append_left _ hmem)
      refine .quiet _ (hlisted.settle (runs_banned (i := i) hban').1)
        ((seq.snoc hmem hruns).append_still hlisted.nodup fun j _ => (runs_banned hban').2)
        fun j => writing_update ?_ fun hj => free j hj
      rintro ⟨_, _, _, h⟩
      cases h
  · have hji : j ≠ i := fun h => hij h.symm
    -- the writer waits
    have hresumes :
        w' = p.world.elapse millis → ∀ a w'', (calmServer ι).Runs j (p'.procs j) p'.world
        a w'' → (calmServer ι).Runs j (recordViolation .on ip) w a w'' := by
      rintro rfl a w'' hrest
      rw [hp, Function.update_of_ne hji, hw, hprogs j, hinfo] at hrest
      refine resumes a w'' ?_
      rw [hprogs j, hinfo]
      exact runs_elapse hrest
    have hwriter : (Function.update stages i s' j).Writing := by
      rw [Function.update_of_ne hji]
      exact ⟨info, q₁, rest, hinfo⟩
    have hfound : ∀ a : ViolationResult, s' = .finished a → a.action = .alreadyBanned →
        w' = p.world.elapse millis → Explained ip w₀ (Function.update stages i s') p' := by
      rintro a rfl ha hw'
      refine .writing ls (i :: late) w j ?_ seq hwriter (fun j' hj' => writing_update ?_ fun _ =>
        free j' hj') (hresumes hw') bans
      · rw [hp, hk]
        exact listed.found hret ha
      · rintro ⟨_, _, _, h⟩
        cases h
    have hread : w' = p.world.elapse millis → (∀ a, s'.prog ip ≠ .ret a) → ¬ s'.Writing →
        Explained ip w₀ (Function.update stages i s') p' := by
      intro hw' hne hs'
      refine .writing ls late w j ?_ seq hwriter (fun j' hj' => writing_update hs' fun _ =>
        free j' hj') (hresumes hw') bans
      rw [hp, hk]
      exact listed.move hret hne
    generalize hs : stages i = s at hstep
    have hprog := hprogs i
    have hsound := hsounds i
    rw [hs] at hprog hsound
    cases hstep with
    | expelled h => exact hfound _ rfl rfl rfl
    | banned h => exact hfound _ rfl rfl rfl
    | notExpelled => exact hread rfl nofun (by rintro ⟨_, _, _, h⟩; cases h)
    | notBanned => exact hread rfl nofun (by rintro ⟨_, _, _, h⟩; cases h)
    | loaded info =>
      exact hread rfl (ViolationStage.strike_ne_ret ip info) (by rintro ⟨_, _, _, h⟩; cases h)
    | single h => exact absurd hban (hP.strike hprog hsound).1
    | first h => exact absurd hban (hP.strike hprog hsound).1
    | later => exact absurd ⟨_, _, _, hs⟩ (free i hij)
    | last => exact absurd ⟨_, _, _, hs⟩ (free i hij)

/-- **One step.** -/
theorem ViolationInv.next {m : Made BanAnswer ι} (h : ViolationInv ip w₀ l stages p)
    (hP : Undisturbed ip l p i millis) (hm : p.made? (calmServer ι) i millis = some m)
    (hn : p.next (calmServer ι) i millis = some p') :
    ∃ stages', ViolationInv ip w₀ (m :: l) stages' p' := by
  obtain ⟨q, k, r, w', hi, hr, rfl, rfl⟩ := Pool.made_cases hm hn
  obtain ⟨s', hk, hsound, hstep⟩ := ViolationStage.step (h.sound i) ((h.progs i).symm.trans hi) hr
  refine ⟨Function.update stages i s', fun j => ?_, fun j => ?_, ?_⟩
  · by_cases hj : j = i
    · subst hj
      simp only [Function.update_self]
      exact hk
    · simp only [Function.update_of_ne hj]
      exact h.progs j
  · by_cases hj : j = i
    · subst hj
      rw [Function.update_self]
      exact hsound
    · rw [Function.update_of_ne hj]
      exact (h.sound j).of_ne fun hij => hj hij.symm
  · cases h.explained with
    | quiet ls listed seq free =>
      exact explained_quiet listed seq free hP rfl (h.progs i) (h.sound i) hi hr hk hstep rfl rfl
    | writing ls late w j listed seq writer free resumes bans =>
      exact explained_writing writer listed seq free resumes bans hP h.progs h.sound hi hr hk
        hstep rfl rfl

end Step

/-! ## Runs of a pool -/

/-- **Violations of one IP are linearizable**, in every run whose commands are undisturbed. -/
theorem violations_linearizable {ip : String} {w₀ : BanWorld} {l : List (Made BanAnswer ι)}
    {p : ViolationPool ι}
    (h : Pool.Record (calmServer ι) (violations ip w₀) (Undisturbed ip) l p) :
    ViolationsLinearizable ip w₀ p := by
  have hbegun : ∀ i, p.begun i = false → p.procs i = recordViolation .on ip := by
    refine (h.inv (J := fun _ p => ∀ i, p.begun i = false → p.procs i = recordViolation .on ip)
      (fun _ _ => rfl) ?_)
    intro l p i c m p' hJ _ _ hn j hj
    have hne : j ≠ i := by
      rintro rfl
      rw [Pool.next_begun hn] at hj
      cases hj
    rw [Pool.next_procs_ne hn hne]
    exact hJ j (by rwa [Pool.next_begun_ne hn hne] at hj)
  obtain ⟨stages, hinv⟩ : ∃ stages, ViolationInv ip w₀ l stages p := by
    refine h.inv (J := fun l p => ∃ stages, ViolationInv ip w₀ l stages p) ?_ ?_
    · refine ⟨fun _ => .permanent, fun _ => rfl, fun _ => trivial, .quiet [] ?_ .nil ?_⟩
      · exact ⟨nofun, nofun, List.nodup_nil, nofun⟩
      · rintro i ⟨_, _, _, hs⟩
        cases hs
    · rintro l p i c m p' ⟨stages, hinv⟩ hP hm hn
      exact hinv.next hP hm hn
  have hreturned : ∀ i, (∃ a, p.procs i = .ret a) → p.begun i = true := by
    rintro i ⟨a, ha⟩
    refine Bool.of_not_eq_false fun hb => ?_
    rw [hbegun i hb] at ha
    cases ha
  cases hinv.explained with
  | quiet ls listed seq free =>
    refine ⟨ls, p.world, seq, fun x hx => hreturned _ (listed.done x hx), fun i a ha => ?_,
      fun _ => rfl⟩
    exact (listed.covered i a ha).resolve_right List.not_mem_nil
  | writing ls late w j listed seq writer free resumes bans =>
    -- the call that is between its writes makes them, and those that found its ban follow
    obtain ⟨a, w', hruns, hban⟩ := bans
    obtain ⟨info, q, rest, hj⟩ := writer
    have hret : ∀ a, p.procs j ≠ .ret a := by
      intro a ha
      rw [hinv.progs, hj] at ha
      cases ha
    have hjbegun : p.begun j = true := by
      refine Bool.of_not_eq_false fun hb => ?_
      have hsound := hinv.sound j
      rw [hj] at hsound
      have hnext := hsound.next?_between
      rw [← hj, ← hinv.progs, hbegun j hb] at hnext
      cases hnext
    have hlisted := listed.snoc (a := a) (b := a) hret rfl
    have hsettled := hlisted.settle (runs_banned (i := j) hban).1
    have hmem : j ∉ ls.map Prod.fst := fun hmem => listed.not_mem hret (List.mem_append_left _ hmem)
    refine ⟨_, w', (seq.snoc hmem hruns).append_still hlisted.nodup fun i _ => (runs_banned hban).2,
      fun x hx => ?_, fun i b hb => ?_, fun hquiet => ?_⟩
    · by_cases hxj : x.1 = j
      · rw [hxj]
        exact hjbegun
      · obtain ⟨b, hb⟩ := hsettled.done x hx
        rw [Function.update_of_ne hxj] at hb
        exact hreturned _ ⟨b, hb⟩
    · exact (hsettled.covered i b (Listed.ret_update hret hb)).resolve_right List.not_mem_nil
    · refine absurd ⟨hjbegun, ?_⟩ (hquiet j)
      rintro ⟨b, hb⟩
      exact hret b hb

/-! ## Samples -/

/-- Two calls at the same time: the second reads no ban before the first has written, then the
strike the first has stored, and bans the IP. -/
theorem violations_linearizable_sample : ∃ p : ViolationPool (Fin 2),
    p.procs 0 = .ret ⟨.warning, 1, 0, none⟩ ∧ p.procs 1 = .ret ⟨.hourBan, 2, 1, some 3600⟩ ∧
      ViolationsLinearizable "203.0.113.7" (.start 0) p := by
  obtain ⟨l, p, hrun, h₀, h₁⟩ :
      ∃ (l : List (Made BanAnswer (Fin 2))) (p : ViolationPool (Fin 2)),
        Pool.recordIf (calmServer (Fin 2)) (Undisturbed "203.0.113.7") []
          (violations "203.0.113.7" (.start 0))
          [(0, 0), (1, 0), (0, 1), (1, 0), (0, 0), (0, 2), (1, 0), (1, 5), (1, 1), (1, 0)] =
            some (l, p) ∧
        p.procs 0 = .ret ⟨.warning, 1, 0, none⟩ ∧ p.procs 1 = .ret ⟨.hourBan, 2, 1, some 3600⟩ :=
    ⟨_, _, rfl, rfl, rfl⟩
  exact ⟨p, h₀, h₁, violations_linearizable (.of_recordIf .refl hrun)⟩

/-- In a sequence of calls from an empty Redis, in which no time passes, one call is warned. -/
theorem sequence_warned {l : List (Fin 2 × ViolationResult)} {w : BanWorld}
    (h : Sequential (calmServer (Fin 2)) Later (fun _ => recordViolation .on "203.0.113.7")
      (.start 0) l w)
    (hw : w.now = 0) :
    l = [] ∧ w = .start 0 ∨ (∃ x, l = [x] ∧ w = ((BanWorld.start 0).violate "203.0.113.7").2) ∨
      ∃ x ∈ l, x.2.action ≠ .warning := by
  have hsecond : (((BanWorld.start 0).violate "203.0.113.7").2.violate "203.0.113.7").1 =
      ⟨.hourBan, 2, 1, some 3600⟩ := rfl
  induction h with
  | nil => exact .inl ⟨rfl, rfl⟩
  | wait h hlater ih =>
    obtain ⟨millis, rfl⟩ := hlater
    obtain ⟨hnow, rfl⟩ := Nat.add_eq_zero_iff.1 hw
    exact ih hnow
  | snoc h hi hruns ih =>
    obtain ⟨hle, heval⟩ := eval_of_runs hruns
    have hnow := Nat.le_zero.1 (hle.trans hw.le)
    have hviolate := heval (hw.trans hnow.symm)
    rw [eval_recordViolation, Option.some.injEq] at hviolate
    obtain ⟨rfl, rfl⟩ | ⟨x, rfl, rfl⟩ | ⟨x, hx, haction⟩ := ih hnow
    · refine .inr (.inl ⟨_, rfl, ?_⟩)
      rw [hviolate]
    · refine .inr (.inr ⟨_, List.mem_append_right _ List.mem_cons_self, ?_⟩)
      rw [hviolate] at hsecond
      cases hsecond
      nofun
    · exact .inr (.inr ⟨x, List.mem_append_left _ hx, haction⟩)

/-- Both calls read the strike data before either writes: both are warned, and one strike is
stored. -/
theorem violations_not_linearizable : ∃ p : ViolationPool (Fin 2),
    Pool.Steps (calmServer (Fin 2)) (fun _ _ _ => True) (violations "203.0.113.7" (.start 0)) p ∧
      (∀ i, p.procs i = .ret ⟨.warning, 1, 0, none⟩) ∧
      ¬ ViolationsLinearizable "203.0.113.7" (.start 0) p := by
  obtain ⟨p, hrun, hret, hnow⟩ : ∃ p : ViolationPool (Fin 2),
      (violations "203.0.113.7" (.start 0)).runIf (calmServer (Fin 2)) (fun _ _ _ => True)
          [(0, 0), (0, 0), (0, 0), (1, 0), (1, 0), (1, 0), (0, 0), (1, 0)] = some p ∧
        (∀ i, p.procs i = .ret ⟨.warning, 1, 0, none⟩) ∧ p.world.now = 0 := by
    refine ⟨_, rfl, fun i => ?_, rfl⟩
    match i with
    | 0 => rfl
    | 1 => rfl
  refine ⟨p, .of_runIf hrun, hret, ?_⟩
  rintro ⟨l, w, hseq, -, hlisted, hworld⟩
  have hw : w.now = 0 := by
    rw [← hworld fun i hi => hi.2 ⟨_, hret i⟩]
    exact hnow
  obtain ⟨b₀, hb₀, hwarned₀⟩ := hlisted 0 _ (hret 0)
  obtain ⟨b₁, hb₁, hwarned₁⟩ := hlisted 1 _ (hret 1)
  obtain ⟨rfl, -⟩ | ⟨x, rfl, -⟩ | ⟨⟨i, a⟩, hx, haction⟩ := sequence_warned hseq hw
  · cases hb₀
  · rw [List.mem_singleton] at hb₀ hb₁
    cases hb₀.trans hb₁.symm
  · -- no call is listed twice
    have hall : ∀ b, (i, b) ∈ l → b = a := fun b hb =>
      congrArg Prod.snd (List.inj_on_of_nodup_map hseq.nodup hb hx rfl)
    match i with
    | 0 => exact haction (hall b₀ hb₀ ▸ hwarned₀)
    | 1 => exact haction (hall b₁ hb₁ ▸ hwarned₁)

end PeHackathon.UrlShortener
