import PeHackathon.Js.Utf8
import PeHackathon.Watchdog.Environment

/-!
# `/proc/self/environ`

`parseLinuxEnviron` (`server-runtime-env.ts`) reads the file with one index loop. It gives back each
key with its last value (`environ_inverted_iff`), except for a key `__proto__`: an assignment to
that name on an object literal calls the setter of `Object.prototype`, which ignores a string. So
the resolver finds the variables of the file (`runtimeEnv_of_file`).
-/

namespace PeHackathon.Watchdog

open Js

/-! ## Objects -/

/-- The own properties of an object with string values, oldest first. (JavaScript lists integer
names before the others; nothing here depends on where they stand.) -/
abbrev JsRecord := List (String × String)

/-- `out[key] = value` on an object that began as `{}`. -/
def JsRecord.assign (out : JsRecord) (key value : String) : JsRecord :=
  if key = "__proto__" then out
  else if out.any fun property => property.1 == key then
    out.map fun property => if property.1 == key then (key, value) else property
  else out ++ [(key, value)]

/-! ## The parser -/

/-- A line of the file, between two NULs. -/
def addEnvironLine (out : JsRecord) (line : List Char) : JsRecord :=
  match line.idxOf? '=' with
  | none => out
  | some eq =>
    if 0 < eq then out.assign (String.ofList (line.take eq)) (String.ofList (line.drop (eq + 1)))
      else out

/-- The variables of the loop. -/
structure EnvironLoop where
  start : Nat
  out : JsRecord

/-- One turn of the loop over `i`. -/
def environTurn (buf : List UInt8) (loop : EnvironLoop) (i : Nat) : EnvironLoop :=
  if i = buf.length ∨ buf[i]? = some 0 then
    { start := i + 1
      out := if loop.start < i then
          addEnvironLine loop.out (utf8Decode ((buf.drop loop.start).take (i - loop.start)))
        else loop.out }
  else loop

/-- The loop: `i` from 0 up to `buf.length`. -/
def parseEnviron (buf : List UInt8) : JsRecord :=
  ((List.range (buf.length + 1)).foldl (environTurn buf) ⟨0, []⟩).out

/-- What `parseLinuxEnviron` sees of its process. -/
structure NodeProcess where
  platform : String
  /-- `readFileSync("/proc/self/environ")`; `none` if it throws. -/
  environ : Option (List UInt8)
  /-- `linuxEnvironCache`; `none` while it is `undefined`. -/
  linuxEnvironCache : Option (Option JsRecord)

def parseLinuxEnviron (p : NodeProcess) : Option JsRecord × NodeProcess :=
  match p.linuxEnvironCache with
  | some cached => (cached, p)
  | none =>
    let out := if p.platform = "win32" then none else p.environ.map parseEnviron
    (out, { p with linuxEnvironCache := some out })

/-! ## The file -/

/-- A variable as the file can hold it. -/
structure EnvPair where
  key : String
  value : String
  keyNonempty : key ≠ ""
  keyPlain : '=' ∉ key.toList
  keyNul : '\x00' ∉ key.toList
  valueNul : '\x00' ∉ value.toList

/-- `key=value`. -/
def EnvPair.bytes (p : EnvPair) : List UInt8 := utf8Encode (p.key.toList ++ '=' :: p.value.toList)

/-- The bytes of a list of variables: a NUL and any number more between two of them, and any number
of NULs, or none, after the last. -/
inductive EnvironBytes : List EnvPair → List UInt8 → Prop
  | nuls (n : Nat) : EnvironBytes [] (List.replicate n 0)
  | last (p : EnvPair) : EnvironBytes [p] p.bytes
  | cons {pairs : List EnvPair} {rest : List UInt8} (p : EnvPair) (extra : Nat)
      (h : EnvironBytes pairs rest) :
      EnvironBytes (p :: pairs) (p.bytes ++ 0 :: (List.replicate extra 0 ++ rest))

/-- The last value of a key. -/
def lastValue (pairs : List EnvPair) (key : String) : Option String :=
  (pairs.reverse.find? fun p => p.key == key).map EnvPair.value

/-- Parsing the bytes yields exactly the map from each key to its last value. -/
def Inverted (pairs : List EnvPair) (buf : List UInt8) : Prop :=
  ∀ p : NodeProcess, p.platform ≠ "win32" → p.environ = some buf → p.linuxEnvironCache = none →
    ∃ out, (parseLinuxEnviron p).1 = some out ∧ (out.map Prod.fst).Nodup ∧
      ∀ key, out.lookup key = lastValue pairs key

/-! ## The loop -/

/-- What stands between two NULs. -/
def addSegment (out : JsRecord) (segment : List UInt8) : JsRecord :=
  if segment = [] then out else addEnvironLine out (utf8Decode segment)

section Loop

variable {buf before segment rest : List UInt8} {out : JsRecord}

theorem getElem?_rest (hbuf : buf = before ++ segment ++ rest) :
    buf[before.length + segment.length]? = rest.head? := by
  rw [hbuf, ← List.length_append, List.getElem?_append_right (Nat.le_refl _), Nat.sub_self,
    List.head?_eq_getElem?]

/-- A turn at the end of a segment. -/
theorem environTurn_end (hbuf : buf = before ++ segment ++ rest)
    (hend : rest = [] ∨ rest.head? = some 0) :
    environTurn buf ⟨before.length, out⟩ (before.length + segment.length) =
      ⟨before.length + segment.length + 1, addSegment out segment⟩ := by
  have hstop : before.length + segment.length = buf.length ∨
      buf[before.length + segment.length]? = some 0 := by
    rw [getElem?_rest hbuf]
    refine hend.imp_left fun hnil => ?_
    rw [hbuf, hnil, List.append_nil, List.length_append]
  have hline : (buf.drop before.length).take (before.length + segment.length - before.length) =
      segment := by
    rw [hbuf, List.append_assoc, List.drop_left, Nat.add_sub_cancel_left, List.take_left]
  rw [environTurn, if_pos hstop]
  dsimp only
  rw [hline, addSegment]
  cases segment with
  | nil =>
    have hempty : ¬ before.length < before.length + ([] : List UInt8).length := Nat.lt_irrefl _
    rw [if_neg hempty, if_pos rfl]
  | cons b segment =>
    have hsome : before.length < before.length + (b :: segment).length := by
      rw [List.length_cons]
      omega
    rw [if_pos hsome, if_neg (List.cons_ne_nil _ _)]

/-- A turn inside a segment. -/
theorem environTurn_inside {b : UInt8} (hbuf : buf = before ++ segment ++ b :: rest) (hb : b ≠ 0) :
    environTurn buf ⟨before.length, out⟩ (before.length + segment.length) =
      ⟨before.length, out⟩ := by
  have hlast : before.length + segment.length ≠ buf.length := by
    rw [hbuf, List.length_append, List.length_append, List.length_cons]
    omega
  have hbyte : buf[before.length + segment.length]? ≠ some 0 := by
    rw [getElem?_rest hbuf]
    exact fun h => hb (Option.some.inj h)
  exact if_neg (not_or.2 ⟨hlast, hbyte⟩)

/-- The loop from inside a segment on: `start` is where the segment began. -/
theorem environLoop_segments (hbuf : buf = before ++ segment ++ rest) (hsegment : 0 ∉ segment) :
    ((List.range' (before.length + segment.length) (rest.length + 1)).foldl (environTurn buf)
      ⟨before.length, out⟩).out = ((segment ++ rest).splitOn 0).foldl addSegment out := by
  induction rest generalizing before segment out with
  | nil =>
    rw [List.length_nil, List.range'_succ, List.foldl_cons, environTurn_end hbuf (.inl rfl),
      List.append_nil, List.splitOn_eq_singleton hsegment]
    rfl
  | cons b rest ih =>
    rw [List.length_cons, List.range'_succ, List.foldl_cons]
    by_cases hb : b = 0
    · subst hb
      rw [environTurn_end hbuf (.inr rfl), List.splitOn_append_cons_self_of_not_mem hsegment,
        List.foldl_cons]
      have hrest := @ih (before ++ segment ++ [0]) [] (addSegment out segment)
        (by rw [hbuf, List.append_nil, List.append_assoc (before ++ segment)]; rfl) List.not_mem_nil
      rw [List.length_append, List.length_append, List.length_singleton] at hrest
      exact hrest
    · rw [environTurn_inside hbuf hb]
      have hrest :=
        @ih before (segment ++ [b]) out (by rw [hbuf]; simp) (by simp [hsegment, Ne.symm hb])
      rw [List.length_append, List.length_singleton, List.append_assoc, List.singleton_append]
        at hrest
      exact hrest

/-- **The index loop** adds what stands between the NULs, one segment after the other. -/
theorem parseEnviron_eq (buf : List UInt8) :
    parseEnviron buf = (buf.splitOn 0).foldl addSegment [] := by
  rw [parseEnviron, List.range_eq_range']
  exact @environLoop_segments buf [] [] buf [] rfl List.not_mem_nil

end Loop

/-! ## Assignments -/

namespace JsRecord

variable {out : JsRecord} {key value : String}

theorem lookup_map_value (k : String) :
    (out.map fun property => if property.1 == key then (key, value) else property).lookup k =
      if k = key then (out.lookup k).map fun _ => value else out.lookup k := by
  induction out with
  | nil => simp
  | cons property out ih =>
    rw [List.map_cons, List.lookup_cons, List.lookup_cons, ih]
    by_cases hproperty : property.1 = key
    · by_cases hk : k = key
      · simp [hproperty, hk]
      · simp [hproperty, hk, beq_eq_false_iff_ne.2 hk]
    · by_cases hk : k = property.1
      · simp [hk, hproperty]
      · simp [hproperty, beq_eq_false_iff_ne.2 hk]

/-- **An assignment** sets one property, unless its name is `__proto__`. -/
theorem lookup_assign (k : String) : (out.assign key value).lookup k =
    if k = key ∧ key ≠ "__proto__" then some value else out.lookup k := by
  unfold assign
  by_cases hproto : key = "__proto__"
  · rw [if_pos hproto, if_neg fun h => h.2 hproto]
  rw [if_neg hproto]
  split
  · rename_i hthere
    rw [lookup_map_value]
    by_cases hk : k = key
    · obtain ⟨property, hmem, hkey⟩ := List.any_eq_true.1 hthere
      have hsome : (out.lookup k).isSome = true := by
        rw [List.lookup_isSome_iff]
        exact ⟨property, hmem, by rw [hk]; simpa using (beq_iff_eq.1 hkey).symm⟩
      obtain ⟨old, hold⟩ := Option.isSome_iff_exists.1 hsome
      rw [if_pos hk, if_pos ⟨hk, hproto⟩, hold]
      rfl
    · rw [if_neg hk, if_neg fun h => hk h.1]
  · rename_i hnew
    rw [List.lookup_append, List.lookup_singleton]
    by_cases hk : k = key
    · have hnone : out.lookup k = none := by
        rw [List.lookup_eq_none_iff]
        intro property hmem
        rw [bne_iff_ne]
        exact fun hkey =>
          hnew (List.any_eq_true.2 ⟨property, hmem, beq_iff_eq.2 (hkey.symm.trans hk)⟩)
      have hset : k = key ∧ key ≠ "__proto__" := ⟨hk, hproto⟩
      rw [if_pos hset, hnone, Option.none_or, if_pos (beq_iff_eq.2 hk)]
    · have hset : ¬ (k = key ∧ key ≠ "__proto__") := fun h => hk h.1
      have hbeq : ¬ (k == key) = true := mt beq_iff_eq.1 hk
      rw [if_neg hset, if_neg hbeq, Option.or_none]

theorem assign_nodup (h : (out.map Prod.fst).Nodup) :
    ((out.assign key value).map Prod.fst).Nodup := by
  unfold assign
  split
  · exact h
  · split
    · have hkeys : (out.map fun property => if property.1 == key then (key, value)
          else property).map Prod.fst =
          out.map Prod.fst := by
        rw [List.map_map]
        refine List.map_congr_left fun property _ => ?_
        by_cases hkey : property.1 = key
        · simp [hkey]
        · simp [hkey]
      rw [hkeys]
      exact h
    · rename_i hnew
      rw [List.map_append, List.map_singleton]
      refine List.nodup_append.2 ⟨h, List.pairwise_singleton _ _, ?_⟩
      rintro k hk _ hkey rfl
      obtain ⟨property, hmem, rfl⟩ := List.mem_map.1 hk
      exact hnew (List.any_eq_true.2 ⟨property, hmem, beq_iff_eq.2 (List.mem_singleton.1 hkey)⟩)

end JsRecord

/-! ## Reading a list of variables -/

section Pairs

variable {pairs : List EnvPair} {buf : List UInt8} {out : JsRecord}

/-- The line of a variable is split at the first `=`, which is the one after its key. -/
theorem addEnvironLine_pair (p : EnvPair) :
    addEnvironLine out (p.key.toList ++ '=' :: p.value.toList) = out.assign p.key p.value := by
  have hnonempty : 0 < p.key.toList.length :=
    List.length_pos_iff.2 fun hnil => p.keyNonempty (String.toList_eq_nil_iff.1 hnil)
  have hvalue :
      (p.key.toList ++ '=' :: p.value.toList).drop (p.key.toList.length + 1) = p.value.toList := by
    rw [← List.drop_drop, List.drop_left]
    rfl
  rw [addEnvironLine, idxOf?_of_first p.keyPlain]
  dsimp only
  rw [if_pos hnonempty, List.take_left, hvalue, String.ofList_toList, String.ofList_toList]

theorem addSegment_pair (p : EnvPair) : addSegment out p.bytes = out.assign p.key p.value := by
  have hsome : p.bytes ≠ [] := by
    intro hnil
    have hdecode : utf8Decode p.bytes = p.key.toList ++ '=' :: p.value.toList := utf8Decode_encode _
    rw [hnil] at hdecode
    exact List.append_ne_nil_of_right_ne_nil _ (List.cons_ne_nil _ _) hdecode.symm
  rw [addSegment, if_neg hsome, EnvPair.bytes, utf8Decode_encode, addEnvironLine_pair]

theorem nul_not_mem_bytes (p : EnvPair) : 0 ∉ p.bytes := by
  intro h
  have hnul : '\x00' ∈ p.key.toList ++ '=' :: p.value.toList := ascii_mem_encode (by decide) h
  rcases List.mem_append.1 hnul with hkey | hvalue
  · exact p.keyNul hkey
  · rcases List.mem_cons.1 hvalue with heq | hvalue
    · cases heq
    · exact p.valueNul hvalue

/-- NULs before a segment add nothing. -/
theorem addSegments_nuls (n : Nat) (rest : List UInt8) :
    ((List.replicate n (0 : UInt8) ++ rest).splitOn 0).foldl addSegment out =
      (rest.splitOn 0).foldl addSegment out := by
  induction n with
  | zero => rfl
  | succ n ih =>
    have hsplit : (List.replicate (n + 1) (0 : UInt8) ++ rest).splitOn 0 =
        [] :: (List.replicate n (0 : UInt8) ++ rest).splitOn 0 :=
      List.splitOn_append_cons_self_of_not_mem List.not_mem_nil _
    rw [hsplit, List.foldl_cons]
    exact ih

/-- The variables, one after the other. -/
def assignPairs (pairs : List EnvPair) (out : JsRecord) : JsRecord :=
  pairs.foldl (fun out p => out.assign p.key p.value) out

/-- **The segments of the bytes** assign the variables in their order. -/
theorem addSegments_eq (h : EnvironBytes pairs buf) : (buf.splitOn 0).foldl addSegment out =
    assignPairs pairs out := by
  induction h generalizing out with
  | nuls n =>
    have hnuls := @addSegments_nuls out n []
    rw [List.append_nil] at hnuls
    exact hnuls
  | last p =>
    rw [List.splitOn_eq_singleton (nul_not_mem_bytes p), List.foldl_cons, List.foldl_nil,
      addSegment_pair]
    rfl
  | cons p extra h ih =>
    rw [List.splitOn_append_cons_self_of_not_mem (nul_not_mem_bytes p), List.foldl_cons,
      addSegment_pair, addSegments_nuls, ih]
    rfl

theorem lastValue_cons (p : EnvPair) (key : String) :
    lastValue (p :: pairs) key = (lastValue pairs key).or (if p.key = key then some p.value
      else none) := by
  unfold lastValue
  rw [List.reverse_cons, List.find?_append]
  cases pairs.reverse.find? fun p => p.key == key with
  | some q => rfl
  | none =>
    rw [Option.none_or, List.find?_singleton]
    by_cases hkey : p.key = key
    · rw [if_pos hkey, if_pos (beq_iff_eq.2 hkey)]
      rfl
    · rw [if_neg hkey, if_neg (mt beq_iff_eq.1 hkey)]
      rfl

theorem lastValue_isSome {p : EnvPair} (h : p ∈ pairs) : (lastValue pairs p.key).isSome = true := by
  rw [lastValue, Option.isSome_map, List.find?_isSome]
  exact ⟨p, List.mem_reverse.2 h, beq_self_eq_true _⟩

/-- The properties after the assignments: the last value of each name but `__proto__`. -/
theorem lookup_assigns (key : String) :
    (assignPairs pairs out).lookup key =
      if key = "__proto__" then out.lookup key else (lastValue pairs key).or (out.lookup key) := by
  induction pairs generalizing out with
  | nil =>
    split
    · rfl
    · rfl
  | cons p pairs ih =>
    change (assignPairs pairs (out.assign p.key p.value)).lookup key = _
    rw [ih, JsRecord.lookup_assign, lastValue_cons]
    by_cases hproto : key = "__proto__"
    · have hset : ¬ (key = p.key ∧ p.key ≠ "__proto__") := fun h => h.2 (h.1.symm.trans hproto)
      rw [if_pos hproto, if_pos hproto, if_neg hset]
    · rw [if_neg hproto, if_neg hproto, Option.or_assoc]
      by_cases hkey : key = p.key
      · have hset : key = p.key ∧ p.key ≠ "__proto__" := ⟨hkey, hkey ▸ hproto⟩
        rw [if_pos hset, if_pos hkey.symm, Option.some_or]
      · have hset : ¬ (key = p.key ∧ p.key ≠ "__proto__") := fun h => hkey h.1
        rw [if_neg hset, if_neg (Ne.symm hkey), Option.none_or]

theorem assigns_nodup (h : (out.map Prod.fst).Nodup) :
    ((assignPairs pairs out).map Prod.fst).Nodup := by
  induction pairs generalizing out with
  | nil => exact h
  | cons p pairs ih => exact ih (JsRecord.assign_nodup h)

/-- The answer, where nothing is cached yet. -/
theorem parseLinuxEnviron_bytes {p : NodeProcess} (h : EnvironBytes pairs buf)
    (hplatform : p.platform ≠ "win32") (henviron : p.environ = some buf)
    (hcache : p.linuxEnvironCache = none) :
    (parseLinuxEnviron p).1 = some (assignPairs pairs []) := by
  rw [parseLinuxEnviron, hcache]
  dsimp only
  rw [if_neg hplatform, henviron, Option.map_some, parseEnviron_eq, addSegments_eq h]

/-- The first answer stays the answer, whatever becomes of the file. -/
theorem parseLinuxEnviron_cached (p : NodeProcess) (environ : Option (List UInt8)) :
    (parseLinuxEnviron { (parseLinuxEnviron p).2 with environ }).1 = (parseLinuxEnviron p).1 := by
  unfold parseLinuxEnviron
  cases hcache : p.linuxEnvironCache with
  | some cached =>
    dsimp only
    rw [hcache]
  | none => rfl

/-- What the resolver answers for a variable of the file whose value is not blank. -/
theorem runtimeEnv_of_file {p : NodeProcess} {process : List (String × String)}
    {key value n : String} (h : EnvironBytes pairs buf) (hplatform : p.platform ≠ "win32")
    (henviron : p.environ = some buf) (hcache : p.linuxEnvironCache = none)
    (hproto : key ≠ "__proto__") (hvalue : lastValue pairs key = some value)
    (husable : usableValue value = some n) :
    runtimeEnv ⟨(parseLinuxEnviron p).1, process⟩ key = some n := by
  have hlookup : (assignPairs pairs []).lookup key = some value := by
    rw [lookup_assigns, if_neg hproto, hvalue, Option.some_or]
  rw [runtimeEnv, parseLinuxEnviron_bytes h hplatform henviron hcache, Option.bind_some,
    lookupEntry, hlookup, Option.bind_some, husable, Option.some_or, Option.some_or]

/-- **The file is inverted** exactly if no key is `__proto__`. -/
theorem environ_inverted_iff (h : EnvironBytes pairs buf) :
    Inverted pairs buf ↔ ∀ p ∈ pairs, p.key ≠ "__proto__" := by
  have hlinux : "linux" ≠ "win32" := by decide
  constructor
  · intro hinverted p hp hproto
    obtain ⟨out, hout, -, hlookup⟩ := hinverted ⟨"linux", some buf, none⟩ hlinux rfl rfl
    have heq :=
      (@parseLinuxEnviron_bytes _ _ ⟨"linux", some buf, none⟩ h hlinux rfl rfl).symm.trans hout
    have hlast := hlookup p.key
    rw [← Option.some.inj heq, lookup_assigns, if_pos hproto] at hlast
    have hsome := lastValue_isSome hp
    rw [← hlast] at hsome
    cases hsome
  · intro hplain p hplatform henviron hcache
    refine ⟨assignPairs pairs [], parseLinuxEnviron_bytes h hplatform henviron hcache,
      assigns_nodup List.Pairwise.nil, fun key => ?_⟩
    rw [lookup_assigns, List.lookup_nil, Option.or_none]
    split
    · rename_i hproto
      cases hlast : lastValue pairs key with
      | none => rfl
      | some value =>
        obtain ⟨q, hq, -⟩ := Option.map_eq_some_iff.1 hlast
        have hkey := List.find?_some hq
        exact absurd ((beq_iff_eq.1 hkey).trans hproto)
          (hplain q (List.mem_reverse.1 (List.mem_of_find?_eq_some hq)))
    · rfl

end Pairs

/-! ## Samples -/

def samplePairs : List EnvPair :=
  [⟨"HOME", "/root", by decide, by decide, by decide, by decide⟩,
    ⟨"A", "", by decide, by decide, by decide, by decide⟩,
    ⟨"HOME", "a=b", by decide, by decide, by decide, by decide⟩]

/-- The bytes of the pairs, with two NULs after the first and none after the last. -/
def sampleEnviron : List UInt8 := utf8Encode "HOME=/root\x00\x00A=\x00HOME=a=b".toList

theorem environ_inverted_sample :
    EnvironBytes samplePairs sampleEnviron ∧ Inverted samplePairs sampleEnviron := by
  have hbytes : EnvironBytes samplePairs sampleEnviron := by
    have heq :
        sampleEnviron = (samplePairs[0]).bytes ++ (0 : UInt8) :: (List.replicate 1 (0 : UInt8) ++
        ((samplePairs[1]).bytes ++ (0 : UInt8) ::
          (List.replicate 0 (0 : UInt8) ++ (samplePairs[2]).bytes))) := by
      decide +kernel
    rw [heq]
    exact .cons _ 1 (.cons _ 0 (.last _))
  exact ⟨hbytes, (environ_inverted_iff hbytes).2 (by decide)⟩

/-- A variable that the prototype of an object literal has a setter for. -/
def protoPair : EnvPair := ⟨"__proto__", "x", by decide, by decide, by decide, by decide⟩

/-- **Not every file is inverted**: a variable `__proto__` is dropped. -/
theorem proto_dropped : ¬ ∀ pairs buf, EnvironBytes pairs buf → Inverted pairs buf := by
  intro h
  have hlinux : "linux" ≠ "win32" := by decide
  obtain ⟨out, hout, -, hlookup⟩ :=
    h [protoPair] protoPair.bytes (.last _) ⟨"linux", some protoPair.bytes, none⟩ hlinux rfl rfl
  have hparse : (parseLinuxEnviron ⟨"linux", some protoPair.bytes, none⟩).1 = some [] := by
    decide +kernel
  cases hparse.symm.trans hout
  exact absurd (hlookup "__proto__") (by decide)

end PeHackathon.Watchdog
