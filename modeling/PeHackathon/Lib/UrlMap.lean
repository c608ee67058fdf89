import PeHackathon.Lib.Lines

/-!
# URL maps

The rules of a web application, and what its router makes of a path. A rule is written with
converters between its slashes (`/users/<int:id>`); `UrlRule.args?` is what the converters take out
of a path.

`Router` is what an application may rely on: a rule without converters wins, a missing slash at the
end is asked for, and a rule that nothing competes with is found. The rest is left open: which of
two rules with converters wins, and what becomes of a path that no rule takes.
-/

namespace Lib

/-! ## Rules -/

/-- What stands between two slashes of a rule. -/
inductive UrlPart
  | static (text : List Char)
  /-- `<name>`: a text without a slash. -/
  | string
  /-- `<int:name>` -/
  | int
  /-- `<path:name>` at the end of a rule: all that is left. -/
  | path
  deriving DecidableEq

def UrlPart.parse (text : List Char) : UrlPart :=
  if "<int:".toList.isPrefixOf text then .int
  else if "<path:".toList.isPrefixOf text then .path
  else if ['<'].isPrefixOf text then .string
  else .static text

structure UrlRule (M E : Type) where
  rule : String
  methods : List M
  endpoint : E

/-- The pieces of a path. -/
def segments (path : List Char) : List (List Char) := path.splitOn '/'

section Args

variable (decimal : Char → Bool)

/-- What the converters take, when `decimal` tells the digits of `\d`. -/
def UrlPart.args? : List UrlPart → List (List Char) → Option (List (List Char))
  | [], [] => some []
  | .static text :: parts, s :: rest => if s = text then args? parts rest else none
  | .string :: parts, s :: rest => if s = [] then none else (args? parts rest).map (s :: ·)
  | .int :: parts, s :: rest =>
    if s = [] ∨ ¬ s.all decimal then none else (args? parts rest).map (s :: ·)
  | [.path], s :: rest =>
    match List.intercalate ['/'] (s :: rest) with
    | [] => none
    | c :: cs => if c = '/' ∨ '\n' ∈ cs then none else some [c :: cs]
  | _, _ => none

variable {M E : Type}

def UrlRule.parts (r : UrlRule M E) : List UrlPart := (segments r.rule.toList).map UrlPart.parse

/-- What the rule takes out of a path; `none` if it does not match. -/
def UrlRule.args? (r : UrlRule M E) (path : List Char) : Option (List (List Char)) :=
  UrlPart.args? decimal r.parts (segments path)

end Args

/-! ## Routers -/

/-- What becomes of a request: a view is called, the client is sent to another path of the map, or
an error is answered. -/
inductive Dispatch (E : Type)
  | view (endpoint : E) (args : List (List Char))
  | moved
  | methodNotAllowed
  | notFound

/-- The slashes a path begins with, as one. -/
def oneSlash (path : List Char) : List Char := '/' :: path.dropWhile (· == '/')

/-- What is known of a router. -/
structure Router {M E : Type} (rules : List (UrlRule M E)) where
  decimal : Char → Bool
  dispatch : M → List Char → Dispatch E
  /-- A view is called for a rule that matches. -/
  sound : ∀ {m path e args}, dispatch m path = .view e args →
    ∃ r ∈ rules, m ∈ r.methods ∧ r.endpoint = e ∧ r.args? decimal (oneSlash path) = some args
  /-- A rule without converters wins. -/
  static : ∀ {m path}, oneSlash path = path → ∀ r ∈ rules, m ∈ r.methods →
    r.args? decimal path = some [] →
    ∃ e, dispatch m path = .view e []
  /-- A path that only lacks the slash of such a rule is sent there. -/
  slash : ∀ {m path}, oneSlash path = path →
    (∀ r ∈ rules, m ∈ r.methods → r.args? decimal path ≠ some []) →
    ∀ r ∈ rules, m ∈ r.methods → r.args? decimal (path ++ ['/']) = some [] →
    dispatch m path = .moved
  /-- What one rule matches, and no other one does, is for that rule. -/
  only : ∀ {m path args}, oneSlash path = path →
    (∀ r ∈ rules, m ∈ r.methods → r.args? decimal (path ++ ['/']) = none) → ∀ r ∈ rules,
      m ∈ r.methods →
    r.args? decimal path = some args →
    (∀ r' ∈ rules, m ∈ r'.methods → ∀ args', r'.args? decimal path = some args' →
      r'.endpoint = r.endpoint ∧ args' = args) →
    dispatch m path = .view r.endpoint args

/-! ## Paths of one segment -/

section Args

variable {decimal : Char → Bool} {parts : List UrlPart} {args : List (List Char)}
  {s code : List Char} {rest : List (List Char)}

theorem segments_single (h : '/' ∉ code) : segments ('/' :: code) = [[], code] := by
  show ([] ++ '/' :: code).splitOn '/' = _
  rw [List.splitOn_append_cons_self_of_not_mem List.not_mem_nil, List.splitOn_eq_singleton h]

theorem segments_single_slash (h : '/' ∉ code) :
    segments ('/' :: code ++ ['/']) = [[], code, []] := by
  show ([] ++ '/' :: (code ++ ['/'])).splitOn '/' = _
  rw [List.splitOn_append_cons_self_of_not_mem List.not_mem_nil,
    List.splitOn_append_cons_self_of_not_mem h, List.splitOn_nil]

namespace UrlPart

theorem args?_nil (h : args? decimal parts [] = some args) : parts = [] ∧ args = [] := by
  cases parts with
  | nil => exact ⟨rfl, (Option.some.inj h).symm⟩
  | cons part parts => cases part <;> cases parts <;> cases h

theorem args?_static {text : List Char} :
    args? decimal (.static text :: parts) (s :: rest) = some args ↔
      s = text ∧ args? decimal parts rest = some args := by
  rw [args?]
  split
  · rename_i hs
    exact ⟨fun h => ⟨hs, h⟩, fun h => h.2⟩
  · rename_i hs
    exact ⟨fun h => (nomatch h), fun h => absurd h.1 hs⟩

theorem args?_string :
    args? decimal [.string] (s :: rest) = some args ↔ s ≠ [] ∧ rest = [] ∧ args = [s] := by
  rw [args?]
  split
  · rename_i hs
    exact ⟨fun h => (nomatch h), fun h => absurd hs h.1⟩
  · rename_i hs
    constructor
    · intro h
      obtain ⟨args', hrest, rfl⟩ := Option.map_eq_some_iff.1 h
      cases rest with
      | nil =>
        obtain rfl := Option.some.inj hrest
        exact ⟨hs, rfl, rfl⟩
      | cons s' rest => cases hrest
    · rintro ⟨-, rfl, rfl⟩
      rfl

/-- Nothing but `static` matches after the last slash. -/
theorem args?_empty (h : args? decimal parts [[]] = some args) : parts = [.static []] := by
  cases parts with
  | nil => cases h
  | cons part parts =>
    cases part with
    | static text =>
      obtain ⟨rfl, hrest⟩ := args?_static.1 h
      rw [(args?_nil hrest).1]
    | string =>
      rw [args?, if_pos rfl] at h
      cases h
    | int =>
      rw [args?, if_pos (.inl rfl)] at h
      cases h
    | path => cases parts <;> cases h

/-- Nothing but `static` matches before the first slash. -/
theorem args?_root (h : args? decimal parts ([] :: s :: rest) = some args) :
    ∃ parts', parts = .static [] :: parts' ∧ args? decimal parts' (s :: rest) = some args := by
  cases parts with
  | nil => cases h
  | cons part parts =>
    cases part with
    | static text =>
      obtain ⟨rfl, hrest⟩ := args?_static.1 h
      exact ⟨parts, rfl, hrest⟩
    | string =>
      rw [args?, if_pos rfl] at h
      cases h
    | int =>
      rw [args?, if_pos (.inl rfl)] at h
      cases h
    | path =>
      cases parts with
      | nil =>
        rw [args?, List.intercalate_cons_cons] at h
        cases h
      | cons part parts => cases h

end UrlPart

end Args

section Rules

variable {M E : Type} {decimal : Char → Bool} {r : UrlRule M E} {args : List (List Char)}
  {path code : List Char}

/-- The segment that a rule is about, if it is about one without a converter. -/
def UrlRule.name? (r : UrlRule M E) : Option (List Char) :=
  match r.parts with
  | [.static [], .static name] => some name
  | [.static [], .static name, .static []] => some name
  | _ => none

/-- The first segment is for a converter. -/
def UrlRule.isOpen (r : UrlRule M E) : Bool :=
  match r.parts with
  | .static [] :: .static _ :: _ => false
  | .static [] :: _ :: _ => true
  | _ => false

namespace UrlRule

/-- A rule that matches one segment. -/
theorem single_cases (hcode : '/' ∉ code) (h : r.args? decimal ('/' :: code) = some args) :
    (r.parts = [.static [], .static code] ∧ args = []) ∨ r.isOpen = true := by
  rw [args?, segments_single hcode] at h
  obtain ⟨parts, hparts, h⟩ := UrlPart.args?_root h
  cases parts with
  | nil => cases h
  | cons part parts =>
    cases part with
    | static text =>
      obtain ⟨rfl, hrest⟩ := UrlPart.args?_static.1 h
      obtain ⟨rfl, rfl⟩ := UrlPart.args?_nil hrest
      exact .inl ⟨hparts, rfl⟩
    | _ => exact .inr (by rw [isOpen, hparts])

/-- A rule that matches one segment and a slash. -/
theorem slash_cases (hcode : '/' ∉ code) (h : r.args? decimal ('/' :: code ++ ['/']) = some args) :
    r.parts = [.static [], .static code, .static []] ∨ r.isOpen = true := by
  rw [args?, segments_single_slash hcode] at h
  obtain ⟨parts, hparts, h⟩ := UrlPart.args?_root h
  cases parts with
  | nil => cases h
  | cons part parts =>
    cases part with
    | static text =>
      obtain ⟨rfl, hrest⟩ := UrlPart.args?_static.1 h
      rw [UrlPart.args?_empty hrest] at hparts
      exact .inl hparts
    | _ => exact .inr (by rw [isOpen, hparts])

theorem args?_name (hcode : '/' ∉ code) (h : r.parts = [.static [], .static code]) :
    r.args? decimal ('/' :: code) = some [] := by
  rw [args?, segments_single hcode, h]
  exact UrlPart.args?_static.2 ⟨rfl, UrlPart.args?_static.2 ⟨rfl, rfl⟩⟩

theorem args?_name_slash (hcode : '/' ∉ code)
    (h : r.parts = [.static [], .static code, .static []]) :
    r.args? decimal ('/' :: code ++ ['/']) = some [] := by
  rw [args?, segments_single_slash hcode, h]
  exact UrlPart.args?_static.2 ⟨rfl,
    UrlPart.args?_static.2 ⟨rfl, UrlPart.args?_static.2 ⟨rfl, rfl⟩⟩⟩

theorem args?_string_iff (h : r.parts = [.static [], .string]) (hcode : '/' ∉ code) :
    r.args? decimal ('/' :: code) = some args ↔ code ≠ [] ∧ args = [code] := by
  rw [args?, segments_single hcode, h, UrlPart.args?_static, UrlPart.args?_string]
  simp

/-- The argument of a rule with a converter alone. -/
theorem args?_string (h : r.parts = [.static [], .string])
    (hargs : r.args? decimal path = some args) :
    ∃ code, args = [code] ∧ '/' ∉ code := by
  rw [args?, h] at hargs
  have hmem : ∀ s ∈ segments path, '/' ∉ s := fun s hs => not_mem_of_mem_splitOn hs
  generalize segments path = pieces at hargs hmem
  cases pieces with
  | nil => cases hargs
  | cons s pieces =>
    obtain ⟨rfl, hrest⟩ := UrlPart.args?_static.1 hargs
    cases pieces with
    | nil => cases hrest
    | cons code pieces =>
      obtain ⟨-, rfl, rfl⟩ := UrlPart.args?_string.1 hrest
      exact ⟨code, rfl, hmem code (by simp)⟩

theorem name?_eq_some : r.name? = some code ↔
    r.parts = [.static [], .static code] ∨ r.parts = [.static [], .static code, .static []] := by
  unfold name?
  split
  · rename_i h
    simp [h]
  · rename_i h
    simp [h]
  · rename_i hname hslash
    exact ⟨fun h => (nomatch h), fun h => h.elim (fun h => (hname _ h).elim) fun h =>
      (hslash _ h).elim⟩

end UrlRule

end Rules

theorem oneSlash_single {code : List Char} (h : '/' ∉ code) :
    oneSlash ('/' :: code) = '/' :: code := by
  have hdrop : code.dropWhile (· == '/') = code := by
    cases code with
    | nil => rfl
    | cons c code =>
      have hc : ¬ (c == '/') = true := fun hc => h (by rw [eq_of_beq hc]; exact List.mem_cons_self)
      exact List.dropWhile_cons_of_neg (p := (· == '/')) hc
  show '/' :: code.dropWhile (· == '/') = _
  rw [hdrop]

namespace Router

variable {M E : Type} {rules : List (UrlRule M E)} (router : Router rules) {m : M} {e : E}
  {path code : List Char} {args : List (List Char)}

/-- **A segment that a rule is about** goes to no rule with a converter. -/
theorem dispatch_named (hcode : '/' ∉ code)
    (hnamed : ∃ r ∈ rules, m ∈ r.methods ∧ r.name? = some code) :
    (∃ e, router.dispatch m ('/' :: code) = .view e []) ∨ router.dispatch m ('/' :: code) =
      .moved := by
  obtain ⟨r, hr, hm, hname⟩ := hnamed
  by_cases hstatic : ∃ r ∈ rules, m ∈ r.methods ∧ r.args? router.decimal ('/' :: code) = some []
  · obtain ⟨r', hr', hm', hargs⟩ := hstatic
    exact .inl (router.static (oneSlash_single hcode) r' hr' hm' hargs)
  · have hnone : ∀ r ∈ rules, m ∈ r.methods → r.args? router.decimal ('/' :: code) ≠ some [] :=
      fun r' hr' hm' hargs => hstatic ⟨r', hr', hm', hargs⟩
    rcases UrlRule.name?_eq_some.1 hname with hparts | hparts
    · exact absurd (UrlRule.args?_name hcode hparts) (hnone r hr hm)
    · exact .inr (router.slash (oneSlash_single hcode) hnone r hr hm
        (UrlRule.args?_name_slash hcode hparts))

/-- **A segment that no rule is about** goes to the rule with a converter alone, if nothing but that
rule begins with a converter. -/
theorem dispatch_free {r : UrlRule M E} (hr : r ∈ rules) (hm : m ∈ r.methods)
    (hparts : r.parts = [.static [], .string])
    (hopen : ∀ r' ∈ rules, m ∈ r'.methods → r'.isOpen = true →
      r'.parts = [.static [], .string] ∧ r'.endpoint = r.endpoint)
    (hcode : '/' ∉ code) (hne : code ≠ [])
    (hfree : ∀ r' ∈ rules, m ∈ r'.methods → r'.name? ≠ some code) :
    router.dispatch m ('/' :: code) = .view r.endpoint [code] := by
  refine router.only (oneSlash_single hcode) (fun r' hr' hm' => ?_) r hr hm
    ((UrlRule.args?_string_iff hparts hcode).2 ⟨hne, rfl⟩) fun r' hr' hm' args' hargs' => ?_
  · cases hargs : r'.args? router.decimal ('/' :: code ++ ['/']) with
    | none => rfl
    | some args =>
      rcases UrlRule.slash_cases hcode hargs with hparts' | hopen'
      · exact absurd (UrlRule.name?_eq_some.2 (.inr hparts')) (hfree r' hr' hm')
      · rw [UrlRule.args?, segments_single_slash hcode, (hopen r' hr' hm' hopen').1,
          UrlPart.args?_static, UrlPart.args?_string] at hargs
        cases hargs.2.2.1
  · rcases UrlRule.single_cases hcode hargs' with ⟨hparts', -⟩ | hopen'
    · exact absurd (UrlRule.name?_eq_some.2 (.inl hparts')) (hfree r' hr' hm')
    · obtain ⟨hparts', hendpoint⟩ := hopen r' hr' hm' hopen'
      exact ⟨hendpoint, ((UrlRule.args?_string_iff hparts' hcode).1 hargs').2⟩

/-- What the view of a rule with a converter alone is called with. -/
theorem dispatch_string (hparts : ∀ r ∈ rules, r.endpoint = e → r.parts = [.static [], .string])
    (h : router.dispatch m path = .view e args) : ∃ code, args = [code] ∧ '/' ∉ code := by
  obtain ⟨r, hr, -, hendpoint, hargs⟩ := router.sound h
  exact UrlRule.args?_string (hparts r hr hendpoint) hargs

end Router

/-! ## A router -/

section InOrder

variable {M E : Type} [DecidableEq M] (decimal : Char → Bool) (rules : List (UrlRule M E)) (m : M)
  (path : List Char)

/-- The rules of a method that match a path, in their order, each with what it takes. -/
def matching : List (E × List (List Char)) :=
  (rules.filter fun r => m ∈ r.methods).filterMap fun r => (r.args? decimal path).map
    (r.endpoint, ·)

variable {decimal rules m path}

theorem mem_matching {e : E} {args : List (List Char)} : (e, args) ∈ matching decimal rules m path ↔
    ∃ r ∈ rules, m ∈ r.methods ∧ r.endpoint = e ∧ r.args? decimal path = some args := by
  simp only [matching, List.mem_filterMap, List.mem_filter, decide_eq_true_eq,
    Option.map_eq_some_iff, Prod.mk.injEq]
  constructor
  · rintro ⟨r, ⟨hr, hm⟩, args', hargs, he, rfl⟩
    exact ⟨r, hr, hm, he, hargs⟩
  · rintro ⟨r, hr, hm, he, hargs⟩
    exact ⟨r, ⟨hr, hm⟩, args, hargs, he, rfl⟩

/-- The router that goes through the rules in their order, those without converters first. -/
def Router.inOrder (rules : List (UrlRule M E)) (decimal : Char → Bool) : Router rules where
  decimal := decimal
  dispatch m path :=
    match (matching decimal rules m (oneSlash path)).find? (·.2.isEmpty) with
    | some (e, args) => .view e args
    | none =>
      if (matching decimal rules m (oneSlash path ++ ['/'])).any (·.2.isEmpty) then .moved
      else
        match matching decimal rules m (oneSlash path) with
        | (e, args) :: _ => .view e args
        | [] =>
          if rules.any fun r => (r.args? decimal (oneSlash path)).isSome then .methodNotAllowed
          else .notFound
  sound := by
    intro m path e args h
    refine mem_matching.1 ?_
    split at h
    · rename_i e' args' hfound
      cases h
      exact List.mem_of_find?_eq_some hfound
    · split at h
      · cases h
      · split at h
        · rename_i hfirst
          cases h
          rw [hfirst]
          exact List.mem_cons_self
        · split at h <;> cases h
  static := by
    intro m path hone r hr hm hargs
    have hmem : (r.endpoint, []) ∈ matching decimal rules m path :=
      mem_matching.2 ⟨r, hr, hm, rfl, hargs⟩
    rw [hone]
    cases hfound : (matching decimal rules m path).find? (·.2.isEmpty) with
    | none => exact absurd rfl (List.find?_eq_none.1 hfound _ hmem)
    | some found =>
      have hempty := List.find?_some hfound
      exact ⟨found.1, by rw [← List.isEmpty_iff.1 hempty]⟩
  slash := by
    intro m path hone hnone r hr hm hargs
    have hmem : (r.endpoint, []) ∈ matching decimal rules m (path ++ ['/']) :=
      mem_matching.2 ⟨r, hr, hm, rfl, hargs⟩
    have hfound : (matching decimal rules m path).find? (·.2.isEmpty) = none := by
      refine List.find?_eq_none.2 fun found hfound hempty => ?_
      obtain ⟨r', hr', hm', -, hargs'⟩ := mem_matching.1 hfound
      rw [List.isEmpty_iff.1 hempty] at hargs'
      exact hnone r' hr' hm' hargs'
    rw [hone, hfound]
    dsimp only
    rw [if_pos (List.any_eq_true.2 ⟨_, hmem, rfl⟩)]
  only := by
    intro m path args hone hslash r hr hm hargs honly
    have hmem : (r.endpoint, args) ∈ matching decimal rules m path :=
      mem_matching.2 ⟨r, hr, hm, rfl, hargs⟩
    have hall : ∀ found ∈ matching decimal rules m path, found = (r.endpoint, args) :=
        fun found hfound => by
      obtain ⟨r', hr', hm', he, hargs'⟩ := mem_matching.1 hfound
      obtain ⟨he', rfl⟩ := honly r' hr' hm' _ hargs'
      rw [← he', he]
    have hnone : (matching decimal rules m (path ++ ['/'])).any (·.2.isEmpty) = false := by
      refine List.any_eq_false.2 fun found hfound _ => ?_
      obtain ⟨r', hr', hm', -, hargs'⟩ := mem_matching.1 hfound
      rw [hslash r' hr' hm'] at hargs'
      cases hargs'
    rw [hone]
    cases hfound : (matching decimal rules m path).find? (·.2.isEmpty) with
    | some found =>
      rw [hall found (List.mem_of_find?_eq_some hfound)]
    | none =>
      dsimp only
      rw [hnone, if_neg Bool.false_ne_true]
      cases hfirst : matching decimal rules m path with
      | nil =>
        rw [hfirst] at hmem
        cases hmem
      | cons found rest => rw [hall found (by rw [hfirst]; exact List.mem_cons_self)]

end InOrder

end Lib
