import PeHackathon.Setup.TokenLines

/-!
# Whether the token comes back

`token_round_trips_iff`: after `ensureLogIngestTokenForHttpIngest` the reader finds in
`.env.railway.setup` the token that `process.env` has, and the other assignments are as they were,
exactly for the files of `TokenKept`. A file whose `LOG_INGEST_TOKEN=` is empty and not on the last
line is not one: the `\s*` after the equals sign goes on to the next lines, so the script takes them
for the value, or writes the token below them.
-/

namespace PeHackathon.Setup

open Js Lib

/-! ## Lines and bytes -/

section Lines

variable {file line : List UInt8} {text : List Char}

theorem newline_not_mem_decode (h : 10 ∉ line) : '\n' ∉ utf8Decode line := fun hmem =>
  h (ascii_mem_utf8Decode (b := 10) (by decide) (by decide) hmem)

theorem newline_not_mem_encode (h : '\n' ∉ text) : 10 ∉ utf8Encode text := fun hmem =>
  h (ascii_mem_encode (b := 10) (by decide) hmem)

theorem decode_append_line (line rest : List UInt8) :
    utf8Decode (line ++ 10 :: rest) = utf8Decode line ++ '\n' :: utf8Decode rest :=
  utf8Decode_ascii (b := 10) (by decide) line rest

theorem encode_append_line (line rest : List Char) :
    utf8Encode (line ++ '\n' :: rest) = utf8Encode line ++ 10 :: utf8Encode rest := by
  rw [utf8Encode, List.flatMap_append, List.flatMap_cons]
  rfl

theorem decode_lines (file : List UInt8) :
    (utf8Decode file).splitOn '\n' = (file.splitOn 10).map utf8Decode :=
  splitOn_of_piecewise decode_append_line (fun _ => newline_not_mem_decode) file

theorem decode_lastPiece (file : List UInt8) :
    lastPiece '\n' (utf8Decode file) = utf8Decode (lastPiece 10 file) :=
  lastPiece_of_piecewise decode_append_line (fun _ => newline_not_mem_decode) file

theorem encode_lines (text : List Char) :
    (utf8Encode text).splitOn 10 = (text.splitOn '\n').map utf8Encode :=
  splitOn_of_piecewise encode_append_line (fun _ => newline_not_mem_encode) text

end Lines

/-! ## The reader -/

section Reader

variable {file : List UInt8} {text line t : List Char}

theorem lineToken_dropCr (line : List Char) : lineToken (dropCr line) = lineToken line := by
  have htrim : trimChars (dropCr line) = trimChars line := by
    unfold dropCr
    split
    · rename_i hcr
      have hline : line = line.dropLast ++ ['\r'] := (List.dropLast_append_getLast? '\r' hcr).symm
      have hspace : ∀ c ∈ ['\r'], isSpace c = true := fun c hc => by
        rw [List.mem_singleton.1 hc]
        rfl
      nth_rewrite 2 [hline]
      exact (trimChars_append_right hspace _).symm
    · rfl
  unfold lineToken lineAssignment
  rw [htrim]

/-- A `\r` at the end of a line does not matter. -/
theorem findToken_splitLines (text : List Char) :
    (splitLines text).findSome? lineToken = (text.splitOn '\n').findSome? lineToken := by
  have hline := splitOn_eq_last '\n' text
  have hlast : (text.splitOn '\n').getLast?.toList = [lastPiece '\n' text] := by
    rw [hline, List.getLast?_concat]
    rfl
  have hcr : lineToken ∘ dropCr = lineToken := funext lineToken_dropCr
  rw [splitLines, hlast, List.findSome?_append, List.findSome?_map,
    hcr, ← List.findSome?_append, ← hline]

/-- The token that the reader finds in a text. -/
def findToken (text : List Char) : Option (List Char) := (text.splitOn '\n').findSome? lineToken

theorem readLogIngestTokenFromFile_eq (file : List UInt8) :
    readLogIngestTokenFromFile (some file) = (findToken (utf8Decode file)).getD [] := by
  rw [readLogIngestTokenFromFile, findToken_splitLines, findToken]

theorem findToken_ne_nil (h : findToken text = some t) : t ≠ [] := by
  obtain ⟨line, -, hline⟩ := List.exists_of_findSome?_eq_some h
  obtain ⟨value, -, -, hsome⟩ := lineToken_eq_some.1 hline
  exact hsome

theorem findToken_eq_none (h : readLogIngestTokenFromFile (some file) = []) :
    findToken (utf8Decode file) = none := by
  rw [readLogIngestTokenFromFile_eq] at h
  cases hfind : findToken (utf8Decode file) with
  | none => rfl
  | some t =>
    rw [hfind] at h
    exact absurd h (findToken_ne_nil hfind)

theorem lineTerminator_of_newline {before : List Char}
    (h : before.getLast?.all (· == '\n') = true) :
    before.getLast?.all lineTerminator = true := by
  cases hlast : before.getLast? with
  | none => rfl
  | some c =>
    rw [hlast] at h
    rw [beq_iff_eq.1 h]
    rfl

/-- **A token that the reader finds** is what `\S` matches. -/
theorem test_of_findToken (h : findToken text = some t) : tokenValuePattern.test text = true := by
  obtain ⟨line, hmem, hline⟩ := List.exists_of_findSome?_eq_some h
  obtain ⟨value, hnames, ht, hsome⟩ := lineToken_eq_some.1 hline
  obtain ⟨before, after, htext, hbefore⟩ := exists_of_mem_splitOn hmem
  have hvisible : ∃ c ∈ value, isSpace c = false := by
    by_contra hnone
    have hblank : trimChars value = [] :=
      trimChars_eq_nil.2 fun c hc => by_contra fun hc' => hnone ⟨c, hc, Bool.eq_false_iff.2 hc'⟩
    rw [hblank] at ht
    exact hsome ht.symm
  obtain ⟨c, hc, hvisible⟩ := hvisible
  exact tokenValuePattern_test.2 ⟨value ++ after,
    ⟨before, line ++ after, htext, lineTerminator_of_newline hbefore, hnames.append after⟩, c,
    List.mem_append_left after hc, hvisible⟩

theorem test_of_read (h : readLogIngestTokenFromFile (some file) ≠ []) :
    tokenValuePattern.test (utf8Decode file) = true := by
  rw [readLogIngestTokenFromFile_eq] at h
  cases hfind : findToken (utf8Decode file) with
  | none =>
    rw [hfind] at h
    exact absurd rfl h
  | some t => exact test_of_findToken hfind

/-! ### A new token -/

/-- A token that the reader gives back as it is. -/
structure PlainToken (t : List Char) : Prop where
  nonempty : t ≠ []
  plain : ∀ c ∈ t, isSpace c = false ∧ c ∉ ['=', '"', '\'', '\x00']

theorem PlainToken.trim (h : PlainToken t) : trimChars t = t :=
  trimChars_eq_self (fun c hc => (h.plain c (List.mem_of_head? hc)).1) fun c hc =>
    (h.plain c (List.mem_of_getLast? hc)).1

theorem PlainToken.unquote (h : PlainToken t) : unquote t = t := by
  have hquote : ∀ quote ∈ ['=', '"', '\'', '\x00'], quotedBy quote t = false := by
    intro quote hmem
    cases hhead : t.head? with
    | none =>
      rw [quotedBy, hhead]
      rfl
    | some c =>
      have hne : c ≠ quote := fun heq => (h.plain c (List.mem_of_head? hhead)).2 (heq ▸ hmem)
      rw [quotedBy, hhead, decide_eq_false (by rw [Option.some.injEq]; exact hne), Bool.false_and]
  rw [Setup.unquote, hquote '"' (by decide), hquote '\'' (by decide)]
  rfl

theorem PlainToken.newline (h : PlainToken t) : '\n' ∉ t := fun hmem =>
  absurd (h.plain _ hmem).1 (by decide)

/-- The token after an empty value. -/
theorem lineToken_append {value : List Char} (hnames : NamesToken line value)
    (hblank : ∀ c ∈ value, isSpace c = true) (h : PlainToken t) :
    lineToken (line ++ t) = some t := by
  refine lineToken_eq_some.2 ⟨value ++ t, hnames.append t, ?_, h.nonempty⟩
  rw [trimChars_append_left hblank, h.trim, h.unquote, h.trim]

/-- With a token added, a line names the token only if it did before. -/
theorem namesToken_of_append {value : List Char} (hnames : NamesToken (line ++ t) value)
    (h : PlainToken t) :
    ∃ value, NamesToken line value := by
  obtain ⟨before, between, hline, hbefore, hbetween⟩ := hnames
  have hhead : before ++ (tokenName ++ (between ++ '=' :: value)) =
      (before ++ (tokenName ++ between)) ++ ['='] ++ value := by
    simp only [List.append_assoc, List.cons_append, List.nil_append]
  rw [hhead] at hline
  rcases List.append_eq_append_iff.1 hline with ⟨a, ha, ht⟩ | ⟨a, ha, -⟩
  · rcases List.eq_nil_or_concat a with rfl | ⟨a, c, rfl⟩
    · refine ⟨[], before, between, ?_, hbefore, hbetween⟩
      rw [List.append_nil] at ha
      rw [← ha]
      simp only [List.append_assoc]
    · -- the equals sign would be in the token
      rw [List.concat_eq_append, ← List.append_assoc line] at ha
      obtain ⟨-, hc⟩ := List.append_inj' ha rfl
      have hmem : '=' ∈ t := by
        rw [ht, List.concat_eq_append, ← hc]
        exact List.mem_append_left _ (List.mem_append_right _ (List.mem_singleton_self _))
      exact absurd (List.mem_cons_self) (h.plain _ hmem).2
  · refine ⟨a, before, between, ?_, hbefore, hbetween⟩
    rw [ha]
    simp only [List.append_assoc, List.cons_append, List.nil_append]

theorem hexDigit_plain :
    ∀ n < 16, isSpace (Nat.digitChar n) = false ∧ Nat.digitChar n ∉ ['=', '"', '\'', '\x00'] := by
  decide

theorem hexToken_plain (random : Fin 32 → UInt8) : PlainToken (hexToken random) where
  nonempty := by
    unfold hexToken
    rw [List.ofFn_succ, List.flatMap_cons]
    exact List.cons_ne_nil _ _
  plain c hc := by
    obtain ⟨b, -, hdigit⟩ := List.mem_flatMap.1 hc
    have hb := b.toNat_lt
    rcases List.mem_cons.1 hdigit with rfl | hdigit
    · exact hexDigit_plain _ (by omega)
    · rw [List.mem_singleton.1 hdigit]
      exact hexDigit_plain _ (by omega)

/-! ### After a write -/

/-- The comment of the section. -/
def sectionComment : List Char :=
  "# HTTP log ingest → dashboard-backend /api/ingest (no Kafka)".toList

theorem tokenSection_head :
    "\n# HTTP log ingest → dashboard-backend /api/ingest (no Kafka)\nLOG_INGEST_TOKEN=".toList =
      '\n' :: (sectionComment ++ '\n' :: (tokenName ++ ['='])) := by decide +kernel

theorem tokenSection_eq (t : List Char) :
    tokenSection t = [] ++ '\n' ::
      (sectionComment ++ '\n' :: ((tokenName ++ ['=']) ++ t ++ '\n' :: [])) := by
  unfold tokenSection
  rw [tokenSection_head]
  simp only [List.nil_append, List.cons_append, List.append_assoc]

theorem encode_tokenSection (t : List Char) : ∃ rest, utf8Encode (tokenSection t) = 10 :: rest ∧
    utf8Decode rest = sectionComment ++ '\n' :: ((tokenName ++ ['=']) ++ t ++ '\n' :: []) := by
  rw [tokenSection_eq, encode_append_line]
  exact ⟨_, rfl, utf8Decode_encode _⟩

/-- After the section is appended, the reader finds its token. -/
theorem findToken_section (hnone : findToken (utf8Decode file) = none) (h : PlainToken t) :
    readLogIngestTokenFromFile (some (file ++ utf8Encode (tokenSection t))) = t := by
  obtain ⟨rest, hsection, hrest⟩ := encode_tokenSection t
  have hcomment : '\n' ∉ sectionComment ∧ lineToken sectionComment = none := by decide +kernel
  have hnewline : '\n' ∉ (tokenName ++ ['=']) ++ t := fun hmem =>
    (List.mem_append.1 hmem).elim (by decide) h.newline
  have hnames : NamesToken (tokenName ++ ['=']) [] :=
    ⟨[], [], rfl, List.forall_mem_nil _, List.forall_mem_nil _⟩
  have htoken : lineToken ((tokenName ++ ['=']) ++ t) = some t :=
    lineToken_append hnames (List.forall_mem_nil _) h
  rw [readLogIngestTokenFromFile_eq, hsection, decode_append_line, hrest, findToken,
    List.splitOn_append_cons_self, List.findSome?_append, ← findToken, hnone, Option.none_or,
    List.splitOn_append_cons_self_of_not_mem hcomment.1,
    List.splitOn_append_cons_self_of_not_mem hnewline, List.findSome?_cons, hcomment.2]
  dsimp only
  rw [List.findSome?_cons, htoken]
  rfl

/-- **After the replacement**, the reader finds the token on the last line or nowhere. -/
theorem findToken_replaced (hnone : findToken text = none) (h : PlainToken t) :
    readLogIngestTokenFromFile (some (utf8Encode (text ++ t))) =
      (lineToken (lastPiece '\n' text ++ t)).getD [] := by
  have hlines := splitOn_eq_last '\n' text
  rw [findToken, hlines, List.findSome?_append, Option.or_eq_none_iff] at hnone
  rw [readLogIngestTokenFromFile_eq, utf8Decode_encode, findToken, splitOn_append_last h.newline,
    List.findSome?_append, hnone.1, Option.none_or, List.findSome?_singleton]

end Reader

/-! ## The claim -/

/-- A line that assigns another name. -/
def otherAssignment (line : List UInt8) : Bool :=
  match lineAssignment (utf8Decode line) with
  | none => false
  | some (key, _) => key != tokenName

/-- The lines of a file that assign another name. -/
def otherAssignments (file : List UInt8) : List (List UInt8) :=
  (file.splitOn 10).filter otherAssignment

/-- What has to be so for the script to look for a token in `file`, and to make one. -/
structure Applies (byName : List String) (kafkaService : Bool) (s : SetupState)
    (file : List UInt8) : Prop where
  kafka : kafkaService = false
  skip : s.env.get "SKIP_LOG_INGEST_AUTO_TOKEN" ≠ some "1".toList ∧
    s.env.get "SKIP_LOG_INGEST_AUTO_TOKEN" ≠ some "true".toList
  backend : "dashboard-backend" ∈ byName
  replica : "url-shortener-a" ∈ byName
  present : s.setupFile = some file
  unset : s.env.get "LOG_INGEST_TOKEN" = none

/-- The reader finds in the file what `process.env` has, and every line that assigns another name is
still there. -/
def RoundTrips (file : List UInt8) (s' : SetupState) : Prop :=
  s'.env.get "LOG_INGEST_TOKEN" = some (readLogIngestTokenFromFile s'.setupFile) ∧
    (otherAssignments file).Sublist ((s'.setupFile.getD []).splitOn 10)

/-- The files for which the token comes back. -/
inductive TokenKept (file : List UInt8) : Prop
  | found (hfound : readLogIngestTokenFromFile (some file) ≠ [])
      (hnul : '\x00' ∉ readLogIngestTokenFromFile (some file))
  | absent (habsent : ∀ value, ¬ NamesTokenAt (utf8Decode file) value)
  | lastLine (hblank : ∀ value, NamesTokenAt (utf8Decode file) value → ∀ c ∈ value,
      isSpace c = true) (hlast : ∃ value, NamesToken (utf8Decode (lastPiece 10 file)) value)
      (hutf8 : ∀ line ∈ otherAssignments file, ∃ text, line = utf8Encode text)

/-! ## What the script does -/

section Script

variable {byName : List String} {kafkaService : Bool} {random : Fin 32 → UInt8} {s s' : SetupState}
  {file : List UInt8} {t : List Char}

/-- Everything the script can do with a file. -/
inductive Ensured (file : List UInt8) (t : List Char) (s' : SetupState) : Prop
  | found (hfound : readLogIngestTokenFromFile (some file) ≠ [])
      (henv : s'.env.get "LOG_INGEST_TOKEN" =
        some ((readLogIngestTokenFromFile (some file)).takeWhile (· ≠ '\x00')))
      (hfile : s'.setupFile = some file)
  | unreadable (hnone : readLogIngestTokenFromFile (some file) = [])
      (hvisible : tokenValuePattern.test (utf8Decode file) = true)
      (henv : s'.env.get "LOG_INGEST_TOKEN" = some t) (hfile : s'.setupFile = some file)
  | filled (hnone : readLogIngestTokenFromFile (some file) = [])
      (hname : tokenPattern.test (utf8Decode file) = true)
      (hblank : tokenValuePattern.test (utf8Decode file) = false)
      (henv : s'.env.get "LOG_INGEST_TOKEN" = some t)
      (hfile : s'.setupFile = some (utf8Encode (utf8Decode file ++ t)))
  | appended (hnone : readLogIngestTokenFromFile (some file) = [])
      (habsent : tokenPattern.test (utf8Decode file) = false)
      (henv : s'.env.get "LOG_INGEST_TOKEN" = some t)
      (hfile : s'.setupFile = some (file ++ utf8Encode (tokenSection t)))

@[simp] theorem setEnv_setupFile (s : SetupState) (name : String) (value : List Char) :
    (s.setEnv name value).setupFile = s.setupFile := rfl

theorem setEnv_get (s : SetupState) (name : String) (value : List Char) :
    (s.setEnv name value).env.get name = some (value.takeWhile (· ≠ '\x00')) :=
  Dict.get_set_self _ _ _

theorem PlainToken.takeWhile (h : PlainToken t) : t.takeWhile (· ≠ '\x00') = t := by
  refine List.takeWhile_eq_self_iff.2 fun c hc => decide_eq_true ?_
  rintro rfl
  exact (h.plain _ hc).2 (by decide)

/-- A file without a token that can be read. -/
theorem saveToken_ensured (hfile : s.setupFile = some file)
    (henv : s.env.get "LOG_INGEST_TOKEN" = some t)
    (hnone : readLogIngestTokenFromFile (some file) = []) : Ensured file t (saveToken t s) := by
  unfold saveToken
  rw [hfile]
  dsimp only [Option.getD_some]
  cases hvalue : tokenValuePattern.test (utf8Decode file) with
  | true =>
    rw [if_pos rfl, if_pos hnone]
    exact .unreadable hnone hvalue henv hfile
  | false =>
    rw [if_neg Bool.false_ne_true]
    cases hname : tokenPattern.test (utf8Decode file) with
    | true =>
      rw [if_pos rfl, replaceToken_eq hname hvalue]
      exact .filled hnone hname hvalue henv rfl
    | false =>
      rw [if_neg Bool.false_ne_true]
      exact .appended hnone hname henv rfl

/-- A file with a token that can be read. -/
theorem saveToken_found (hfile : s.setupFile = some file)
    (hfound : readLogIngestTokenFromFile (some file) ≠ []) :
    Ensured file t (saveToken t s) := by
  unfold saveToken
  rw [hfile]
  dsimp only [Option.getD_some]
  rw [test_of_read hfound, if_pos rfl, if_neg hfound]
  exact .found hfound (setEnv_get _ _ _) hfile

theorem createSetupFile_eq (hfile : s.setupFile = some file) : createSetupFile s = s := by
  unfold createSetupFile
  rw [hfile]

/-- **What the script does.** -/
theorem ensure_ensured (h : Applies byName kafkaService s file) (random : Fin 32 → UInt8) :
    Ensured file (hexToken random)
      (ensureLogIngestTokenForHttpIngest byName kafkaService random s) := by
  have hservices : ¬ ("dashboard-backend" ∉ byName ∨ "url-shortener-a" ∉ byName) :=
    not_or.2 ⟨not_not.2 h.backend, not_not.2 h.replica⟩
  have hunset : trimChars (s.getEnv "LOG_INGEST_TOKEN") = [] := by
    rw [SetupState.getEnv, h.unset]
    rfl
  unfold ensureLogIngestTokenForHttpIngest adoptFileToken
  rw [h.kafka, if_neg Bool.false_ne_true, if_neg (not_or.2 h.skip), if_neg hservices, if_pos hunset,
    h.present]
  dsimp only
  by_cases hnone : readLogIngestTokenFromFile (some file) = []
  · rw [if_pos hnone, if_neg (not_not.2 hunset),
      createSetupFile_eq (s := s.setEnv "LOG_INGEST_TOKEN" (hexToken random)) h.present]
    refine saveToken_ensured h.present ?_ hnone
    rw [setEnv_get, (hexToken_plain random).takeWhile]
  · rw [if_neg hnone]
    split
    · exact .found hnone (setEnv_get _ _ _) h.present
    · rw [createSetupFile_eq (s := (s.setEnv "LOG_INGEST_TOKEN" _).setEnv "LOG_INGEST_TOKEN" _)
        h.present]
      exact saveToken_found h.present hnone

end Script

/-! ## Whether the token comes back -/

section RoundTrip

variable {byName : List String} {kafkaService : Bool} {random : Fin 32 → UInt8} {s s' : SetupState}
  {file : List UInt8} {t : List Char}

theorem otherAssignment_token {line : List UInt8} {value : List Char}
    (h : NamesToken (utf8Decode line) value) :
    otherAssignment line = false := by
  rw [otherAssignment, lineAssignment_namesToken h]
  exact bne_self_eq_false tokenName

/-- The last line of a text is the last line of the file. -/
theorem namesTokenAt_lastPiece {value : List Char}
    (h : NamesToken (utf8Decode (lastPiece 10 file)) value) :
    NamesTokenAt (utf8Decode file) value := by
  obtain ⟨before, hfile, hbefore⟩ := exists_eq_lastPiece '\n' (utf8Decode file)
  rw [decode_lastPiece] at hfile
  exact ⟨before, _, hfile, lineTerminator_of_newline hbefore, h⟩

/-- The reader after the replacement. -/
theorem read_filled (hnone : readLogIngestTokenFromFile (some file) = [])
    (hblank : tokenValuePattern.test (utf8Decode file) = false) (h : PlainToken t) :
    readLogIngestTokenFromFile (some (utf8Encode (utf8Decode file ++ t))) = t ↔
      ∃ value, NamesToken (utf8Decode (lastPiece 10 file)) value := by
  rw [findToken_replaced (findToken_eq_none hnone) h, decode_lastPiece]
  constructor
  · intro hread
    cases htoken : lineToken (utf8Decode (lastPiece 10 file) ++ t) with
    | none =>
      rw [htoken] at hread
      exact absurd hread.symm h.nonempty
    | some t' =>
      obtain ⟨value, hnames, -⟩ := lineToken_eq_some.1 htoken
      exact namesToken_of_append hnames h
  · rintro ⟨value, hnames⟩
    have hspaces := tokenValuePattern_test_eq_false.1 hblank value (namesTokenAt_lastPiece hnames)
    rw [lineToken_append hnames hspaces h]
    rfl

/-- The lines after the replacement. -/
theorem lines_filled (h : PlainToken t) : (utf8Encode (utf8Decode file ++ t)).splitOn 10 =
    (file.splitOn 10).dropLast.map (utf8Encode ∘ utf8Decode) ++
      [utf8Encode (utf8Decode (lastPiece 10 file) ++ t)] := by
  rw [encode_lines, splitOn_append_last h.newline, decode_lines,
    decode_lastPiece, ← List.map_dropLast, List.map_append, List.map_map, List.map_singleton]

theorem sublist_filled (h : PlainToken t) {value : List Char}
    (hlast : NamesToken (utf8Decode (lastPiece 10 file)) value) :
    (otherAssignments file).Sublist ((utf8Encode (utf8Decode file ++ t)).splitOn 10) ↔
      ∀ line ∈ otherAssignments file, ∃ text, line = utf8Encode text := by
  constructor
  · intro hsub line hline
    have hmem := hsub.subset hline
    rw [encode_lines] at hmem
    obtain ⟨text, -, rfl⟩ := List.mem_map.1 hmem
    exact ⟨text, rfl⟩
  · intro hutf8
    have hothers : otherAssignments file = (file.splitOn 10).dropLast.filter otherAssignment := by
      unfold otherAssignments
      nth_rewrite 1 [splitOn_eq_last 10 file]
      rw [List.filter_append, List.filter_singleton, otherAssignment_token hlast]
      exact List.append_nil _
    -- a line of UTF-8 is decoded and encoded to itself
    have hsame : (otherAssignments file).map (utf8Encode ∘ utf8Decode) = otherAssignments file := by
      refine (List.map_congr_left fun line hline => ?_).trans (List.map_id _)
      obtain ⟨text, rfl⟩ := hutf8 line hline
      rw [Function.comp_apply, utf8Decode_encode]
      rfl
    rw [lines_filled h, ← hsame, hothers]
    exact (List.filter_sublist.map _).trans (List.sublist_append_left _ _)

/-- The lines after the section is appended. -/
theorem sublist_appended (file : List UInt8) (t : List Char) :
    (otherAssignments file).Sublist ((file ++ utf8Encode (tokenSection t)).splitOn 10) := by
  obtain ⟨rest, hsection, -⟩ := encode_tokenSection t
  rw [hsection, List.splitOn_append_cons_self]
  exact List.filter_sublist.trans (List.sublist_append_left _ _)

/-- If something visible follows the name, only a token that the reader finds comes back. -/
theorem TokenKept.found_of_visible (h : TokenKept file)
    (hvisible : tokenValuePattern.test (utf8Decode file) = true) :
    readLogIngestTokenFromFile (some file) ≠ [] ∧
      '\x00' ∉ readLogIngestTokenFromFile (some file) := by
  obtain ⟨value, hvalue, c, hc, hspace⟩ := tokenValuePattern_test.1 hvisible
  cases h with
  | found hfound hnul => exact ⟨hfound, hnul⟩
  | absent habsent => exact absurd hvalue (habsent value)
  | lastLine hblank =>
    rw [hblank value hvalue c hc] at hspace
    cases hspace

theorem Ensured.roundTrips_iff (h : Ensured file t s') (ht : PlainToken t) :
    RoundTrips file s' ↔ TokenKept file := by
  cases h with
  | found hfound henv hfile =>
    rw [RoundTrips, henv, hfile, Option.some.injEq, List.takeWhile_eq_self_iff]
    constructor
    · exact fun ⟨hplain, _⟩ => .found hfound fun hmem => of_decide_eq_true (hplain _ hmem) rfl
    · intro hkept
      obtain ⟨-, hnul⟩ := hkept.found_of_visible (test_of_read hfound)
      refine ⟨fun c hc => decide_eq_true ?_, List.filter_sublist⟩
      rintro rfl
      exact hnul hc
  | unreadable hnone hvisible henv hfile =>
    rw [RoundTrips, henv, hfile, hnone, Option.some.injEq]
    constructor
    · exact fun ⟨hnil, _⟩ => absurd hnil ht.nonempty
    · exact fun hkept => absurd hnone (hkept.found_of_visible hvisible).1
  | filled hnone hname hblank henv hfile =>
    rw [RoundTrips, henv, hfile, Option.some.injEq, eq_comm, read_filled hnone hblank ht,
      Option.getD_some]
    constructor
    · rintro ⟨⟨value, hlast⟩, hsub⟩
      exact .lastLine (tokenValuePattern_test_eq_false.1 hblank) ⟨value, hlast⟩
        ((sublist_filled ht hlast).1 hsub)
    · intro hkept
      cases hkept with
      | found hfound => exact absurd hnone hfound
      | absent habsent =>
        obtain ⟨value, hvalue⟩ := tokenPattern_test.1 hname
        exact absurd hvalue (habsent value)
      | lastLine _ hlast hutf8 =>
        obtain ⟨value, hlast⟩ := hlast
        exact ⟨⟨value, hlast⟩, (sublist_filled ht hlast).2 hutf8⟩
  | appended hnone habsent henv hfile =>
    rw [RoundTrips, henv, hfile, findToken_section (findToken_eq_none hnone) ht]
    constructor
    · intro _
      refine .absent fun value hvalue => ?_
      rw [tokenPattern_test.2 ⟨value, hvalue⟩] at habsent
      cases habsent
    · exact fun _ => ⟨rfl, sublist_appended file t⟩

/-- **The token comes back exactly for the files of `TokenKept`.** -/
theorem token_round_trips_iff (h : Applies byName kafkaService s file) (random : Fin 32 → UInt8) :
    RoundTrips file (ensureLogIngestTokenForHttpIngest byName kafkaService random s) ↔
      TokenKept file :=
  (ensure_ensured h random).roundTrips_iff (hexToken_plain random)

end RoundTrip

/-! ## A small instance -/

section Sample

/-- The script with a setup file, an empty environment and no example file. -/
def sampleSetup (file : List UInt8) : SetupState := ⟨some file, none, Dict.empty, []⟩

def sampleServices : List String := ["url-shortener-a", "url-shortener-b", "dashboard-backend"]

theorem sampleSetup_applies (file : List UInt8) :
    Applies sampleServices false (sampleSetup file) file where
  kafka := rfl
  skip := by
    rw [sampleSetup, Dict.get_empty]
    exact ⟨by decide, by decide⟩
  backend := by decide
  replica := by decide
  present := rfl
  unset := Dict.get_empty _

/-- A file that does not name the token. -/
def otherFile : List UInt8 := utf8Encode "DRY_RUN=1\n".toList

/-- A file that has no value for the token, and another assignment below. -/
def emptyTokenFile : List UInt8 := utf8Encode "LOG_INGEST_TOKEN=\nDRY_RUN=1\n".toList

theorem token_round_trips_sample : RoundTrips otherFile
    (ensureLogIngestTokenForHttpIngest sampleServices false (fun _ => 0)
      (sampleSetup otherFile)) := by
  refine (token_round_trips_iff (sampleSetup_applies otherFile) fun _ => 0).2
    (.absent fun value hvalue => ?_)
  have htest : tokenPattern.test (utf8Decode otherFile) = false := by decide +kernel
  rw [tokenPattern_test.2 ⟨value, hvalue⟩] at htest
  cases htest

/-- **An empty value above another line**: the next assignment is taken for the token, and the new
token is not written. -/
theorem token_not_saved : Applies sampleServices false (sampleSetup emptyTokenFile) emptyTokenFile ∧
    ¬ RoundTrips emptyTokenFile
      (ensureLogIngestTokenForHttpIngest sampleServices false (fun _ => 0)
        (sampleSetup emptyTokenFile)) := by
  refine ⟨sampleSetup_applies _, fun h => ?_⟩
  exact absurd h.1 (by decide +kernel)

end Sample

end PeHackathon.Setup
