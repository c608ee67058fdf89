import Mathlib.Tactic.Common

/-!
# Python's `csv`

`csv.reader` with the `excel` dialect on the lines of a text, and the rows of `csv.DictReader`. The
reader raises `csv.Error` for a field of more than 131072 characters, and where a line goes on after
a carriage return that no quotes are around. A text without carriage returns that is short enough
for one field is always read (`csvDictRows_isSome`).
-/

namespace PeHackathon

/-! ## Lines -/

/-- A character before the lines of what follows it. -/
def consLine (c : Char) : List (List Char) → List (List Char)
  | [] => [[c]]
  | line :: lines => (c :: line) :: lines

/-- The lines of `io.StringIO(text)`, with their ends. -/
def textLines : List Char → List (List Char)
  | [] => []
  | c :: rest => if c = '\n' then [c] :: textLines rest else consLine c (textLines rest)

/-- The lines of `open(path, newline="")`, which end at `\n`, `\r` or `\r\n`. -/
def fileLines : List Char → List (List Char)
  | [] => []
  | c :: rest =>
    if c = '\n' ∨ c = '\r' ∧ rest.head? ≠ some '\n' then [c] :: fileLines rest
    else consLine c (fileLines rest)

/-! ## `csv.reader` -/

inductive CsvState
  | startRecord
  | startField
  | inField
  | inQuotedField
  | quoteInQuotedField
  | eatCrnl
  deriving DecidableEq

/-- The reader inside a record. -/
structure CsvReader where
  state : CsvState
  field : List Char
  fields : List String

namespace CsvReader

/-- `parse_reset`. -/
def start : CsvReader := ⟨.startRecord, [], []⟩

def withState (r : CsvReader) (state : CsvState) : CsvReader := { r with state }

/-- `parse_save_field`. -/
def saveField (r : CsvReader) : CsvReader :=
  { r with field := [], fields := r.fields ++ [String.ofList r.field] }

/-- `parse_add_char`; `none` if it raises. -/
def addChar (r : CsvReader) (c : Char) : Option CsvReader :=
  if 131072 ≤ r.field.length then none else some { r with field := r.field ++ [c] }

/-- `START_FIELD` in `parse_process_char`. -/
def processStart (r : CsvReader) (c : Char) : Option CsvReader :=
  if c = '\n' ∨ c = '\r' then some (r.saveField.withState .eatCrnl)
  else if c = '"' then some (r.withState .inQuotedField)
  else if c = ',' then some (r.saveField.withState .startField)
  else (r.addChar c).map fun r => r.withState .inField

/-- `parse_process_char`; `none` if it raises. -/
def processChar (r : CsvReader) (c : Char) : Option CsvReader :=
  match r.state with
  | .startRecord =>
    -- an empty line is the record `[]`
    if c = '\n' ∨ c = '\r' then some (r.withState .eatCrnl) else r.processStart c
  | .startField => r.processStart c
  | .inField =>
    if c = '\n' ∨ c = '\r' then some (r.saveField.withState .eatCrnl)
    else if c = ',' then some (r.saveField.withState .startField)
    else r.addChar c
  | .inQuotedField => if c = '"' then some (r.withState .quoteInQuotedField) else r.addChar c
  | .quoteInQuotedField =>
    if c = '"' then (r.addChar c).map fun r => r.withState .inQuotedField
    else if c = ',' then some (r.saveField.withState .startField)
    else if c = '\n' ∨ c = '\r' then some (r.saveField.withState .eatCrnl)
    else (r.addChar c).map fun r => r.withState .inField
  | .eatCrnl => if c = '\n' ∨ c = '\r' then some r else none

/-- `parse_process_char(EOL)`. -/
def endLine (r : CsvReader) : CsvReader :=
  match r.state with
  | .startRecord => r
  | .startField => r.saveField.withState .startRecord
  | .inField => r.saveField.withState .startRecord
  | .inQuotedField => r
  | .quoteInQuotedField => r.saveField.withState .startRecord
  | .eatCrnl => r.withState .startRecord

end CsvReader

/-- `list(csv.reader(lines))`, where the record of `r` has begun; `none` if it raises. -/
def csvRecords : CsvReader → List (List Char) → Option (List (List String))
  | r, [] => some (if r.field ≠ [] ∨ r.state = .inQuotedField then [r.saveField.fields] else [])
  | r, line :: lines => do
    let r ← line.foldlM CsvReader.processChar r
    if r.endLine.state = .startRecord then do
      let records ← csvRecords .start lines
      some (r.endLine.fields :: records)
    else csvRecords r.endLine lines

/-! ## `csv.DictReader` -/

/-- A row: its assignments in order, the last of a key counts. A value is `None` where the record is
short; what a record has beyond the names has no text as its key. -/
abbrev CsvRow := List (String × Option String)

def csvRow (fieldnames record : List String) : CsvRow :=
  ((fieldnames.zip record).map fun kv => (kv.1, some kv.2)) ++
    (fieldnames.drop record.length).map fun key => (key, none)

/-- `row.get(key, "")`; `none` is `None`. -/
def CsvRow.get (row : CsvRow) (key : String) : Option String :=
  (row.reverse.lookup key).getD (some "")

/-- `list(csv.DictReader(lines))`; `none` if it raises. Empty records are left out. -/
def csvDictRows (lines : List (List Char)) : Option (List CsvRow) := do
  let records ← csvRecords .start lines
  match records with
  | [] => some []
  | fieldnames :: records =>
    some ((records.filter fun record => !record.isEmpty).map (csvRow fieldnames))

example : csvDictRows (textLines ['a', ',', 'b', '\n', '"', ',', '"', '\n', '\n', '1', ',', '2']) =
    some [[("a", some ","), ("b", none)], [("a", some "1"), ("b", some "2")]] := by decide

/-! ## Texts that are read -/

theorem flatten_consLine (c : Char) (lines : List (List Char)) :
    (consLine c lines).flatten = c :: lines.flatten := by
  cases lines with
  | nil => rfl
  | cons line lines => rfl

theorem flatten_textLines (text : List Char) : (textLines text).flatten = text := by
  induction text with
  | nil => rfl
  | cons c rest ih =>
    unfold textLines
    split
    · rw [List.flatten_cons, ih]
      rfl
    · rw [flatten_consLine, ih]

/-- A newline stands only at the end of a line. -/
theorem textLines_newline {text line : List Char} (h : line ∈ textLines text) :
    ∃ front, '\n' ∉ front ∧ (line = front ∨ line = front ++ ['\n']) := by
  induction text generalizing line with
  | nil => exact absurd h List.not_mem_nil
  | cons c rest ih =>
    unfold textLines at h
    split at h
    · rename_i hc
      rcases List.mem_cons.1 h with rfl | h
      · exact ⟨[], List.not_mem_nil, .inr (by rw [hc]; rfl)⟩
      · exact ih h
    · rename_i hc
      cases hlines : textLines rest with
      | nil =>
        rw [hlines] at h
        refine ⟨[c], ?_, .inl (List.mem_singleton.1 h)⟩
        rw [List.mem_singleton]
        exact Ne.symm hc
      | cons first lines =>
        rw [hlines] at h ih
        rcases List.mem_cons.1 h with rfl | h
        · obtain ⟨front, hfront, hline⟩ := ih List.mem_cons_self
          refine ⟨c :: front, ?_, hline.imp (congrArg _) (congrArg _)⟩
          rw [List.mem_cons, not_or]
          exact ⟨Ne.symm hc, hfront⟩
        · exact ih (List.mem_cons_of_mem first h)

namespace CsvReader

variable {r r' : CsvReader} {c : Char} {line : List Char}

theorem addChar_isSome (hlen : r.field.length < 131072) :
    r.addChar c = some { r with field := r.field ++ [c] } :=
  if_neg (Nat.not_le_of_lt hlen)

/-- A field that has room takes the next character, unless a line has ended before it. -/
theorem processChar_some (hstate : r.state ≠ .eatCrnl) (hlen : r.field.length < 131072) :
    ∃ r', r.processChar c = some r' ∧ r'.field.length ≤ r.field.length + 1 ∧
      (c ≠ '\n' → c ≠ '\r' → r'.state ≠ .eatCrnl) := by
  unfold processChar processStart
  rw [addChar_isSome hlen]
  cases hr : r.state with
  | eatCrnl => exact absurd hr hstate
  | _ =>
    dsimp only
    split_ifs
    all_goals
      refine ⟨_, rfl, ?_, fun hn hcr => ?_⟩
      · simp [saveField, withState]
      · simp_all [saveField, withState]

theorem front_some {front : List Char} (hstate : r.state ≠ .eatCrnl)
    (hfront : ∀ c ∈ front, c ≠ '\n' ∧ c ≠ '\r') (hlen : r.field.length + front.length ≤ 131072) :
    ∃ r', front.foldlM processChar r = some r' ∧ r'.state ≠ .eatCrnl ∧
      r'.field.length ≤ r.field.length + front.length := by
  induction front generalizing r with
  | nil => exact ⟨r, rfl, hstate, Nat.le_refl _⟩
  | cons c front ih =>
    rw [List.length_cons] at hlen
    obtain ⟨r', hr', hlen', hstate'⟩ := @processChar_some r c hstate (by omega)
    obtain ⟨hn, hcr⟩ := hfront c List.mem_cons_self
    obtain ⟨r'', hr'', hstate'', hlen''⟩ :=
      ih (hstate' hn hcr) (fun d hd => hfront d (List.mem_cons_of_mem c hd)) (by omega)
    refine ⟨r'', ?_, hstate'', ?_⟩
    · rw [List.foldlM_cons, hr']
      exact hr''
    · rw [List.length_cons]
      omega

theorem line_some {front : List Char} (hstate : r.state ≠ .eatCrnl) (hn : '\n' ∉ front)
    (hline : line = front ∨ line = front ++ ['\n']) (hcr : '\r' ∉ line)
    (hlen : r.field.length + line.length ≤ 131072) :
    ∃ r', line.foldlM processChar r = some r' ∧ r'.field.length ≤ r.field.length + line.length := by
  have hfront : ∀ c ∈ front, c ≠ '\n' ∧ c ≠ '\r' := by
    refine fun c hc => ⟨fun heq => hn (heq ▸ hc), fun heq => hcr ?_⟩
    rcases hline with rfl | rfl
    · exact heq ▸ hc
    · exact List.mem_append_left _ (heq ▸ hc)
  rcases hline with rfl | rfl
  · obtain ⟨r', hr', -, hlen'⟩ := front_some hstate hfront hlen
    exact ⟨r', hr', hlen'⟩
  · rw [List.length_append, List.length_singleton] at hlen ⊢
    obtain ⟨r', hr', hstate', hlen'⟩ := front_some hstate hfront (by omega)
    obtain ⟨r'', hr'', hlen'', -⟩ := @processChar_some r' '\n' hstate' (by omega)
    refine ⟨r'', ?_, by omega⟩
    rw [List.foldlM_append, hr']
    change (List.foldlM processChar r' ['\n'] : Option CsvReader) = some r''
    rw [List.foldlM_cons, hr'']
    rfl

theorem endLine_state (r : CsvReader) :
    r.endLine.state ≠ .eatCrnl ∧ r.endLine.field.length ≤ r.field.length := by
  unfold endLine
  cases hr : r.state with
  | _ => simp [saveField, withState, hr]

end CsvReader

theorem csvRecords_isSome {r : CsvReader} {lines : List (List Char)} (hstate : r.state ≠ .eatCrnl)
    (hlines : ∀ line ∈ lines, ∃ front, '\n' ∉ front ∧ (line = front ∨ line = front ++ ['\n']))
    (hcr : '\r' ∉ lines.flatten) (hlen : r.field.length + lines.flatten.length ≤ 131072) :
    (csvRecords r lines).isSome = true := by
  induction lines generalizing r with
  | nil => rfl
  | cons line lines ih =>
    rw [List.flatten_cons, List.mem_append, not_or] at hcr
    rw [List.flatten_cons, List.length_append] at hlen
    obtain ⟨front, hn, hline⟩ := hlines line List.mem_cons_self
    obtain ⟨r', hr', hlen'⟩ := CsvReader.line_some hstate hn hline hcr.1 (by omega)
    obtain ⟨hend, hlen''⟩ := CsvReader.endLine_state r'
    have hrest : ∀ line ∈ lines, ∃ front, '\n' ∉ front ∧ (line = front ∨ line = front ++ ['\n']) :=
      fun line h => hlines line (List.mem_cons_of_mem _ h)
    simp only [csvRecords, hr', Option.bind_eq_bind, Option.bind_some]
    split
    · have hstart : CsvReader.start.field.length + lines.flatten.length ≤ 131072 := by
        change 0 + lines.flatten.length ≤ 131072
        omega
      have hrecords := @ih .start CsvState.noConfusion hrest hcr.2 hstart
      obtain ⟨records, hrecords⟩ := Option.isSome_iff_exists.1 hrecords
      rw [hrecords]
      rfl
    · exact ih hend hrest hcr.2 (by omega)

/-- **A short text without carriage returns is read.** -/
theorem csvDictRows_isSome {text : List Char} (hcr : '\r' ∉ text) (hlen : text.length ≤ 131072) :
    (csvDictRows (textLines text)).isSome = true := by
  have hflat := flatten_textLines text
  have hstart : CsvReader.start.field.length + (textLines text).flatten.length ≤ 131072 := by
    rw [hflat]
    change 0 + text.length ≤ 131072
    omega
  have hrecords := @csvRecords_isSome .start _ CsvState.noConfusion (fun _ h => textLines_newline h)
    (by rwa [hflat]) hstart
  obtain ⟨records, hrecords⟩ := Option.isSome_iff_exists.1 hrecords
  rw [csvDictRows, hrecords]
  cases records with
  | nil => rfl
  | cons fieldnames records => rfl

end PeHackathon
