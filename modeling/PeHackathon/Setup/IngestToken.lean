import PeHackathon.Js.Text
import PeHackathon.Js.Utf8
import PeHackathon.Lib.Dict
import PeHackathon.Lib.Pattern

/-!
# The ingest token of `setup-railway.js`

`readLogIngestTokenFromFile` goes through `.env.railway.setup` line by line.
`ensureLogIngestTokenForHttpIngest` sets `LOG_INGEST_TOKEN`, from the file or to a new secret, and
writes a new one to the file; where to write it is decided by regular expressions on the whole text,
whose `\s*` also matches line breaks.
-/

namespace PeHackathon.Setup

open Js Lib

/-- `LOG_INGEST_TOKEN`. -/
def tokenName : List Char := "LOG_INGEST_TOKEN".toList

/-! ## The reader -/

/-- The `\r` that `\r?\n` takes off a line. -/
def dropCr (line : List Char) : List Char :=
  if line.getLast? = some '\r' then line.dropLast else line

/-- `text.split(/\r?\n/)`. -/
def splitLines (text : List Char) : List (List Char) :=
  (text.splitOn '\n').dropLast.map dropCr ++ (text.splitOn '\n').getLast?.toList

/-- Key and value of a line, if it is an assignment. -/
def lineAssignment (line : List Char) : Option (List Char × List Char) :=
  let s := trimChars line
  if s = [] ∨ s.head? = some '#' then none
  else
    match s.idxOf? '=' with
    | none => none
    | some eq => if eq = 0 then none else some (trimChars (s.take eq), trimChars (s.drop (eq + 1)))

/-- `val.startsWith(quote) && val.endsWith(quote)`. -/
def quotedBy (quote : Char) (val : List Char) : Bool :=
  val.head? = some quote && val.getLast? = some quote

/-- `val`, by `slice(1, -1)` if it is quoted. -/
def unquote (val : List Char) : List Char :=
  if quotedBy '"' val || quotedBy '\'' val then (val.drop 1).dropLast else val

/-- The token of a line that has one. -/
def lineToken (line : List Char) : Option (List Char) :=
  match lineAssignment line with
  | none => none
  | some (key, val) =>
    if key = tokenName then
      let trimmed := trimChars (unquote val)
      if trimmed = [] then none else some trimmed
    else none

/-- `none` is a file that does not exist. -/
def readLogIngestTokenFromFile : Option (List UInt8) → List Char
  | none => []
  | some bytes => ((splitLines (utf8Decode bytes)).findSome? lineToken).getD []

/-! ## The regular expressions -/

/-- What `^` and `$` stop at with the flag `m`, and `.` never matches. -/
def lineTerminator (c : Char) : Bool := c = '\n' || c = '\r' || c.toNat = 0x2028 || c.toNat = 0x2029

/-- `^\s*LOG_INGEST_TOKEN\s*=`. -/
def tokenPattern : Pattern Char :=
  .lineStart lineTerminator :: .many isSpace ::
    (Pattern.word tokenName ++ [.many isSpace, .one (· == '=')])

/-- `^\s*LOG_INGEST_TOKEN\s*=\s*\S`. -/
def tokenValuePattern : Pattern Char := tokenPattern ++ [.many isSpace, .one fun c => !isSpace c]

/-- `text.replace(/^(\s*LOG_INGEST_TOKEN\s*=\s*).*$/m, "$1" + t)`. -/
def replaceToken (t text : List Char) : List Char :=
  Pattern.replaceFirst (tokenPattern ++ [.many isSpace])
    [.many fun c => !lineTerminator c, .lineEnd lineTerminator] (· ++ t) text

/-! ## The writer -/

/-- What the script sees and changes: the two files, `process.env`, and what it has printed. -/
structure SetupState where
  setupFile : Option (List UInt8)
  exampleFile : Option (List UInt8)
  env : Dict String (List Char)
  console : List String

namespace SetupState

/-- `process.env[name] || ""`. -/
def getEnv (s : SetupState) (name : String) : List Char := (s.env.get name).getD []

/-- `process.env[name] = value`: the environment holds C strings, which end at the first NUL. -/
def setEnv (s : SetupState) (name : String) (value : List Char) : SetupState :=
  { s with env := s.env.set name (value.takeWhile (· ≠ '\x00')) }

def print (s : SetupState) (message : String) : SetupState :=
  { s with console := s.console ++ [message] }

end SetupState

/-- `crypto.randomBytes(32).toString("hex")`. -/
def hexToken (random : Fin 32 → UInt8) : List Char :=
  (List.ofFn random).flatMap fun b => [Nat.digitChar (b.toNat / 16), Nat.digitChar (b.toNat % 16)]

/-- What is appended to a file that does not name the token. -/
def tokenSection (t : List Char) : List Char :=
  "\n# HTTP log ingest → dashboard-backend /api/ingest (no Kafka)\nLOG_INGEST_TOKEN=".toList ++
    t ++ ['\n']

/-- `if (!t) { t = readLogIngestTokenFromFile(setupPath); ... }`. -/
def adoptFileToken (s : SetupState) : SetupState :=
  if trimChars (s.getEnv "LOG_INGEST_TOKEN") = [] then
    if readLogIngestTokenFromFile s.setupFile = [] then s
    else s.setEnv "LOG_INGEST_TOKEN" (readLogIngestTokenFromFile s.setupFile)
  else s

/-- `if (!fs.existsSync(setupPath)) ...`. -/
def createSetupFile (s : SetupState) : SetupState :=
  match s.setupFile with
  | some _ => s
  | none =>
    match s.exampleFile with
    | some bytes => { s with setupFile := some bytes }
    | none =>
      { s with
        setupFile :=
          some (utf8Encode "# Railway setup — see RAILWAY.md\nRAILWAY_API_TOKEN=\n".toList) }

/-- What is done with the text of the file. -/
def saveToken (t : List Char) (s : SetupState) : SetupState :=
  let bytes := s.setupFile.getD []
  let text := utf8Decode bytes
  if tokenValuePattern.test text then
    let fromFile := readLogIngestTokenFromFile s.setupFile
    if fromFile = [] then
      s.print ("(Variable sync) .env.railway.setup has a LOG_INGEST_TOKEN line that could not be parsed; " ++
        "fix the file or export LOG_INGEST_TOKEN in the shell.")
    else s.setEnv "LOG_INGEST_TOKEN" fromFile
  else
    let saved :=
      if tokenPattern.test text then utf8Encode (replaceToken t text) else bytes ++
        utf8Encode (tokenSection t)
    { s with setupFile := some saved }.print
      ("\n(Variable sync) Generated LOG_INGEST_TOKEN and saved it to .env.railway.setup (gitignored).\n" ++
        "Redeploy url-shortener-a, url-shortener-b, and dashboard-backend so they pick up variables " ++
        "(e.g. run again with SKIP_DEPLOY_ON_VARIABLE_SYNC=0, or redeploy in the Railway UI).\n")

/-- `byName` are the names of the services, `random` what `crypto.randomBytes(32)` answers. -/
def ensureLogIngestTokenForHttpIngest (byName : List String) (kafkaService : Bool)
    (random : Fin 32 → UInt8) (s : SetupState) : SetupState :=
  if kafkaService then s
  else if s.env.get "SKIP_LOG_INGEST_AUTO_TOKEN" = some "1".toList ∨
      s.env.get "SKIP_LOG_INGEST_AUTO_TOKEN" = some "true".toList then s
  else if "dashboard-backend" ∉ byName ∨ "url-shortener-a" ∉ byName then s
  else
    let s := adoptFileToken s
    if trimChars (s.getEnv "LOG_INGEST_TOKEN") ≠ [] then s
    else saveToken (hexToken random)
      (createSetupFile (s.setEnv "LOG_INGEST_TOKEN" (hexToken random)))

end PeHackathon.Setup
