import PeHackathon.Python.Json

/-!
# `urllib.parse.urlparse`

The part of `urlsplit` that decides `scheme`, `netloc` and whether `ValueError` is raised. Two
checks on the host go into other libraries (`ipaddress` and `unicodedata`); they are the fields of
`HostChecks`.
-/

namespace PeHackathon

/-- What `urlsplit` asks other modules about a host. -/
structure HostChecks where
  /-- `_check_bracketed_netloc` raises nothing. -/
  bracketedOk : String → Bool
  /-- `unicodedata.normalize("NFKC", s)`. -/
  nfkc : String → String

/-- `_WHATWG_C0_CONTROL_OR_SPACE`. -/
def isC0ControlOrSpace (c : Char) : Bool := c.toNat ≤ 32

/-- `_UNSAFE_URL_BYTES_TO_REMOVE`. -/
def isUnsafeUrlByte (c : Char) : Bool := c == '\t' || c == '\r' || c == '\n'

def isAsciiAlpha (c : Char) : Bool := ('a' ≤ c && c ≤ 'z') || ('A' ≤ c && c ≤ 'Z')

def isAsciiDigit (c : Char) : Bool := '0' ≤ c && c ≤ '9'

/-- `scheme_chars`. -/
def isSchemeChar (c : Char) : Bool :=
  isAsciiAlpha c || isAsciiDigit c || c == '+' || c == '-' || c == '.'

/-- The scheme and the rest of the address. -/
def splitScheme (url : List Char) : List Char × List Char :=
  match url, url.idxOf? ':' with
  | c :: _, some n =>
    if isAsciiAlpha c && (url.take n).all isSchemeChar then
      ((url.take n).map Char.toLower, url.drop (n + 1))
    else ([], url)
  | _, _ => ([], url)

/-- `_splitnetloc(url, 2)` when the address starts with `//`. -/
def splitNetloc : List Char → List Char
  | '/' :: '/' :: rest => rest.takeWhile fun c => !(c == '/' || c == '?' || c == '#')
  | _ => []

/-- The checks on a host that raise `ValueError`. -/
def netlocOk (h : HostChecks) (netloc : List Char) : Bool :=
  let bracketsOk :=
    if netloc.contains '[' != netloc.contains ']' then false
    else if netloc.contains '[' then h.bracketedOk (String.ofList netloc)
    else true
  let nfkcOk :=
    if netloc.all fun c => c.toNat < 128 then true
    else
      let n := String.ofList (netloc.filter fun c => !(c == '@' || c == ':' || c == '#' ||
        c == '?'))
      h.nfkc n == n ||
        !(h.nfkc n).toList.any fun c => c == '/' || c == '?' || c == '#' || c == '@' || c == ':'
  bracketsOk && nfkcOk

/-- `urlparse(url)`: the scheme and the netloc, or `none` when it raises `ValueError`. -/
def urlparse (h : HostChecks) (url : String) : Option (String × String) :=
  let stripped := (url.toList.dropWhile isC0ControlOrSpace).filter fun c => !isUnsafeUrlByte c
  let sr := splitScheme stripped
  let netloc := splitNetloc sr.2
  if netlocOk h netloc then some (String.ofList sr.1, String.ofList netloc) else none

end PeHackathon
