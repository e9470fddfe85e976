import WordTally.Url.Host

set_option autoImplicit false

namespace WordTally

namespace Url

structure Authority where
  /-- Percent-encoded. -/
  username : String
  /-- Percent-encoded. -/
  password : Option String
  host : Host
  /-- Nothing for the usual port of the scheme. -/
  port : Option Nat
  deriving DecidableEq, Repr, Inhabited

inductive Path where
  /-- A text without segments, of a URL that has no hierarchy. -/
  | plain (text : String)
  /-- Each segment follows a slash. -/
  | segments (names : List String)
  deriving DecidableEq, Repr, Inhabited

/-- The schemes whose URLs always have a host and a path. -/
def isWebScheme (scheme : String) : Bool := ["http", "https", "ws", "wss", "ftp"].contains scheme

def isSpecialScheme (scheme : String) : Bool := isWebScheme scheme || scheme == "file"

def defaultPort? (scheme : String) : Option Nat :=
  if scheme = "http" ∨ scheme = "ws" then some 80
  else if scheme = "https" ∨ scheme = "wss" then some 443
  else if scheme = "ftp" then some 21
  else none

end Url

structure Url where
  scheme : String
  authority : Option Url.Authority
  path : Url.Path
  query : Option String
  fragment : Option String
  deriving DecidableEq, Repr, Inhabited

namespace Url

namespace Authority

def credentialsText (authority : Authority) : String :=
  let password := match authority.password with
    | some password => ":" ++ password
    | none => ""
  let credentials := authority.username ++ password
  if credentials.isEmpty then "" else credentials ++ "@"

def portText (authority : Authority) : String :=
  match authority.port with
  | some port => ":" ++ toString port
  | none => ""

def text (authority : Authority) : String :=
  authority.credentialsText ++ authority.host.text ++ authority.portText

end Authority

def segmentsText (segments : List String) : String :=
  String.join (segments.map fun segment => "/" ++ segment)

def Path.text : Path → String
  | .plain words => words
  | .segments names => segmentsText names

def queryText (url : Url) : String :=
  match url.query with
  | some query => "?" ++ query
  | none => ""

def fragmentText (url : Url) : String :=
  match url.fragment with
  | some fragment => "#" ++ fragment
  | none => ""

/-- A path that would look like a host is kept apart from the scheme by a dot. -/
def authorityText (url : Url) : String :=
  match url.authority, url.path with
  | some authority, _ => "//" ++ authority.text
  | none, .segments ("" :: _ :: _) => "/."
  | none, _ => ""

def text (url : Url) : String :=
  url.scheme ++ ":" ++ url.authorityText ++ url.path.text ++ url.queryText ++ url.fragmentText

def target (url : Url) : String := url.path.text ++ url.queryText

/-- Whether endpoints can be appended to the URL. -/
def canBeBase (url : Url) : Bool :=
  match url.path with
  | .plain _ => false
  | .segments _ => true

def hasHost (url : Url) : Bool :=
  match url.authority with
  | some authority => authority.host != .domain ""
  | none => false

def withoutCredentials (url : Url) : Url :=
  { url with authority := url.authority.map fun authority =>
      { authority with username := "", password := none } }

/-- The port, the usual one of the scheme when none is written. -/
def effectivePort (url : Url) : Option Nat :=
  match url.authority with
  | some authority => authority.port.or (defaultPort? url.scheme)
  | none => none

/-- The segments without the empty one at the end; a lone slash stays. -/
def popIfEmpty (segments : List String) : List String :=
  if 2 ≤ segments.length ∧ segments.getLast? = some "" then segments.dropLast else segments

def isLineBreakOrTab (c : Char) : Bool := c = '\t' ∨ c = '\n' ∨ c = '\r'

/-- Appends one name. A lone slash takes it as its first segment. The names of the directory itself
and of the one above it are left out; should a name turn into one of them without its tabs and line
breaks, it acts as such. -/
def push (special : Bool) (segments : List String) (name : String) : List String :=
  if name = "." ∨ name = ".." then segments
  else
    let before := if segments = [""] then [] else segments
    let name := name.toList.filter fun c => !isLineBreakOrTab c
    if name = ['.', '.'] then before.dropLast ++ [""]
    else if name = ['.'] then before ++ [""]
    else
      let set := if special then EncodeSet.specialSegment else EncodeSet.segment
      before ++ [String.ofList (percentEncode set name)]

/-- The URL of an endpoint below a base, one segment for each name. A URL without hierarchy stays
as it is. -/
def join (base : Url) (names : List String) : Url :=
  match base.path with
  | .plain _ => base
  | .segments segments =>
    { base with
      path := .segments (names.foldl (push (isSpecialScheme base.scheme)) (popIfEmpty segments)) }

end Url

end WordTally
