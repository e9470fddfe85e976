import WordTally.Text.Numeral
import WordTally.Url.Basic

set_option autoImplicit false

namespace WordTally.Url

open Text

/-- The text without controls and spaces at its ends and without tabs and line breaks. -/
def tidy (text : List Char) : List Char :=
  let cut := text.dropWhile (· ≤ ' ')
  (cut.reverse.dropWhile (· ≤ ' ')).reverse.filter fun c => !isLineBreakOrTab c

def isSchemeChar (c : Char) : Bool := c.isAlphanum || c = '+' || c = '-' || c = '.'

def scheme? (text : List Char) : Option (String × List Char) :=
  match text with
  | first :: _ =>
    if first.isAlpha then
      match text.dropWhile isSchemeChar with
      | ':' :: rest => some (String.ofList ((text.takeWhile isSchemeChar).map Char.toLower), rest)
      | _ => none
    else none
  | [] => none

def isDot (segment : List Char) : Bool :=
  segment.map Char.toLower = ['.'] || segment.map Char.toLower = ['%', '2', 'e']

def isDoubleDot (segment : List Char) : Bool :=
  let lower := segment.map Char.toLower
  lower = ['.', '.'] || lower = ['.', '%', '2', 'e'] || lower = ['%', '2', 'e', '.'] ||
    lower = ['%', '2', 'e', '%', '2', 'e']

/-- Appends the segments of a path. One dot is the directory itself, two are the one above it; at
the end of the path either leaves an empty segment. -/
def walk (before : List String) : List (List Char) → List String
  | [] => before
  | segment :: rest =>
    let last := if rest.isEmpty then [""] else []
    if isDoubleDot segment then walk (before.dropLast ++ last) rest
    else if isDot segment then walk (before ++ last) rest
    else walk (before ++ [String.ofList (percentEncode EncodeSet.path segment)]) rest

def pathSeparator (special : Bool) (c : Char) : Bool := c = '/' || (special && c = '\\')

/-- The path of a hierarchical URL. With a special scheme it is never empty. -/
def readPath (special : Bool) (text : List Char) : List String :=
  match text with
  | [] => if special then [""] else []
  | c :: rest =>
    walk [] ((if pathSeparator special c then rest else text).splitOnP (pathSeparator special))

def after? : List Char → Option (List Char)
  | _ :: rest => some rest
  | [] => none

/-- A text cut into path, query and fragment. -/
def cutTail (text : List Char) : List Char × Option (List Char) × Option (List Char) :=
  let (front, fragment) := cutAt (· == '#') text
  let (path, query) := cutAt (· == '?') front
  (path, after? query, after? fragment)

def readQuery (special : Bool) (text : List Char) : String :=
  String.ofList
    (percentEncode (if special then EncodeSet.specialQuery else EncodeSet.query) text)

def readFragment (text : List Char) : String :=
  String.ofList (percentEncode EncodeSet.fragment text)

/-- A decimal number of sixteen bits; no digits are no number. -/
def readPort (text : List Char) : Except UrlError (Option Nat) :=
  if text.isEmpty then .ok none
  else match digitsValue 10 text with
    | some port => if port ≤ Text.max16 then .ok (some port) else .error .invalidPort
    | none => .error .invalidPort

/-- User name and password; an empty password is none. -/
def readCredentials (text : List Char) : String × Option String :=
  let (username, password) := cutAt (· == ':') text
  let encode := fun part => String.ofList (percentEncode EncodeSet.userinfo part)
  match password with
  | _ :: first :: rest => (encode username, some (encode (first :: rest)))
  | _ => (encode username, none)

/-- Host and port around the first colon that is not inside brackets. -/
def cutPort : Bool → List Char → List Char × Option (List Char)
  | _, [] => ([], none)
  | bracket, c :: rest =>
    if c = ':' ∧ !bracket then ([], some rest)
    else
      let (host, port) := cutPort (c = '[' ∨ (bracket ∧ c ≠ ']')) rest
      (c :: host, port)

/-- Reads what stands between the slashes and `tail`. Only a URL without a special scheme may do
without a host, and then it has neither credentials nor a port. -/
def readAuthority (scheme : String) (text tail : List Char) : Except UrlError Authority := do
  let (credentials, place) := match cutAtLast? '@' text with
    | some (credentials, place) => (some credentials, place)
    | none => (none, text)
  if credentials = some [] ∧ place.isEmpty ∧ !tail.isEmpty then .error .emptyHost
  let (username, password) := readCredentials (credentials.getD [])
  let (host, port) := cutPort false place
  if host.isEmpty then
    if isSpecialScheme scheme ∨ port.isSome ∨ !username.isEmpty ∨ password.isSome then
      .error .emptyHost
    else return ⟨"", none, .domain "", none⟩
  else
    let host ← if isSpecialScheme scheme then Host.read host else Host.readPlain host
    let port ← readPort (port.getD [])
    return ⟨username, password, host, if port = defaultPort? scheme then none else port⟩

def endsAuthority (special : Bool) (c : Char) : Bool :=
  c = '/' || c = '?' || c = '#' || (special && c = '\\')

def build (scheme : String) (authority : Option Authority) (path : Path)
    (query fragment : Option (List Char)) : Url :=
  ⟨scheme, authority, path, query.map (readQuery (isSpecialScheme scheme)),
    fragment.map readFragment⟩

def readWithAuthority (scheme : String) (text : List Char) : Except UrlError Url := do
  let special := isSpecialScheme scheme
  let (front, tail) := cutAt (endsAuthority special) text
  let authority ← readAuthority scheme front tail
  let (path, query, fragment) := cutTail tail
  return build scheme (some authority) (.segments (readPath special path)) query fragment

/-- Without two slashes there is no authority, and without one there is no hierarchy. -/
def readWithoutAuthority (scheme : String) (text : List Char) : Url :=
  let (path, query, fragment) := cutTail text
  match path with
  | '/' :: _ => build scheme none (.segments (readPath false path)) query fragment
  | _ =>
    build scheme none (.plain (String.ofList (percentEncode EncodeSet.none path))) query fragment

/-- A file has a host only after two slashes, and `localhost` is none. -/
def readFile (scheme : String) (text : List Char) : Except UrlError Url := do
  let slash := pathSeparator true
  let nobody : Authority := ⟨"", none, .domain "", none⟩
  let (authority, tail) ← match text with
    | a :: b :: rest =>
      if slash a && slash b then
        let (front, tail) := cutAt (endsAuthority true) rest
        if front.isEmpty then .ok (nobody, tail)
        else do
          let host ← Host.read front
          let host := if host = .domain "localhost" then .domain "" else host
          .ok ({ nobody with host := host }, tail)
      else .ok (nobody, text)
    | _ => .ok (nobody, text)
  let (path, query, fragment) := cutTail tail
  let segments := (readPath true path).dropWhile (·.isEmpty)
  return build scheme (some authority) (.segments (if segments.isEmpty then [""] else segments))
    query fragment

def parse (text : String) : Except UrlError Url :=
  match scheme? (tidy text.toList) with
  | none => .error .relativeWithoutBase
  | some (scheme, rest) =>
    if isWebScheme scheme then
      readWithAuthority scheme (rest.dropWhile (pathSeparator true))
    else if scheme = "file" then readFile scheme rest
    else match rest with
      | '/' :: '/' :: rest => readWithAuthority scheme rest
      | _ => .ok (readWithoutAuthority scheme rest)

end WordTally.Url
