import ClusterDesk.Web.Host

/-!
# Addresses on the web

An absolute address, taken apart and written in its canonical form. The schemes of the web have a
host, their path is cleared of dot segments, and a backslash counts as a slash.
-/

namespace ClusterDesk.Web

structure Url where
  scheme : String
  /-- The host; none for an address without slashes in front of its path, and empty where nothing
  stands behind them. -/
  host : Option (List Char)
  /-- The port, unless it is the one the scheme implies. -/
  port : Option Nat
  path : List Char
  query : Option (List Char)
  fragment : Option (List Char)
deriving DecidableEq, Repr

namespace Url

/-- The port that a scheme of the web implies. -/
def impliedPort? : String → Option Nat
  | "http" => some 80
  | "https" => some 443
  | "ws" => some 80
  | "wss" => some 443
  | "ftp" => some 21
  | _ => none

def isSpecial (scheme : String) : Bool :=
  (impliedPort? scheme).isSome

/-- Whether pages are served under a scheme. -/
def isServed (scheme : String) : Bool :=
  scheme == "http" || scheme == "https"

/-- Writes the bytes of the given and of all control and non-ASCII characters with `%`. -/
def escape (reserved : String) (cs : List Char) : List Char :=
  cs.flatMap fun c =>
    if c.toNat ≤ 0x1F || 0x7F ≤ c.toNat || reserved.toList.contains c then
      (String.utf8EncodeChar c).flatMap percent
    else [c]

def pathReserved : String := " \"#<>?\x60\x7b\x7d^"

def queryReserved : String := " \"#<>'"

def fragmentReserved : String := " \"<>\x60"

/-- A text without the blanks around it and without tabs and line breaks. -/
def clean (s : String) : List Char :=
  let isEdge := fun c : Char => c.toNat ≤ 0x20
  let inner := ((s.toList.dropWhile isEdge).reverse.dropWhile isEdge).reverse
  inner.filter fun c => c != '\t' && c != '\n' && c != '\r'

/-- The scheme in small letters, and what stands behind its colon. -/
def splitScheme? (cs : List Char) : Option (String × List Char) :=
  let isScheme := fun c : Char => c.isAlphanum || c == '+' || c == '-' || c == '.'
  let scheme := cs.takeWhile isScheme
  match scheme, cs.dropWhile isScheme with
  | first :: _, ':' :: rest =>
    if first.isAlpha then some (String.ofList (scheme.map Char.toLower), rest) else none
  | _, _ => none

/-- The port behind a host: digits below `2 ^ 16`, or nothing. -/
def port? (cs : List Char) : Option (Option Nat) :=
  if cs.isEmpty then some none
  else do
    let n ← Text.number? 10 cs
    if n < UInt16.size then some (some n) else none

/-- The host and the port; a colon between brackets belongs to the host. -/
def splitPort (cs : List Char) : List Char × List Char :=
  match cs with
  | '[' :: _ =>
    let host := cs.takeWhile (· != ']')
    match cs.drop host.length with
    | ']' :: ':' :: port => (host ++ [']'], port)
    | rest => (host ++ rest, [])
  | _ => (cs.takeWhile (· != ':'), (cs.dropWhile (· != ':')).drop 1)

/-- What stands behind the name of a user. -/
def dropUser (cs : List Char) : List Char :=
  (cs.reverse.takeWhile (· != '@')).reverse

def isDot (cs : List Char) : Bool :=
  let name := String.ofList (cs.map Char.toLower)
  name == "." || name == "%2e"

def isDoubleDot (cs : List Char) : Bool :=
  let name := String.ofList (cs.map Char.toLower)
  name == ".." || name == ".%2e" || name == "%2e." || name == "%2e%2e"

/-- Adds segments to a path that is kept with its last segment first. -/
def walk (done : List (List Char)) : List (List Char) → List (List Char)
  | [] => done
  | [last] =>
    if isDoubleDot last then [] :: done.drop 1
    else if isDot last then [] :: done
    else last :: done
  | segment :: rest =>
    if isDoubleDot segment then walk (done.drop 1) rest
    else if isDot segment then walk done rest
    else walk (segment :: done) rest

/-- A path without dot segments; it starts with a slash. -/
def clearPath (cs : List Char) : List Char :=
  let segments := match splitAt '/' cs with
    | [] :: first :: rest => first :: rest
    | all => all
  ((walk [] segments).reverse.flatMap fun segment => '/' :: segment)

/-- The parts before the fragment, the fragment, and before it the query. -/
def splitTail (cs : List Char) : List Char × Option (List Char) × Option (List Char) :=
  let body := cs.takeWhile (· != '#')
  let fragment := match cs.drop body.length with
    | '#' :: rest => some rest
    | _ => none
  let front := body.takeWhile (· != '?')
  let query := match body.drop front.length with
    | '?' :: rest => some rest
    | _ => none
  (front, query, fragment)

def splitAuthority (cs : List Char) : List Char × List Char :=
  (cs.takeWhile (· != '/'), cs.dropWhile (· != '/'))

/-- An address of the web: slashes, an authority and a path. -/
def ofWeb? (scheme : String) (front : List Char) : Option Url := do
  let front := (front.map fun c => if c == '\\' then '/' else c).dropWhile (· == '/')
  let (authority, path) := splitAuthority front
  let (host, port) := splitPort (dropUser authority)
  let host ← Host.parse? host
  let port ← port? port
  let port := if port == impliedPort? scheme then none else port
  return ⟨scheme, some host, port, clearPath (escape pathReserved path), none, none⟩

def ofOther? (scheme : String) (front : List Char) : Option Url :=
  match front with
  | '/' :: '/' :: rest => do
    let (authority, path) := splitAuthority rest
    let (host, port) := splitPort (dropUser authority)
    if host.any fun c => Host.isForbidden c && c != '%' && c != '[' && c != ']' && c != ':' then none
    else
      let port ← port? port
      let path := if path.isEmpty then [] else clearPath (escape pathReserved path)
      return ⟨scheme, some (escape "" host), port, path, none, none⟩
  | '/' :: _ => some ⟨scheme, none, none, clearPath (escape pathReserved front), none, none⟩
  | _ => some ⟨scheme, none, none, escape "" front, none, none⟩

def parse? (s : String) : Option Url := do
  let (scheme, rest) ← splitScheme? (clean s)
  let (front, query, fragment) := splitTail rest
  let url ← if isSpecial scheme then ofWeb? scheme front else ofOther? scheme front
  return { url with
    query := query.map (escape queryReserved)
    fragment := fragment.map (escape fragmentReserved) }

def withQuery (url : Url) (parameters : Query) : Url :=
  if parameters.isEmpty then url
  else
    let added := Query.encode parameters
    match url.query with
    | none => { url with query := some added }
    | some [] => { url with query := some added }
    | some before => { url with query := some (before ++ '&' :: added) }

def hasHost (url : Url) : Bool :=
  match url.host with
  | some host => !host.isEmpty
  | none => false

/-- The text in canonical form; the name of a user is left out. -/
def text (url : Url) : String :=
  let host := match url.host with
    | some host => ['/', '/'] ++ host
    | none => []
  let port := match url.port with
    | some port => ':' :: Nat.toDigits 10 port
    | none => []
  let query := match url.query with
    | some query => '?' :: query
    | none => []
  let fragment := match url.fragment with
    | some fragment => '#' :: fragment
    | none => []
  url.scheme ++ ":" ++ String.ofList (host ++ port ++ url.path ++ query ++ fragment)

/-- The path and the query, as they are sent. -/
def target (url : Url) : String :=
  match url.query with
  | some query => String.ofList (url.path ++ '?' :: query)
  | none => String.ofList url.path

end Url

end ClusterDesk.Web
