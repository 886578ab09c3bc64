import TeamConsole.Url.Host

/-!
URLs of HTTP servers. They are read as browsers read them: blanks at the ends and line breaks
anywhere do not count, a backslash is a slash, dots as segments are resolved, and what may not
stand in a part is percent-encoded.
-/

namespace TeamConsole

/-- The scheme of an HTTP server. -/
inductive Url.Scheme where
  | http
  | https
deriving DecidableEq, Repr

/-- The URL of an HTTP server; user name, password, path, query and fragment are encoded. -/
structure Url where
  scheme : Url.Scheme
  username : String
  password : Option String
  host : Url.Host
  /-- The port, unless it is that of the scheme. -/
  port : Option Nat
  /-- The segments of the path, each after a slash. There is at least one. -/
  path : List String
  query : Option String
  fragment : Option String
deriving DecidableEq, Repr

namespace Url

def Scheme.name : Scheme → String
  | http => "http"
  | https => "https"

def Scheme.defaultPort : Scheme → Nat
  | http => 80
  | https => 443

/-- The text before the host: user name and password. -/
def writeUserinfo (u : Url) : String :=
  let password := (u.password.map (":" ++ ·)).getD ""
  if u.username = "" ∧ u.password.isNone then "" else u.username ++ password ++ "@"

def writePath (path : List String) : String :=
  String.join (path.map ("/" ++ ·))

/-- Path and query, as a request names them. -/
def target (u : Url) : String :=
  writePath u.path ++ (u.query.map ("?" ++ ·)).getD ""

def write (u : Url) : String :=
  u.scheme.name ++ "://" ++ u.writeUserinfo ++ u.host.write
    ++ (u.port.map (":" ++ Text.natural ·)).getD ""
    ++ u.target ++ (u.fragment.map ("#" ++ ·)).getD ""

/-! ## Paths -/

/-- Whether a segment stands for the place where it is. -/
def isSingleDot (segment : List Char) : Bool :=
  [".", "%2e", "%2E"].contains (String.ofList segment)

/-- Whether a segment stands for the place above. -/
def isDoubleDot (segment : List Char) : Bool :=
  ["..", "%2e%2e", "%2e%2E", "%2E%2e", "%2E%2E", "%2e.", "%2E.", ".%2e", ".%2E"].contains
    (String.ofList segment)

/-- Whether a segment names a drive, which nothing leads above. -/
def isDrive (segment : String) : Bool :=
  match segment.toList with
  | [c, d] => c.isAlpha && (d = ':' || d = '|')
  | _ => false

def shorten (path : List String) : List String :=
  if path.getLast?.any isDrive then path else path.dropLast

def step (path : List String) (segment : List Char) (isLast : Bool) : List String :=
  if isDoubleDot segment then shorten path ++ (if isLast then [""] else [])
  else if isSingleDot segment then path ++ (if isLast then [""] else [])
  else path ++ [String.ofList segment]

/-- Adds segments to a path. -/
def steps (path : List String) : List (List Char) → List String
  | [] => path
  | [last] => step path last true
  | s :: rest => steps (step path s false) rest

/-- The segments of the text of a path, which both kinds of slash part. -/
def splitPath (cs : List Char) : List (List Char) :=
  (Text.splitOn '/' (cs.map fun c => if c = '\\' then '/' else c)).map EncodeSet.path.encode

/-- Whether a character is taken out of any text that should be a URL. -/
def isLineBreak (c : Char) : Bool :=
  c = '\t' || c = '\n' || c = '\r'

/-- Adds a segment, given as it is, to the end of a URL's path. The segments for this place and
the place above are passed over. -/
def pushSegment (path : List String) (segment : String) : List String :=
  if segment = "." ∨ segment = ".." then path
  else
    let above := if path = [""] then [] else path
    let cs := segment.toList.filter (!isLineBreak ·)
    step above (EncodeSet.segment.encode cs) true

/-- Adds segments to a URL's path, in place of an empty segment at its end. -/
def extend (u : Url) (segments : List String) : Url :=
  let path := if 1 < u.path.length ∧ u.path.getLast? = some "" then u.path.dropLast else u.path
  { u with path := segments.foldl pushSegment path }

def appendQuery (u : Url) (name value : String) : Url :=
  let pair := formEncode name ++ "=" ++ formEncode value
  let query := match u.query with
    | none | some "" => pair
    | some q => q ++ "&" ++ pair
  { u with query := some query }

/-! ## Reading -/

/-- Takes blanks and control characters off the ends, and line breaks out of a text. -/
def clean (text : String) : List Char :=
  let outer (c : Char) : Bool := c.toNat ≤ 0x20
  let cs := text.toList.dropWhile outer
  ((cs.reverse.dropWhile outer).reverse).filter (!isLineBreak ·)

/-- The scheme of a text in small letters, and what follows its colon. -/
def splitScheme (cs : List Char) : Option (String × List Char) :=
  let name := cs.takeWhile fun c => c.isAlphanum || c = '+' || c = '-' || c = '.'
  match name, cs.drop name.length with
  | c :: _, ':' :: rest =>
    if c.isAlpha then some (String.ofList (name.map Char.toLower), rest) else none
  | _, _ => none

/-- The rules for the part after a scheme. -/
inductive Rules where
  /-- A server has to be named; its port may be left out. -/
  | server (defaultPort : Nat)
  | file
  | other

def rulesOf (scheme : String) : Rules :=
  match scheme with
  | "http" | "ws" => .server 80
  | "https" | "wss" => .server 443
  | "ftp" => .server 21
  | "file" => .file
  | _ => .other

/-- The part of a text before its last at-sign, and the part after it. -/
def splitUserinfo (authority : List Char) : List Char × List Char :=
  let host := (authority.reverse.takeWhile (· ≠ '@')).reverse
  (authority.take (authority.length - host.length - 1), host)

/-- User name and password, encoded; an empty password counts as none. -/
def readUserinfo (cs : List Char) : String × Option String :=
  let name := cs.takeWhile (· ≠ ':')
  let password := cs.drop (name.length + 1)
  let encode (cs : List Char) := String.ofList (EncodeSet.userinfo.encode cs)
  (encode name, if password.isEmpty then none else some (encode password))

/-- The host of an authority, and what follows it: nothing or a colon and a port. Within
brackets a colon belongs to the host. -/
def splitHost (cs : List Char) (bracketed : Bool) : List Char × List Char :=
  match cs with
  | [] => ([], [])
  | c :: rest =>
    if c = ':' ∧ !bracketed then ([], cs)
    else
      let inside := if c = '[' then true else if c = ']' then false else bracketed
      let (host, after) := splitHost rest inside
      (c :: host, after)

/-- The port after a host. -/
def readPort (cs : List Char) : Except UrlError (Option Nat) :=
  match cs.drop 1 with
  | [] => .ok none
  | digits =>
    match Text.natural? digits with
    | some n => if n ≤ 65535 then .ok (some n) else .error .invalidPort
    | none => .error .invalidPort

/-- Splits a text before the first of some characters. -/
def splitBefore (marks : List Char) (cs : List Char) : List Char × List Char :=
  (cs.takeWhile (!marks.contains ·), cs.dropWhile (!marks.contains ·))

/-- Path, query and fragment of what follows an authority. -/
def readTail (cs : List Char) : List String × Option String × Option String :=
  let (body, fragment) := splitBefore ['#'] cs
  let (path, query) := splitBefore ['?'] body
  let path := match path with
    | '/' :: rest | '\\' :: rest => rest
    | rest => rest
  let encoded (s : EncodeSet) (cs : List Char) : Option String :=
    if cs.isEmpty then none else some (String.ofList (s.encode (cs.drop 1)))
  (steps [] (splitPath path), encoded .query query, encoded .fragment fragment)

/-- Reads an authority: user name, password, host and port. -/
def readAuthority (cs : List Char) :
    Except UrlError (String × Option String × Host × Option Nat) := do
  let (userinfo, rest) := splitUserinfo cs
  let (host, port) := splitHost rest false
  if host.isEmpty then throw .emptyHost
  let host ← Host.parse host
  let port ← readPort port
  let (username, password) := readUserinfo userinfo
  return (username, password, host, port)

/-- Checks the authority of a scheme without known rules. -/
def checkAuthority (cs : List Char) : Except UrlError Unit := do
  let (userinfo, rest) := splitUserinfo cs
  let (host, port) := splitHost rest false
  Host.checkOpaque host
  if host.isEmpty ∧ (!userinfo.isEmpty ∨ !port.isEmpty) then throw .emptyHost
  let _ ← readPort (port.takeWhile (· ≠ '\\'))

def readServer (scheme : Scheme) (cs : List Char) : Except UrlError Url := do
  let cs := cs.dropWhile fun c => c = '/' || c = '\\'
  let (authority, tail) := splitBefore ['/', '\\', '?', '#'] cs
  let (username, password, host, port) ← readAuthority authority
  let (path, query, fragment) := readTail tail
  let port := port.filter (· ≠ scheme.defaultPort)
  return { scheme, username, password, host, port, path, query, fragment }

def checkOther (rules : Rules) (cs : List Char) : Except UrlError Unit := do
  match rules with
  | .server _ =>
    let cs := cs.dropWhile fun c => c = '/' || c = '\\'
    let _ ← readAuthority (splitBefore ['/', '\\', '?', '#'] cs).1
  | .file =>
    match cs.map fun c => if c = '\\' then '/' else c with
    | '/' :: '/' :: rest =>
      let (host, _) := splitBefore ['/', '?', '#'] rest
      if !host.isEmpty ∧ !isDrive (String.ofList host) then
        let _ ← Host.parse host
    | _ => pure ()
  | .other =>
    match cs with
    | '/' :: '/' :: rest => checkAuthority (splitBefore ['/', '?', '#'] rest).1
    | _ => pure ()

/-- Reads a URL; none stands for one that is not that of an HTTP server. -/
def parse (text : String) : Except UrlError (Option Url) := do
  match splitScheme (clean text) with
  | none => throw .relativeWithoutBase
  | some ("http", rest) => return some (← readServer .http rest)
  | some ("https", rest) => return some (← readServer .https rest)
  | some (scheme, rest) =>
    checkOther (rulesOf scheme) rest
    return none

end Url

end TeamConsole
