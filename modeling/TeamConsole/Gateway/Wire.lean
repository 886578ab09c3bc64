import TeamConsole.Gateway.Http
import TeamConsole.Json.Printer

/-!
Requests and responses as they stand on a connection. A response is its head and its body, and
both are read byte by byte. A body has the length that its head announces, comes in chunks that
each tell their own length, or lasts until the connection ends.
-/

namespace TeamConsole.Wire

/-! ## Requests -/

/-- The host of a URL with its port, unless that is the port of the scheme. -/
def hostField (u : Url) : String :=
  u.host.write ++ (u.port.map (":" ++ Text.natural ·)).getD ""

def requestFields (q : HttpRequest) (accept : String) (body : List UInt8) :
    List (String × String) :=
  [("host", hostField q.url), ("accept", accept), ("connection", "close")]
    ++ (q.authorization.map fun a => ("authorization", a)).toList
    ++ (if q.body.isSome then
        [("content-type", "application/json"), ("content-length", Text.natural body.length)]
      else if q.method = .get then [] else [("content-length", "0")])

def requestBytes (q : HttpRequest) (accept : String) : List UInt8 :=
  let body := (q.body.map fun j => Text.Utf8.encode j.compact).getD []
  let fields := (requestFields q accept body).map fun (name, value) => name ++ ": " ++ value
  let lines := (q.method.name ++ " " ++ q.url.target ++ " HTTP/1.1") :: fields
  Text.Utf8.encode (String.join (lines.map (· ++ "\r\n")) ++ "\r\n") ++ body

/-! ## The head of a response -/

/-- The head of a response: its status, and its fields with names in small letters. -/
structure Head where
  status : Nat
  fields : List (String × String)
deriving DecidableEq, Repr

namespace Head

def field? (h : Head) (name : String) : Option String :=
  h.fields.lookup name

def readField (line : List Char) : Option (String × String) :=
  match line.dropWhile (· ≠ ':') with
  | _ :: value =>
    some (String.ofList ((line.takeWhile (· ≠ ':')).map Char.toLower),
      Text.trim (String.ofList value))
  | [] => none

/-- Reads a line that holds the status, after the version of the protocol. -/
def readStatus (line : List Char) : Option Nat :=
  Text.natural? ((line.drop "HTTP/1.1 ".length).takeWhile (· ≠ ' '))

def ofLines? : List (List Char) → Option Head
  | [] => none
  | first :: rest => do return ⟨← readStatus first, ← rest.mapM readField⟩

/-- Whether a head only announces the response to come. -/
def isInterim (h : Head) : Bool :=
  100 ≤ h.status ∧ h.status < 200

end Head

def lineFeed : UInt8 := 10

/-- The carriage return, which may stand before a line feed. -/
def carriageReturn : UInt8 := 13

/-- How far the head of a response is read. -/
inductive Opening where
  /-- The bytes of the line so far and the lines before it, both with the last first. -/
  | reading (line : List UInt8) (lines : List (List Char))
  | read (h : Head)
  | faulty
deriving DecidableEq, Repr

namespace Opening

/-- A head of which nothing is read. -/
def start : Opening := reading [] []

def endLine (line : List UInt8) (lines : List (List Char)) : Opening :=
  let bytes := if line.head? = some carriageReturn then line.drop 1 else line
  if bytes.isEmpty then
    match Head.ofLines? lines.reverse with
    | some h => if h.isInterim then start else read h
    | none => faulty
  else reading [] ((Text.Utf8.decodeLossy bytes.reverse).toList :: lines)

/-- Reads bytes up to the end of the head; tells those after it. -/
def feed : Opening → List UInt8 → Opening × List UInt8
  | reading line lines, b :: bs =>
    if b = lineFeed then (endLine line lines).feed bs else (reading (b :: line) lines).feed bs
  | o, bs => (o, bs)

/-- It does not matter in which portions the bytes of a head come. -/
theorem feed_append (o : Opening) (xs ys : List UInt8) :
    o.feed (xs ++ ys) = (o.feed xs).1.feed ((o.feed xs).2 ++ ys) := by
  induction xs generalizing o with
  | nil => cases o <;> simp [feed]
  | cons b bs ih =>
    cases o with
    | reading line lines =>
      by_cases h : b = lineFeed
      · simpa [feed, h] using ih (endLine line lines)
      · simpa [feed, h] using ih (reading (b :: line) lines)
    | read h => simp [feed]
    | faulty => simp [feed]

end Opening

/-! ## The body of a response -/

/-- How far the body of a response is read. -/
inductive Body where
  /-- So many bytes are to come. -/
  | counted (left : Nat)
  /-- The body lasts until the connection ends. -/
  | untilEnd
  /-- The line that tells the length of a chunk; its bytes so far, with the last first. -/
  | size (line : List UInt8)
  /-- So many bytes of a chunk are to come. -/
  | chunk (left : Nat)
  | chunkEnd
  /-- The fields after the last chunk, and whether the line so far is empty. -/
  | trailer (blank : Bool)
  | complete
  /-- What came is no body. -/
  | faulty
deriving DecidableEq, Repr

namespace Body

def ofLength (n : Nat) : Body :=
  if n = 0 then complete else counted n

def ofHead (h : Head) : Body :=
  if h.status = 204 ∨ h.status = 304 then complete
  else
    match h.field? "transfer-encoding" with
    | some coding => if coding.toLower = "chunked" then size [] else untilEnd
    | none =>
      match h.field? "content-length" with
      | some n => ((Text.natural? n.toList).map ofLength).getD faulty
      | none => untilEnd

/-- The length that stands at the beginning of a line. -/
def readSize (line : List Char) : Option Nat :=
  let digits := (line.takeWhile fun c => (Text.hexDigit? c).isSome).filterMap Text.hexDigit?
  if digits.isEmpty then none else some (Text.ofDigits 16 digits)

/-- The chunk after a line that tells its length; one without bytes is the last. -/
def ofSize (line : List UInt8) : Body :=
  match readSize (Text.Utf8.decodeLossy line.reverse).toList with
  | some 0 => trailer true
  | some n => chunk n
  | none => faulty

/-- Reads one byte; tells it if it belongs to the content. -/
def step (s : Body) (b : UInt8) : Body × Option UInt8 :=
  match s with
  | counted left => (if left ≤ 1 then complete else counted (left - 1), some b)
  | untilEnd => (untilEnd, some b)
  | size line => (if b = lineFeed then ofSize line else size (b :: line), none)
  | chunk left => (if left ≤ 1 then chunkEnd else chunk (left - 1), some b)
  | chunkEnd => (if b = lineFeed then size [] else chunkEnd, none)
  | trailer blank =>
    if b = lineFeed then (if blank then complete else trailer true, none)
    else (trailer (blank && b = carriageReturn), none)
  | complete => (complete, none)
  | faulty => (faulty, none)

/-- Reads bytes; tells those that belong to the content. -/
def feed (s : Body) : List UInt8 → Body × List UInt8
  | [] => (s, [])
  | b :: bs =>
    let (next, content) := s.step b
    let (last, more) := next.feed bs
    (last, content.toList ++ more)

/-- It does not matter in which portions the bytes of a body come. -/
theorem feed_append (s : Body) (xs ys : List UInt8) :
    s.feed (xs ++ ys) =
      let (middle, first) := s.feed xs
      let (last, second) := middle.feed ys
      (last, first ++ second) := by
  induction xs generalizing s with
  | nil => rfl
  | cons b bs ih => simp only [List.cons_append, feed, ih, List.append_assoc]

/-- Whether more bytes can change what is read. -/
def isOpen : Body → Bool
  | complete | faulty => false
  | _ => true

def isWhole : Body → Bool
  | complete | untilEnd => true
  | _ => false

end Body

end TeamConsole.Wire
