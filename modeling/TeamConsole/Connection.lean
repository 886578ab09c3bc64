import TeamConsole.Gateway.Wire
import Std.Async.DNS
import Std.Async.TCP

/-!
Connections to servers. Each request has a connection of its own, which ends with the response.
There is no connection to a server that asks for encryption.
-/

namespace TeamConsole

structure Connection where
  socket : Std.Async.TCP.Socket.Client

namespace Connection

def addresses (port : UInt16) : Url.Host → IO (List Std.Net.SocketAddress)
  | .domain name => do
    let found ← (Std.Async.DNS.getAddrInfo name "").block
    return found.toList.map fun
      | .v4 address => .v4 ⟨address, port⟩
      | .v6 address => .v6 ⟨address, port⟩
  | .ipv4 address =>
    let octet (i : Fin 4) : UInt8 := .ofNat (address / Nat.pow 256 (3 - i.val))
    return [.v4 ⟨⟨Vector.ofFn octet⟩, port⟩]
  | .ipv6 pieces =>
    let piece (i : Fin 8) : UInt16 := .ofNat (pieces.getD i.val 0)
    return [.v6 ⟨⟨Vector.ofFn piece⟩, port⟩]

/-- Connects to the first address that accepts. -/
def ofAddresses? : List Std.Net.SocketAddress → IO (Option Connection)
  | [] => return none
  | address :: rest => do
    try
      let socket ← Std.Async.TCP.Socket.Client.mk
      (socket.connect address).block
      return some ⟨socket⟩
    catch _ => ofAddresses? rest

/-- Connects to the server of a URL. -/
def ofUrl? (u : Url) : IO (Option Connection) :=
  match u.scheme with
  | .https => return none
  | .http => do
    try
      ofAddresses? (← addresses (.ofNat (u.port.getD u.scheme.defaultPort)) u.host)
    catch _ => return none

def send (c : Connection) (bytes : List UInt8) : IO Unit :=
  (c.socket.send ⟨bytes.toArray⟩).block

/-- The most bytes that are received at once. -/
def portion : UInt64 := 65536

/-- The bytes that come next; none once the connection has ended or is lost. -/
def receive? (c : Connection) : IO (Option (List UInt8)) := do
  try
    return (← (c.socket.recv? portion).block).map (·.toList)
  catch _ => return none

/-- Reads the head of a response, with the bytes that came after it. -/
partial def readHead (c : Connection) (o : Wire.Opening) :
    IO (Option (Wire.Head × List UInt8)) := do
  let some bytes ← c.receive? | return none
  match o.feed bytes with
  | (.read h, rest) => return some (h, rest)
  | (.faulty, _) => return none
  | (o, _) => c.readHead o

/-- Reads the body of a response: `take` is handed its content as it comes. -/
partial def readBody {σ : Type} (c : Connection) (take : σ → List UInt8 → IO σ) (s : σ)
    (body : Wire.Body) (bytes : List UInt8) : IO (σ × Wire.Body) := do
  let (body, content) := body.feed bytes
  let s ← take s content
  if !body.isOpen then return (s, body)
  match ← c.receive? with
  | some bytes => c.readBody take s body bytes
  | none => return (s, body)

end Connection

/-- A response of which the head has come. -/
structure Incoming where
  connection : Connection
  head : Wire.Head
  /-- The bytes that came after the head. -/
  bytes : List UInt8

namespace Incoming

/-- Sends a request for content of the type `accept`; none if there is no response. -/
def ofRequest? (accept : String) (q : HttpRequest) : IO (Option Incoming) := do
  let some c ← Connection.ofUrl? q.url | return none
  try
    c.send (Wire.requestBytes q accept)
    let read ← c.readHead .start
    return read.map fun (head, bytes) => ⟨c, head, bytes⟩
  catch _ => return none

/-- Hands the content of the body to `take` as it comes; tells whether the body is whole. -/
def content {σ : Type} (i : Incoming) (take : σ → List UInt8 → IO σ) (s : σ) : IO (σ × Bool) := do
  let (s, body) ← i.connection.readBody take s (.ofHead i.head) i.bytes
  return (s, body.isWhole)

def withoutBody (i : Incoming) : HttpResponse :=
  ⟨i.head.status, i.head.field? "location", [], true⟩

end Incoming

def Network.connections : Network IO := fun q => do
  let some i ← Incoming.ofRequest? "*/*" q | return none
  let (body, complete) ← i.content (fun (s : List (List UInt8)) bytes => return bytes :: s) []
  return some { i.withoutBody with body := body.reverse.flatten, complete }

end TeamConsole
