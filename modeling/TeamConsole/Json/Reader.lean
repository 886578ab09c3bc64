import TeamConsole.Json.Token

/-!
Reading a JSON value from its tokens. The reader keeps the open arrays and objects around the
place where it stands and takes one token at a time.
-/

namespace TeamConsole.Json

/-- An array or object whose end is still to come, with its last item or member first. A member
whose name has no text makes the object unreadable. -/
inductive Frame where
  | array (items : List Json)
  | object (name : Option String) (members : List (Option String × Json))

/-- Where the reader stands, within the open frames. -/
inductive Reader where
  | value (frames : List Frame)
  /-- After an opening bracket. -/
  | opened (frames : List Frame)
  /-- After an opening brace. -/
  | openedObject (frames : List Frame)
  /-- After a comma between members. -/
  | member (members : List (Option String × Json)) (frames : List Frame)
  | colon (name : Option String) (members : List (Option String × Json)) (frames : List Frame)
  | settled (value : Json) (frames : List Frame)

def objectOf (members : List (Option String × Json)) : Json :=
  match members.reverse.mapM fun m => m.1.map (·, m.2) with
  | some members => .obj members
  | none => .unreadable

/-- Reads a token where a value has to come. -/
def Reader.startValue? (frames : List Frame) : Token → Option Reader
  | .openArray => some (.opened frames)
  | .openObject => some (.openedObject frames)
  | .string (some s) => some (.settled (.str s) frames)
  | .string none => some (.settled .unreadable frames)
  | .scalar v => some (.settled v frames)
  | _ => none

def Reader.step? : Reader → Token → Option Reader
  | .value frames, t => startValue? frames t
  | .opened frames, .closeArray => some (.settled (.arr []) frames)
  | .opened frames, t => startValue? (.array [] :: frames) t
  | .openedObject frames, .closeObject => some (.settled (.obj []) frames)
  | .openedObject frames, .string name => some (.colon name [] frames)
  | .member members frames, .string name => some (.colon name members frames)
  | .colon name members frames, .colon => some (.value (.object name members :: frames))
  | .settled v (.array items :: frames), .comma => some (.value (.array (v :: items) :: frames))
  | .settled v (.array items :: frames), .closeArray =>
    some (.settled (.arr (v :: items).reverse) frames)
  | .settled v (.object name members :: frames), .comma =>
    some (.member ((name, v) :: members) frames)
  | .settled v (.object name members :: frames), .closeObject =>
    some (.settled (objectOf ((name, v) :: members)) frames)
  | _, _ => none

/-- The value read, if nothing is open. -/
def Reader.finish? : Reader → Option Json
  | .settled v [] => some v
  | _ => none

def ofTokens? (tokens : List Token) : Option Json :=
  tokens.foldlM Reader.step? (.value []) >>= Reader.finish?

/-- The value of a text, with scalars that can only be passed over. -/
def ofString? (s : String) : Option Json :=
  tokens? (s.toList.map some) >>= ofTokens?

/-- The value of a text that came as bytes. Bytes that are no text may stand in strings that are
passed over. -/
def ofBytes? (bytes : List UInt8) : Option Json :=
  tokens? (Text.Utf8.pieces bytes) >>= ofTokens?

end TeamConsole.Json
