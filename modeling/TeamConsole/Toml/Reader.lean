import TeamConsole.Toml.Scalar
import TeamConsole.Toml.Token

/-!
Reading a TOML text from its tokens. The reader keeps the document that the lines before have
made and the open arrays and braces around the place where it stands, and takes one token at a
time.
-/

namespace TeamConsole.Toml

/-- What a text holds, and the table to which the next lines add. -/
structure Document where
  root : Toml := .table .headed []
  header : List String := []

namespace Document

/-- Goes to the table of a header, or to the next one of an array of tables. -/
def openHeader? (d : Document) (ofArray : Bool) (path : List String) : Option Document := do
  return ⟨← (if ofArray then openItem else openTable) path d.root, path⟩

/-- Adds what a line says to the table of its header. -/
def assign? (d : Document) (path : List String) (value : Toml) : Option Document := do
  return { d with root := ← descend false (assign path value) d.header d.root }

end Document

inductive KeyPlace where
  /-- A header; the flag tells one of an array of tables. -/
  | header (ofArray : Bool)
  | line
  /-- An entry of a table in braces. -/
  | entry (t : Toml)

/-- What is still open around a value. -/
inductive Frame where
  /-- A line that began with a key. -/
  | line (path : List String)
  | array (items : List Toml)
  /-- A table in braces, and the key of its next entry. -/
  | entry (path : List String) (t : Toml)

inductive Place where
  | lineStart
  /-- After a bracket at the start of a line. -/
  | bracket
  /-- In a key, whose parts are listed with the last first; `expects` tells that a part has to
  come. -/
  | key (place : KeyPlace) (parts : List String) (expects : Bool) (frames : List Frame)
  /-- After a line that ended behind a key in braces. -/
  | keyEnd (path : List String) (t : Toml) (frames : List Frame)
  /-- After the first of two brackets that close a header. -/
  | closing (path : List String)
  | value (frames : List Frame)
  /-- In a value without quotes; `space` tells of a blank after it, and whether it is a single
  space. -/
  | scalar (chars : List Char) (space : Option Bool) (frames : List Frame)
  /-- After a value. -/
  | settled (v : Toml) (frames : List Frame)
  /-- After a header. -/
  | lineEnd

/-- The document so far, and the place. -/
structure Reading where
  document : Document := {}
  place : Place := .lineStart

/-- Whether a character belongs to keys without quotes. -/
def isKeyChar (c : Char) : Bool :=
  c.isAlphanum || c = '_' || c = '-'

def Token.keyPart? : Token → Option String
  | .text s true => some s
  | .word chars => if chars.all isKeyChar then some (String.ofList chars) else none
  | _ => none

/-- The deepest nesting of arrays and braces. -/
def maxDepth : Nat := 80

/-- The most parts of a key. -/
def maxParts : Nat := 80

/-- Opens an array or a table in braces, if it does not lie too deep. The line is no level of its
own. -/
def open? (frames : List Frame) (p : Place) : Option Place :=
  if frames.length ≤ maxDepth then some p else none

namespace Reading

/-- Reads a token of a key. In braces lines may end before a key and after it, and a comma may
stand after the last entry. -/
def stepKey? (d : Document) (place : KeyPlace) (parts : List String) (expects : Bool)
    (frames : List Frame) (t : Token) : Option Reading :=
  let here : Reading := ⟨d, .key place parts expects frames⟩
  match t, expects, place with
  | .blank _, _, _ => some here
  | .newline, true, .entry _ => if parts.isEmpty then some here else none
  | .closeBrace, true, .entry held =>
    if parts.isEmpty then some ⟨d, .settled held frames⟩ else none
  | .newline, false, .entry held => some ⟨d, .keyEnd parts.reverse held frames⟩
  | .dot, false, _ => some ⟨d, .key place parts true frames⟩
  | .equals, false, .line => some ⟨d, .value (.line parts.reverse :: frames)⟩
  | .equals, false, .entry held => some ⟨d, .value (.entry parts.reverse held :: frames)⟩
  | .closeBracket, false, .header true => some ⟨d, .closing parts.reverse⟩
  | .closeBracket, false, .header false => do
    return ⟨← d.openHeader? false parts.reverse, .lineEnd⟩
  | t, true, _ => do
    guard (parts.length < maxParts)
    return ⟨d, .key place ((← t.keyPart?) :: parts) false frames⟩
  | _, _, _ => none

/-- Reads a token where a value has to come. Within brackets and braces lines may end, and a
comma may stand after the last item of an array. -/
def stepValue? (d : Document) (frames : List Frame) (t : Token) : Option Reading :=
  match t, frames with
  | .blank _, _ => some ⟨d, .value frames⟩
  | .newline, .array _ :: _ | .newline, .entry .. :: _ => some ⟨d, .value frames⟩
  | .closeBracket, .array items :: frames => some ⟨d, .settled (.array false items.reverse) frames⟩
  | .text s _, _ => some ⟨d, .settled (.text s) frames⟩
  | .word chars, _ => some ⟨d, .scalar chars none frames⟩
  | .openBracket, _ => (open? frames (.value (.array [] :: frames))).map (⟨d, ·⟩)
  | .openBrace, _ => (open? frames (.key (.entry (.table .inline [])) [] true frames)).map (⟨d, ·⟩)
  | _, _ => none

def stepSettled? (d : Document) (v : Toml) (frames : List Frame) (t : Token) : Option Reading :=
  match t, frames with
  | .blank _, _ => some ⟨d, .settled v frames⟩
  | .newline, [.line path] => do return ⟨← d.assign? path v, .lineStart⟩
  | .newline, .array _ :: _ | .newline, .entry .. :: _ => some ⟨d, .settled v frames⟩
  | .comma, .array items :: frames => some ⟨d, .value (.array (v :: items) :: frames)⟩
  | .closeBracket, .array items :: frames =>
    some ⟨d, .settled (.array false (v :: items).reverse) frames⟩
  | .comma, .entry path held :: frames => do
    return ⟨d, .key (.entry (← assign path v held)) [] true frames⟩
  | .closeBrace, .entry path held :: frames => do
    return ⟨d, .settled (← assign path v held) frames⟩
  | _, _ => none

/-- Reads a token in a value without quotes. A date goes on after a single space with a time. -/
def stepScalar? (d : Document) (chars : List Char) (space : Option Bool) (frames : List Frame)
    (t : Token) : Option Reading :=
  match t, space with
  | .dot, none => some ⟨d, .scalar (chars ++ ['.']) none frames⟩
  | .word more, none => some ⟨d, .scalar (chars ++ more) none frames⟩
  | .word more, some true =>
    if isDate chars then some ⟨d, .scalar (chars ++ ' ' :: more) none frames⟩ else none
  | .blank space, none => some ⟨d, .scalar chars (some space) frames⟩
  | t, _ => do stepSettled? d (← scalar? chars) frames t

def step? (r : Reading) (t : Token) : Option Reading :=
  let d := r.document
  match r.place, t with
  | .lineStart, .blank _ | .lineStart, .newline => some r
  | .lineStart, .openBracket => some ⟨d, .bracket⟩
  | .lineStart, t => stepKey? d .line [] true [] t
  | .bracket, .openBracket => some ⟨d, .key (.header true) [] true []⟩
  | .bracket, t => stepKey? d (.header false) [] true [] t
  | .key place parts expects frames, t => stepKey? d place parts expects frames t
  | .keyEnd .., .blank _ | .keyEnd .., .newline => some r
  | .keyEnd path held frames, .equals => some ⟨d, .value (.entry path held :: frames)⟩
  | .closing path, .closeBracket => do return ⟨← d.openHeader? true path, .lineEnd⟩
  | .value frames, t => stepValue? d frames t
  | .scalar chars space frames, t => stepScalar? d chars space frames t
  | .settled v frames, t => stepSettled? d v frames t
  | .lineEnd, .blank _ => some r
  | .lineEnd, .newline => some ⟨d, .lineStart⟩
  | _, _ => none

/-- The table of the whole text, if a line may begin. -/
def finish? (r : Reading) : Option Toml :=
  match r.place with
  | .lineStart => some r.document.root
  | _ => none

end Reading

/-- The table of a text; a mark of byte order before it is passed over. -/
def ofString? (s : String) : Option Toml := do
  let cs := match s.toList with
    | '\uFEFF' :: cs => cs
    | cs => cs
  (← (← tokens? cs).foldlM Reading.step? {}).finish?

end TeamConsole.Toml
