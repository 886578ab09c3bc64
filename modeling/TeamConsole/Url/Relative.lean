import TeamConsole.Url.Basic

/-!
URLs given relative to another: with a part of it left out, the part is taken from there.
-/

namespace TeamConsole.Url

def walk (path : List String) (cs : List Char) : List String :=
  steps path.dropLast (splitPath cs)

/-- The URL to which a text without a scheme leads. -/
def resolveRelative? (base : Url) (cs : List Char) : Option Url :=
  let slash (c : Char) : Bool := c = '/' || c = '\\'
  let (_, query, fragment) := readTail cs
  match cs with
  | [] => some { base with fragment := none }
  | '#' :: _ => some { base with fragment }
  | '?' :: _ => some { base with query, fragment }
  | c :: rest =>
    if slash c then
      if rest.head?.any slash then (readServer base.scheme cs).toOption
      else
        let (path, query, fragment) := readTail cs
        some { base with path, query, fragment }
    else
      let path := walk base.path (splitBefore ['?', '#'] cs).1
      some { base with path, query, fragment }

def resolve? (base : Url) (text : String) : Option Url :=
  let cs := clean text
  match splitScheme cs with
  | none => base.resolveRelative? cs
  | some (scheme, rest) =>
    let slashes := (rest.takeWhile fun c => c = '/' || c = '\\').length
    if scheme = base.scheme.name ∧ slashes < 2 then base.resolveRelative? rest
    else (parse text).toOption.join

end TeamConsole.Url
