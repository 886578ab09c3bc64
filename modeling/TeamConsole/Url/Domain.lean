import TeamConsole.Text.Normal
import TeamConsole.Url.Direction
import TeamConsole.Url.DomainMap
import TeamConsole.Url.Joining
import TeamConsole.Url.Punycode

/-!
Domain names in ASCII. The characters of a name are mapped and the name is brought into its
normal form; then each label that is not in ASCII is written in Punycode. A label in Punycode is
taken only if what it stands for is what mapping would have left unchanged.
-/

namespace TeamConsole.Url

/-- The start of a label in Punycode. -/
def acePrefix : List Char := ['x', 'n', '-', '-']

def isAscii (cs : List Char) : Bool :=
  cs.all (·.toNat < 128)

/-- The ASCII characters besides controls that no domain name can hold. -/
def forbiddenInDomain : List Char :=
  [' ', '#', '/', ':', '<', '>', '?', '@', '[', '\\', ']', '^', '|', '%']

/-- Whether a domain name can hold a character, once it is mapped. -/
def mayStandInDomain (c : Char) : Bool :=
  128 ≤ c.toNat || (0x20 < c.toNat && c.toNat < 0x7F && !forbiddenInDomain.contains c)

structure Label where
  characters : List Char
  ascii : List Char
deriving DecidableEq, Repr

namespace Label

/-- The most characters of a label beyond ASCII. -/
def maxLength : Nat := 1000

/-- The longest text after the start of a label in Punycode. -/
def maxPunycode : Nat := 2000

/-- Whether a label beyond ASCII can stand in a name: it is not too long, does not begin with a
mark, and its joiners make a difference. -/
def isWellFormed (cs : List Char) : Bool :=
  cs.length ≤ maxLength && !cs.head?.any Text.isMark && Joining.allAllowed [] cs

/-- Whether mapping and the normal form leave characters unchanged. -/
def isSettled (cs : List Char) : Bool :=
  cs.all (fun c => DomainMap.map? c = some [c]) && Text.Normal.form cs = cs

/-- Reads a label in Punycode. It has to stand for more than ASCII. -/
def ofPunycode? (label : List Char) : Option Label := do
  let code := label.drop acePrefix.length
  guard (code.length ≤ maxPunycode ∧ code.getLast? ≠ some '-')
  let characters ← Punycode.decode? code
  guard (!isAscii characters && isSettled characters && isWellFormed characters)
  return ⟨characters, label⟩

/-- The label of characters that are mapped and in normal form. -/
def ofMapped? (cs : List Char) : Option Label :=
  if acePrefix.isPrefixOf cs then (if isAscii cs then ofPunycode? cs else none)
  else if isAscii cs then some ⟨cs, cs⟩
  else if isWellFormed cs then some ⟨cs, acePrefix ++ Punycode.encode cs⟩
  else none

end Label

def readDomain? (name : List Char) : Option (List Label) := do
  let mapped := Text.Normal.form (← name.mapM DomainMap.map?).flatten
  guard (mapped.all mayStandInDomain)
  let labels ← (Text.splitOn '.' mapped).mapM Label.ofMapped?
  guard (Direction.allObey (labels.map (·.characters)))
  return labels

def domainToAscii? (name : List Char) : Option (List Char) :=
  (readDomain? name).map fun labels => ['.'].intercalate (labels.map (·.ascii))

end TeamConsole.Url
