import TeamConsole.Url.DomainMap.Table

/-!
How the characters of a domain name are mapped before it is written in ASCII (Unicode Technical
Standard 46): capitals to small letters, ligatures and signs to the letters they are made of,
full stops of other scripts to a point. Some characters are left out, and some no name can hold.
What only has another spelling is left to the normal form.
-/

namespace TeamConsole.Url.DomainMap

/-- A run of characters, from `first` to `last` in steps. One that is mapped to a single
character is mapped to the one that lies as far from the first image. -/
structure Run where
  first : Nat
  last : Nat
  step : Nat
  image : List Nat
deriving Repr

namespace Run

def ofWord (word : List Char) : Run :=
  let (characters, image) := Text.cut '>' word
  let (range, step) := Text.cut '/' characters
  let (first, last) := Text.readRange range
  ⟨first, last, if step.isEmpty then 1 else Text.hexNumber step,
    (Text.splitOn ',' image).map Text.hexNumber⟩

/-- Whether a character belongs to a run. -/
def contains (r : Run) (n : Nat) : Bool :=
  r.first ≤ n && n ≤ r.last && (n - r.first) % r.step = 0

/-- The image of a character of a run. -/
def map (r : Run) (n : Nat) : List Char :=
  match r.image with
  | [m] => [Char.ofNat (m + (n - r.first))]
  | ms => ms.map Char.ofNat

end Run

/-- The runs of characters that are mapped to others. -/
def runs : List Run :=
  [letters, symbols, ideographs, presentation, beyond].flatMap fun text =>
    (Text.words text).map Run.ofWord

/-- What a character is mapped to; none if no name can hold it. -/
def map? (c : Char) : Option (List Char) :=
  if c.toNat < 0x80 then some [c.toLower]
  else if Text.inRanges disallowed c then none
  else if Text.inRanges ignored c then some []
  else match runs.find? (·.contains c.toNat) with
    | some r => some (r.map c.toNat)
    | none => some [c]

end TeamConsole.Url.DomainMap
