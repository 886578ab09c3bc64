import TeamConsole.Invocation
import TeamConsole.Sync.Refresh
import TeamConsole.Text.Blank
import TeamConsole.Text.Utf8
import TeamConsole.Toml.Reader

/-!
The settings of the console: where they come from, which source wins, and the bounds within which
they are kept.
-/

namespace TeamConsole

namespace Toml

/-- The smallest and the greatest integer that a reader of plain data takes. -/
def integerRange : Int × Int :=
  (-170141183460469231731687303715884105728, 340282366920938463463374607431768211455)

mutual

/-- Whether a value can be passed over: no number in it is too large. -/
def isPassable : Toml → Bool
  | .integer i => (Text.within? integerRange i).isSome
  | .float chars => (decimal? chars).all Decimal.isFinite
  | .array _ items => arePassable items
  | .table _ entries => arePassableEntries entries
  | _ => true

/-- Whether all items can be passed over. -/
def arePassable : List Toml → Bool
  | [] => true
  | t :: rest => isPassable t && arePassable rest

/-- Whether all entries can be passed over. -/
def arePassableEntries : List (String × Toml) → Bool
  | [] => true
  | (_, t) :: rest => isPassable t && arePassableEntries rest

end

/-- The fields of a record: the entries of a table, or the items of an array in the order of the
fields. A date or time holds no field. Entries that are no fields are passed over. -/
def record? (fields : List String) : Toml → Option (List (String × Toml))
  | .table _ entries => do
    guard ((entries.filter fun e => !fields.contains e.1).all fun e => e.2.isPassable)
    return entries
  | .array _ items => some (fields.zip items)
  | .dateTime _ => some []
  | _ => none

def withDefault {α : Type} (r : List (String × Toml)) (name : String) (default : α)
    (read : Toml → Option α) : Option α :=
  match r.lookup name with
  | some t => read t
  | none => some default

def readText : Toml → Option String
  | .text s => some s
  | _ => none

def readNat (range : Int × Int) : Toml → Option Nat
  | .integer i => (Text.within? range i).map Int.toNat
  | _ => none

end Toml

/-- How the stream of notifications reconnects. -/
structure StreamSettings where
  /-- The milliseconds before the first attempt to reconnect. -/
  retryInitialMs : Nat := 500
  /-- The most milliseconds before an attempt. -/
  retryMaxMs : Nat := 10000
deriving DecidableEq, Repr

namespace StreamSettings

def ofToml? (t : Toml) : Option StreamSettings := do
  let r ← t.record? ["retry_initial_ms", "retry_max_ms"]
  let d : StreamSettings := {}
  return {
    retryInitialMs := ← Toml.withDefault r "retry_initial_ms" d.retryInitialMs
      (Toml.readNat Text.nat64Range)
    retryMaxMs := ← Toml.withDefault r "retry_max_ms" d.retryMaxMs (Toml.readNat Text.nat64Range) }

/-- Brings the delays into their bounds. -/
def normalize (s : StreamSettings) : StreamSettings :=
  let initial := max s.retryInitialMs 1
  ⟨initial, max s.retryMaxMs initial⟩

end StreamSettings

/-- How a refresh that fails after a change is tried again. -/
structure SyncSettings where
  /-- How many times it is tried again. -/
  refreshRetryAttempts : Nat := 3
  /-- The milliseconds before the first of them. -/
  refreshRetryInitialMs : Nat := 200
deriving DecidableEq, Repr

namespace SyncSettings

/-- Reads the settings of retries. -/
def ofToml? (t : Toml) : Option SyncSettings := do
  let r ← t.record? ["refresh_retry_attempts", "refresh_retry_initial_ms"]
  let d : SyncSettings := {}
  return {
    refreshRetryAttempts := ← Toml.withDefault r "refresh_retry_attempts" d.refreshRetryAttempts
      (Toml.readNat Text.nat32Range)
    refreshRetryInitialMs := ← Toml.withDefault r "refresh_retry_initial_ms"
      d.refreshRetryInitialMs (Toml.readNat Text.nat64Range) }

/-- Brings the delay into its bounds. -/
def normalize (s : SyncSettings) : SyncSettings :=
  { s with refreshRetryInitialMs := max s.refreshRetryInitialMs 1 }

end SyncSettings

structure Settings where
  /-- The address of the server. -/
  apiBase : String := "http://localhost:3548"
  /-- The number of tasks to ask for. -/
  taskLimit : Nat := 200
  /-- The name under which the operator chats, if it is not left to the server. -/
  humanName : Option String := none
  stream : StreamSettings := {}
  sync : SyncSettings := {}
deriving DecidableEq, Repr

/-- Why settings cannot be loaded. -/
inductive SettingsError where
  /-- The file cannot be read, or its content is no text. -/
  | unreadable
  /-- The text does not hold settings. -/
  | invalid
deriving DecidableEq, Repr

/-- The text of a fault. -/
def SettingsError.message : SettingsError → String
  | unreadable => "Failed to read config file"
  | invalid => "Failed to parse config file"

inductive SettingsFile where
  | missing
  | unreadable
  | content (bytes : List UInt8)
deriving DecidableEq, Repr

structure SettingsPlaces where
  /-- The file that the command line names. -/
  custom : SettingsFile
  configDir : SettingsFile
  homeConfig : SettingsFile
  home : SettingsFile

namespace SettingsPlaces

/-- The places, the first to be looked at first. -/
def inOrder (p : SettingsPlaces) : List SettingsFile :=
  [p.custom, p.configDir, p.homeConfig, p.home]

/-- The first file that exists. -/
def chosen? (p : SettingsPlaces) : Option SettingsFile :=
  p.inOrder.find? (· ≠ .missing)

end SettingsPlaces

namespace Settings

def ofToml? (t : Toml) : Option Settings := do
  let r ← t.record? ["api_base", "task_limit", "human_name", "stream", "sync"]
  let d : Settings := {}
  return {
    apiBase := ← Toml.withDefault r "api_base" d.apiBase Toml.readText
    taskLimit := ← Toml.withDefault r "task_limit" d.taskLimit (Toml.readNat Text.nat64Range)
    humanName := ← Toml.withDefault r "human_name" none fun t => t.readText.map some
    stream := ← Toml.withDefault r "stream" {} StreamSettings.ofToml?
    sync := ← Toml.withDefault r "sync" {} SyncSettings.ofToml? }

def ofText (text : String) : Except SettingsError Settings :=
  match Toml.ofString? text >>= ofToml? with
  | some s => .ok s
  | none => .error .invalid

def ofFile : SettingsFile → Except SettingsError Settings
  | .content bytes =>
    match Text.Utf8.decode? bytes with
    | some text => ofText text
    | none => .error .unreadable
  | _ => .error .unreadable

/-- The settings with the address that the environment names; a blank one counts as none. -/
def withEnvironment (address : Option String) (s : Settings) : Settings :=
  { s with apiBase := (address.bind Text.nonblank?).getD s.apiBase }

/-- Loads the settings. Only the first file that exists is looked at, and the environment wins
over it. -/
def load (p : SettingsPlaces) (address : Option String) : Except SettingsError Settings := do
  let s ← match p.chosen? with
    | some file => ofFile file
    | none => .ok {}
  return s.withEnvironment address

/-- The settings with what the command line says in place of their own. -/
def withInvocation (i : Invocation) (s : Settings) : Settings :=
  { s with apiBase := i.apiBase.getD s.apiBase, taskLimit := i.taskLimit.getD s.taskLimit }

/-- The most tasks that the server sends. -/
def maxTaskLimit : Nat := 1000

/-- A text without the slashes at its end. -/
def trimSlashes (s : String) : String :=
  String.ofList (s.toList.reverse.dropWhile (· = '/')).reverse

/-- Brings the settings into their bounds. -/
def normalize (s : Settings) : Settings where
  apiBase := trimSlashes s.apiBase
  taskLimit := max 1 (min s.taskLimit maxTaskLimit)
  humanName := s.humanName
  stream := s.stream.normalize
  sync := s.sync.normalize

/-- How refreshes are made under the settings. -/
def syncOptions (s : Settings) : Sync.Options where
  taskLimit := s.taskLimit
  retryAttempts := s.sync.refreshRetryAttempts
  retryInitialMs := s.sync.refreshRetryInitialMs

end Settings

end TeamConsole
