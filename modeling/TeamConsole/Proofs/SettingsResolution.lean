import Mathlib.Data.List.TakeWhile
import TeamConsole.Proofs.ReadBack
import TeamConsole.Proofs.TomlRecords
import TeamConsole.Proofs.Trimming

/-!
# Which settings win

Settings come from a file, from the environment and from the command line, and what none of them
says has a default. Each value is the one of the highest source that states it. Only one file
counts, the first that exists, and if it is at fault there are no settings. What was resolved is
brought into its bounds once; once is enough.

* **`Settings.HeldBy`**: what a value states, entry by entry. Settings are read from a value exactly
  if it states any (`ofToml?_eq_some_iff`).
* **`SettingsFile.States`**, **`SettingsFile.Faulty`**: what a file holds, or why it holds nothing
  (`states_or_faulty`).
* **`SettingsPlaces.First`**: the file that counts.
* **`Bounded`**: the bounds. `normalize` brings settings into them (`bounded_normalize`), and leaves
  settings within them alone (`normalize_of_bounded`).
* **`settings_are_resolved`**: the headline.
-/

namespace TeamConsole

/-! ## What a value states -/

structure StreamSettings.Stated where
  retryInitialMs : Option Nat := none
  retryMaxMs : Option Nat := none

structure SyncSettings.Stated where
  refreshRetryAttempts : Option Nat := none
  refreshRetryInitialMs : Option Nat := none

/-- **What a file states**, without what the defaults add. -/
structure Settings.Stated where
  apiBase : Option String := none
  taskLimit : Option Nat := none
  humanName : Option String := none
  stream : StreamSettings.Stated := {}
  sync : SyncSettings.Stated := {}

namespace StreamSettings

/-- A value states delays. -/
inductive HeldBy (t : Toml) : Stated → Prop where
  | record {r : List (String × Toml)} {initial most : Option Nat}
      (hrecord : t.IsRecord ["retry_initial_ms", "retry_max_ms"] r)
      (hinitial : Toml.Field r "retry_initial_ms" (Toml.HoldsNat 64) initial)
      (hmax : Toml.Field r "retry_max_ms" (Toml.HoldsNat 64) most) :
      HeldBy t { retryInitialMs := initial, retryMaxMs := most }

/-- The delays, the defaults for those that are not stated. -/
def Stated.complete (s : Stated) : StreamSettings where
  retryInitialMs := s.retryInitialMs.getD 500
  retryMaxMs := s.retryMaxMs.getD 10000

theorem ofToml?_eq_some_iff (t : Toml) (s : StreamSettings) :
    ofToml? t = some s ↔ ∃ stated, HeldBy t stated ∧ stated.complete = s := by
  simp only [ofToml?, Option.bind_eq_bind, Option.pure_def, Option.bind_eq_some_iff,
    Option.some.injEq, Toml.record?_eq_some_iff,
    Toml.withDefault_self_eq_some_iff Toml.readNat64_eq_some_iff]
  constructor
  · rintro ⟨r, hrecord, _, ⟨initial, hinitial, rfl⟩, _, ⟨most, hmax, rfl⟩, rfl⟩
    exact ⟨_, .record hrecord hinitial hmax, rfl⟩
  · rintro ⟨_, ⟨hrecord, hinitial, hmax⟩, rfl⟩
    exact ⟨_, hrecord, _, ⟨_, hinitial, rfl⟩, _, ⟨_, hmax, rfl⟩, rfl⟩

end StreamSettings

namespace SyncSettings

/-- A value states how refreshes are tried again. -/
inductive HeldBy (t : Toml) : Stated → Prop where
  | record {r : List (String × Toml)} {attempts initial : Option Nat}
      (hrecord : t.IsRecord ["refresh_retry_attempts", "refresh_retry_initial_ms"] r)
      (hattempts : Toml.Field r "refresh_retry_attempts" (Toml.HoldsNat 32) attempts)
      (hinitial : Toml.Field r "refresh_retry_initial_ms" (Toml.HoldsNat 64) initial) :
      HeldBy t { refreshRetryAttempts := attempts, refreshRetryInitialMs := initial }

def Stated.complete (s : Stated) : SyncSettings where
  refreshRetryAttempts := s.refreshRetryAttempts.getD 3
  refreshRetryInitialMs := s.refreshRetryInitialMs.getD 200

theorem ofToml?_eq_some_iff (t : Toml) (s : SyncSettings) :
    ofToml? t = some s ↔ ∃ stated, HeldBy t stated ∧ stated.complete = s := by
  simp only [ofToml?, Option.bind_eq_bind, Option.pure_def, Option.bind_eq_some_iff,
    Option.some.injEq, Toml.record?_eq_some_iff,
    Toml.withDefault_self_eq_some_iff Toml.readNat32_eq_some_iff,
    Toml.withDefault_self_eq_some_iff Toml.readNat64_eq_some_iff]
  constructor
  · rintro ⟨r, hrecord, _, ⟨attempts, hattempts, rfl⟩, _, ⟨initial, hinitial, rfl⟩, rfl⟩
    exact ⟨_, .record hrecord hattempts hinitial, rfl⟩
  · rintro ⟨_, ⟨hrecord, hattempts, hinitial⟩, rfl⟩
    exact ⟨_, hrecord, _, ⟨_, hattempts, rfl⟩, _, ⟨_, hinitial, rfl⟩, rfl⟩

end SyncSettings

namespace Settings

/-- **A value states settings.** A table that is missing states none of its own. -/
inductive HeldBy (t : Toml) : Stated → Prop where
  | record {r : List (String × Toml)} {apiBase humanName : Option String} {taskLimit : Option Nat}
      {stream : Option StreamSettings.Stated} {sync : Option SyncSettings.Stated}
      (hrecord : t.IsRecord ["api_base", "task_limit", "human_name", "stream", "sync"] r)
      (hbase : Toml.Field r "api_base" Toml.HoldsText apiBase)
      (hlimit : Toml.Field r "task_limit" (Toml.HoldsNat 64) taskLimit)
      (hname : Toml.Field r "human_name" Toml.HoldsText humanName)
      (hstream : Toml.Field r "stream" StreamSettings.HeldBy stream)
      (hsync : Toml.Field r "sync" SyncSettings.HeldBy sync) :
      HeldBy t
        { apiBase := apiBase
          taskLimit := taskLimit
          humanName := humanName
          stream := stream.getD {}
          sync := sync.getD {} }

def Stated.complete (s : Stated) : Settings where
  apiBase := s.apiBase.getD "http://localhost:3548"
  taskLimit := s.taskLimit.getD 200
  humanName := s.humanName
  stream := s.stream.complete
  sync := s.sync.complete

theorem withDefault_humanName_eq_some_iff {r : List (String × Toml)} {humanName : Option String} :
    (Toml.withDefault r "human_name" none fun t => t.readText.map some) = some humanName
      ↔ Toml.Field r "human_name" Toml.HoldsText humanName := by
  have hread : ∀ t b, (Toml.readText t).map some = some b ↔ ∃ a, Toml.HoldsText t a ∧ some a = b :=
    fun t b => by simp only [Option.map_eq_some_iff, Toml.readText_eq_some_iff]
  have hsome : ∀ stated : Option String, (stated.map some).getD none = stated := by
    rintro (_ | _) <;> rfl
  simp only [Toml.withDefault_eq_some_iff hread, hsome, exists_eq_right]

/-- **Settings are read from a value exactly if it states any**, and what it does not state has its
default. -/
theorem ofToml?_eq_some_iff (t : Toml) (s : Settings) :
    ofToml? t = some s ↔ ∃ stated, HeldBy t stated ∧ stated.complete = s := by
  -- the defaults of a missing table are those of a table that states nothing
  have hstream : ∀ stated : Option StreamSettings.Stated,
      (stated.map StreamSettings.Stated.complete).getD {} = (stated.getD {}).complete := by
    rintro (_ | _) <;> rfl
  have hsync : ∀ stated : Option SyncSettings.Stated,
      (stated.map SyncSettings.Stated.complete).getD {} = (stated.getD {}).complete := by
    rintro (_ | _) <;> rfl
  simp only [ofToml?, Option.bind_eq_bind, Option.pure_def, Option.bind_eq_some_iff,
    Option.some.injEq, Toml.record?_eq_some_iff,
    Toml.withDefault_self_eq_some_iff Toml.readText_eq_some_iff,
    Toml.withDefault_self_eq_some_iff Toml.readNat64_eq_some_iff, withDefault_humanName_eq_some_iff,
    Toml.withDefault_eq_some_iff StreamSettings.ofToml?_eq_some_iff,
    Toml.withDefault_eq_some_iff SyncSettings.ofToml?_eq_some_iff, hstream, hsync]
  constructor
  · rintro ⟨r, hrecord, _, ⟨_, hbase, rfl⟩, _, ⟨_, hlimit, rfl⟩, _, hname, _, ⟨_, hstream, rfl⟩,
      _, ⟨_, hsync, rfl⟩, rfl⟩
    exact ⟨_, .record hrecord hbase hlimit hname hstream hsync, rfl⟩
  · rintro ⟨_, ⟨hrecord, hbase, hlimit, hname, hstream, hsync⟩, rfl⟩
    exact ⟨_, hrecord, _, ⟨_, hbase, rfl⟩, _, ⟨_, hlimit, rfl⟩, _, hname, _, ⟨_, hstream, rfl⟩,
      _, ⟨_, hsync, rfl⟩, rfl⟩

end Settings

/-! ## The file that counts -/

/-- What the content of a file states. -/
inductive SettingsFile.States : SettingsFile → Settings.Stated → Prop where
  | content {bytes : List UInt8} {text : String} {toml : Toml} {stated : Settings.Stated}
      (htext : Text.Utf8.decode? bytes = some text) (htoml : Toml.ofString? text = some toml)
      (hheld : Settings.HeldBy toml stated) : States (.content bytes) stated

/-- What is wrong with a file: it cannot be read or holds no text, or its text is not in the format
or states no settings. -/
inductive SettingsFile.Faulty : SettingsFile → SettingsError → Prop where
  | unreadable : Faulty .unreadable .unreadable
  | noText {bytes : List UInt8} (htext : Text.Utf8.decode? bytes = none) :
      Faulty (.content bytes) .unreadable
  | noToml {bytes : List UInt8} {text : String} (htext : Text.Utf8.decode? bytes = some text)
      (htoml : Toml.ofString? text = none) : Faulty (.content bytes) .invalid
  | noSettings {bytes : List UInt8} {text : String} {toml : Toml}
      (htext : Text.Utf8.decode? bytes = some text) (htoml : Toml.ofString? text = some toml)
      (hnone : ∀ stated, ¬ Settings.HeldBy toml stated) : Faulty (.content bytes) .invalid

/-- **The file that counts** is the first there is, of the one that the command line names, the one
in the configuration directory, the one below `.config` and the one in the home directory. -/
inductive SettingsPlaces.First : SettingsPlaces → SettingsFile → Prop where
  | custom {file configDir homeConfig home : SettingsFile} (h : file ≠ .missing) :
      First ⟨file, configDir, homeConfig, home⟩ file
  | configDir {file homeConfig home : SettingsFile} (h : file ≠ .missing) :
      First ⟨.missing, file, homeConfig, home⟩ file
  | homeConfig {file home : SettingsFile} (h : file ≠ .missing) :
      First ⟨.missing, .missing, file, home⟩ file
  | home {file : SettingsFile} (h : file ≠ .missing) :
      First ⟨.missing, .missing, .missing, file⟩ file

/-- What the files say: what the first one states, or nothing if there is none. -/
inductive SettingsPlaces.Says : SettingsPlaces → Settings.Stated → Prop where
  | file {p : SettingsPlaces} {file : SettingsFile} {stated : Settings.Stated}
      (hfirst : p.First file) (hstates : file.States stated) : Says p stated
  | nothing : Says ⟨.missing, .missing, .missing, .missing⟩ {}

theorem SettingsFile.states_or_faulty {file : SettingsFile} (h : file ≠ .missing) :
    (∃ stated, file.States stated) ∨ ∃ e, file.Faulty e := by
  cases file with
  | missing => exact absurd rfl h
  | unreadable => exact Or.inr ⟨_, .unreadable⟩
  | content bytes =>
    cases htext : Text.Utf8.decode? bytes with
    | none => exact Or.inr ⟨_, .noText htext⟩
    | some text =>
      cases htoml : Toml.ofString? text with
      | none => exact Or.inr ⟨_, .noToml htext htoml⟩
      | some toml =>
        by_cases hheld : ∃ stated, Settings.HeldBy toml stated
        · obtain ⟨stated, hstated⟩ := hheld
          exact Or.inl ⟨stated, .content htext htoml hstated⟩
        · exact Or.inr ⟨_, .noSettings htext htoml fun stated h => hheld ⟨stated, h⟩⟩

namespace SettingsPlaces

theorem First.exists {p : SettingsPlaces} {file : SettingsFile} (h : p.First file) :
    file ≠ .missing := by
  cases h with
  | custom h | configDir h | homeConfig h | home h => exact h

theorem chosen?_of_first {p : SettingsPlaces} {file : SettingsFile} (h : p.First file) :
    p.chosen? = some file := by
  cases h with
  | custom h | configDir h | homeConfig h | home h => simp [chosen?, inOrder, h]

theorem first_or_nothing (p : SettingsPlaces) :
    (∃ file, p.First file) ∨ p = ⟨.missing, .missing, .missing, .missing⟩ := by
  obtain ⟨custom, configDir, homeConfig, home⟩ := p
  -- each place is looked at only if there is no file at those before it
  by_cases hcustom : custom = .missing
  · subst hcustom
    by_cases hdir : configDir = .missing
    · subst hdir
      by_cases hconfig : homeConfig = .missing
      · subst hconfig
        by_cases hhome : home = .missing
        · exact Or.inr (hhome ▸ rfl)
        · exact Or.inl ⟨_, .home hhome⟩
      · exact Or.inl ⟨_, .homeConfig hconfig⟩
    · exact Or.inl ⟨_, .configDir hdir⟩
  · exact Or.inl ⟨_, .custom hcustom⟩

end SettingsPlaces

/-- **What the environment says.** An address of blanks only says nothing, any other one counts
without the blanks around it. -/
inductive EnvironmentSays : Option String → Option String → Prop where
  | unset : EnvironmentSays none none
  | blank {value : String} (h : Text.Blank value) : EnvironmentSays (some value) none
  | address {value address : String} (h : Text.Trimmed value address) :
      EnvironmentSays (some value) (some address)

theorem environmentSays_bind (value : Option String) :
    EnvironmentSays value (value.bind Text.nonblank?) := by
  cases value with
  | none => exact .unset
  | some value =>
    rw [Option.bind_some]
    cases hvalue : Text.nonblank? value with
    | none => exact .blank ((Text.nonblank?_eq_none_iff value).mp hvalue)
    | some address => exact .address (Text.nonblank?_eq_some_iff.mp hvalue)

namespace Settings

theorem ofFile_of_states {file : SettingsFile} {stated : Stated} (h : file.States stated) :
    ofFile file = .ok stated.complete := by
  cases h with
  | content htext htoml hheld =>
    simp only [ofFile, htext, ofText, htoml, Option.bind_eq_bind, Option.bind_some,
      (ofToml?_eq_some_iff _ _).mpr ⟨stated, hheld, rfl⟩]

theorem ofFile_of_faulty {file : SettingsFile} {e : SettingsError} (h : file.Faulty e) :
    ofFile file = .error e := by
  cases h with
  | unreadable => rfl
  | noText htext => simp only [ofFile, htext]
  | noToml htext htoml =>
    simp only [ofFile, htext, ofText, htoml, Option.bind_eq_bind, Option.bind_none]
  | @noSettings bytes text toml htext htoml hnone =>
    -- settings that are read would be stated
    have hread : ofToml? toml = none := by
      refine Option.eq_none_iff_forall_ne_some.mpr fun s hs => ?_
      obtain ⟨stated, hheld, _⟩ := (ofToml?_eq_some_iff toml s).mp hs
      exact hnone stated hheld
    simp only [ofFile, htext, ofText, htoml, Option.bind_eq_bind, Option.bind_some, hread]

theorem load_of_said {p : SettingsPlaces} {stated : Stated} (h : p.Says stated)
    (address : Option String) :
    load p address = .ok (stated.complete.withEnvironment address) := by
  cases h with
  | file hfirst hstates =>
    unfold load
    rw [SettingsPlaces.chosen?_of_first hfirst]
    simp only [ofFile_of_states hstates]
    rfl
  | nothing => rfl

theorem load_of_faulty {p : SettingsPlaces} {file : SettingsFile} {e : SettingsError}
    (hfirst : p.First file) (h : file.Faulty e) (address : Option String) :
    load p address = .error e := by
  unfold load
  rw [SettingsPlaces.chosen?_of_first hfirst]
  simp only [ofFile_of_faulty h]
  rfl

theorem said_or_faulty (p : SettingsPlaces) :
    (∃ stated, p.Says stated) ∨ ∃ file e, p.First file ∧ file.Faulty e := by
  rcases p.first_or_nothing with ⟨file, hfirst⟩ | rfl
  · rcases SettingsFile.states_or_faulty hfirst.exists with ⟨stated, hstates⟩ | ⟨e, hfaulty⟩
    · exact Or.inl ⟨stated, .file hfirst hstates⟩
    · exact Or.inr ⟨file, e, hfirst, hfaulty⟩
  · exact Or.inl ⟨_, .nothing⟩

theorem load_eq_error_iff (p : SettingsPlaces) (address : Option String) (e : SettingsError) :
    load p address = .error e ↔ ∃ file, p.First file ∧ file.Faulty e := by
  constructor
  · intro h
    rcases said_or_faulty p with ⟨stated, hsaid⟩ | ⟨file, e', hfirst, hfaulty⟩
    · rw [load_of_said hsaid] at h
      cases h
    · rw [load_of_faulty hfirst hfaulty] at h
      cases h
      exact ⟨file, hfirst, hfaulty⟩
  · rintro ⟨file, hfirst, hfaulty⟩
    exact load_of_faulty hfirst hfaulty address

/-! ## The bounds -/

/-- **Within bounds.** -/
structure Bounded (s : Settings) : Prop where
  apiBase : s.apiBase.toList.getLast? ≠ some '/'
  taskLimit_pos : 1 ≤ s.taskLimit
  taskLimit_le : s.taskLimit ≤ 1000
  retryInitial : 1 ≤ s.stream.retryInitialMs
  retryMax : s.stream.retryInitialMs ≤ s.stream.retryMaxMs
  refreshRetry : 1 ≤ s.sync.refreshRetryInitialMs

theorem trimSlashes_append (s : String) :
    ∃ n, s = trimSlashes s ++ String.ofList (List.replicate n '/') := by
  let back := s.toList.reverse
  have hslashes : back.takeWhile (· = '/')
      = List.replicate (back.takeWhile (· = '/')).length '/' :=
    List.eq_replicate_iff.mpr ⟨rfl, fun c hc => by simpa using List.mem_takeWhile_imp hc⟩
  refine ⟨(back.takeWhile (· = '/')).length, String.toList_inj.mp ?_⟩
  rw [trimSlashes, String.toList_append, String.toList_ofList, String.toList_ofList,
    ← List.reverse_replicate, ← hslashes, ← List.reverse_append, List.takeWhile_append_dropWhile,
    List.reverse_reverse]

theorem getLast?_trimSlashes (s : String) : (trimSlashes s).toList.getLast? ≠ some '/' := by
  rw [trimSlashes, String.toList_ofList, List.getLast?_reverse]
  intro h
  have hhead := List.head?_dropWhile_not (fun c : Char => decide (c = '/')) s.toList.reverse
  rw [h] at hhead
  simp at hhead

theorem trimSlashes_of_getLast? {s : String} (h : s.toList.getLast? ≠ some '/') :
    trimSlashes s = s := by
  obtain ⟨n, hn⟩ := trimSlashes_append s
  have hchars := congrArg String.toList hn
  rw [String.toList_append, String.toList_ofList] at hchars
  cases n with
  | zero => exact (String.toList_inj.mp (hchars.trans (List.append_nil _))).symm
  | succ n =>
    rw [List.replicate_succ', ← List.append_assoc] at hchars
    rw [hchars] at h
    exact absurd List.getLast?_concat h

theorem bounded_normalize (s : Settings) : s.normalize.Bounded where
  apiBase := getLast?_trimSlashes s.apiBase
  taskLimit_pos := Nat.le_max_left _ _
  taskLimit_le := Nat.max_le.mpr ⟨by decide, Nat.min_le_right _ _⟩
  retryInitial := Nat.le_max_right _ _
  retryMax := Nat.le_max_right _ _
  refreshRetry := Nat.le_max_right _ _

theorem normalize_of_bounded {s : Settings} (h : s.Bounded) : s.normalize = s := by
  have hmost : s.taskLimit ≤ maxTaskLimit := h.taskLimit_le
  have hlimit : max 1 (min s.taskLimit maxTaskLimit) = s.taskLimit := by
    rw [Nat.min_eq_left hmost, Nat.max_eq_right h.taskLimit_pos]
  have hstream : s.stream.normalize = s.stream := by
    simp only [StreamSettings.normalize, Nat.max_eq_left h.retryInitial,
      Nat.max_eq_left h.retryMax]
  have hsync : s.sync.normalize = s.sync := by
    unfold SyncSettings.normalize
    rw [Nat.max_eq_left h.refreshRetry]
  unfold normalize
  rw [trimSlashes_of_getLast? h.apiBase, hlimit, hstream, hsync]

/-! ## The headline -/

/-- **Each value is that of the highest source that states it**, brought into its bounds: the
command line before the environment, that before the file, and the file before the defaults. The
address loses the slashes at its end and nothing else. -/
structure Resolved (stated : Stated) (environment : Option String) (i : Invocation) (s : Settings) :
    Prop where
  bounded : s.Bounded
  apiBase : ∃ n, (i.apiBase <|> environment <|> stated.apiBase).getD "http://localhost:3548"
    = s.apiBase ++ String.ofList (List.replicate n '/')
  taskLimit : s.taskLimit = max 1 (min ((i.taskLimit <|> stated.taskLimit).getD 200) 1000)
  humanName : s.humanName = stated.humanName
  retryInitial : s.stream.retryInitialMs = max (stated.stream.retryInitialMs.getD 500) 1
  retryMax : s.stream.retryMaxMs
    = max (stated.stream.retryMaxMs.getD 10000) s.stream.retryInitialMs
  attempts : s.sync.refreshRetryAttempts = stated.sync.refreshRetryAttempts.getD 3
  refreshRetry : s.sync.refreshRetryInitialMs = max (stated.sync.refreshRetryInitialMs.getD 200) 1

theorem resolved_normalize (stated : Stated) (address : Option String) (i : Invocation) :
    Resolved stated (address.bind Text.nonblank?) i
      ((stated.complete.withEnvironment address).withInvocation i).normalize where
  bounded := bounded_normalize _
  apiBase := by
    obtain ⟨n, hn⟩ := trimSlashes_append
      ((stated.complete.withEnvironment address).withInvocation i).apiBase
    refine ⟨n, Eq.trans ?_ hn⟩
    unfold withInvocation withEnvironment Stated.complete
    cases i.apiBase with
    | some base => rfl
    | none => cases address.bind Text.nonblank? <;> rfl
  taskLimit := by
    unfold normalize withInvocation withEnvironment Stated.complete
    cases i.taskLimit <;> rfl
  humanName := rfl
  retryInitial := rfl
  retryMax := rfl
  attempts := rfl
  refreshRetry := rfl

/-- **What comes of the sources.** The file that counts is at fault, or the settings are resolved
from what the files and the environment say. -/
inductive Resolution (p : SettingsPlaces) (address : Option String) (i : Invocation) :
    Except SettingsError Settings → Prop where
  | fails {file : SettingsFile} {e : SettingsError} (hfirst : p.First file)
      (hfaulty : file.Faulty e) : Resolution p address i (.error e)
  | resolves {stated : Stated} {environment : Option String} {s : Settings}
      (hsaid : p.Says stated) (henvironment : EnvironmentSays address environment)
      (hresolved : Resolved stated environment i s) : Resolution p address i (.ok s)

/-- **Settings are resolved, or the first file is at fault.** For all files, environments and
command lines, the settings that are loaded, merged with the command line and normalized are those
of the highest sources within their bounds. Loading them fails exactly if the first file that exists
cannot be read or parsed, whatever the later ones hold. To normalize once more changes nothing, and
neither does it change settings that are within bounds. -/
theorem settings_are_resolved (p : SettingsPlaces) (address : Option String) (i : Invocation) :
    Resolution p address i ((load p address).map fun s => (s.withInvocation i).normalize)
      ∧ (∀ e, load p address = .error e ↔ ∃ file, p.First file ∧ file.Faulty e)
      ∧ ∀ s : Settings, s.normalize.normalize = s.normalize ∧ (s.Bounded → s.normalize = s) := by
  refine ⟨?_, load_eq_error_iff p address, fun s =>
    ⟨normalize_of_bounded (bounded_normalize s), normalize_of_bounded⟩⟩
  rcases said_or_faulty p with ⟨stated, hsaid⟩ | ⟨file, e, hfirst, hfaulty⟩
  · rw [load_of_said hsaid]
    exact .resolves hsaid (environmentSays_bind address) (resolved_normalize stated address i)
  · rw [load_of_faulty hfirst hfaulty]
    exact .fails hfirst hfaulty

/-- The text of a file that states most settings, some of them out of bounds. -/
def statingText : String :=
  "api_base = \"http://host:9000//\"\ntask_limit = 5000\nhuman_name = \"ops\"\n"
    ++ "[stream]\nretry_initial_ms = 0\nretry_max_ms = 40\n[sync]\nrefresh_retry_attempts = 5\n"

theorem load_stating (later : SettingsFile) (address : Option String) :
    load ⟨.missing, .content (Text.Utf8.encode statingText), later, .missing⟩ address
      = .ok (withEnvironment address
          ⟨"http://host:9000//", 5000, some "ops", ⟨0, 40⟩, ⟨5, 200⟩⟩) := by
  -- the text is read once, whatever the environment says
  have hread : ofText statingText
      = .ok ⟨"http://host:9000//", 5000, some "ops", ⟨0, 40⟩, ⟨5, 200⟩⟩ := by
    decide +kernel
  have hfile : ofFile (.content (Text.Utf8.encode statingText)) = ofText statingText := by
    rw [ofFile, Text.Utf8.decode?_encode]
  have hfirst : SettingsPlaces.First
      ⟨.missing, .content (Text.Utf8.encode statingText), later, .missing⟩
      (.content (Text.Utf8.encode statingText)) := .configDir SettingsFile.noConfusion
  unfold load
  rw [SettingsPlaces.chosen?_of_first hfirst]
  simp only [hfile, hread]
  rfl

/-- **What the first file states is settled.** Its values are brought into their bounds, and give
way to the environment and to the command line. A fault in a later file does no harm, and a fault in
the first one is not made good by a later one. The defaults are within bounds, and stay. -/
theorem only_the_first_file_counts :
    (load ⟨.missing, .content (Text.Utf8.encode statingText), .unreadable, .missing⟩
          (some " ")).map normalize
        = .ok ⟨"http://host:9000", 1000, some "ops", ⟨1, 40⟩, ⟨5, 200⟩⟩
      ∧ (load ⟨.missing, .content (Text.Utf8.encode statingText), .unreadable, .missing⟩
            (some " http://localhost:9// ")).map
          (fun s => (s.withInvocation ⟨false, none, none, none, some 7, none⟩).normalize)
        = .ok ⟨"http://localhost:9", 7, some "ops", ⟨1, 40⟩, ⟨5, 200⟩⟩
      ∧ load ⟨.missing, .unreadable, .missing, .content (Text.Utf8.encode statingText)⟩ none
        = .error .unreadable
      ∧ ({} : Settings).Bounded ∧ ({} : Settings).normalize = {} := by
  have hfirst : SettingsPlaces.First
      ⟨.missing, .unreadable, .missing, .content (Text.Utf8.encode statingText)⟩ .unreadable :=
    .configDir SettingsFile.noConfusion
  have hbounded : ({} : Settings).Bounded :=
    ⟨by decide, by decide, by decide, by decide, by decide, by decide⟩
  obtain ⟨_, hfails, hstays⟩ := settings_are_resolved
    ⟨.missing, .unreadable, .missing, .content (Text.Utf8.encode statingText)⟩ none
    ⟨false, none, none, none, none, none⟩
  refine ⟨?_, ?_, (hfails .unreadable).mpr ⟨_, hfirst, .unreadable⟩, hbounded,
    (hstays {}).2 hbounded⟩
  · rw [load_stating]
    rfl
  · rw [load_stating]
    rfl

end Settings

end TeamConsole
