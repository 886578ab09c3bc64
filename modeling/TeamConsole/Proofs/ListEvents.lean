import TeamConsole.Proofs.Announcement
import TeamConsole.Proofs.NewestList

/-!
# What observers are told of the two lists

Each of the two lists has an event of its own. Where a list was asked for alone, its event tells
that it was taken, and an answer that came too late is not told of. The answer to a bootstrap
brings both lists and is told of in another way: always as new teams, never as a new allowlist.

* **`ListDeed.installs`**: whether a deed installs a list, by the number of the one held.
* **`count_event_apply`**: how often a deed tells of a list; `count_event_told` says it of a
  moment.
* **`Moment.Installs`**: the same against the history: no answer to a later request was taken
  before (`installs_iff`).
* **`list_told_iff`**: the headline, when a list is told of, and when this is exact.
* **`bootstrap_tells_of_the_other_list`**: a bootstrap that installs the allowlist alone is told
  of as new teams.
-/

namespace TeamConsole

open Sync (State)

namespace Listing

/-- The event that tells of a list. -/
def event : Listing → Sync.Event
  | teams => .teamsUpdated
  | allowlist => .networkUpdated

/-- The deed that takes a list which was asked for alone. -/
def taken : (k : Listing) → Nat → k.Content → Deed
  | teams, n, found => .takeTeams n found
  | allowlist, n, found => .takeNetwork n found

end Listing

/-! ## What a deed tells of a list -/

/-- Whether a deed installs a list: it brings one, under a higher number than the list held. -/
def ListDeed.installs {α : Type} (h : Holding α) : ListDeed α → Bool
  | take n _ => h.seq.committed < n
  | _ => false

/-- Whether a deed takes the answer to a bootstrap. -/
def Deed.begins : Deed → Bool
  | begin .. => true
  | _ => false

@[simp]
theorem count_event_phaseEvent (k : Listing) (before after : Sync.Phase) :
    (Sync.phaseEvent before after).count k.event = 0 := by
  unfold Sync.phaseEvent
  split <;> cases k <;> rfl

theorem count_event_begin (k : Listing) (s : State) (teamsSeq networkSeq : Nat) (b : Bootstrap) :
    (s.begin teamsSeq networkSeq b).2.count k.event = if k = .teams then 1 else 0 := by
  rw [told_begin, List.cons_append, List.count_cons, List.count_append, count_event_phaseEvent]
  cases k <;> rfl

theorem count_event_settle (k : Listing) (s : State) (t : Sync.Ticket)
    (reply : Except GatewayError (List Task × List Agent)) :
    (s.settleRefresh t reply).2.2.count k.event = 0 := by
  cases hcurrent : s.isCurrent t with
  | false =>
    rw [settleRefresh_stale hcurrent]
    rfl
  | true =>
    cases reply with
    | error e =>
      rw [settleRefresh_error hcurrent, List.count_cons, count_event_phaseEvent]
      cases k <;> rfl
    | ok lists =>
      rw [settleRefresh_ok hcurrent lists.1 lists.2, List.count_cons, count_event_phaseEvent]
      cases k <;> rfl

theorem count_event_overlay (k : Listing) (s : State) (team : String) (id : Int)
    (change : Task → Task) : (s.overlay team id change).2.2.count k.event = 0 := by
  by_cases hteam : s.snapshot.selectedTeam = some team
  · by_cases hheld : s.snapshot.tasks.any (·.id = id) = true
    · simp only [State.overlay, if_pos hteam, if_pos hheld]
      cases k <;> rfl
    · simp only [State.overlay, if_pos hteam, if_neg hheld]
      rfl
  · simp only [State.overlay, if_neg hteam]
    rfl

/-- A list that is brought alone is told of if it is installed, and only it. -/
theorem told_take (k : Listing) (s : State) (n : Nat) (found : k.Content) :
    ((k.taken n found).apply s).2
      = if (k.holding s).seq.committed < n then [k.event] else [] := by
  cases k with
  | teams =>
    simp only [Listing.taken, Deed.apply, State.installTeams?, Sync.ListSeq.commit?,
      Listing.holding]
    by_cases hle : n ≤ s.teamsSeq.committed
    · simp [hle, Nat.not_lt_of_le hle]
    · simp [hle, Nat.lt_of_not_le hle, Listing.event]
  | allowlist =>
    simp only [Listing.taken, Deed.apply, State.installNetwork?, Sync.ListSeq.commit?,
      Listing.holding]
    by_cases hle : n ≤ s.networkSeq.committed
    · simp [hle, Nat.not_lt_of_le hle]
    · simp [hle, Nat.lt_of_not_le hle, Listing.event]

theorem count_event_take (k k' : Listing) (s : State) (n : Nat) (found : k'.Content) :
    ((k'.taken n found).apply s).2.count k.event
      = if (k.deed (k'.taken n found)).installs (k.holding s) then 1 else 0 := by
  rw [told_take]
  by_cases hlt : (k'.holding s).seq.committed < n
  · rw [if_pos hlt]
    cases k <;> cases k' <;> simp [Listing.taken, Listing.deed, ListDeed.installs, hlt] <;> rfl
  · rw [if_neg hlt]
    cases k <;> cases k' <;> simp [Listing.taken, Listing.deed, ListDeed.installs, hlt]

/-- **What a deed tells of a list.** The answer to a bootstrap tells of the teams whatever becomes
of them, and of the allowlist not at all; any other deed tells of a list once if it installs it. -/
theorem count_event_apply (k : Listing) (s : State) (d : Deed) :
    (d.apply s).2.count k.event
      = if d.begins then (if k = .teams then 1 else 0)
        else if (k.deed d).installs (k.holding s) then 1 else 0 := by
  cases d with
  | idle => cases k <;> rfl
  | ask teams network => cases k <;> cases teams <;> cases network <;> rfl
  | takeTeams n found => exact count_event_take k .teams s n found
  | takeNetwork n found => exact count_event_take k .allowlist s n found
  | begin teamsSeq networkSeq b => exact count_event_begin k s teamsSeq networkSeq b
  | failBegin e =>
    rw [Deed.apply, State.failBootstrap, List.count_append, count_event_phaseEvent]
    cases k <;> rfl
  | select name =>
    simp only [Deed.apply, State.select]
    split <;> cases k <;> rfl
  | settle t reply =>
    refine (count_event_settle k s t reply).trans ?_
    cases k <;> rfl
  | overlay team id v =>
    refine (count_event_overlay k s team id v.apply).trans ?_
    cases k <;> rfl

/-- A list is told of by the deed of a moment, and not by the refresh that may follow. -/
theorem count_event_told (o : Sync.Options) (k : Listing) (m : Moment) :
    (m.told o).count k.event
      = if m.deed.begins then (if k = .teams then 1 else 0)
        else if (k.deed m.deed).installs (k.holding m.scene.view) then 1 else 0 := by
  rw [← count_event_apply]
  rcases told_cases o m with ⟨_, htold⟩ | ⟨_, htold⟩
  · rw [htold]
    rfl
  · rw [htold, List.count_append, count_event_phaseEvent]
    rfl

/-! ## Against the history -/

/-- The moment takes the answer to a bootstrap. -/
def Moment.Begins (m : Moment) : Prop :=
  ∃ teamsSeq networkSeq b, m.action = .answer (.bootstrap teamsSeq networkSeq) (.ok b)

theorem begins_iff (m : Moment) : m.deed.begins = true ↔ m.Begins := by
  constructor
  · intro hbegins
    cases hdeed : m.deed with
    | begin teamsSeq networkSeq b =>
      obtain ⟨c, a⟩ := m
      cases Moment.source hdeed with
      | begin => exact ⟨teamsSeq, networkSeq, b, rfl⟩
    | _ =>
      rw [hdeed] at hbegins
      cases hbegins
  · rintro ⟨teamsSeq, networkSeq, b, haction⟩
    obtain ⟨c, a⟩ := m
    cases haction
    rfl

/-- **Installed.** The moment brings a list that was not superseded: whatever was brought of it
before was asked for before. -/
def Moment.Installs (k : Listing) (past : List Moment) (m : Moment) : Prop :=
  ∃ n found, m.brought? k = some (n, found) ∧ Unovertaken k past n

/-- What is answered in a run has a number above zero, as all requests have. -/
theorem Run.answered_pos {o : Sync.Options} {past : List Moment} {m : Moment}
    (h : Run o past m.scene) (ha : m.scene.Allows m.action) {k : Listing} {n : Nat}
    (hn : m.answered? k = some n) : 0 < n := by
  obtain ⟨c, a⟩ := m
  cases a with
  | answer w reply =>
    have hwaiting : n ∈ c.waiting.filterMap k.number? := List.mem_filterMap.mpr ⟨w, ha, hn⟩
    exact (h.inOrder k).pos (List.mem_append_left _ hwaiting)
  | _ => cases hn

/-- The number of the list held tells whether a moment installs one. -/
theorem installs_iff {o : Sync.Options} {past : List Moment} {m : Moment}
    (h : Run o past m.scene) (ha : m.scene.Allows m.action) (k : Listing) :
    (k.deed m.deed).installs (k.holding m.scene.view) = true ↔ m.Installs k past := by
  unfold Moment.Installs
  have hbrought := brought?_eq k m
  cases hdeed : k.deed m.deed with
  | keep | ask =>
    rw [hdeed] at hbrought
    simp [hbrought, ListDeed.installs, ListDeed.takes?]
  | take n found =>
    rw [hdeed] at hbrought
    have hpos : 0 < n := h.answered_pos ha (Moment.answered_of_brought hbrought)
    have hover := h.unovertaken_iff (k := k) hpos
    constructor
    · intro hlt
      exact ⟨n, found, hbrought, hover.mpr (of_decide_eq_true hlt)⟩
    · rintro ⟨n', found', hbrought', hnewest⟩
      cases hbrought.symm.trans hbrought'
      exact decide_eq_true (hover.mp hnewest)

/-- A list that is installed is shown from then on. -/
theorem shown_of_installs {o : Sync.Options} {past : List Moment} {m : Moment}
    (h : Run o past m.scene) (ha : m.scene.Allows m.action) {k : Listing} {n : Nat}
    {found : k.Content} (hbrought : m.brought? k = some (n, found))
    (hnewest : Unovertaken k past n) : k.shown (m.after o).view = found := by
  have hpos : 0 < n := h.answered_pos ha (Moment.answered_of_brought hbrought)
  have hlt := (h.unovertaken_iff (k := k) hpos).mp hnewest
  cases list_turn o k m with
  | keeps _ hnone _ => cases hbrought.symm.trans hnone
  | asks _ hnone _ _ => cases hbrought.symm.trans hnone
  | brings _ hbrought' hafter =>
    cases hbrought.symm.trans hbrought'
    rw [if_neg (Nat.not_le_of_lt hlt)] at hafter
    rw [Listing.shown, hafter]

/-- Nothing but the installation of a list changes what is shown of it. -/
theorem shown_of_not_installs {o : Sync.Options} {past : List Moment} {m : Moment}
    (h : Run o past m.scene) (ha : m.scene.Allows m.action) {k : Listing}
    (hnot : ¬ m.Installs k past) : k.shown (m.after o).view = k.shown m.scene.view := by
  cases list_turn o k m with
  | keeps _ _ hafter =>
    rw [Listing.shown, hafter]
    rfl
  | asks _ _ _ hafter => rw [Listing.shown, hafter]
  | @brings n found _ hbrought hafter =>
    have hpos : 0 < n := h.answered_pos ha (Moment.answered_of_brought hbrought)
    have hle : n ≤ (k.holding m.scene.view).seq.committed := by
      refine Nat.le_of_not_lt fun hlt => hnot ⟨n, found, hbrought, ?_⟩
      exact (h.unovertaken_iff hpos).mpr hlt
    rw [if_pos hle] at hafter
    rw [Listing.shown, hafter]
    rfl

/-! ## The headline -/

/-- A list is told of at most once in a moment, and the count tells when. -/
theorem event_mem_told_iff {o : Sync.Options} {past : List Moment} {m : Moment}
    (h : Run o past m.scene) (ha : m.scene.Allows m.action) (k : Listing) :
    (k.event ∈ m.told o ↔ m.Begins ∧ k = .teams ∨ ¬ m.Begins ∧ m.Installs k past)
      ∧ (m.told o).count k.event ≤ 1 := by
  rw [← List.count_pos_iff, count_event_told, ← begins_iff, ← installs_iff h ha]
  cases m.deed.begins with
  | true => cases k <;> simp
  | false =>
    cases (k.deed m.deed).installs (k.holding m.scene.view) <;> simp

/-- **When a list is told of.** Take any run and anything that may happen next, so the answers come
in any order. A list is told of at most once. The answer to a bootstrap is told of as new teams,
even if they were superseded, and never as a new allowlist, even if it was installed. In every
other moment a list is told of exactly if it is installed. So the events are exact, up to the
answers to bootstraps that have no teams to install or an allowlist to install. What is installed
is shown from then on, and nothing else changes what is shown. -/
theorem list_told_iff {o : Sync.Options} {past : List Moment} {c : Scene} (h : Run o past c)
    {a : Action} (ha : c.Allows a) (k : Listing) :
    let m : Moment := ⟨c, a⟩
    (m.told o).count k.event ≤ 1
      ∧ (m.Begins → (k.event ∈ m.told o ↔ k = .teams))
      ∧ (¬ m.Begins → (k.event ∈ m.told o ↔ m.Installs k past))
      ∧ ((k.event ∈ m.told o ↔ m.Installs k past)
          ↔ (m.Begins → (m.Installs k past ↔ k = .teams)))
      ∧ (∀ n found, m.brought? k = some (n, found) → Unovertaken k past n →
          k.shown (m.after o).view = found)
      ∧ (¬ m.Installs k past → k.shown (m.after o).view = k.shown c.view) := by
  intro m
  have hrun : Run o past m.scene := h
  obtain ⟨hmem, honce⟩ := event_mem_told_iff hrun ha k
  refine ⟨honce, ?_, ?_, ?_, ?_, shown_of_not_installs hrun ha⟩
  · intro hbegins
    rw [hmem]
    simp [hbegins]
  · intro hnot
    rw [hmem]
    simp [hnot]
  · rw [hmem]
    by_cases hbegins : m.Begins
    · simp [hbegins, iff_comm]
    · simp [hbegins]
  · exact fun n found => shown_of_installs hrun ha

/-- The teams are asked for once more while a bootstrap is under way. -/
def askedTwice : List Moment × Scene :=
  played ⟨200, 3, 200⟩ [.start .refreshTeams, .start .bootstrap]

/-- The answer to the later request. -/
def laterTeams : Action :=
  .answer (.teams 2 false) (.ok [⟨"t1", "alpha", none, 0, 0⟩])

/-- The answer to the later request is told of. -/
theorem later_teams_are_told :
    askedTwice.2.Allows laterTeams
      ∧ .teamsUpdated ∈ Moment.told ⟨200, 3, 200⟩ ⟨askedTwice.2, laterTeams⟩ := by
  have hrun : Run ⟨200, 3, 200⟩ askedTwice.1 askedTwice.2 := run_played (by decide)
  have hallows : askedTwice.2.Allows laterTeams := by decide
  obtain ⟨_, _, halone, _⟩ := list_told_iff hrun hallows .teams
  have hnot : ¬ Moment.Begins ⟨askedTwice.2, laterTeams⟩ := by
    rw [← begins_iff]
    decide
  have hinstalls := (installs_iff (m := ⟨askedTwice.2, laterTeams⟩) hrun hallows .teams).mp rfl
  exact ⟨hallows, (halone hnot).mpr hinstalls⟩

/-- The same after the answer to the later request. -/
def supersededTeams : List Moment × Scene :=
  played ⟨200, 3, 200⟩ [laterTeams, .start .refreshTeams, .start .bootstrap]

/-- The answer to the bootstrap, with no teams and with an allowlist. -/
def lastBootstrap : Action :=
  .answer (.bootstrap 1 1) (.ok ⟨none, [], none, none, none, some ⟨["pypi.org"]⟩⟩)

/-- **A bootstrap tells of the other list.** Its teams were superseded and are not installed, and
new teams are told of; its allowlist is installed, and no new allowlist is told of. -/
theorem bootstrap_tells_of_the_other_list :
    let m : Moment := ⟨supersededTeams.2, lastBootstrap⟩
    Run ⟨200, 3, 200⟩ supersededTeams.1 supersededTeams.2
      ∧ supersededTeams.2.Allows lastBootstrap
      ∧ ¬ m.Installs .teams supersededTeams.1
      ∧ .teamsUpdated ∈ m.told ⟨200, 3, 200⟩
      ∧ m.Installs .allowlist supersededTeams.1
      ∧ .networkUpdated ∉ m.told ⟨200, 3, 200⟩ := by
  intro m
  have hrun : Run ⟨200, 3, 200⟩ supersededTeams.1 m.scene := run_played (by decide)
  have hallows : m.scene.Allows m.action := by decide
  refine ⟨hrun, hallows, ?_, by decide, (installs_iff hrun hallows .allowlist).mp rfl, by decide⟩
  rw [← installs_iff hrun hallows .teams]
  decide

end TeamConsole
