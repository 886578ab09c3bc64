import TeamConsole.Proofs.CanonicalShape
import TeamConsole.Proofs.FrameEnvelope

/-!
# The text of a notification

A frame may spell a notification in many ways: a number may stand for a text, a text for a number,
and what fits nowhere counts as absent. Written out again, a notification has one text, and a frame
with this text is read as the same notification.

* **`Regular`**: what tells the notifications that frames bring from all others.
* **`written`**: the members under which a notification is written.
* **`HoldsText.eq_of_written`**, **`HoldsId.eq_of_written`**: a member that was written from a field
  is read as the field.
* **`decode?_of_written`**: any text that spells these members is read as the notification.
* **`notification_text_is_fixed`**: the headline.
-/

namespace TeamConsole

namespace Json

theorem lastMember_of_nodup {members : List (String × Json)} (h : (members.map Prod.fst).Nodup)
    {name : String} {j : Json} (hmember : (name, j) ∈ members) : LastMember members name j := by
  obtain ⟨before, after, rfl⟩ := List.append_of_mem hmember
  refine ⟨before, after, rfl, fun m hm hname => ?_⟩
  -- a later member of the name would repeat it
  rw [List.map_append, List.map_cons] at h
  have hafter := (List.nodup_cons.mp (List.nodup_append.mp h).2.1).1
  exact hafter (List.mem_map.mpr ⟨m, hm, hname⟩)

end Json

namespace Notification

open Json (LastMember)

/-! ## What frames bring -/

/-- A notification as frames bring it: its kind is the one that its name stands for and is not the
greeting, and its ids have 64 bits. -/
structure Regular (n : Notification) : Prop where
  kind : n.kind = .ofName n.kind.name
  notGreeting : n.kind.name ≠ "connected"
  ids : ∀ f ∈ n.ids, ∀ i, f.2 = some i → Text.IsInt64 i

theorem isInt64_of_holdsId {members : List (String × Json)} {name : String} {field : Option Int}
    (h : HoldsId members name field) {i : Int} (hi : field = some i) : Text.IsInt64 i := by
  rcases (h i).mp hi with ⟨hrange, _⟩ | ⟨_, _, hrange, _⟩
  · exact hrange
  · exact hrange

theorem Restates.regular {n : Notification} {members : List (String × Json)} {kind : String}
    (h : n.Restates members kind) (hkind : kind ≠ "connected") : n.Regular where
  kind := by rw [h.name, h.kind]
  notGreeting := by rwa [h.name]
  ids f hf _ hi := isInt64_of_holdsId (h.ids f hf) hi

theorem regular_of_decode? {n : Notification} {data : String}
    (h : Inbound.decode? data = some (.notification n)) : n.Regular := by
  rcases Inbound.dropped_or_envelope data with hdropped | ⟨members, kind, henvelope⟩
  · rw [hdropped.decode?] at h
    cases h
  · by_cases hkind : kind = "connected"
    · rw [henvelope.decode?, if_pos hkind] at h
      cases h
    · obtain ⟨n', hn', hrestates⟩ := henvelope.exists_notification hkind
      rw [hn'] at h
      cases h
      exact hrestates.regular hkind

/-! ## What is written -/

/-- The members under which a notification is written. -/
def written (n : Notification) : List (String × Json) :=
  [("type", .str n.kind.name), ("team", .text? n.team),
   ("task_id", (n.taskId.map Json.int).getD .null), ("status", .text? n.status),
   ("current_stage", .text? n.currentStage), ("assignee", .text? n.assignee),
   ("agent", .text? n.agent), ("message_id", (n.messageId.map Json.int).getD .null)]

theorem lastMember_written (n : Notification) {name : String} {j : Json}
    (h : (name, j) ∈ n.written) : LastMember n.written name j := by
  have hnames : (n.written.map Prod.fst).Nodup := by
    show ["type", "team", "task_id", "status", "current_stage", "assignee", "agent",
      "message_id"].Nodup
    decide
  exact Json.lastMember_of_nodup hnames h

theorem isPlain_written (n : Notification) : (Json.obj n.written).isPlain Json.maxDepth = true := by
  have hid : ∀ (i : Option Int) (room : Nat),
      ((i.map Json.int).getD .null).isPlain room = true := by
    intro i room
    cases i <;> rfl
  simp [written, Json.isPlain, Json.arePlainMembers, Json.isPlain_text?, hid, Json.maxDepth]

theorem printable_id {i : Option Int} (h : ∀ k, i = some k → Text.IsInt64 k) :
    Json.Printable ((i.map Json.int).getD .null) := by
  cases i with
  | none => exact .null
  | some k =>
    obtain ⟨hlow, hhigh⟩ := h k rfl
    exact .int ⟨hlow, Int.le_trans hhigh (by decide)⟩

theorem Regular.printable {n : Notification} (h : n.Regular) : Json.Printable n.toJson := by
  have htask := printable_id (h.ids ("task_id", n.taskId) (by simp [Notification.ids]))
  have hmessage := printable_id (h.ids ("message_id", n.messageId) (by simp [Notification.ids]))
  have htext : ∀ s : Option String, Json.Printable (.text? s) :=
    fun s => (Json.settled_text? s).printable
  refine .obj ?_
  simp [Json.Printable.str, htext, htask, hmessage]

/-! ## What is read again -/

/-- The text or null that was written from a field is read as the field. -/
theorem HoldsText.eq_of_written {members : List (String × Json)} {name : String}
    {field s : Option String} (h : HoldsText members name field)
    (hs : LastMember members name (.text? s)) : field = s := by
  refine Option.ext fun x => (h x).trans ?_
  cases s with
  | none =>
    refine iff_of_false ?_ (Option.some_ne_none x).symm
    rintro (hx | ⟨n, hn, _⟩)
    · cases hs.unique hx
    · cases hs.unique hn
  | some y =>
    constructor
    · rintro (hx | ⟨n, hn, _⟩)
      · cases hs.unique hx
        rfl
      · cases hs.unique hn
    · rintro ⟨⟩
      exact Or.inl hs

/-- So is the number or null that was written from an id. -/
theorem HoldsId.eq_of_written {members : List (String × Json)} {name : String}
    {field i : Option Int} (h : HoldsId members name field)
    (hi : LastMember members name ((i.map Json.int).getD .null))
    (hrange : ∀ k, i = some k → Text.IsInt64 k) : field = i := by
  refine Option.ext fun x => (h x).trans ?_
  cases i with
  | none =>
    refine iff_of_false ?_ (Option.some_ne_none x).symm
    rintro (⟨_, hx⟩ | ⟨s, hs, _⟩)
    · cases hi.unique hx
    · cases hi.unique hs
  | some k =>
    constructor
    · rintro (⟨_, hx⟩ | ⟨s, hs, _⟩)
      · cases hi.unique hx
        rfl
      · cases hi.unique hs
    · intro hx
      cases hx
      exact Or.inl ⟨hrange x rfl, hi⟩

/-- What restates the written members is what was written. -/
theorem Restates.eq_of_written {n n' : Notification} (hn : n.Regular)
    (h : n'.Restates n.written n.kind.name) : n' = n := by
  have htext : ∀ (name : String) (field s : Option String), (name, field) ∈ n'.texts →
      (name, .text? s) ∈ n.written → field = s := fun name field s hfield hs =>
    (h.texts _ hfield).eq_of_written (n.lastMember_written hs)
  have hid : ∀ (name : String) (field i : Option Int), (name, field) ∈ n'.ids →
      (name, i) ∈ n.ids → (name, (i.map Json.int).getD .null) ∈ n.written → field = i :=
    fun name field i hfield hi hwritten =>
      (h.ids _ hfield).eq_of_written (n.lastMember_written hwritten) (hn.ids _ hi)
  obtain ⟨kind, team, task, status, stage, assignee, agent, message⟩ := n
  obtain ⟨kind', team', task', status', stage', assignee', agent', message'⟩ := n'
  -- the kind by its name, each other field by the member that was written of it
  have hkind : kind' = kind := h.kind.trans hn.kind.symm
  have hteam : team' = team := htext "team" _ _ (by simp [Notification.texts]) (by simp [written])
  have htask : task' = task :=
    hid "task_id" _ _ (by simp [Notification.ids]) (by simp [Notification.ids]) (by simp [written])
  have hstatus : status' = status :=
    htext "status" _ _ (by simp [Notification.texts]) (by simp [written])
  have hstage : stage' = stage :=
    htext "current_stage" _ _ (by simp [Notification.texts]) (by simp [written])
  have hassignee : assignee' = assignee :=
    htext "assignee" _ _ (by simp [Notification.texts]) (by simp [written])
  have hagent : agent' = agent :=
    htext "agent" _ _ (by simp [Notification.texts]) (by simp [written])
  have hmessage : message' = message :=
    hid "message_id" _ _ (by simp [Notification.ids]) (by simp [Notification.ids])
      (by simp [written])
  rw [hkind, hteam, htask, hstatus, hstage, hassignee, hagent, hmessage]

/-- **Any text of the written members** is read as the notification. -/
theorem Regular.decode?_of_written {n : Notification} (h : n.Regular) {data : String}
    (hdata : Json.ofString? data = some (.obj n.written)) :
    Inbound.decode? data = some (.notification n) := by
  have henvelope : Inbound.Envelope data n.written n.kind.name :=
    ⟨⟨Json.ofString?_eq_some_iff.mp hdata, n.isPlain_written⟩,
      n.lastMember_written (by simp [written])⟩
  obtain ⟨n', hn', hrestates⟩ := henvelope.exists_notification h.notGreeting
  rw [hn', hrestates.eq_of_written h]

end Notification

/-! ## The headline -/

namespace Inbound

/-- **The text of a notification is fixed.** Frames bring the regular notifications and no others;
and whatever the frame was that brought one, a frame with the text that is written of it, on one
line or on several, brings it again with nothing changed. -/
theorem notification_text_is_fixed (n : Notification) :
    ((∃ data, decode? data = some (.notification n)) ↔ n.Regular)
      ∧ ∀ data, decode? data = some (.notification n) →
        decode? n.toJson.compact = some (.notification n)
          ∧ decode? (Json.pretty 0 n.toJson ++ "\n") = some (.notification n) := by
  have hfixed : n.Regular → decode? n.toJson.compact = some (.notification n)
      ∧ decode? (Json.pretty 0 n.toJson ++ "\n") = some (.notification n) := fun h =>
    ⟨h.decode?_of_written (Json.ofString?_compact h.printable),
      h.decode?_of_written (Json.ofString?_pretty h.printable 0)⟩
  refine ⟨⟨?_, fun h => ⟨_, (hfixed h).1⟩⟩,
    fun data h => hfixed (Notification.regular_of_decode? h)⟩
  rintro ⟨data, h⟩
  exact Notification.regular_of_decode? h

/-- A frame of an unknown kind, with a number for the team and a text for the id. -/
def looseFrame : String :=
  "\x7b\"type\":\"repo\",\"team\":7,\"task_id\":\" +7\",\"agent\":[],\"status\":\"\\\"\"\x7d"

/-- The notification that it brings. -/
def looseUpdate : Notification :=
  ⟨.other "repo", some "7", some 7, some "\"", none, none, none, none⟩

theorem loose_update_is_fixed :
    decode? looseFrame = some (.notification looseUpdate)
      ∧ decode? looseUpdate.toJson.compact = some (.notification looseUpdate) := by
  have hread : Json.ofString? looseFrame = some (.obj
      [("type", .str "repo"), ("team", .num (.int 7)), ("task_id", .str " +7"),
        ("agent", .arr []), ("status", .str "\"")]) := rfl
  have hdecoded : decode? looseFrame = some (.notification looseUpdate) := by
    rw [decode?, hread]
    decide
  exact ⟨hdecoded, ((notification_text_is_fixed looseUpdate).2 looseFrame hdecoded).1⟩

end Inbound

end TeamConsole
