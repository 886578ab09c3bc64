import TeamConsole.Console
import TeamConsole.Proofs.InstantText
import TeamConsole.Proofs.JsonText
import TeamConsole.Proofs.RowReading

/-!
# The canonical shape

What the server sends may be spelled in many ways, and one of them is written. A value that was
read from any spelling is read again from that one. This is shown of each form that a field may
have, and of a record by its fields.

* **`Restates`**: whatever was read is read again from what is written of it, and what is written
  is a value that texts can hold.
* **`restates_text`** to **`restates_list`**: the forms of a field.
* **`restates_toJson`**: the records.
* **`canonical_shape_is_fixed`**: the headline.
-/

namespace TeamConsole

namespace Json

/-! ## The forms of a field -/

/-- The value is read from what is written of it, which can stand in a text. -/
structure Settled {α : Type} (read : Json → Option α) (write : α → Json) (x : α) : Prop where
  back : read (write x) = some x
  printable : Printable (write x)

/-- Whatever was read is settled. -/
def Restates {α : Type} (read : Json → Option α) (write : α → Json) : Prop :=
  ∀ (j : Json) (x : α), read j = some x → Settled read write x

variable {α : Type} {read : Json → Option α} {write : α → Json}

theorem settled_text (s : String) : Settled readText .str s :=
  ⟨rfl, .str s⟩

theorem restates_text : Restates readText .str :=
  fun _ s _ => settled_text s

theorem restates_int64 : Restates readInt64 .int := by
  intro j i h
  unfold readInt64 readInt at h
  split at h
  · rename_i k
    obtain ⟨hrange, rfl⟩ : (Text.int64Range.1 ≤ k ∧ k ≤ Text.int64Range.2) ∧ k = i := by
      simpa [Text.within?] using h
    have hlow : Text.int64Range.1 ≤ k := hrange.1
    have hhigh : k ≤ Text.nat64Range.2 := Int.le_trans hrange.2 (by decide)
    exact ⟨if_pos hrange, .int ⟨hlow, hhigh⟩⟩
  · cases h

theorem restates_nat32 : Restates readNat32 .nat := by
  intro j n h
  obtain ⟨i, hi, rfl⟩ := Option.map_eq_some_iff.mp h
  unfold readInt at hi
  split at hi
  · rename_i k
    obtain ⟨hrange, rfl⟩ : (Text.nat32Range.1 ≤ k ∧ k ≤ Text.nat32Range.2) ∧ k = i := by
      simpa [Text.within?] using hi
    have hpos : 0 ≤ k := hrange.1
    have hvalue : ((k.toNat : Nat) : Int) = k := Int.toNat_of_nonneg hpos
    have hlow : Text.int64Range.1 ≤ k := Int.le_trans (by decide) hpos
    have hhigh : k ≤ Text.nat64Range.2 := Int.le_trans hrange.2 (by decide)
    refine ⟨?_, ?_⟩
    · rw [nat, hvalue]
      show (Text.within? Text.nat32Range k).map Int.toNat = some k.toNat
      rw [Text.within?, if_pos hrange]
      rfl
    · rw [nat, hvalue]
      exact .int ⟨hlow, hhigh⟩
  · cases hi

theorem restates_instant : Restates readInstant (fun t => .str t.write) := by
  intro j t h
  obtain ⟨s, _, hs⟩ := Option.bind_eq_some_iff.mp h
  refine ⟨?_, .str _⟩
  rw [readInstant, readText, Option.bind_eq_bind, Option.bind_some]
  exact Instant.ofString?_write (Instant.sound_of_ofString? hs)

theorem restates_outcome : Restates Outcome.ofJson? (fun o => .str o.name) := by
  intro j o h
  obtain ⟨s, _, rfl⟩ := Option.map_eq_some_iff.mp h
  refine ⟨congrArg some ?_, .str _⟩
  -- the outcome that a text names has the text as its name
  have hname : (Outcome.ofName s).name = s := by
    unfold Outcome.ofName
    cases hfound : Outcome.known.find? (·.name = s) with
    | none => rfl
    | some k => simpa using List.find?_some hfound
  show Outcome.ofName (Outcome.ofName s).name = Outcome.ofName s
  rw [hname]

theorem restates_nullAs (h : Restates read write) {default : α}
    (hdefault : Settled read write default) (hnull : ∀ x, write x ≠ .null) :
    Restates (nullAs default read) write := by
  -- what is written is never null, so the default does not come in again
  have hskip : ∀ x, nullAs default read (write x) = read (write x) := by
    intro x
    unfold nullAs
    split
    · rename_i heq
      exact absurd heq (hnull x)
    · rfl
  intro j x hj
  unfold nullAs at hj
  split at hj
  · cases hj
    exact ⟨(hskip default).trans hdefault.back, hdefault.printable⟩
  · have hx := h _ _ hj
    exact ⟨(hskip x).trans hx.back, hx.printable⟩

theorem restates_orNull (h : Restates read write) (hnull : ∀ x, write x ≠ .null) :
    Restates (orNull read) (fun o => (o.map write).getD .null) := by
  have hnone : Settled (orNull read) (fun o => (o.map write).getD .null) none := ⟨rfl, .null⟩
  intro j o hj
  cases o with
  | none => exact hnone
  | some x =>
    unfold orNull nullAs at hj
    split at hj
    · cases hj
    · obtain ⟨y, hy, heq⟩ := Option.map_eq_some_iff.mp hj
      cases heq
      have hx := h _ _ hy
      refine ⟨?_, hx.printable⟩
      show orNull read (write x) = some (some x)
      unfold orNull nullAs
      split
      · rename_i heq
        exact absurd heq (hnull x)
      · exact Option.map_eq_some_iff.mpr ⟨x, hx.back, rfl⟩

theorem restates_list (h : Restates read write) :
    Restates (readList read) (fun xs => .arr (xs.map write)) := by
  intro j xs hj
  unfold readList at hj
  split at hj
  · rename_i items
    have hall : ∀ x ∈ xs, Settled read write x := by
      have hmatch := mapM_eq_some_iff.mp hj
      clear hj
      induction hmatch with
      | nil => simp
      | cons hi _ ih => exact List.forall_mem_cons.mpr ⟨h _ _ hi, ih⟩
    refine ⟨?_, .arr ?_⟩
    · show (xs.map write).mapM read = some xs
      rw [mapM_eq_some_iff, List.forall₂_map_left_iff, List.forall₂_same]
      exact fun x hx => (hall x hx).back
    · intro j hj
      obtain ⟨x, hx, rfl⟩ := List.mem_map.mp hj
      exact (hall x hx).printable
  · cases hj

/-! ## The fields of a record -/

theorem str_ne_null {f : α → String} (x : α) : Json.str (f x) ≠ .null :=
  Json.noConfusion

theorem settled_none : Settled (orNull read) (fun o => (o.map write).getD .null) none :=
  ⟨rfl, .null⟩

theorem settled_required (h : Restates read write) {r : Record} {name : String} {x : α}
    (hx : r.required name read = some x) : Settled read write x := by
  obtain ⟨j, _, hj⟩ := Option.bind_eq_some_iff.mp hx
  exact h j x hj

theorem settled_withDefault (h : Restates read write) {r : Record} {name : String} {default x : α}
    (hdefault : Settled read write default) (hx : r.withDefault name default read = some x) :
    Settled read write x := by
  unfold Record.withDefault at hx
  split at hx
  · cases hx
    exact hdefault
  · exact h _ _ hx

theorem settled_optional (h : Restates read write) (hnull : ∀ x, write x ≠ .null) {r : Record}
    {name : String} {o : Option α} (ho : r.optional name read = some o) :
    Settled (orNull read) (fun o => (o.map write).getD .null) o :=
  settled_withDefault (restates_orNull h hnull) settled_none ho

theorem settled_text? (s : Option String) : Settled (orNull readText) text? s := by
  cases s with
  | none => exact ⟨rfl, .null⟩
  | some s => exact ⟨rfl, .str s⟩

theorem instant?_eq : instant? = fun o => (o.map fun t => .str t.write).getD .null := by
  funext o
  cases o <;> rfl

theorem settled_instant? {r : Record} {name : String} {t : Option Instant}
    (ht : r.optional name readInstant = some t) : Settled (orNull readInstant) instant? t := by
  rw [instant?_eq]
  exact settled_optional restates_instant str_ne_null ht

theorem settled_count {r : Record} {name : String} {n : Nat}
    (hn : r.withDefault name 0 readNat32 = some n) : Settled readNat32 nat n :=
  settled_withDefault restates_nat32 ⟨rfl, .int ⟨by decide, by decide⟩⟩ hn

end Json

open Json

/-! ## Records -/

namespace Agent

theorem restates_toJson : Restates ofJson? toJson := by
  intro j a h
  simp only [ofJson?, Option.bind_eq_bind, Option.bind_eq_some_iff] at h
  obtain ⟨r, -, name, -, role, -, created, hcreated, h⟩ := h
  cases h
  have hcreated := settled_instant? hcreated
  have hr : (toJson ⟨name, role, created⟩).record? fields =
    some [("name", .str name), ("role", .str role), ("created_at", instant? created)] := rfl
  refine ⟨?_, .obj ?_⟩
  · simp [ofJson?, hr, Record.required, Record.withDefault, Record.optional, readText, nullAs,
      hcreated.back]
  · simp [Printable.str, hcreated.printable]

end Agent

namespace TeamSummary

theorem restates_toJson : Restates ofJson? toJson := by
  intro j t h
  simp only [ofJson?, Option.bind_eq_bind, Option.bind_eq_some_iff] at h
  obtain ⟨r, -, id, -, name, -, created, hcreated, agents, hagents, tasks, htasks, h⟩ := h
  cases h
  have hcreated := settled_instant? hcreated
  have hagents := settled_count hagents
  have htasks := settled_count htasks
  have hr : (toJson ⟨id, name, created, agents, tasks⟩).record? fields =
    some [("team_id", .str id), ("name", .str name), ("created_at", instant? created),
      ("agent_count", .nat agents), ("task_count", .nat tasks)] := rfl
  refine ⟨?_, .obj ?_⟩
  · simp [ofJson?, hr, Record.required, Record.withDefault, Record.optional, readText, nullAs,
      hcreated.back, hagents.back, htasks.back]
  · simp [Printable.str, hcreated.printable, hagents.printable, htasks.printable]

end TeamSummary

namespace ServerConfig

theorem restates_toJson : Restates ofJson? toJson := by
  intro j c _
  have hr : c.toJson.record? fields =
    some [("human_name", .str c.humanName), ("hc_home", .str c.hcHome),
      ("bootstrap_id", .str c.bootstrapId)] := rfl
  refine ⟨?_, .obj ?_⟩
  · simp [ofJson?, hr, Record.withDefault, readText]
  · simp [Printable.str]

end ServerConfig

namespace NetworkAllowlist

theorem restates_toJson : Restates ofJson? toJson := by
  intro j n h
  simp only [ofJson?, Option.bind_eq_bind, Option.bind_eq_some_iff] at h
  obtain ⟨r, -, hosts, hhosts, h⟩ := h
  cases h
  have hnull : ∀ xs : List String, Json.arr (xs.map .str) ≠ .null := fun _ => Json.noConfusion
  have hempty : Settled (readList readText) (fun xs => .arr (xs.map .str)) [] :=
    ⟨rfl, .arr (by simp)⟩
  have hread := restates_nullAs (restates_list restates_text) hempty hnull
  have hhosts := settled_withDefault hread (hread .null [] rfl) hhosts
  have hr : (toJson ⟨hosts⟩).record? [⟨"allowlist", []⟩] =
    some [("allowlist", .arr (hosts.map .str))] := rfl
  refine ⟨?_, .obj ?_⟩
  · simp only [ofJson?, hr, Record.withDefault, Option.bind_eq_bind, Option.bind_some,
      Record.get?_cons, if_true, hhosts.back]
    rfl
  · simp [hhosts.printable]

end NetworkAllowlist

namespace Message

theorem restates_toJson : Restates ofJson? toJson := by
  intro j m h
  simp only [ofJson?, Option.bind_eq_bind, Option.bind_eq_some_iff] at h
  obtain ⟨r, -, id, hid, sender, -, recipient, -, content, -, created, hcreated, h⟩ := h
  cases h
  have hid := settled_optional restates_int64 (fun _ => Json.noConfusion) hid
  have hrecipient := settled_text? recipient
  have hcreated := settled_instant? hcreated
  have hr : (toJson ⟨id, sender, recipient, content, created⟩).record? fields =
    some [("message_id", (id.map Json.int).getD .null), ("sender", .str sender),
      ("recipient", text? recipient), ("content", .str content),
      ("created_at", instant? created)] := rfl
  refine ⟨?_, .obj ?_⟩
  · simp [ofJson?, hr, Record.required, Record.withDefault, Record.optional, readText, hid.back,
      hrecipient.back, hcreated.back]
  · simp [Printable.str, hid.printable, hrecipient.printable, hcreated.printable]

end Message

namespace TaskReview

theorem restates_toJson : Restates ofJson? toJson := by
  intro j v h
  simp only [ofJson?, Option.bind_eq_bind, Option.bind_eq_some_iff] at h
  obtain ⟨r, -, id, hid, task, htask, reviewer, -, outcome, houtcome, comments, -, created,
    hcreated, h⟩ := h
  cases h
  have hid := settled_required restates_int64 hid
  have htask := settled_required restates_int64 htask
  have houtcome := settled_required restates_outcome houtcome
  have hcreated := settled_instant? hcreated
  have hr : (toJson ⟨id, task, reviewer, outcome, comments, created⟩).record? fields =
    some [("review_id", .int id), ("task_id", .int task), ("reviewer_agent", .str reviewer),
      ("outcome", .str outcome.name), ("comments", .str comments),
      ("created_at", instant? created)] := rfl
  refine ⟨?_, .obj ?_⟩
  · simp [ofJson?, hr, Record.required, Record.withDefault, Record.optional, readText, hid.back,
      htask.back, houtcome.back, hcreated.back]
  · simp [Printable.str, hid.printable, htask.printable, hcreated.printable]

end TaskReview

namespace Stage

theorem restates_toJson : Restates ofJson? toJson := by
  intro j s h
  simp only [ofJson?, Option.bind_eq_bind, Option.bind_eq_some_iff] at h
  obtain ⟨r, -, name, -, kind, -, outcomes, houtcomes, h⟩ := h
  cases h
  have hkind : StageKind.ofJson? (.str kind.name) = some kind := by cases kind <;> rfl
  have houtcomes := settled_withDefault (restates_list restates_outcome) ⟨rfl, .arr (by simp)⟩
    houtcomes
  have hr : (toJson ⟨name, kind, outcomes⟩).record? fields =
    some [("name", .str name), ("kind", .str kind.name),
      ("outcomes", .arr (outcomes.map fun o => .str o.name))] := rfl
  refine ⟨?_, .obj ?_⟩
  · simp [ofJson?, hr, Record.required, Record.withDefault, readText, hkind, houtcomes.back]
  · simp [Printable.str, houtcomes.printable]

end Stage

namespace StageEdge

theorem restates_toJson : Restates ofJson? toJson := by
  intro j e h
  simp only [ofJson?, Option.bind_eq_bind, Option.bind_eq_some_iff] at h
  obtain ⟨r, -, source, -, label, hlabel, target, -, h⟩ := h
  cases h
  have hlabel := settled_required restates_outcome hlabel
  have hr : (toJson ⟨source, label, target⟩).record? fields =
    some [("from", .str source), ("outcome", .str label.name), ("to", .str target)] := rfl
  refine ⟨?_, .obj ?_⟩
  · simp [ofJson?, hr, Record.required, readText, hlabel.back]
  · simp [Printable.str]

end StageEdge

namespace TaskRow

/-- Either name of a field is read as the field is. -/
theorem settled_field {α : Type} {read : Json → Option α} {write : α → Json}
    (h : Restates read write) (hnull : ∀ x, write x ≠ .null) {r : Record}
    {capital small : String} {o : Option α} (ho : field r capital small read = some o) :
    Settled (orNull read) (fun o => (o.map write).getD .null) o := by
  simp only [field, Option.bind_eq_bind, Option.bind_eq_some_iff] at ho
  obtain ⟨first, hfirst, second, hsecond, ho⟩ := ho
  cases ho
  cases first with
  | some x => exact settled_optional h hnull hfirst
  | none => exact settled_optional h hnull hsecond

end TaskRow

namespace Task

/-- The row that is written of a task. -/
def row (t : Task) : TaskRow :=
  ⟨some t.id, some t.title, some t.status, t.assignee, t.dri, t.workflowId, t.currentStage,
    t.createdAt, t.updatedAt⟩

theorem ofRow?_row (t : Task) : ofRow? t.row = some t :=
  rfl

theorem settled_toJson {t : Task}
    (hid : Settled (orNull readInt64) (fun o => (o.map Json.int).getD .null) (some t.id))
    (hcreated : Settled (orNull readInstant) instant? t.createdAt)
    (hupdated : Settled (orNull readInstant) instant? t.updatedAt) : Settled ofJson? toJson t := by
  have hassignee := settled_text? t.assignee
  have hdri := settled_text? t.dri
  have hworkflow := settled_text? t.workflowId
  have hstage := settled_text? t.currentStage
  have htitle : orNull readText (.str t.title) = some (some t.title) := rfl
  have hstatus : orNull TaskStatus.ofJson? (.str t.status.name) = some (some t.status) := by
    cases t.status <;> rfl
  have hnumber : orNull readInt64 (.int t.id) = some (some t.id) := hid.back
  have hr : t.toJson.record? TaskRow.fields =
    some [("task_id", .int t.id), ("title", .str t.title), ("status", .str t.status.name),
      ("assignee", text? t.assignee), ("dri", text? t.dri), ("workflow_id", text? t.workflowId),
      ("current_stage", text? t.currentStage), ("created_at", instant? t.createdAt),
      ("updated_at", instant? t.updatedAt)] := rfl
  refine ⟨?_, .obj ?_⟩
  · have hrow : TaskRow.ofJson? t.toJson = some t.row := by
      unfold TaskRow.ofJson?
      rw [hr]
      simp [toJson, TaskRow.field, Record.optional, Record.withDefault, hnumber, htitle, hstatus,
        hassignee.back, hdri.back, hworkflow.back, hstage.back, hcreated.back, hupdated.back, row]
    rw [ofJson?, hrow]
    exact ofRow?_row t
  · have hprinted : Printable (.int t.id) := hid.printable
    simp [Printable.str, hprinted, hassignee.printable, hdri.printable, hworkflow.printable,
      hstage.printable, hcreated.printable, hupdated.printable]

theorem restates_toJson : Restates ofJson? toJson := by
  intro j t h
  obtain ⟨row, hrow, h⟩ := Option.bind_eq_some_iff.mp h
  obtain ⟨id, hid, rfl⟩ := ofRow?_eq_some_iff.mp h
  obtain ⟨r, hrecord, -⟩ := TaskRow.exists_record_of_ofJson? hrow
  have hread : ∀ k : TaskRow.Key, k.hold? r = some (k.value row) :=
    TaskRow.ofRecord?_eq_some_iff.mp hrecord
  have hids : TaskRow.Key.id.hold? r = some (some id) := (hread .id).trans (congrArg some hid)
  have hid := TaskRow.settled_field restates_int64 (fun _ => Json.noConfusion) hids
  have hcreated := TaskRow.settled_field restates_instant str_ne_null (hread .createdAt)
  have hupdated := TaskRow.settled_field restates_instant str_ne_null (hread .updatedAt)
  rw [← instant?_eq] at hcreated hupdated
  exact settled_toJson hid hcreated hupdated

end Task

/-! ## Lists of tasks -/

namespace Json

theorem isPlain_text? (s : Option String) (room : Nat) : (text? s).isPlain room = true := by
  cases s <;> rfl

theorem resolve_text? (s : Option String) : (text? s).resolve = text? s := by
  cases s <;> rfl

end Json

namespace Task

/-- A task is written as plain data. -/
theorem isPlain_toJson (t : Task) {room : Nat} (h : room ≠ 0) : t.toJson.isPlain room = true := by
  simp [toJson, isPlain, arePlainMembers, isPlain_text?, instant?, Json.int, h]

theorem resolve_toJson (t : Task) : t.toJson.resolve = t.toJson := by
  simp [toJson, resolve, resolveMembers, lastOfEach, resolve_text?, instant?, Json.int]

theorem keep?_rows (tasks : List Task) :
    (Json.arr (tasks.map toJson)).keep? maxDepth = some (.arr (tasks.map toJson)) := by
  have hitems : ∀ ts : List Task, arePlain (maxDepth - 1) (ts.map toJson) = true
      ∧ resolveItems (ts.map toJson) = ts.map toJson := by
    intro ts
    induction ts with
    | nil => exact ⟨rfl, rfl⟩
    | cons t ts ih =>
      have ht : t.toJson.isPlain (maxDepth - 1) = true := isPlain_toJson t (by decide)
      simp [arePlain, resolveItems, ht, resolve_toJson, ih]
  obtain ⟨hplain, hresolve⟩ := hitems tasks
  have hroom : (Json.arr (tasks.map toJson)).isPlain maxDepth = true := by
    rw [isPlain, hplain]
    rfl
  rw [keep?, if_pos hroom, resolve, hresolve]

theorem normalizeAll_map_toJson {tasks : List Task}
    (h : ∀ t ∈ tasks, Settled ofJson? toJson t) : normalizeAll (tasks.map toJson) = tasks := by
  induction tasks with
  | nil => rfl
  | cons t tasks ih =>
    obtain ⟨ht, htasks⟩ := List.forall_mem_cons.mp h
    rw [List.map_cons, normalizeAll, List.filterMap_cons_some ht.back]
    exact congrArg (t :: ·) (ih htasks)

/-- **A printed list of tasks is the list**, in its order. -/
theorem readTasks_unlines_pretty {tasks : List Task} (h : ∀ t ∈ tasks, Settled ofJson? toJson t) :
    (Json.ofString? (unlines [Json.pretty 0 (.arr (tasks.map toJson))]) >>= Call.readTasks)
      = some tasks := by
  have hprintable : Printable (.arr (tasks.map toJson)) := by
    refine .arr fun j hj => ?_
    obtain ⟨t, ht, rfl⟩ := List.mem_map.mp hj
    exact (h t ht).printable
  have htext : unlines [Json.pretty 0 (.arr (tasks.map toJson))]
      = Json.pretty 0 (.arr (tasks.map toJson)) ++ "\n" := by simp [unlines]
  rw [htext, ofString?_pretty hprintable 0, Option.bind_eq_bind, Option.bind_some, Call.readTasks,
    keep?_rows, Option.map_some]
  exact congrArg some (normalizeAll_map_toJson h)

end Task

/-! ## Every wire type -/

/-- What is both read and written. -/
inductive WireType where
  | task
  | teamSummary
  | agent
  | serverConfig
  | allowlist
  | message
  | review
  | stage
  | stageEdge
deriving DecidableEq, Repr

namespace WireType

def Value : WireType → Type
  | task => Task
  | teamSummary => TeamSummary
  | agent => Agent
  | serverConfig => ServerConfig
  | allowlist => NetworkAllowlist
  | message => Message
  | review => TaskReview
  | stage => Stage
  | stageEdge => StageEdge

def ofJson? : (w : WireType) → Json → Option w.Value
  | task => Task.ofJson?
  | teamSummary => TeamSummary.ofJson?
  | agent => Agent.ofJson?
  | serverConfig => ServerConfig.ofJson?
  | allowlist => NetworkAllowlist.ofJson?
  | message => Message.ofJson?
  | review => TaskReview.ofJson?
  | stage => Stage.ofJson?
  | stageEdge => StageEdge.ofJson?

def toJson : (w : WireType) → w.Value → Json
  | task => Task.toJson
  | teamSummary => TeamSummary.toJson
  | agent => Agent.toJson
  | serverConfig => ServerConfig.toJson
  | allowlist => NetworkAllowlist.toJson
  | message => Message.toJson
  | review => TaskReview.toJson
  | stage => Stage.toJson
  | stageEdge => StageEdge.toJson

/-- Reads a text that is one value. -/
def ofText? (w : WireType) (text : String) : Option w.Value :=
  Json.ofString? text >>= w.ofJson?

theorem restates (w : WireType) : Restates w.ofJson? w.toJson := by
  cases w with
  | task => exact Task.restates_toJson
  | teamSummary => exact TeamSummary.restates_toJson
  | agent => exact Agent.restates_toJson
  | serverConfig => exact ServerConfig.restates_toJson
  | allowlist => exact NetworkAllowlist.restates_toJson
  | message => exact Message.restates_toJson
  | review => exact TaskReview.restates_toJson
  | stage => exact Stage.restates_toJson
  | stageEdge => exact StageEdge.restates_toJson

/-- Both texts of a settled value are read as the value. -/
theorem ofText?_settled {w : WireType} {v : w.Value} (h : Settled w.ofJson? w.toJson v) :
    w.ofText? (w.toJson v).compact = some v ∧ w.ofText? (Json.pretty 0 (w.toJson v) ++ "\n") = some v := by
  unfold ofText?
  rw [ofString?_compact h.printable, ofString?_pretty h.printable 0]
  exact ⟨h.back, h.back⟩

/-- **The canonical shape is fixed.** Whatever was read of a wire type, from a whole text or from a
part of one, is read again from the text that is written of it; so is a list of tasks from the
text that is printed of it, and the instants in it are printed as RFC 3339 has them. -/
theorem canonical_shape_is_fixed :
    (∀ (w : WireType) (j : Json) (v : w.Value), w.ofJson? j = some v →
      w.ofText? (w.toJson v).compact = some v
        ∧ w.ofText? (Json.pretty 0 (w.toJson v) ++ "\n") = some v)
    ∧ (∀ tasks : List Task, (∀ t ∈ tasks, ∃ j, Task.ofJson? j = some t) →
      (Json.ofString? (unlines [Json.pretty 0 (.arr (tasks.map Task.toJson))]) >>= Call.readTasks)
        = some tasks)
    ∧ ∀ (j : Json) (t : Instant), Json.readInstant j = some t →
      Json.instant? (some t) = .str t.write ∧ Instant.Rfc3339 t t.write.toList := by
  refine ⟨fun w j v h => ofText?_settled (w.restates j v h), fun tasks h => ?_, fun j t h => ?_⟩
  · refine Task.readTasks_unlines_pretty fun t ht => ?_
    obtain ⟨j, hj⟩ := h t ht
    exact Task.restates_toJson j t hj
  · obtain ⟨s, _, hs⟩ := Option.bind_eq_some_iff.mp h
    exact ⟨rfl, Instant.rfc3339_write (Instant.sound_of_ofString? hs)⟩

/-- A row with capital names, a zone and a leap second, and the task that it is. -/
theorem capital_row_is_fixed :
    let row : Json := .obj [("TaskID", .int 7), ("CreatedAt", .str "2016-12-31 18:59:60.5 -05:00")]
    let t : Task := ⟨7, "", .todo, none, none, none, none,
      some ⟨⟨2016, 12, 31⟩, 86399, 1500000000⟩, none⟩
    task.ofJson? row = some t ∧ task.ofText? t.toJson.compact = some t := by
  intro row t
  have hrow : Task.ofJson? row = some t := by decide
  exact ⟨hrow, (canonical_shape_is_fixed.1 task row t hrow).1⟩

end WireType

end TeamConsole
