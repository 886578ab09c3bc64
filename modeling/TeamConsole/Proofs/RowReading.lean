import TeamConsole.Json.Reader
import TeamConsole.Proofs.Records
import TeamConsole.Task

/-!
# One row, read as a task and as an answer

The server tells of a task by a row, and answers a change with one too. Both are read from the same
eighteen names, one apart from the other: a task has to have an id and begins as `todo`, an answer
may leave out everything.

* **`TaskRow.Key`**: the nine fields of a row, each with its two names.
* **`TaskRow.ofRecord?_eq_some_iff`**: a row is read field by field.
* **`TaskRow.Says`**: what a value says under a name, as an object or as an array; this is what
  stands in the record (`TaskRow.exists_record_of_ofJson?`).
* **`TaskRow.value_eq_none_iff`**: a row lacks what was not given.
* **`row_reads_alike`**: the headline.
-/

namespace TeamConsole

open Json (Record)

namespace TaskRow

/-! ## The fields of a row -/

/-- The fields of a row. -/
inductive Key where
  | id
  | title
  | status
  | assignee
  | dri
  | workflowId
  | currentStage
  | createdAt
  | updatedAt
deriving DecidableEq

namespace Key

/-- The two names of a field, capitalised and small. -/
def names : Key → String × String
  | id => ("TaskID", "task_id")
  | title => ("Title", "title")
  | status => ("Status", "status")
  | assignee => ("Assignee", "assignee")
  | dri => ("DRI", "dri")
  | workflowId => ("WorkflowID", "workflow_id")
  | currentStage => ("CurrentStage", "current_stage")
  | createdAt => ("CreatedAt", "created_at")
  | updatedAt => ("UpdatedAt", "updated_at")

def Value : Key → Type
  | id => Int
  | status => TaskStatus
  | title | assignee | dri | workflowId | currentStage => String
  | createdAt | updatedAt => Instant

/-- How the value of a field is read. -/
def read : (k : Key) → Json → Option k.Value
  | id => Json.readInt64
  | status => TaskStatus.ofJson?
  | title | assignee | dri | workflowId | currentStage => Json.readText
  | createdAt | updatedAt => Json.readInstant

def value : (k : Key) → TaskRow → Option k.Value
  | id => TaskRow.id
  | title => TaskRow.title
  | status => TaskRow.status
  | assignee => TaskRow.assignee
  | dri => TaskRow.dri
  | workflowId => TaskRow.workflowId
  | currentStage => TaskRow.currentStage
  | createdAt => TaskRow.createdAt
  | updatedAt => TaskRow.updatedAt

theorem names_mem (k : Key) : k.names ∈ TaskRow.names := by
  cases k <;> decide

/-- What a record holds of a field. -/
def hold? (k : Key) (r : Record) : Option (Option k.Value) :=
  field r k.names.1 k.names.2 k.read

end Key

/-- The row in the fields of a record. -/
def ofRecord? (r : Record) : Option TaskRow := do
  return {
    id := ← field r "TaskID" "task_id" Json.readInt64
    title := ← field r "Title" "title" Json.readText
    status := ← field r "Status" "status" TaskStatus.ofJson?
    assignee := ← field r "Assignee" "assignee" Json.readText
    dri := ← field r "DRI" "dri" Json.readText
    workflowId := ← field r "WorkflowID" "workflow_id" Json.readText
    currentStage := ← field r "CurrentStage" "current_stage" Json.readText
    createdAt := ← field r "CreatedAt" "created_at" Json.readInstant
    updatedAt := ← field r "UpdatedAt" "updated_at" Json.readInstant }

/-- **A row is read field by field.** -/
theorem ofRecord?_eq_some_iff {r : Record} {row : TaskRow} :
    ofRecord? r = some row ↔ ∀ k : Key, k.hold? r = some (k.value row) := by
  constructor
  · intro h k
    simp only [ofRecord?, Option.bind_eq_bind, Option.bind_eq_some_iff] at h
    obtain ⟨_, hid, _, htitle, _, hstatus, _, hassignee, _, hdri, _, hworkflow, _, hstage, _,
      hcreated, _, hupdated, h⟩ := h
    cases h
    cases k with
    | id => exact hid
    | title => exact htitle
    | status => exact hstatus
    | assignee => exact hassignee
    | dri => exact hdri
    | workflowId => exact hworkflow
    | currentStage => exact hstage
    | createdAt => exact hcreated
    | updatedAt => exact hupdated
  · intro h
    have hid : field r "TaskID" "task_id" Json.readInt64 = some row.id := h .id
    have htitle : field r "Title" "title" Json.readText = some row.title := h .title
    have hstatus : field r "Status" "status" TaskStatus.ofJson? = some row.status := h .status
    have hassignee : field r "Assignee" "assignee" Json.readText = some row.assignee := h .assignee
    have hdri : field r "DRI" "dri" Json.readText = some row.dri := h .dri
    have hworkflow : field r "WorkflowID" "workflow_id" Json.readText = some row.workflowId :=
      h .workflowId
    have hstage : field r "CurrentStage" "current_stage" Json.readText = some row.currentStage :=
      h .currentStage
    have hcreated : field r "CreatedAt" "created_at" Json.readInstant = some row.createdAt :=
      h .createdAt
    have hupdated : field r "UpdatedAt" "updated_at" Json.readInstant = some row.updatedAt :=
      h .updatedAt
    rw [ofRecord?, hid, htitle, hstatus, hassignee, hdri, hworkflow, hstage, hcreated, hupdated]
    rfl

theorem ofRecord?_congr {r r' : Record} (h : ∀ k : Key, k.hold? r = k.hold? r') :
    ofRecord? r = ofRecord? r' := by
  refine Option.ext fun row => ?_
  rw [ofRecord?_eq_some_iff, ofRecord?_eq_some_iff]
  exact forall_congr' fun k => by rw [h k]

theorem ofJson?_obj (members : List (String × Json)) :
    ofJson? (.obj members) = (Json.obj members).record? fields >>= ofRecord? :=
  rfl

theorem ofJson?_arr (items : List Json) :
    ofJson? (.arr items) = if items.length = fields.length then
      ofRecord? ((fields.map Json.Field.name).zip items) else none := by
  have hread : ofJson? (.arr items) = (Json.arr items).record? fields >>= fun r =>
      guard (items.length = fields.length) >>= fun _ => ofRecord? r := rfl
  rw [hread]
  by_cases hlength : items.length = fields.length
  · have hrecord : (Json.arr items).record? fields
        = some ((fields.map Json.Field.name).zip items) := if_pos (Nat.le_of_eq hlength)
    have hguard : (guard (items.length = fields.length) : Option Unit) = some () := if_pos hlength
    rw [hrecord, if_pos hlength, Option.bind_eq_bind, Option.bind_some, hguard]
    rfl
  · -- a shorter array is a record, but no row
    have hguard : (guard (items.length = fields.length) : Option Unit) = none := if_neg hlength
    rw [if_neg hlength]
    cases (Json.arr items).record? fields with
    | none => rfl
    | some r =>
      rw [Option.bind_eq_bind, Option.bind_some, hguard]
      rfl

theorem no_aliases : ∀ f ∈ fields, f.aliases = [] := by decide

/-! ## What a value says -/

/-- What a value says under the name of a field: as an object with a member of the name, as an array
with the item in the place of the field. -/
inductive Says : Json → String → Json → Prop
  | member {members : List (String × Json)} {name : String} {v : Json} (h : (name, v) ∈ members) :
      Says (.obj members) name v
  | item {items : List Json} {k : Nat} {name : String} {v : Json}
      (hname : (fields.map Json.Field.name)[k]? = some name) (hitem : items[k]? = some v) :
      Says (.arr items) name v

/-- In an array each field has its place. -/
theorem mem_zip_iff_says {items : List Json} {name : String} {v : Json} :
    (name, v) ∈ (fields.map Json.Field.name).zip items ↔ Says (.arr items) name v := by
  constructor
  · intro h
    obtain ⟨k, hk⟩ := List.getElem?_of_mem h
    obtain ⟨hname, hitem⟩ := List.getElem?_zip_eq_some.mp hk
    exact .item hname hitem
  · rintro ⟨⟩
    rename_i k hname hitem
    exact List.mem_of_getElem? (List.getElem?_zip_eq_some.mpr ⟨hname, hitem⟩)

/-- **What stands in the fields of a row** is what the value says. -/
theorem exists_record_of_ofJson? {j : Json} {row : TaskRow} (h : ofJson? j = some row) :
    ∃ r : Record, ofRecord? r = some row
      ∧ ∀ f ∈ fields, ∀ v, r.get? f.name = some v ↔ Says j f.name v := by
  cases j with
  | obj members =>
    rw [ofJson?_obj, Json.record?_of_no_aliases no_aliases] at h
    split at h
    · rename_i hnodup
      -- the members of the fields' names are all there, and no two have one name
      refine ⟨_, h, fun f hf v => ?_⟩
      have hname : (fields.map Json.Field.name).contains f.name = true :=
        List.contains_iff_mem.mpr (List.mem_map_of_mem hf)
      constructor
      · exact fun hget => .member (List.mem_of_mem_filter (Record.mem_of_get? hget))
      · rintro ⟨hmember⟩
        exact Record.get?_of_nodup hnodup (List.mem_filter.mpr ⟨hmember, hname⟩)
    · cases h
  | arr items =>
    rw [ofJson?_arr] at h
    split at h
    · rename_i hlength
      refine ⟨_, h, fun f _ v => ?_⟩
      have hnames : (((fields.map Json.Field.name).zip items).map Prod.fst).Nodup := by
        rw [List.map_fst_zip (by rw [List.length_map]; exact Nat.le_of_eq hlength.symm)]
        decide
      rw [← mem_zip_iff_says]
      exact ⟨Record.mem_of_get?, Record.get?_of_nodup hnames⟩
    · cases h
  | _ => cases h

/-! ## What is given

A field that holds null is as good as missing, so a value that a row has was given under one of its
two names, and a row without one was given none. -/

/-- Whether a value gives a field, under either name. -/
def Gives (j : Json) (k : Key) : Prop :=
  ∃ v, v ≠ .null ∧ (Says j k.names.1 v ∨ Says j k.names.2 v)

theorem orNull_eq_none_iff {α : Type} {read : Json → Option α} {j : Json} :
    Json.orNull read j = some none ↔ j = .null := by
  constructor
  · intro h
    cases j with
    | null => rfl
    | _ =>
      obtain ⟨_, _, h⟩ := Option.map_eq_some_iff.mp h
      cases h
  · rintro rfl
    rfl

theorem optional_eq_none_iff {α : Type} {read : Json → Option α} {r : Record} {name : String} :
    r.optional name read = some none ↔ ∀ v, r.get? name = some v → v = .null := by
  unfold Record.optional Record.withDefault
  cases r.get? name with
  | none => simp
  | some v => simp [orNull_eq_none_iff]

theorem field_eq_none_iff {α : Type} {read : Json → Option α} {r : Record}
    {capital small : String} :
    field r capital small read = some none ↔
      r.optional capital read = some none ∧ r.optional small read = some none := by
  unfold field
  cases hcapital : r.optional capital read with
  | none => simp
  | some first =>
    cases hsmall : r.optional small read with
    | none => simp
    | some second => cases first <;> simp

theorem exists_field_of_name (k : Key) :
    (∃ f ∈ fields, f.name = k.names.1) ∧ ∃ f ∈ fields, f.name = k.names.2 := by
  cases k <;> decide

/-- **A row lacks what was not given**, and nothing else. -/
theorem value_eq_none_iff {j : Json} {row : TaskRow} (h : ofJson? j = some row) (k : Key) :
    k.value row = none ↔ ¬ Gives j k := by
  obtain ⟨r, hrow, hstands⟩ := exists_record_of_ofJson? h
  obtain ⟨⟨f, hf, hcapital⟩, g, hg, hsmall⟩ := exists_field_of_name k
  have hheld : k.hold? r = some (k.value row) := ofRecord?_eq_some_iff.mp hrow k
  have hnone : k.value row = none ↔ k.hold? r = some none := by rw [hheld, Option.some_inj]
  rw [hnone, Key.hold?, field_eq_none_iff, optional_eq_none_iff, optional_eq_none_iff, ← hcapital,
    ← hsmall]
  simp only [hstands f hf, hstands g hg, Gives, ← hcapital, ← hsmall]
  constructor
  · rintro ⟨hfirst, hsecond⟩ ⟨v, hv, hgiven | hgiven⟩
    · exact hv (hfirst v hgiven)
    · exact hv (hsecond v hgiven)
  · intro hnot
    exact ⟨fun v hv => by_contra fun hne => hnot ⟨v, hne, Or.inl hv⟩,
      fun v hv => by_contra fun hne => hnot ⟨v, hne, Or.inr hv⟩⟩

end TaskRow

/-! ## The two readings -/

theorem Task.ofRow?_eq_some_iff {row : TaskRow} {t : Task} :
    ofRow? row = some t ↔ ∃ id, row.id = some id
      ∧ ⟨id, row.title.getD "", row.status.getD .todo, row.assignee, row.dri, row.workflowId,
        row.currentStage, row.createdAt, row.updatedAt⟩ = t := by
  unfold ofRow?
  cases row.id with
  | none => simp
  | some id => simp

/-- A row is a task exactly if it is an answer with an id. -/
theorem isSome_task_iff (j : Json) :
    (Task.ofJson? j).isSome = true ↔ ∃ u, TaskUpdate.ofJson? j = some u ∧ u.id.isSome = true := by
  unfold Task.ofJson? TaskUpdate.ofJson?
  cases TaskRow.ofJson? j with
  | none => simp
  | some row =>
    have htask : (Task.ofRow? row).isSome = true ↔ row.id.isSome = true := by
      unfold Task.ofRow?
      cases row.id <;> simp
    simp [htask, TaskUpdate.ofRow]

/-- **What an answer says of a row that is a task.** -/
theorem update_of_task {j : Json} {t : Task} (h : Task.ofJson? j = some t) :
    ∃ u, TaskUpdate.ofJson? j = some u
      ∧ u.id = some t.id ∧ u.assignee = t.assignee ∧ u.currentStage = t.currentStage
      ∧ (TaskRow.Gives j .status → u = TaskUpdate.ofTask t)
      ∧ (¬ TaskRow.Gives j .status → u.status = none ∧ t.status = .todo) := by
  obtain ⟨row, hrow, ht⟩ := Option.bind_eq_some_iff.mp h
  obtain ⟨id, hid, rfl⟩ := Task.ofRow?_eq_some_iff.mp ht
  have hlacks : row.status = none ↔ ¬ TaskRow.Gives j .status :=
    TaskRow.value_eq_none_iff hrow .status
  -- both are made of the row, and only the status of a task has a default
  refine ⟨TaskUpdate.ofRow row, Option.map_eq_some_iff.mpr ⟨row, hrow, rfl⟩, hid, rfl, rfl,
    fun hgives => ?_, fun hnot => ?_⟩
  · obtain ⟨s, hs⟩ := Option.ne_none_iff_exists'.mp fun hnone => hlacks.mp hnone hgives
    simp [TaskUpdate.ofRow, TaskUpdate.ofTask, hid, hs]
  · have hnone : row.status = none := hlacks.mpr hnot
    simp [TaskUpdate.ofRow, hnone]

/-- **A row reads alike** as a task and as an answer: it is a task exactly if it is an answer with
an id, and then both say the same, only that a task has a status where none was given. -/
theorem row_reads_alike (text : String) :
    ((Json.ofString? text >>= Task.ofJson?).isSome = true ↔
      ∃ u, (Json.ofString? text >>= TaskUpdate.ofJson?) = some u ∧ u.id.isSome = true)
    ∧ ∀ j t, Json.ofString? text = some j → Task.ofJson? j = some t →
      ∃ u, TaskUpdate.ofJson? j = some u
        ∧ u.id = some t.id ∧ u.assignee = t.assignee ∧ u.currentStage = t.currentStage
        ∧ (TaskRow.Gives j .status → u = TaskUpdate.ofTask t)
        ∧ (¬ TaskRow.Gives j .status → u.status = none ∧ t.status = .todo) := by
  refine ⟨?_, fun j t _ ht => update_of_task ht⟩
  cases Json.ofString? text with
  | none => simp
  | some j => exact isSome_task_iff j

/-- A row with a status under the small name only, and one with none. -/
def statedRow : String :=
  "\x7b\"TaskID\":7,\"Status\":null,\"status\":\"done\"\x7d"

def unstatedRow : String :=
  "\x7b\"task_id\":8,\"assignee\":\"ana\",\"status\":null\x7d"

theorem stated_and_unstated_read_alike :
    (∃ j t, Json.ofString? statedRow = some j ∧ Task.ofJson? j = some t
        ∧ TaskUpdate.ofJson? j = some ⟨some 7, some .done, none, none⟩
        ∧ ⟨some 7, some .done, none, none⟩ = TaskUpdate.ofTask t)
      ∧ ∃ j t, Json.ofString? unstatedRow = some j ∧ Task.ofJson? j = some t
        ∧ TaskUpdate.ofJson? j = some ⟨some 8, none, some "ana", none⟩ ∧ t.status = .todo := by
  let stated : Json := .obj
    [("TaskID", .num (.int 7)), ("Status", .null), ("status", .str "done")]
  let unstated : Json := .obj
    [("task_id", .num (.int 8)), ("assignee", .str "ana"), ("status", .null)]
  have hstated : Json.ofString? statedRow = some stated := rfl
  have hunstated : Json.ofString? unstatedRow = some unstated := rfl
  have hdone : Task.ofJson? stated = some ⟨7, "", .done, none, none, none, none, none, none⟩ := by
    decide
  have htodo : Task.ofJson? unstated
      = some ⟨8, "", .todo, some "ana", none, none, none, none, none⟩ := by decide
  have hgiven : TaskRow.Gives stated .status :=
    ⟨.str "done", nofun, Or.inr (.member (by simp [TaskRow.Key.names]))⟩
  have hrow : TaskRow.ofJson? unstated
      = some ⟨some 8, none, none, some "ana", none, none, none, none, none⟩ := by decide
  have hnot : ¬ TaskRow.Gives unstated .status := (TaskRow.value_eq_none_iff hrow .status).mp rfl
  constructor
  · obtain ⟨u, hu, _, _, _, hsame, _⟩ := (row_reads_alike statedRow).2 stated _ hstated hdone
    obtain rfl := hsame hgiven
    exact ⟨stated, _, hstated, hdone, hu, rfl⟩
  · obtain ⟨u, hu, hid, hassignee, hstage, _, hlacks⟩ :=
      (row_reads_alike unstatedRow).2 unstated _ hunstated htodo
    have hall : u = ⟨some 8, none, some "ana", none⟩ := by
      obtain ⟨_, _, _, _⟩ := u
      obtain rfl := hid
      obtain rfl := hassignee
      obtain rfl := hstage
      obtain rfl := (hlacks hnot).1
      rfl
    exact ⟨unstated, _, hunstated, htodo, hall ▸ hu, rfl⟩

end TeamConsole
