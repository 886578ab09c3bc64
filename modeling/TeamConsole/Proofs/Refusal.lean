import TeamConsole.Gateway.Http
import TeamConsole.Proofs.Change
import TeamConsole.Proofs.Records

/-!
# Whether a refusal of the server is heard

A server that does not carry out a change may say so in a response of success, with a member `ok`
that is false. The answers to an approval, to a request for review and to a verdict have a field
for it. The answer to a patch has none, so it is read as if the member were not there.

* **`Transition.HearsRefusals`**: the changes whose answers have a field for a refusal.
* **`refusal_heard_iff`**: the headline, that these are the changes whose refusals are heard.
* **`refused_move_is_shown`**: a move that the server refuses, and that is shown as made.
-/

namespace TeamConsole

/-! ## Answers without success -/

/-- The members of an answer that tells of a refusal. -/
def TellsRefusal (members : List (String × Json)) : Prop :=
  ("ok", .bool false) ∈ members

/-- An answer with a field for it says `ok` only if no refusal is told. -/
theorem withDefault_ok {fields : List Json.Field} {members : List (String × Json)}
    {r : Json.Record} (hfield : fields.find? (·.goesBy "ok") = some ⟨"ok", []⟩)
    (hrefusal : TellsRefusal members) (hr : Json.record? fields (.obj members) = some r) :
    r.withDefault "ok" false Json.readBool = some false := by
  have hget : r.get? "ok" = some (.bool false) := Json.get?_of_mem hfield hrefusal hr
  rw [Json.Record.withDefault, hget]
  rfl

theorem not_ok_of_stageResponse {members : List (String × Json)} {answer : StageResponse}
    (hrefusal : TellsRefusal members)
    (h : StageResponse.ofJson? (.obj members) = some answer) : answer.ok = false := by
  obtain ⟨r, hr, h⟩ := Option.bind_eq_some_iff.mp h
  rw [withDefault_ok rfl hrefusal hr] at h
  obtain ⟨_, ⟨⟩, h⟩ := Option.bind_eq_some_iff.mp h
  obtain ⟨stage, _, h⟩ := Option.bind_eq_some_iff.mp h
  cases h
  rfl

theorem not_ok_of_ack {members : List (String × Json)} {answer : Ack}
    (hrefusal : TellsRefusal members) (h : Ack.ofJson? (.obj members) = some answer) :
    answer.ok = false := by
  obtain ⟨r, hr, h⟩ := Option.bind_eq_some_iff.mp h
  rw [withDefault_ok rfl hrefusal hr] at h
  cases h
  rfl

/-- A patch and a creation are answered as if nothing was said of a refusal. -/
theorem taskUpdate_filter (members : List (String × Json)) :
    TaskUpdate.ofJson? (.obj (members.filter (·.1 ≠ "ok")))
      = TaskUpdate.ofJson? (.obj members) := by
  unfold TaskUpdate.ofJson? TaskRow.ofJson?
  rw [Json.record?_filter (by decide)]

theorem createdTask_filter (members : List (String × Json)) :
    CreatedTask.ofJson? (.obj (members.filter (·.1 ≠ "ok")))
      = CreatedTask.ofJson? (.obj members) := by
  unfold CreatedTask.ofJson?
  rw [Json.record?_filter (by decide)]

/-! ## Changes whose refusals are heard -/

/-- The answer to the change has a field for a refusal. -/
def Submission.HearsRefusals : Submission → Prop
  | decision .. | review .. | verdict .. => True
  | status .. | newTask .. | assignee .. => False

/-- A verdict always hears refusals; an approval and a request for review hear them only for a
task that has a stage. -/
def Transition.HearsRefusals : Transition → Prop
  | approve _ task _ | requestReview _ task => task.currentStage ≠ none
  | submitReview .. => True
  | move .. | applyOutcome .. | create .. | assign .. => False

theorem of_bind_ok {ε α β : Type} {x : Except ε α} {f : α → Except ε β} {b : β}
    (h : x >>= f = .ok b) : ∃ a, x = .ok a ∧ f a = .ok b := by
  cases x with
  | error e => cases h
  | ok a => exact ⟨a, rfl, h⟩

/-- A patch of the status does not hear refusals. -/
theorem heedless_of_checkOutcome {team : String} {id : Int} {current : TaskStatus}
    {outcome : Outcome} {decides : Bool} {s : Submission}
    (h : Transition.checkOutcome team id current outcome decides = .ok s) : ¬ s.HearsRefusals := by
  obtain ⟨target, _, hs⟩ := of_bind_ok h
  cases hs
  exact not_false

/-- Whether a decision hears refusals depends on whether its task has a stage. -/
theorem hears_iff_of_stage {stage? : Option String} {s : Submission}
    {plain : Except TransitionError Submission}
    {staged : String → Except TransitionError Submission}
    (h : (match stage? with | none => plain | some stage => staged stage) = .ok s)
    (hplain : plain = .ok s → ¬ s.HearsRefusals)
    (hstaged : ∀ stage, staged stage = .ok s → s.HearsRefusals) :
    s.HearsRefusals ↔ stage? ≠ none := by
  cases stage? with
  | none => exact iff_of_false (hplain h) (fun hne => hne rfl)
  | some stage => exact iff_of_true (hstaged stage h) (Option.some_ne_none stage)

theorem hears_iff_of_check {t : Transition} {s : Submission} (h : t.check = .ok s) :
    s.HearsRefusals ↔ t.HearsRefusals := by
  cases t with
  | move team id current next =>
    obtain ⟨target, _, hs⟩ := of_bind_ok h
    cases hs
    exact Iff.rfl
  | applyOutcome team id current outcome =>
    exact iff_of_false (heedless_of_checkOutcome h) not_false
  | approve team task outcome =>
    refine hears_iff_of_stage h heedless_of_checkOutcome fun stage hstage => ?_
    obtain ⟨predicted, _, hs⟩ := of_bind_ok hstage
    cases hs
    trivial
  | requestReview team task =>
    refine hears_iff_of_stage h heedless_of_checkOutcome fun stage hstage => ?_
    obtain ⟨predicted, _, hs⟩ := of_bind_ok hstage
    cases hs
    trivial
  | submitReview team task reviewer outcome comments =>
    -- of the three tests of a verdict none decides what its call is
    simp only [Transition.check] at h
    cases hreviewer : Text.nonblank? reviewer with
    | none =>
      rw [hreviewer] at h
      cases h
    | some name =>
      simp only [hreviewer] at h
      split at h
      · obtain ⟨predicted, _, hs⟩ := of_bind_ok h
        cases hs
        exact Iff.rfl
      · cases h
  | create team title status =>
    simp only [Transition.check] at h
    cases htitle : Text.nonblank? title with
    | none =>
      rw [htitle] at h
      cases h
    | some name =>
      simp only [htitle] at h
      split at h
      · cases h
        exact Iff.rfl
      · cases h
  | assign team id assignee =>
    cases h
    exact Iff.rfl

/-! ## What becomes of a refusal -/

/-- The response of success to a change is read from its body. -/
theorem replyOfResponse_change (s : Submission) {r : HttpResponse} (hr : r.isSuccess = true)
    {j : Json} (hbody : r.json? = some j) : s.call.replyOfResponse r = s.call.replyOfJson j := by
  unfold Call.replyOfResponse
  rw [if_pos hr]
  cases s <;> simp only [Submission.call, hbody]

/-- A change that hears refusals is refused, for its own task. -/
theorem settle_of_refusal {s : Submission} (hs : s.HearsRefusals) {members : List (String × Json)}
    (hrefusal : TellsRefusal members) {answer : s.call.Answer}
    (hanswer : s.call.readAnswer (.obj members) = some answer) (d : Desk) :
    ∃ id, s.call.taskId? = some id ∧ s.settle d answer = .error (.rejected id) := by
  cases s with
  | decision team id outcome predicted =>
    have hok := not_ok_of_stageResponse hrefusal hanswer
    exact ⟨id, rfl, if_neg (by simp [hok])⟩
  | review team id predicted =>
    have hok := not_ok_of_stageResponse hrefusal hanswer
    exact ⟨id, rfl, if_neg (by simp [hok])⟩
  | verdict team id submitted predicted =>
    have hok := not_ok_of_ack hrefusal hanswer
    exact ⟨id, rfl, if_neg (by simp [hok])⟩
  -- no other answer has a field for a refusal
  | status => exact absurd hs not_false
  | newTask => exact absurd hs not_false
  | assignee => exact absurd hs not_false

/-- A change that does not hear refusals takes any answer as success. -/
theorem refreshing_of_heedless {s : Submission} (hs : ¬ s.HearsRefusals) (o : Sync.Options)
    (d : Desk) (answer : s.call.Answer) :
    (d.resume o (.change s) (.ok answer)).next.Refreshing := by
  cases s with
  | status team id target decides => exact refreshing_report o _ _ _
  | newTask team task => exact refreshing_report o _ _ _
  | assignee team id a => exact refreshing_report o _ _ _
  | decision => exact absurd trivial hs
  | review => exact absurd trivial hs
  | verdict => exact absurd trivial hs

theorem readAnswer_filter {s : Submission} (hs : ¬ s.HearsRefusals)
    (members : List (String × Json)) :
    s.call.readAnswer (.obj (members.filter (·.1 ≠ "ok"))) = s.call.readAnswer (.obj members) := by
  cases s with
  | status team id target decides => exact taskUpdate_filter members
  | newTask team task => exact createdTask_filter members
  | assignee team id a => exact taskUpdate_filter members
  | decision => exact absurd trivial hs
  | review => exact absurd trivial hs
  | verdict => exact absurd trivial hs

theorem check_of_asks {o : Sync.Options} {d : Desk} {t : Transition} {s : Submission}
    (h : (d.start o (.change t)).asks = some (.change s)) : t.check = .ok s := by
  simp only [Desk.start] at h
  cases hcheck : t.check with
  | error e =>
    rw [hcheck] at h
    cases h
  | ok s' =>
    rw [hcheck] at h
    cases h
    rfl

/-! ## The headline -/

/-- **Which refusals are heard.** An operation waits for the answer to its change, and a response
of success says that the server refused. Whatever the desk is by then, the operation ends as
rejected, with the desk as it was, exactly if its answer has a field for a refusal and can be
read; with the field it is never reported as made. Without the field the answer is taken as if it
had not told of the refusal. -/
theorem refusal_heard_iff {o : Sync.Options} {d₀ : Desk} {t : Transition} {s : Submission}
    (hasks : (d₀.start o (.change t)).asks = some (.change s)) {r : HttpResponse}
    (hr : r.isSuccess = true) {members : List (String × Json)}
    (hbody : r.json? = some (.obj members)) (hrefusal : TellsRefusal members) (d : Desk) :
    ((∃ id, t.taskId? = some id
          ∧ d.resume o (.change s) (s.call.replyOfResponse r)
            = ⟨d, [], .done (.refused (.rejected id)) none⟩)
        ↔ t.HearsRefusals ∧ (s.call.readAnswer (.obj members)).isSome = true)
      ∧ (t.HearsRefusals →
          ∃ e, d.resume o (.change s) (s.call.replyOfResponse r)
            = ⟨d, [], .done (.refused e) none⟩)
      ∧ (¬ t.HearsRefusals →
          s.call.replyOfResponse r
            = s.call.replyOfJson (.obj (members.filter (·.1 ≠ "ok")))) := by
  have hcheck := check_of_asks hasks
  have hhears := hears_iff_of_check hcheck
  have htask := (of_check_ok hcheck).2.task
  rw [replyOfResponse_change s hr hbody, ← hhears, ← htask]
  unfold Call.replyOfJson
  cases hanswer : s.call.readAnswer (.obj members) with
  | none =>
    -- what cannot be read is a failure of the call
    refine ⟨iff_of_false ?_ (fun h => nomatch h.2), fun _ => ⟨_, rfl⟩, ?_⟩
    · rintro ⟨id, _, hstep⟩
      cases hstep
    · intro hs
      rw [readAnswer_filter hs, hanswer]
  | some answer =>
    by_cases hs : s.HearsRefusals
    · -- the answer says that nothing was done
      obtain ⟨id, hid, hsettle⟩ := settle_of_refusal hs hrefusal hanswer d
      have hstep : d.resume o (.change s) (.ok answer)
          = ⟨d, [], .done (.refused (.rejected id)) none⟩ := by
        simp only [Desk.resume, hsettle]
        rfl
      exact ⟨iff_of_true ⟨id, hid, hstep⟩ ⟨hs, rfl⟩, fun _ => ⟨_, hstep⟩, fun h => absurd hs h⟩
    · -- nothing in the answer tells it from a success
      have hrefreshing := refreshing_of_heedless hs o d answer
      refine ⟨iff_of_false ?_ (fun h => hs h.1), fun h => absurd h hs, ?_⟩
      · rintro ⟨id, _, (hstep : d.resume o (.change s) (.ok answer) = _)⟩
        rw [hstep] at hrefreshing
        exact hrefreshing _ rfl
      · intro _
        rw [readAnswer_filter hs, hanswer]

/-- A refusal in a response of success. -/
def refusal : HttpResponse where
  status := 200
  location := none
  body := Text.Utf8.encode "\x7b\"ok\":false\x7d"
  complete := true

/-- The refusal of the approval of a task with a stage is heard. -/
theorem refused_approval_is_heard :
    refusal.json? = some (.obj [("ok", .bool false)])
      ∧ approvalDesk.resume ⟨200, 3, 200⟩ (.change (.decision "alpha" 7 .approved "Merging"))
          (Call.replyOfResponse (.approveTask "alpha" 7 .approved) refusal)
        = ⟨approvalDesk, [], .done (.refused (.rejected 7)) none⟩ := by
  have hbody : refusal.json? = some (.obj [("ok", .bool false)]) := rfl
  have hasks : (approvalDesk.start ⟨200, 3, 200⟩
      (.change (.approve "alpha" waitingTask .approved))).asks
        = some (.change (.decision "alpha" 7 .approved "Merging")) := rfl
  have hheard := refusal_heard_iff hasks (by decide) hbody List.mem_cons_self approvalDesk
  obtain ⟨_, ⟨⟩, hstep⟩ := hheard.1.mpr ⟨Option.some_ne_none "InApproval", rfl⟩
  exact ⟨hbody, hstep⟩

def todoTask : Task :=
  ⟨7, "ship", .todo, none, none, none, none, none, none⟩

def boardDesk : Desk where
  view := { snapshot := ⟨some "alpha", [], [todoTask], []⟩, phase := .ready, epoch := 1,
            seq := 1, floor := 1 }

/-- **A refused move is shown as made.** The server answers a patch with `ok` false. The move
is not rejected: its status is shown and marked, and the lists are asked for anew. -/
theorem refused_move_is_shown :
    (boardDesk.start ⟨200, 3, 200⟩ (.change (.move "alpha" 7 .todo .inProgress))).asks
        = some (.change (.status "alpha" 7 .inProgress false))
      ∧ refusal.isSuccess = true ∧ refusal.json? = some (.obj [("ok", .bool false)])
      ∧ let step := boardDesk.resume ⟨200, 3, 200⟩ (.change (.status "alpha" 7 .inProgress false))
          (Call.replyOfResponse (.patchTask "alpha" 7 (.ofStatus .inProgress)) refusal)
        step.desk.view.snapshot.tasks = [{ todoTask with status := .inProgress }]
          ∧ step.desk.view.optimistic = [7]
          ∧ step.asks = some (.refresh ⟨"alpha", 1, 2⟩
              (.confirmed ⟨"alpha", 7, some .inProgress, none⟩)) :=
  ⟨rfl, by decide, rfl, rfl, rfl, rfl⟩

end TeamConsole
