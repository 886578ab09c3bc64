import Mathlib.Data.List.Basic
import Mathlib.Data.List.Induction
import TeamConsole.Stream.Client

/-!
# What a stream delivers, and what it reports

A client takes whatever comes, in any order: what the source tells, handlers put into the slot and
taken out of it, and the end that its owner asks for. The laws here speak of the inputs so far and
not of the steps of the client.

* **`deliveries_eq`**: each position adds what its input delivers after the inputs before it.
* **`lastWrite_slot`**: in the slot is what was last written there, also by a handler that ran.
* **`state_eq_iff`**: the state of the connection by the last sign of it, unless the stream is over.
* **`stream_delivers_and_reports`**: the headline.
-/

namespace TeamConsole.Stream

variable {η : Type}

/-! ## What inputs say -/

namespace Input

/-- The notification that an input brings. -/
def notification? : Input η → Option Notification
  | .source (.message data) =>
    match Inbound.decode? data with
    | some (.notification n) => some n
    | _ => none
  | _ => none

/-- Whether the stream ends with this for good. -/
def isEnd : Input η → Bool
  | .shutdown | .source .exhausted => true
  | _ => false

/-- Whether the connection is made, or the server greets. -/
def opens : Input η → Bool
  | .source .opened => true
  | .source (.message data) => Inbound.decode? data = some .connected
  | _ => false

/-- Whether the connection fails or comes to its end. -/
def breaks : Input η → Bool
  | .source .failed | .source .ended => true
  | _ => false

theorem not_breaks_of_opens {i : Input η} (h : i.opens = true) : i.breaks = false := by
  cases i with
  | source e => cases e <;> first | rfl | cases h
  | _ => rfl

end Input

/-- An input of the first kind came, and none of the second kind after it. -/
def Since (first second : Input η → Bool) (inputs : List (Input η)) : Prop :=
  ∃ past i rest, inputs = past ++ i :: rest ∧ first i = true ∧ ∀ j ∈ rest, second j = false

/-- The stream is over. -/
def Over (inputs : List (Input η)) : Prop :=
  ∃ i ∈ inputs, i.isEnd = true

instance (inputs : List (Input η)) : Decidable (Over inputs) :=
  inferInstanceAs (Decidable (∃ i ∈ inputs, i.isEnd = true))

/-- What the inputs tell of the connection. -/
def Reports (inputs : List (Input η)) : ConnectionState → Prop
  | .closed => Over inputs
  | .connected => ¬ Over inputs ∧ Since Input.opens Input.breaks inputs
  | .disconnected => ¬ Over inputs ∧ Since Input.breaks Input.opens inputs
  | .connecting => ¬ Over inputs ∧ ∀ i ∈ inputs, i.opens = false ∧ i.breaks = false

namespace Client

/-- A client to which nothing came yet. -/
def start (slot : Option η) : Client η :=
  ⟨.connecting, slot⟩

section

variable (react : η → Notification → Option η) (slot : Option η)

/-- The client after some inputs. -/
def after (past : List (Input η)) : Client η :=
  ((start slot).run react past).1

/-- What is delivered of an input that comes after others: a notification, if the stream is not
over, to the handler in the slot. -/
def delivery? (past : List (Input η)) (i : Input η) : Option (Delivery η) :=
  if Over past then none
  else do
    let n ← i.notification?
    let h ← (after react slot past).slot
    return ⟨h, (after react slot past).state, n⟩

/-- What an input that comes after others puts into the slot. -/
inductive Writes (past : List (Input η)) : Input η → Option η → Prop
  | set (h : η) : Writes past (.setHandler h) (some h)
  | clear : Writes past .clearHandler none
  | ran {i : Input η} {d : Delivery η} (h : delivery? react slot past i = some d) :
      Writes past i (react d.handler d.notification)

/-- The content of the slot was put there by an input after which nothing else was, or is there
from the start. -/
inductive LastWrite (inputs : List (Input η)) (content : Option η) : Prop
  | input {past rest : List (Input η)} {i : Input η} (hsplit : inputs = past ++ i :: rest)
      (hwrite : Writes react slot past i content)
      (hlast : ∀ more j tail, rest = more ++ j :: tail →
        ∀ other, ¬ Writes react slot (past ++ i :: more) j other)
  | start (hcontent : content = slot)
      (hnone : ∀ past j tail, inputs = past ++ j :: tail →
        ∀ other, ¬ Writes react slot past j other)

end

variable {react : η → Notification → Option η} {slot : Option η}

/-! ## One input more -/

theorem after_append (past : List (Input η)) (i : Input η) :
    after react slot (past ++ [i]) = ((after react slot past).step react i).1 := by
  simp only [after, run_append, run]

theorem deliveries_append (past : List (Input η)) (i : Input η) :
    ((start slot).run react (past ++ [i])).2 =
      ((start slot).run react past).2 ++ ((after react slot past).step react i).2.toList := by
  simp only [after, run_append, run, List.append_nil]

/-- A split of a list with one item more is at the item, or a split of the list. -/
theorem split_append_singleton {past before rest : List (Input η)} {i j : Input η}
    (h : past ++ [i] = before ++ j :: rest) :
    (before = past ∧ j = i ∧ rest = [])
      ∨ ∃ more, rest = more ++ [i] ∧ past = before ++ j :: more := by
  rcases List.eq_nil_or_concat rest with rfl | ⟨more, k, rfl⟩
  · obtain ⟨rfl, hlast⟩ := List.append_inj' h rfl
    exact Or.inl ⟨rfl, (List.cons.inj hlast).1.symm, rfl⟩
  · have hlong : past ++ [i] = (before ++ j :: more) ++ [k] := by simpa using h
    obtain ⟨rfl, hlast⟩ := List.append_inj' hlong rfl
    exact Or.inr ⟨more, by rw [(List.cons.inj hlast).1, List.concat_eq_append], rfl⟩

theorem since_append {first second : Input η → Bool} {past : List (Input η)} {i : Input η} :
    Since first second (past ++ [i]) ↔
      first i = true ∨ Since first second past ∧ second i = false := by
  constructor
  · rintro ⟨before, j, rest, hsplit, hj, hrest⟩
    rcases split_append_singleton hsplit with ⟨rfl, rfl, rfl⟩ | ⟨more, rfl, rfl⟩
    · exact Or.inl hj
    · exact Or.inr ⟨⟨before, j, more, rfl, hj, fun l hl => hrest l (List.mem_append_left _ hl)⟩,
        hrest i (List.mem_append_right _ (List.mem_singleton.mpr rfl))⟩
  · rintro (hi | ⟨⟨before, j, rest, rfl, hj, hrest⟩, hi⟩)
    · exact ⟨past, i, [], rfl, hi, by simp⟩
    · refine ⟨before, j, rest ++ [i], by simp, hj, fun l hl => ?_⟩
      rcases List.mem_append.mp hl with hl | hl
      · exact hrest l hl
      · rwa [List.mem_singleton.mp hl]

theorem over_append {past : List (Input η)} {i : Input η} :
    Over (past ++ [i]) ↔ Over past ∨ i.isEnd = true := by
  simp [Over, or_and_right, exists_or]

/-! ## The state of the connection -/

theorem not_over_of_reports {inputs : List (Input η)} {st : ConnectionState}
    (h : Reports inputs st) (hst : st ≠ .closed) : ¬ Over inputs := by
  cases st with
  | closed => exact absurd rfl hst
  | _ => exact h.1

/-- An input without a sign of the connection leaves what is told of it. -/
theorem reports_append {past : List (Input η)} {i : Input η} {st : ConnectionState}
    (h : Reports past st) (hend : i.isEnd = false) (hopens : i.opens = false)
    (hbreaks : i.breaks = false) : Reports (past ++ [i]) st := by
  have hover : Over (past ++ [i]) ↔ Over past := by simp [over_append, hend]
  cases st with
  | closed => exact hover.mpr h
  | connected => exact ⟨hover.not.mpr h.1, since_append.mpr (Or.inr ⟨h.2, hbreaks⟩)⟩
  | disconnected => exact ⟨hover.not.mpr h.1, since_append.mpr (Or.inr ⟨h.2, hopens⟩)⟩
  | connecting =>
    refine ⟨hover.not.mpr h.1, fun j hj => ?_⟩
    rcases List.mem_append.mp hj with hj | hj
    · exact h.2 j hj
    · rw [List.mem_singleton.mp hj]
      exact ⟨hopens, hbreaks⟩

/-- What the source of an open stream tells is reported. -/
theorem reports_takeEvent {past : List (Input η)} {c : Client η} (h : Reports past c.state)
    (hopen : c.state ≠ .closed) (e : SourceEvent) :
    Reports (past ++ [.source e]) (c.takeEvent react e).1.state := by
  have hover : ¬ Over past := not_over_of_reports h hopen
  -- nothing but an exhausted source ends an open stream
  have hstill : (Input.source (η := η) e).isEnd = false → ¬ Over (past ++ [.source e]) := by
    intro hend
    simp [over_append, hover, hend]
  cases e with
  | opened => exact ⟨hstill rfl, since_append.mpr (Or.inl rfl)⟩
  | failed => exact ⟨hstill rfl, since_append.mpr (Or.inl rfl)⟩
  | ended => exact ⟨hstill rfl, since_append.mpr (Or.inl rfl)⟩
  | exhausted => exact over_append.mpr (Or.inr rfl)
  | message data =>
    cases hdata : Inbound.decode? data with
    | none =>
      have hopens : (Input.source (η := η) (.message data)).opens = false := by
        simp [Input.opens, hdata]
      simp only [takeEvent, hdata]
      exact reports_append h rfl hopens rfl
    | some inbound =>
      cases inbound with
      | connected =>
        have hopens : (Input.source (η := η) (.message data)).opens = true := by
          simp [Input.opens, hdata]
        simp only [takeEvent, hdata]
        exact ⟨hstill rfl, since_append.mpr (Or.inl hopens)⟩
      | notification n =>
        have hopens : (Input.source (η := η) (.message data)).opens = false := by
          simp [Input.opens, hdata]
        have hstate : (c.dispatch react n).1.state = c.state := by
          unfold dispatch
          split <;> rfl
        simp only [takeEvent, hdata, hstate]
        exact reports_append h rfl hopens rfl

theorem reports_step {past : List (Input η)} {c : Client η} (h : Reports past c.state)
    (i : Input η) : Reports (past ++ [i]) (c.step react i).1.state := by
  cases i with
  | setHandler k => exact reports_append h rfl rfl rfl
  | clearHandler => exact reports_append h rfl rfl rfl
  | shutdown => exact over_append.mpr (Or.inr rfl)
  | source e =>
    rw [step]
    split
    · -- what comes after the end does not count
      rename_i hclosed
      rw [hclosed] at h ⊢
      exact over_append.mpr (Or.inl h)
    · rename_i hopen
      exact reports_takeEvent h hopen e

/-- **The state is reported** as the inputs tell it. -/
theorem reports_state (inputs : List (Input η)) :
    Reports inputs (after react slot inputs).state := by
  induction inputs using List.reverseRecOn with
  | nil => exact ⟨by simp [Over], by simp⟩
  | append_singleton past i ih =>
    rw [after_append]
    exact reports_step ih i

/-- Of two signs only one can be the last. -/
theorem not_since_both {inputs : List (Input η)} (hopens : Since Input.opens Input.breaks inputs)
    (hbreaks : Since Input.breaks Input.opens inputs) : False := by
  induction inputs using List.reverseRecOn with
  | nil =>
    obtain ⟨past, i, rest, hsplit, _⟩ := hopens
    simp at hsplit
  | append_singleton past i ih =>
    rcases since_append.mp hopens with hi | ⟨hpast, hi⟩
    · have hi' := Input.not_breaks_of_opens hi
      rcases since_append.mp hbreaks with hj | ⟨_, hj⟩
      · rw [hi'] at hj
        cases hj
      · rw [hi] at hj
        cases hj
    · rcases since_append.mp hbreaks with hj | ⟨hpast', _⟩
      · rw [hi] at hj
        cases hj
      · exact ih hpast hpast'

theorem exists_mem_of_since {first second : Input η → Bool} {inputs : List (Input η)}
    (h : Since first second inputs) : ∃ i ∈ inputs, first i = true := by
  obtain ⟨past, i, rest, rfl, hi, _⟩ := h
  exact ⟨i, by simp, hi⟩

theorem reports_unique {inputs : List (Input η)} {a b : ConnectionState} (ha : Reports inputs a)
    (hb : Reports inputs b) : a = b := by
  -- while nothing was told of the connection, no sign is the last one
  have hquiet : (∀ i ∈ inputs, i.opens = false ∧ i.breaks = false) →
      ¬ Since Input.opens Input.breaks inputs ∧ ¬ Since Input.breaks Input.opens inputs := by
    intro hall
    refine ⟨fun hsince => ?_, fun hsince => ?_⟩
    · obtain ⟨i, hi, hopens⟩ := exists_mem_of_since hsince
      rw [(hall i hi).1] at hopens
      cases hopens
    · obtain ⟨i, hi, hbreaks⟩ := exists_mem_of_since hsince
      rw [(hall i hi).2] at hbreaks
      cases hbreaks
  cases a <;> cases b
  case connecting.connecting | connected.connected | disconnected.disconnected | closed.closed =>
    rfl
  case connected.disconnected => exact (not_since_both ha.2 hb.2).elim
  case disconnected.connected => exact (not_since_both hb.2 ha.2).elim
  case connecting.connected => exact absurd hb.2 (hquiet ha.2).1
  case connecting.disconnected => exact absurd hb.2 (hquiet ha.2).2
  case connected.connecting => exact absurd ha.2 (hquiet hb.2).1
  case disconnected.connecting => exact absurd ha.2 (hquiet hb.2).2
  case closed.connecting | closed.connected | closed.disconnected => exact absurd ha hb.1
  case connecting.closed | connected.closed | disconnected.closed => exact absurd hb ha.1

/-- **The state of the connection** is what the inputs tell of it. -/
theorem state_eq_iff {inputs : List (Input η)} {st : ConnectionState} :
    (after react slot inputs).state = st ↔ Reports inputs st :=
  ⟨fun h => h ▸ reports_state inputs, fun h => reports_unique (reports_state inputs) h⟩

theorem state_eq_closed_iff {inputs : List (Input η)} :
    (after react slot inputs).state = .closed ↔ Over inputs :=
  state_eq_iff

/-! ## Deliveries -/

theorem takeEvent_delivery (c : Client η) (e : SourceEvent) :
    (c.takeEvent react e).2 = (do
      let n ← (Input.source (η := η) e).notification?
      let h ← c.slot
      return ⟨h, c.state, n⟩) := by
  cases e with
  | message data =>
    simp only [takeEvent, Input.notification?]
    cases Inbound.decode? data with
    | none => rfl
    | some inbound =>
      cases inbound with
      | connected => rfl
      | notification n =>
        show (c.dispatch react n).2 = c.slot >>= fun h => some ⟨h, c.state, n⟩
        cases hslot : c.slot <;> simp [dispatch, hslot]
  | _ => rfl

/-- **The step of a client delivers** what is to be delivered after the inputs so far. -/
theorem step_delivery (past : List (Input η)) (i : Input η) :
    ((after react slot past).step react i).2 = delivery? react slot past i := by
  unfold delivery?
  cases i with
  | source e =>
    rw [step]
    by_cases hover : Over past
    · rw [if_pos hover, if_pos (state_eq_closed_iff.mpr hover)]
    · rw [if_neg hover, if_neg (mt state_eq_closed_iff.mp hover)]
      exact takeEvent_delivery _ e
  | _ => simp [step, Input.notification?]

/-- **Each message is delivered once and in order**: position by position, what the input there
delivers after the inputs before it. -/
theorem deliveries_eq (inputs : List (Input η)) :
    ((start slot).run react inputs).2 = (List.range inputs.length).filterMap fun k =>
      inputs[k]?.bind (delivery? react slot (inputs.take k)) := by
  induction inputs using List.reverseRecOn with
  | nil => rfl
  | append_singleton past i ih =>
    have hearlier : ∀ k ∈ List.range past.length,
        (past ++ [i])[k]?.bind (delivery? react slot ((past ++ [i]).take k))
          = past[k]?.bind (delivery? react slot (past.take k)) := by
      intro k hk
      have hlt := List.mem_range.mp hk
      rw [List.getElem?_append_left hlt, List.take_append_of_le_length (Nat.le_of_lt hlt)]
    have hlast : (past ++ [i])[past.length]?.bind
        (delivery? react slot ((past ++ [i]).take past.length)) = delivery? react slot past i := by
      simp
    rw [deliveries_append, step_delivery, ih, List.length_append, List.length_singleton,
      List.range_succ, List.filterMap_append, List.filterMap_congr hearlier]
    simp only [List.filterMap_cons, List.filterMap_nil, hlast]
    cases delivery? react slot past i <;> rfl

/-! ## The slot -/

theorem takeEvent_slot (c : Client η) (e : SourceEvent) :
    (c.takeEvent react e).1.slot = match (c.takeEvent react e).2 with
      | some d => react d.handler d.notification
      | none => c.slot := by
  cases e with
  | message data =>
    simp only [takeEvent]
    cases Inbound.decode? data with
    | none => rfl
    | some inbound =>
      cases inbound with
      | connected => rfl
      | notification n => cases hslot : c.slot <;> simp [dispatch, hslot]
  | _ => rfl

/-- An input writes into the slot, or nothing is written and the slot stays. -/
theorem slot_append (past : List (Input η)) (i : Input η) :
    Writes react slot past i (after react slot (past ++ [i])).slot
      ∨ (∀ other, ¬ Writes react slot past i other)
        ∧ (after react slot (past ++ [i])).slot = (after react slot past).slot := by
  rw [after_append]
  cases i with
  | setHandler h => exact Or.inl (.set h)
  | clearHandler => exact Or.inl .clear
  | shutdown =>
    refine Or.inr ⟨?_, rfl⟩
    rintro other ⟨⟩
    rename_i d h
    simp [delivery?, Input.notification?] at h
  | source e =>
    have hdelivery : ((after react slot past).step react (.source e)).2 =
        delivery? react slot past (.source e) := step_delivery past (.source e)
    -- a handler that runs decides what stays in the slot
    have hslot : ((after react slot past).step react (.source e)).1.slot =
        match ((after react slot past).step react (.source e)).2 with
        | some d => react d.handler d.notification
        | none => (after react slot past).slot := by
      rw [step]
      split
      · rfl
      · exact takeEvent_slot _ e
    rw [hslot, hdelivery]
    cases hd : delivery? react slot past (.source e) with
    | some d => exact Or.inl (.ran hd)
    | none =>
      refine Or.inr ⟨?_, rfl⟩
      rintro other ⟨⟩
      rename_i d h
      rw [hd] at h
      cases h

/-- **In the slot is what was last written there.** -/
theorem lastWrite_slot (inputs : List (Input η)) :
    LastWrite react slot inputs (after react slot inputs).slot := by
  induction inputs using List.reverseRecOn with
  | nil => exact .start rfl (by simp)
  | append_singleton past i ih =>
    rcases @slot_append _ react slot past i with hwrite | ⟨hnone, hsame⟩
    · exact .input rfl hwrite (by simp)
    · rw [hsame]
      cases ih with
      | @input before rest k hsplit hwrite hlast =>
        -- the input that wrote last is still the last one that did
        have hsplit' : past ++ [i] = before ++ k :: (rest ++ [i]) := by
          rw [hsplit]
          simp
        refine .input hsplit' hwrite ?_
        intro more j tail htail
        rcases split_append_singleton htail with ⟨rfl, rfl, _⟩ | ⟨short, _, hrest⟩
        · rw [← hsplit]
          exact hnone
        · exact hlast more j short hrest
      | start hcontent hno =>
        refine .start hcontent fun before j tail htail => ?_
        rcases split_append_singleton htail with ⟨rfl, rfl, _⟩ | ⟨short, _, hpast⟩
        · exact hnone
        · exact hno before j short hpast

/-! ## Any inputs in any order -/

/-- A message that is no greeting leaves the state of the connection. -/
theorem state_append_message (inputs : List (Input η)) {data : String}
    (h : Inbound.decode? data ≠ some .connected) :
    (after react slot (inputs ++ [.source (.message data)])).state
      = (after react slot inputs).state := by
  have hopens : (Input.source (η := η) (.message data)).opens = false := by
    simp [Input.opens, h]
  exact state_eq_iff.mpr (reports_append (reports_state inputs) rfl hopens rfl)

/-- **The end is final.** -/
theorem closed_append {inputs : List (Input η)} (h : Over inputs) (more : List (Input η)) :
    (after react slot (inputs ++ more)).state = .closed
      ∧ ((start slot).run react (inputs ++ more)).2 = ((start slot).run react inputs).2 := by
  have hover : ∀ more, Over (inputs ++ more) := by
    intro more
    obtain ⟨i, hi, hend⟩ := h
    exact ⟨i, List.mem_append_left _ hi, hend⟩
  refine ⟨state_eq_closed_iff.mpr (hover more), ?_⟩
  induction more using List.reverseRecOn with
  | nil => rw [List.append_nil]
  | append_singleton more i ih =>
    rw [← List.append_assoc, deliveries_append, step_delivery, delivery?, if_pos (hover more), ih]
    simp

/-- **What a stream delivers and reports.** Of any inputs in any order each notification that comes
while the stream is open is delivered once and in its place, to the handler that was last put into
the slot, and nothing else is; the state is that of the last sign of the connection, which only a
greeting among the messages is; and the end is final. -/
theorem stream_delivers_and_reports (react : η → Notification → Option η) (slot : Option η)
    (inputs : List (Input η)) :
    ((start slot).run react inputs).2 = (List.range inputs.length).filterMap (fun k =>
        inputs[k]?.bind (delivery? react slot (inputs.take k)))
    ∧ LastWrite react slot inputs (after react slot inputs).slot
    ∧ (∀ st, (after react slot inputs).state = st ↔ Reports inputs st)
    ∧ (∀ data, Inbound.decode? data ≠ some .connected →
        (after react slot (inputs ++ [.source (.message data)])).state
          = (after react slot inputs).state)
    ∧ (Over inputs → ∀ more, (after react slot (inputs ++ more)).state = .closed
        ∧ ((start slot).run react (inputs ++ more)).2 = ((start slot).run react inputs).2) :=
  ⟨deliveries_eq inputs, lastWrite_slot inputs, fun _ => state_eq_iff,
    fun _ => state_append_message inputs, closed_append⟩

/-- A handler that puts another in its place, which empties the slot. -/
def relay (h : Nat) (_ : Notification) : Option Nat :=
  if h = 0 then some 1 else none

/-- Three notifications for it, and the end. -/
def relayInputs : List (Input Nat) :=
  let note : Input Nat := .source (.message "\x7b\"type\":\"message\"\x7d")
  [.setHandler 0, .source .opened, note, note, note, .shutdown]

theorem relay_is_delivered_twice :
    ((start none).run relay relayInputs).2.map Delivery.handler = [0, 1]
    ∧ (∀ more, ((start none).run relay (relayInputs ++ more)).2
        = ((start none).run relay relayInputs).2)
    ∧ (after relay none (relayInputs.take 2 ++ [.source (.message "[]")])).state = .connected := by
  have hread : Json.ofString? "\x7b\"type\":\"message\"\x7d"
      = some (.obj [("type", .str "message")]) := rfl
  have hnote : Inbound.decode? "\x7b\"type\":\"message\"\x7d"
      = some (.notification ⟨.message, none, none, none, none, none, none, none⟩) := by
    rw [Inbound.decode?, hread]
    rfl
  have harray : Inbound.decode? "[]" = none := rfl
  have hdropped : Inbound.decode? "[]" ≠ some .connected := by simp [harray]
  have hover : Over relayInputs := ⟨.shutdown, by simp [relayInputs], rfl⟩
  obtain ⟨_, _, _, _, hend⟩ := stream_delivers_and_reports relay none relayInputs
  obtain ⟨_, _, _, hmessage, _⟩ := stream_delivers_and_reports relay none (relayInputs.take 2)
  refine ⟨?_, fun more => (hend hover more).2, hmessage "[]" hdropped⟩
  simp [relayInputs, run, step, takeEvent, hnote, dispatch, start, relay]

end Client

end TeamConsole.Stream
