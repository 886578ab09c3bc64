import TeamConsole.Console

/-!
# Transcripts of a dialogue

A dialogue says which call comes after which replies. What a server can see of it is a transcript:
the calls in their order, each with its reply. Nothing is assumed of the replies, and the last of
them may never come.

* **`Dialogue.Runs`**: the transcripts of a dialogue, with the value at its end (`runs_of_hold`:
  whatever the server, holding the dialogue gives one of them).
* **`Runs.of_bind`**: one of a dialogue that goes on is one of its first part, and then one of
  the rest.
* **`Dialogue.EveryCall`**, **`Dialogue.MutatesOnce`**: what all calls of a dialogue are like, or
  the one that changes something. Each is kept by going on, and tells of every transcript.
-/

namespace TeamConsole

/-- A call with its reply, which may never have come. -/
structure Exchange where
  call : Call
  reply : Option call.Reply

namespace Exchange

/-- The reply told that the call failed. -/
def Failed (e : Exchange) : Prop :=
  ∃ error, e.reply = some (.error error)

end Exchange

/-- The exchanges of a transcript that are to change something on the server. -/
def mutations (es : List Exchange) : List Exchange :=
  es.filter (·.call.isMutation)

theorem mutations_append (es fs : List Exchange) :
    mutations (es ++ fs) = mutations es ++ mutations fs :=
  List.filter_append es fs

theorem mem_of_mem_mutations {e : Exchange} {es : List Exchange} (h : e ∈ mutations es) :
    e ∈ es :=
  List.mem_filter.mp h |>.1

theorem mutations_cons_of_reads {e : Exchange} (h : e.call.isMutation = false)
    (es : List Exchange) : mutations (e :: es) = mutations es :=
  List.filter_cons_of_neg (by rw [h]; exact Bool.false_ne_true)

theorem mutations_eq_nil_iff {es : List Exchange} :
    mutations es = [] ↔ ∀ e ∈ es, e.call.isMutation = false := by
  simp only [mutations, List.filter_eq_nil_iff, Bool.not_eq_true]

namespace Dialogue

variable {α β : Type}

/-- **The runs of a dialogue**: its exchanges, and the value with which it ended if it did. Any
reply may come, or none, and the dialogue may be broken off at any time. -/
inductive Runs : Dialogue α → List Exchange → Option α → Prop where
  | brokenOff (d : Dialogue α) : Runs d [] none
  | done (a : α) : Runs (.done a) [] (some a)
  | unanswered (c : Call) (next : c.Reply → Dialogue α) : Runs (.call c next) [⟨c, none⟩] none
  | answered {c : Call} {next : c.Reply → Dialogue α} {es : List Exchange} {o : Option α}
      (r : c.Reply) (h : Runs (next r) es o) : Runs (.call c next) (⟨c, some r⟩ :: es) o
  | paused {ms : Nat} {next : Dialogue α} {es : List Exchange} {o : Option α}
      (h : Runs next es o) : Runs (.pause ms next) es o

/-- A run of a dialogue that goes on did not get through its first part, or ran through it and
then into the rest. -/
theorem Runs.of_bind {d : Dialogue α} {f : α → Dialogue β} {es : List Exchange} {o : Option β}
    (h : Runs (d.bind f) es o) :
    (Runs d es none ∧ o = none)
      ∨ ∃ a first rest, es = first ++ rest ∧ Runs d first (some a) ∧ Runs (f a) rest o := by
  induction d generalizing es with
  | done a => exact .inr ⟨a, [], es, rfl, .done a, h⟩
  | call c next ih =>
    rw [Dialogue.bind] at h
    cases h with
    | brokenOff => exact .inl ⟨.brokenOff _, rfl⟩
    | unanswered => exact .inl ⟨.unanswered c next, rfl⟩
    | answered r hrest =>
      -- the reply has chosen the branch, and the split is made there
      rcases ih r hrest with ⟨hfirst, rfl⟩ | ⟨a, first, rest, rfl, hfirst, hrest⟩
      · exact .inl ⟨.answered r hfirst, rfl⟩
      · exact .inr ⟨a, _, rest, rfl, .answered r hfirst, hrest⟩
  | pause ms next ih =>
    rw [Dialogue.bind] at h
    cases h with
    | brokenOff => exact .inl ⟨.brokenOff _, rfl⟩
    | paused hnext =>
      rcases ih hnext with ⟨hfirst, rfl⟩ | ⟨a, first, rest, rfl, hfirst, hrest⟩
      · exact .inl ⟨.paused hfirst, rfl⟩
      · exact .inr ⟨a, first, rest, rfl, .paused hfirst, hrest⟩

/-! ## Servers -/

/-- A server of any kind: what it replies in a state, and what calls and time make of its
state. -/
structure Peer (σ : Type) where
  answer : (c : Call) → σ → c.Reply × σ
  wait : (ms : Nat) → σ → σ

namespace Peer

variable {σ : Type}

/-- The reply to a call, which is noted after the exchanges before. -/
def note (p : Peer σ) (c : Call) : StateM (σ × List Exchange) c.Reply := fun (s, es) =>
  let (r, s') := p.answer c s
  (r, s', es ++ [⟨c, some r⟩])

def sleep (p : Peer σ) (ms : Nat) : StateM (σ × List Exchange) Unit := fun (s, es) =>
  ((), p.wait ms s, es)

end Peer

/-- What is noted while a dialogue is held, with whatever server, is a run of it. -/
theorem runs_of_hold {σ : Type} (p : Peer σ) (d : Dialogue α) (s : σ) (before : List Exchange) :
    ∃ a s' es, d.hold p.note p.sleep (s, before) = (a, s', before ++ es)
      ∧ Runs d es (some a) := by
  induction d generalizing s before with
  | done a => exact ⟨a, s, [], by rw [List.append_nil]; rfl, .done a⟩
  | call c next ih =>
    let r := (p.answer c s).1
    obtain ⟨a, s', es, hheld, hruns⟩ := ih r (p.answer c s).2 (before ++ [⟨c, some r⟩])
    rw [List.append_assoc] at hheld
    exact ⟨a, s', ⟨c, some r⟩ :: es, hheld, .answered r hruns⟩
  | pause ms next ih =>
    obtain ⟨a, s', es, hheld, hruns⟩ := ih (p.wait ms s) before
    exact ⟨a, s', es, hheld, .paused hruns⟩

/-! ## What the calls of a dialogue are like -/

/-- All calls are as `p` says, whatever the replies. -/
inductive EveryCall (p : Call → Prop) : Dialogue α → Prop where
  | done (a : α) : EveryCall p (.done a)
  | call {c : Call} {next : c.Reply → Dialogue α} (hc : p c)
      (hnext : ∀ r, EveryCall p (next r)) : EveryCall p (.call c next)
  | pause {ms : Nat} {next : Dialogue α} (h : EveryCall p next) : EveryCall p (.pause ms next)

/-- Nothing is changed on the server. -/
abbrev Reads : Dialogue α → Prop :=
  EveryCall (·.isMutation = false)

/-- **At most one mutation.** Whatever the replies, at most one call changes something, and that
one is as `p` says. -/
inductive MutatesOnce (p : Call → Prop) : Dialogue α → Prop where
  | done (a : α) : MutatesOnce p (.done a)
  | read {c : Call} {next : c.Reply → Dialogue α} (hc : c.isMutation = false)
      (hnext : ∀ r, MutatesOnce p (next r)) : MutatesOnce p (.call c next)
  | mutate {c : Call} {next : c.Reply → Dialogue α} (hc : p c)
      (hnext : ∀ r, (next r).Reads) : MutatesOnce p (.call c next)
  | pause {ms : Nat} {next : Dialogue α} (h : MutatesOnce p next) : MutatesOnce p (.pause ms next)

section

variable {p : Call → Prop} {d : Dialogue α}

theorem EveryCall.bind {f : α → Dialogue β} (h : d.EveryCall p) (hf : ∀ a, (f a).EveryCall p) :
    (d >>= f).EveryCall p := by
  induction h with
  | done a => exact hf a
  | call hc _ ih => exact .call hc ih
  | pause _ ih => exact .pause ih

theorem Reads.mutatesOnce (h : d.Reads) : d.MutatesOnce p := by
  induction h with
  | done a => exact .done a
  | call hc _ ih => exact .read hc ih
  | pause _ ih => exact .pause ih

/-- The mutation may come after a first part that only reads. -/
theorem Reads.bind_mutatesOnce {f : α → Dialogue β} (h : d.Reads)
    (hf : ∀ a, (f a).MutatesOnce p) : (d >>= f).MutatesOnce p := by
  induction h with
  | done a => exact hf a
  | call hc _ ih => exact .read hc ih
  | pause _ ih => exact .pause ih

/-- Or it may come in the first part, if the rest only reads. -/
theorem MutatesOnce.bind {f : α → Dialogue β} (h : d.MutatesOnce p) (hf : ∀ a, (f a).Reads) :
    (d >>= f).MutatesOnce p := by
  induction h with
  | done a => exact (hf a).mutatesOnce
  | read hc _ ih => exact .read hc ih
  | mutate hc hnext => exact .mutate hc fun r => (hnext r).bind hf
  | pause _ ih => exact .pause ih

/-! ### What a transcript shows of it -/

variable {es : List Exchange} {o : Option α}

theorem EveryCall.of_runs (h : d.EveryCall p) (hruns : Runs d es o) : ∀ e ∈ es, p e.call := by
  induction hruns with
  | brokenOff => exact fun _ he => nomatch he
  | done => exact fun _ he => nomatch he
  | unanswered =>
    cases h with
    | call hc _ => exact List.forall_mem_singleton.mpr hc
  | answered r _ ih =>
    cases h with
    | call hc hnext => exact List.forall_mem_cons.mpr ⟨hc, ih (hnext r)⟩
  | paused _ ih =>
    cases h with
    | pause h => exact ih h

theorem Reads.of_runs (h : d.Reads) (hruns : Runs d es o) : mutations es = [] :=
  mutations_eq_nil_iff.mpr (EveryCall.of_runs h hruns)

theorem mutations_of_reads_after {e : Exchange} (he : p e.call) (hes : mutations es = []) :
    (mutations (e :: es)).length ≤ 1 ∧ ∀ m ∈ mutations (e :: es), p m.call := by
  have hsub : mutations (e :: es) ⊆ [e] ∧ (mutations (e :: es)).length ≤ 1 := by
    unfold mutations at hes ⊢
    rw [List.filter_cons, hes]
    split
    · exact ⟨List.Subset.refl _, Nat.le_refl 1⟩
    · exact ⟨List.nil_subset _, Nat.zero_le 1⟩
  exact ⟨hsub.2, fun m hm => List.mem_singleton.mp (hsub.1 hm) ▸ he⟩

/-- A transcript shows at most one mutation, which is as `p` says. -/
theorem MutatesOnce.of_runs (h : d.MutatesOnce p) (hruns : Runs d es o) :
    (mutations es).length ≤ 1 ∧ ∀ e ∈ mutations es, p e.call := by
  have hnone : (mutations []).length ≤ 1 ∧ ∀ e ∈ mutations [], p e.call :=
    ⟨Nat.zero_le 1, fun _ he => nomatch he⟩
  induction hruns with
  | brokenOff => exact hnone
  | done => exact hnone
  | unanswered c next =>
    cases h with
    | read hc _ =>
      rw [mutations_cons_of_reads hc]
      exact hnone
    | mutate hc _ => exact mutations_of_reads_after hc rfl
  | answered r hrest ih =>
    cases h with
    | read hc hnext =>
      rw [mutations_cons_of_reads hc]
      exact ih (hnext r)
    | mutate hc hnext => exact mutations_of_reads_after hc (Reads.of_runs (hnext r) hrest)
  | paused _ ih =>
    cases h with
    | pause h => exact ih h

end

end Dialogue

/-! ## Attempts

An attempt that goes on does so only after a value, not after a failure. -/

namespace Attempt

open Dialogue (Runs)

variable {α β : Type} {p : Call → Prop}

theorem everyCall_ask (context : List String) {c : Call} (h : p c) :
    (ask context c).run.EveryCall p :=
  .call h fun _ => .done _

theorem everyCall_bind {x : Attempt α} {f : α → Attempt β} (h : x.run.EveryCall p)
    (hf : ∀ a, (f a).run.EveryCall p) : (x >>= f).run.EveryCall p := by
  rw [ExceptT.run_bind]
  refine h.bind fun
    | .ok a => hf a
    | .error e => .done _

theorem bind_mutatesOnce {x : Attempt α} {f : α → Attempt β} (h : x.run.Reads)
    (hf : ∀ a, (f a).run.MutatesOnce p) : (x >>= f).run.MutatesOnce p := by
  rw [ExceptT.run_bind]
  refine Dialogue.Reads.bind_mutatesOnce h fun
    | .ok a => hf a
    | .error e => .done _

theorem mutatesOnce_bind {x : Attempt α} {f : α → Attempt β} (h : x.run.MutatesOnce p)
    (hf : ∀ a, (f a).run.Reads) : (x >>= f).run.MutatesOnce p := by
  rw [ExceptT.run_bind]
  refine h.bind fun
    | .ok a => hf a
    | .error e => .done _

theorem everyCall_lift {d : Dialogue α} (h : d.EveryCall p) :
    (ExceptT.run (liftM d : Attempt α)).EveryCall p :=
  h.bind fun _ => .done _

theorem mutatesOnce_lift {d : Dialogue α} (h : d.MutatesOnce p) :
    (ExceptT.run (liftM d : Attempt α)).MutatesOnce p :=
  h.bind fun _ => .done _

theorem everyCall_discard {x : Attempt α} (h : x.run.EveryCall p) :
    (discard x).run.EveryCall p := by
  show ((fun _ => ()) <$> x).run.EveryCall p
  rw [ExceptT.run_map]
  exact h.bind fun _ => .done _

/-- A run of an attempt that goes on is one of its first part, which then has not ended with a
value, or came through it with one and then into the rest. -/
theorem runs_bind {x : Attempt α} {f : α → Attempt β} {es : List Exchange}
    {o : Option (Except Failure β)} (h : Runs (x >>= f).run es o) :
    ((∃ o', Runs x.run es o') ∧ ∀ b, o ≠ some (.ok b))
      ∨ ∃ a first rest, es = first ++ rest ∧ Runs x.run first (some (.ok a))
          ∧ Runs (f a).run rest o := by
  rw [ExceptT.run_bind] at h
  rcases h.of_bind with ⟨hfirst, rfl⟩ | ⟨a, first, rest, rfl, hfirst, hrest⟩
  · exact .inl ⟨⟨none, hfirst⟩, nofun⟩
  · cases a with
    | ok a => exact .inr ⟨a, first, rest, rfl, hfirst, hrest⟩
    | error e =>
      -- nothing comes after a failure
      have hend : rest = [] ∧ ∀ b, o ≠ some (.ok b) := by
        cases hrest <;> exact ⟨rfl, nofun⟩
      rw [hend.1, List.append_nil]
      exact .inl ⟨⟨_, hfirst⟩, hend.2⟩

theorem runs_bind_ok {x : Attempt α} {f : α → Attempt β} {es : List Exchange} {b : β}
    (h : Runs (x >>= f).run es (some (.ok b))) :
    ∃ a first rest, es = first ++ rest ∧ Runs x.run first (some (.ok a))
      ∧ Runs (f a).run rest (some (.ok b)) := by
  rcases runs_bind h with ⟨_, hnot⟩ | hthrough
  · exact absurd rfl (hnot b)
  · exact hthrough

theorem runs_lift_ok {d : Dialogue α} {es : List Exchange} {a : α}
    (h : Runs (ExceptT.run (liftM d : Attempt α)) es (some (.ok a))) : Runs d es (some a) := by
  rcases Runs.of_bind h with ⟨_, hnone⟩ | ⟨a', first, rest, rfl, hfirst, hrest⟩
  · cases hnone
  · cases hrest
    rw [List.append_nil]
    exact hfirst

end Attempt

end TeamConsole
