import TeamConsole.Proofs.Queue

/-!
# The newest list is shown

The list of teams and the allowlist belong to no team. Each is asked for by requests of its own,
under numbers of its own; a bootstrap asks for both. Their answers may overtake each other, and an
answer is taken only if that of no later request was taken before it.

* **`Listing`**: which of the two lists; all of this module is about either.
* **`ListDeed`**, **`holding_after`**: what a moment does to a list and to its numbers.
* **`ListTurn`**, **`list_turn`**: the same against what the moment asks for and brings.
* **`InOrder`**: requests are numbered in the order of their issue, and each is answered once.
* **`newest_list_is_shown`**: the headline.
-/

namespace TeamConsole

open Sync (State ListSeq)

/-! ## The two lists -/

/-- A list that is loaded on its own. -/
inductive Listing where
  | teams
  | allowlist
deriving DecidableEq, Repr

/-- A list, with the numbers of the requests for it. -/
structure Holding (α : Type) where
  seq : ListSeq
  list : α

namespace Listing

/-- What such a list is. -/
def Content : Listing → Type
  | teams => List TeamSummary
  | allowlist => NetworkAllowlist

def empty : (k : Listing) → k.Content
  | teams => ([] : List TeamSummary)
  | allowlist => (⟨[]⟩ : NetworkAllowlist)

def holding : (k : Listing) → State → Holding k.Content
  | teams, s => ⟨s.teamsSeq, s.snapshot.teams⟩
  | allowlist, s => ⟨s.networkSeq, s.network⟩

/-- The list that a view shows. -/
def shown (k : Listing) (s : State) : k.Content :=
  (k.holding s).list

/-- The number under which the list is asked for by what waits. -/
def number? : Listing → Waiting → Option Nat
  | teams, .bootstrap n _ | teams, .teams n _ => some n
  | allowlist, .bootstrap _ n | allowlist, .network n _ => some n
  | _, _ => none

/-- The list that a reply brings; a bootstrap may come without an allowlist. -/
def found? : (k : Listing) → (w : Waiting) → w.Reply → Option k.Content
  | teams, .bootstrap .., .ok (b : Bootstrap) => some b.teams
  | allowlist, .bootstrap .., .ok (b : Bootstrap) => b.network
  | teams, .teams .., .ok (found : List TeamSummary) => some found
  | allowlist, .network .., .ok (found : NetworkAllowlist) => some found
  | _, _, _ => none

/-- What a reply brings of a list, with the number of the request. -/
def brings? (k : Listing) (w : Waiting) (reply : w.Reply) : Option (Nat × k.Content) :=
  (k.number? w).bind fun n => (k.found? w reply).map fun found => (n, found)

/-- The list asked for by itself, under a number. -/
def request : Listing → Nat → Waiting
  | teams, n => .teams n false
  | allowlist, n => .network n false

/-- The operation that asks for a list alone. -/
def operation : Listing → Operation
  | teams => .refreshTeams
  | allowlist => .refreshNetwork

/-- A reply with the list, as one to its request. -/
def reply : (k : Listing) → (n : Nat) → Except GatewayError k.Content → (k.request n).Reply
  | teams, _, r => r
  | allowlist, _, r => r

end Listing

namespace Moment

/-- The number under which a moment asks for a list. -/
def asked? (o : Sync.Options) (k : Listing) (m : Moment) : Option Nat :=
  (m.scene.turn o m.action).asks.bind k.number?

/-- The number of the request for a list that is answered, well or badly. -/
def answered? (k : Listing) (m : Moment) : Option Nat :=
  match m.action with
  | .answer w _ => k.number? w
  | _ => none

def brought? (k : Listing) (m : Moment) : Option (Nat × k.Content) :=
  match m.action with
  | .answer w reply => k.brings? w reply
  | _ => none

theorem answered_of_brought {k : Listing} {m : Moment} {n : Nat} {found : k.Content}
    (h : m.brought? k = some (n, found)) : m.answered? k = some n := by
  unfold brought? at h
  unfold answered?
  split at h
  · obtain ⟨n', hnumber, hmap⟩ := Option.bind_eq_some_iff.mp h
    obtain ⟨found', _, heq⟩ := Option.map_eq_some_iff.mp hmap
    cases heq
    exact hnumber
  · cases h

end Moment

/-! ## What a deed does to a list -/

/-- What a deed does to a list. -/
inductive ListDeed (α : Type) where
  | keep
  | ask
  | take (n : Nat) (found : α)

namespace ListDeed

variable {α : Type}

def apply (h : Holding α) : ListDeed α → Holding α
  | keep => h
  | ask => { h with seq := h.seq.issue.1 }
  | take n found =>
    match h.seq.commit? n with
    | some seq => ⟨seq, found⟩
    | none => h

/-- The number under which a list is asked for when so many requests were issued. -/
def asked? (issued : Nat) : ListDeed α → Option Nat
  | ask => some (issued + 1)
  | _ => none

def takes? : ListDeed α → Option (Nat × α)
  | take n found => some (n, found)
  | _ => none

def ofBrought : Option (Nat × α) → ListDeed α
  | some (n, found) => take n found
  | none => keep

@[simp]
theorem asked?_ofBrought (issued : Nat) (b : Option (Nat × α)) :
    (ofBrought b).asked? issued = none := by
  cases b <;> rfl

@[simp]
theorem takes?_ofBrought (b : Option (Nat × α)) : (ofBrought b).takes? = b := by
  cases b <;> rfl

theorem apply_take (h : Holding α) (n : Nat) (found : α) :
    (take n found).apply h =
      if n ≤ h.seq.committed then h else ⟨{ h.seq with committed := n }, found⟩ := by
  unfold apply ListSeq.commit?
  by_cases hle : n ≤ h.seq.committed <;> simp [hle]

end ListDeed

/-- A deed, as what it does to one of the lists. -/
def Listing.deed : (k : Listing) → Deed → ListDeed k.Content
  | teams, .ask true _ => .ask
  | allowlist, .ask _ true => .ask
  | teams, .takeTeams n found => .take n found
  | allowlist, .takeNetwork n found => .take n found
  | teams, .begin n _ b => .take n b.teams
  | allowlist, .begin _ n b =>
    match b.network with
    | some found => .take n found
    | none => .keep
  | _, _ => .keep

/-! The writes that reach neither list, then the two that install one. -/

theorem holding_switchTeam (k : Listing) (s : State) (team : Option String) :
    k.holding (s.switchTeam team) = k.holding s := by
  cases k <;> rfl

theorem holding_preseed (k : Listing) (s : State) (b : Bootstrap) :
    k.holding (preseed s b) = k.holding s := by
  unfold preseed
  split
  · cases k <;> rfl
  · rfl

theorem holding_settleRefresh (k : Listing) (s : State) (t : Sync.Ticket)
    (reply : Except GatewayError (List Task × List Agent)) :
    k.holding (s.settleRefresh t reply).1 = k.holding s := by
  cases hcurrent : s.isCurrent t with
  | false => rw [settleRefresh_stale hcurrent]
  | true =>
    cases reply with
    | error e =>
      rw [settleRefresh_error hcurrent]
      cases k <;> rfl
    | ok lists =>
      rw [settleRefresh_ok hcurrent lists.1 lists.2]
      cases k <;> rfl

theorem holding_overlay (k : Listing) (s : State) (team : String) (id : Int) (v : Confirmed) :
    k.holding (s.overlay team id v.apply).1 = k.holding s := by
  by_cases hteam : s.snapshot.selectedTeam = some team
  · rw [overlay_selected hteam]
    split <;> cases k <;> rfl
  · rw [overlay_other hteam]

theorem holding_installTeams (k : Listing) (s : State) (n : Nat) (found : List TeamSummary) :
    k.holding ((s.installTeams? n found).getD s)
      = (k.deed (.takeTeams n found)).apply (k.holding s) := by
  unfold State.installTeams?
  cases k with
  | teams =>
    simp only [Listing.deed, ListDeed.apply, Listing.holding]
    cases s.teamsSeq.commit? n <;> rfl
  | allowlist => cases s.teamsSeq.commit? n <;> rfl

theorem holding_installNetwork (k : Listing) (s : State) (n : Nat) (found : NetworkAllowlist) :
    k.holding ((s.installNetwork? n found).getD s)
      = (k.deed (.takeNetwork n found)).apply (k.holding s) := by
  unfold State.installNetwork?
  cases k with
  | teams => cases s.networkSeq.commit? n <;> rfl
  | allowlist =>
    simp only [Listing.deed, ListDeed.apply, Listing.holding]
    cases s.networkSeq.commit? n <;> rfl

theorem holding_begin (k : Listing) (s : State) (teamsSeq networkSeq : Nat) (b : Bootstrap) :
    k.holding (s.begin teamsSeq networkSeq b).1
      = (k.deed (.begin teamsSeq networkSeq b)).apply (k.holding s) := by
  -- the list of teams is taken first, then the allowlist if there is one
  let s₁ := (s.installTeams? teamsSeq b.teams).getD s
  let s₂ : State := { s₁ with config := b.config <|> s₁.config }
  let s₃ := (b.network.bind (s₂.installNetwork? networkSeq)).getD s₂
  have h₁ : k.holding s₁ = (k.deed (.takeTeams teamsSeq b.teams)).apply (k.holding s) :=
    holding_installTeams k s teamsSeq b.teams
  have h₂ : k.holding s₂ = k.holding s₁ := by cases k <;> rfl
  have hbegin : k.holding (s.begin teamsSeq networkSeq b).1 = k.holding s₃ := by
    show k.holding (preseed (s₃.switchTeam b.initialTeamName) b) = _
    rw [holding_preseed, holding_switchTeam]
  rw [hbegin]
  show k.holding ((b.network.bind (s₂.installNetwork? networkSeq)).getD s₂) = _
  cases hnetwork : b.network with
  | none =>
    show k.holding s₂ = _
    rw [h₂, h₁]
    cases k with
    | teams => rfl
    | allowlist =>
      simp only [Listing.deed, hnetwork]
  | some found =>
    show k.holding ((s₂.installNetwork? networkSeq found).getD s₂) = _
    rw [holding_installNetwork, h₂, h₁]
    cases k with
    | teams => rfl
    | allowlist =>
      simp only [Listing.deed, hnetwork]
      rfl

/-- **A deed does to a list what it is to it**, and nothing else. -/
theorem holding_apply (k : Listing) (s : State) (d : Deed) :
    k.holding (d.apply s).1 = (k.deed d).apply (k.holding s) := by
  cases d with
  | idle => cases k <;> rfl
  | ask teams network => cases k <;> cases teams <;> cases network <;> rfl
  | takeTeams n found =>
    rw [← holding_installTeams]
    simp only [Deed.apply]
    cases s.installTeams? n found <;> rfl
  | takeNetwork n found =>
    rw [← holding_installNetwork]
    simp only [Deed.apply]
    cases s.installNetwork? n found <;> rfl
  | begin teamsSeq networkSeq b => exact holding_begin k s teamsSeq networkSeq b
  | failBegin e => cases k <;> rfl
  | select name =>
    rw [Deed.apply, select_fst]
    split
    · cases k <;> rfl
    · rw [holding_switchTeam]
      cases k <;> rfl
  | settle t reply =>
    refine (holding_settleRefresh k s t reply).trans ?_
    cases k <;> rfl
  | overlay team id v =>
    refine (holding_overlay k s team id v).trans ?_
    cases k <;> rfl

theorem holding_after (o : Sync.Options) (k : Listing) (m : Moment) :
    k.holding (m.after o).view = (k.deed m.deed).apply (k.holding m.scene.view) := by
  have hdone : k.holding m.done = (k.deed m.deed).apply (k.holding m.scene.view) :=
    holding_apply k m.scene.view m.deed
  rw [← hdone]
  rcases after_view_cases o m with hview | hview
  · rw [hview]
  · rw [hview]
    cases k <;> rfl

/-! ## What a moment asks for and brings -/

/-- The deed after a reply takes what the reply brings. -/
theorem deed_of_reply (k : Listing) (w : Waiting) (reply : w.Reply) :
    k.deed (w.deed reply) = .ofBrought (k.brings? w reply) := by
  cases w with
  | bootstrap teamsSeq networkSeq =>
    cases reply with
    | error e => cases k <;> rfl
    | ok b =>
      cases k with
      | teams => rfl
      | allowlist =>
        -- a bootstrap may come without an allowlist
        obtain ⟨config, teams, initial, tasks, agents, network⟩ := b
        cases network <;> rfl
  | change s =>
    cases reply with
    | error e => cases k <;> rfl
    | ok answer =>
      rw [Waiting.deed]
      rcases s.deed_cases answer with hdeed | ⟨team, id, v, hdeed⟩
      · rw [hdeed]
        cases k <;> rfl
      · rw [hdeed]
        cases k <;> rfl
  | _ => cases reply <;> cases k <;> rfl

/-- A moment brings a list exactly if its deed takes one. -/
theorem brought?_eq (k : Listing) (m : Moment) : m.brought? k = (k.deed m.deed).takes? := by
  obtain ⟨c, a⟩ := m
  cases a with
  | answer w reply =>
    show k.brings? w reply = (k.deed (w.deed reply)).takes?
    rw [deed_of_reply, ListDeed.takes?_ofBrought]
  | start op =>
    cases op with
    | notify n =>
      simp only [Moment.deed, Scene.deed, Operation.deed]
      cases NotifyAction.plan c.view.snapshot.selectedTeam n <;> cases k <;> rfl
    | _ => cases k <;> rfl
  | _ => cases k <;> rfl

theorem number?_of_isRefresh (k : Listing) {w : Waiting} (h : w.isRefresh = true) :
    k.number? w = none := by
  cases w with
  | refresh t after => cases k <;> rfl
  | _ => cases h

theorem number?_of_refreshing (k : Listing) {s : Step} (h : s.next.Refreshing) :
    s.asks.bind k.number? = none := by
  cases hasks : s.asks with
  | none => rfl
  | some w => exact number?_of_isRefresh k (isRefresh_of_refreshing h hasks)

theorem asked?_of_reply (o : Sync.Options) (k : Listing) (c : Scene) (w : Waiting)
    (reply : w.Reply) : Moment.asked? o k ⟨c, .answer w reply⟩ = none := by
  show (c.desk.resume o w reply).asks.bind k.number? = none
  cases hasks : (c.desk.resume o w reply).asks with
  | none => rfl
  | some w' => exact number?_of_isRefresh k (isRefresh_of_resume_asks hasks)

/-- A moment asks for a list, under the next number, exactly if its deed does. -/
theorem asked?_eq (o : Sync.Options) (k : Listing) (m : Moment) :
    m.asked? o k = (k.deed m.deed).asked? (k.holding m.scene.view).seq.issued := by
  obtain ⟨c, a⟩ := m
  cases a with
  | start op =>
    cases op with
    | select | refresh | refreshWithRetry =>
      refine (number?_of_refreshing k (refreshing_refresh o _ _ _)).trans ?_
      cases k <;> rfl
    | notify n =>
      simp only [Moment.asked?, Moment.deed, Scene.turn, Scene.deed, Desk.start, Operation.deed]
      cases NotifyAction.plan c.desk.view.snapshot.selectedTeam n with
      | refreshSelected =>
        refine (number?_of_refreshing k (refreshing_refresh o _ _ _)).trans ?_
        cases k <;> rfl
      | _ => cases k <;> rfl
    | change t =>
      simp only [Moment.asked?, Scene.turn, Desk.start]
      cases t.check <;> cases k <;> rfl
    | _ => cases k <;> rfl
  | answer w reply =>
    show _ = (k.deed (w.deed reply)).asked? _
    rw [deed_of_reply, ListDeed.asked?_ofBrought]
    exact asked?_of_reply o k c w reply
  | wake r =>
    refine (number?_of_refreshing k (refreshing_wake o c.desk r)).trans ?_
    cases k <;> rfl
  | confirm team id v => cases v <;> cases k <;> rfl
  | drop team id => cases k <;> rfl

/-- **A turn of a list.** A moment leaves a list alone, asks for it under the next number, or
brings it; what is brought is taken unless the list held has a higher number. -/
inductive ListTurn (o : Sync.Options) (k : Listing) (m : Moment) : Prop where
  | keeps (hasked : m.asked? o k = none) (hbrought : m.brought? k = none)
      (hafter : k.holding (m.after o).view = k.holding m.scene.view)
  | asks {n : Nat} (hasked : m.asked? o k = some n) (hbrought : m.brought? k = none)
      (hn : n = (k.holding m.scene.view).seq.issued + 1)
      (hafter : k.holding (m.after o).view =
        ⟨⟨n, (k.holding m.scene.view).seq.committed⟩, k.shown m.scene.view⟩)
  | brings {n : Nat} {found : k.Content} (hasked : m.asked? o k = none)
      (hbrought : m.brought? k = some (n, found))
      (hafter : k.holding (m.after o).view =
        if n ≤ (k.holding m.scene.view).seq.committed then k.holding m.scene.view
        else ⟨⟨(k.holding m.scene.view).seq.issued, n⟩, found⟩)

theorem list_turn (o : Sync.Options) (k : Listing) (m : Moment) : ListTurn o k m := by
  have hasked := asked?_eq o k m
  have hbrought := brought?_eq k m
  have hafter := holding_after o k m
  cases hdeed : k.deed m.deed with
  | keep =>
    rw [hdeed] at hasked hbrought hafter
    exact .keeps hasked hbrought hafter
  | ask =>
    rw [hdeed] at hasked hbrought hafter
    exact .asks hasked hbrought rfl hafter
  | take n found =>
    rw [hdeed] at hasked hbrought hafter
    rw [ListDeed.apply_take] at hafter
    exact .brings hasked hbrought hafter

/-! ## The numbers of the requests -/

/-- **In order.** The requests for a list have the numbers from one on in the order of their
issue, and each of them is under way or was answered, once. -/
structure InOrder (o : Sync.Options) (k : Listing) (past : List Moment) (c : Scene) : Prop where
  asked : past.reverse.filterMap (Moment.asked? o k)
    = List.range' 1 (k.holding c.view).seq.issued
  once : (c.waiting.filterMap k.number? ++ past.filterMap (Moment.answered? k)).Perm
    (List.range' 1 (k.holding c.view).seq.issued)

theorem issued_after (o : Sync.Options) (k : Listing) (m : Moment) :
    List.range' 1 (k.holding (m.after o).view).seq.issued
      = List.range' 1 (k.holding m.scene.view).seq.issued ++ (m.asked? o k).toList := by
  cases list_turn o k m with
  | keeps hasked _ hafter =>
    rw [hasked, hafter]
    exact (List.append_nil _).symm
  | asks hasked _ hn hafter =>
    rw [hasked, hafter, hn, Option.toList_some]
    show List.range' 1 _ = _
    rw [List.range'_1_concat, Nat.add_comm 1]
  | brings hasked _ hafter =>
    rw [hasked, hafter]
    split <;> exact (List.append_nil _).symm

theorem waiting_perm (k : Listing) {m : Moment} (ha : m.scene.Allows m.action) :
    ((m.scene.stillWaiting m.action).filterMap k.number? ++ (m.answered? k).toList).Perm
      (m.scene.waiting.filterMap k.number?) := by
  obtain ⟨c, a⟩ := m
  cases a with
  | answer w reply =>
    have hw : w ∈ c.waiting := ha
    have hperm := (List.perm_cons_erase hw).filterMap k.number?
    rw [List.filterMap_cons] at hperm
    refine List.Perm.trans ?_ hperm.symm
    show ((c.waiting.erase w).filterMap k.number? ++ (k.number? w).toList).Perm _
    cases k.number? w with
    | none => exact .of_eq (List.append_nil _)
    | some n => exact List.perm_append_singleton n _
  | _ => exact .of_eq (List.append_nil _)

theorem inOrder_after (o : Sync.Options) {k : Listing} {m : Moment} {past : List Moment}
    (h : InOrder o k past m.scene) (ha : m.scene.Allows m.action) :
    InOrder o k (m :: past) (m.after o) := by
  refine ⟨?_, ?_⟩
  · rw [List.reverse_cons, List.filterMap_append, h.asked, issued_after]
    cases hasked : m.asked? o k <;> simp [hasked]
  · rw [issued_after]
    have hwaiting : (m.after o).waiting.filterMap k.number?
        = (m.asked? o k).toList ++ (m.scene.stillWaiting m.action).filterMap k.number? := by
      show ((m.scene.turn o m.action).asks.toList ++ _).filterMap k.number? = _
      rw [List.filterMap_append]
      unfold Moment.asked?
      cases (m.scene.turn o m.action).asks with
      | none => rfl
      | some w => cases hnumber : k.number? w <;> simp [hnumber]
    have hanswered : (m :: past).filterMap (Moment.answered? k)
        = (m.answered? k).toList ++ past.filterMap (Moment.answered? k) := by
      cases hanswered : m.answered? k <;> simp [hanswered]
    -- what is asked for goes to the end; the others only change sides
    rw [hwaiting, hanswered, List.append_assoc, ← List.append_assoc _ (m.answered? k).toList]
    refine List.perm_append_comm.trans (List.Perm.append_right _ ?_)
    exact ((waiting_perm k ha).append_right _).trans h.once

theorem Run.inOrder {o : Sync.Options} {past : List Moment} {c : Scene} (h : Run o past c)
    (k : Listing) : InOrder o k past c := by
  induction h with
  | fresh => cases k <;> exact ⟨rfl, .refl _⟩
  | act a _ ha ih => exact inOrder_after o (m := ⟨_, a⟩) ih ha

theorem Run.answered_nodup {o : Sync.Options} {past : List Moment} {c : Scene} (h : Run o past c)
    (k : Listing) : (past.filterMap (Moment.answered? k)).Nodup :=
  ((h.inOrder k).once.nodup_iff.mpr List.nodup_range').sublist (List.sublist_append_right _ _)

theorem InOrder.pos {o : Sync.Options} {k : Listing} {past : List Moment} {c : Scene}
    (h : InOrder o k past c) {n : Nat}
    (hn : n ∈ c.waiting.filterMap k.number? ++ past.filterMap (Moment.answered? k)) : 0 < n := by
  have hissued := h.once.mem_iff.mp hn
  rw [List.mem_range'_1] at hissued
  omega

/-! ## The list that is shown -/

/-- Whatever was brought so far was asked for before the request of this number. -/
def Unovertaken (k : Listing) (past : List Moment) (n : Nat) : Prop :=
  ∀ x ∈ past, ∀ n' found, x.brought? k = some (n', found) → n' < n

/-- The list held is the one that the answer with the highest number brought, and it has that
number; it is empty under the number zero before there is one. -/
structure HoldsNewest (k : Listing) (past : List Moment) (c : Scene) : Prop where
  le : ∀ x ∈ past, ∀ n found, x.brought? k = some (n, found) → n ≤ (k.holding c.view).seq.committed
  source : (k.holding c.view).seq.committed = 0 ∧ k.shown c.view = k.empty
    ∨ ∃ x ∈ past, x.brought? k = some ((k.holding c.view).seq.committed, k.shown c.view)

theorem holdsNewest_after (o : Sync.Options) {k : Listing} {m : Moment} {past : List Moment}
    (h : HoldsNewest k past m.scene) : HoldsNewest k (m :: past) (m.after o) := by
  -- the list held stays, and what the moment brought, if anything, is not newer
  have hkept (hlate : ∀ n found, m.brought? k = some (n, found) →
        n ≤ (k.holding m.scene.view).seq.committed)
      (hcommitted : (k.holding (m.after o).view).seq.committed
        = (k.holding m.scene.view).seq.committed)
      (hshown : k.shown (m.after o).view = k.shown m.scene.view) :
      HoldsNewest k (m :: past) (m.after o) := by
    refine ⟨?_, ?_⟩
    · intro x hx n found hbrought
      rw [hcommitted]
      rcases List.mem_cons.mp hx with rfl | hx
      · exact hlate n found hbrought
      · exact h.le x hx n found hbrought
    · rw [hcommitted, hshown]
      exact h.source.imp_right fun ⟨x, hx, hx'⟩ => ⟨x, List.mem_cons_of_mem _ hx, hx'⟩
  cases list_turn o k m with
  | keeps _ hbrought hafter =>
    exact hkept (by simp [hbrought]) (by rw [hafter]) (by rw [Listing.shown, hafter]; rfl)
  | asks _ hbrought _ hafter =>
    exact hkept (by simp [hbrought]) (by rw [hafter]) (by rw [Listing.shown, hafter])
  | @brings n found _ hbrought hafter =>
    by_cases hle : n ≤ (k.holding m.scene.view).seq.committed
    · rw [if_pos hle] at hafter
      refine hkept ?_ (by rw [hafter]) (by rw [Listing.shown, hafter]; rfl)
      intro n' found' hbrought'
      cases hbrought.symm.trans hbrought'
      exact hle
    · -- what the moment brought is held from now on, and is the newest
      rw [if_neg hle] at hafter
      refine ⟨?_, Or.inr ⟨m, List.mem_cons_self, ?_⟩⟩
      · intro x hx n' found' hbrought'
        rw [hafter]
        rcases List.mem_cons.mp hx with rfl | hx
        · cases hbrought.symm.trans hbrought'
          exact Nat.le_refl _
        · exact Nat.le_trans (h.le x hx n' found' hbrought') (Nat.le_of_not_le hle)
      · rw [Listing.shown, hafter]
        exact hbrought

theorem Run.holdsNewest {o : Sync.Options} {past : List Moment} {c : Scene} (h : Run o past c)
    (k : Listing) : HoldsNewest k past c := by
  induction h with
  | fresh =>
    refine ⟨fun _ hx => (nomatch hx), Or.inl ?_⟩
    cases k <;> exact ⟨rfl, rfl⟩
  | act a _ _ ih => exact holdsNewest_after o (m := ⟨_, a⟩) ih

/-- The number of the list held tells whether an answer was overtaken. -/
theorem Run.unovertaken_iff {o : Sync.Options} {past : List Moment} {c : Scene} (h : Run o past c)
    {k : Listing} {n : Nat} (hn : 0 < n) :
    Unovertaken k past n ↔ (k.holding c.view).seq.committed < n := by
  have hnewest := h.holdsNewest k
  constructor
  · intro hover
    rcases hnewest.source with ⟨hzero, _⟩ | ⟨x, hx, hbrought⟩
    · rw [hzero]
      exact hn
    · exact hover x hx _ _ hbrought
  · intro hlt x hx n' found hbrought
    exact Nat.lt_of_le_of_lt (hnewest.le x hx n' found hbrought) hlt

/-- **What is shown of a list.** It is empty while no answer brought it; after that it is what the
answer to the latest request brought, of all that were answered with a list. -/
def ShowsNewest (k : Listing) (past : List Moment) (c : Scene) : Prop :=
  (∀ x ∈ past, x.brought? k = none) ∧ k.shown c.view = k.empty
    ∨ ∃ later m earlier n, past = later ++ m :: earlier
      ∧ m.brought? k = some (n, k.shown c.view) ∧ Unovertaken k (later ++ earlier) n

/-- No other answer has the number of the list held, for no request is answered twice. -/
theorem Run.showsNewest {o : Sync.Options} {past : List Moment} {c : Scene} (h : Run o past c)
    (k : Listing) : ShowsNewest k past c := by
  have hnewest := h.holdsNewest k
  rcases hnewest.source with ⟨hzero, hempty⟩ | ⟨m, hm, hbrought⟩
  · refine Or.inl ⟨fun x hx => ?_, hempty⟩
    cases hx' : x.brought? k with
    | none => rfl
    | some brought =>
      have hle := hnewest.le x hx brought.1 brought.2 hx'
      have hanswered := List.mem_filterMap.mpr ⟨x, hx, Moment.answered_of_brought hx'⟩
      have hpos := (h.inOrder k).pos (List.mem_append_right _ hanswered)
      omega
  · obtain ⟨later, earlier, rfl⟩ := List.append_of_mem hm
    refine Or.inr ⟨later, m, earlier, _, rfl, hbrought, ?_⟩
    intro x hx n' found hx'
    have hx_mem : x ∈ later ++ m :: earlier := by
      rcases List.mem_append.mp hx with hlater | hearlier
      · exact List.mem_append_left _ hlater
      · exact List.mem_append_right _ (List.mem_cons_of_mem _ hearlier)
    refine Nat.lt_of_le_of_ne (hnewest.le x hx_mem n' found hx') ?_
    -- the same number would have been answered twice
    rintro rfl
    have hnodup := h.answered_nodup k
    have hanswered := Moment.answered_of_brought hbrought
    rw [List.filterMap_append, List.filterMap_cons_some hanswered, List.perm_middle.nodup_iff,
      ← List.filterMap_append] at hnodup
    refine (List.nodup_cons.mp hnodup).1 (List.mem_filterMap.mpr ⟨x, hx, ?_⟩)
    exact Moment.answered_of_brought hx'

/-! ## The headline -/

theorem start_operation (o : Sync.Options) (k : Listing) (d : Desk) :
    (d.start o k.operation).next = .wait (k.request ((k.holding d.view).seq.issued + 1)) := by
  cases k <;> rfl

/-- A list that a request brought is taken, or changes nothing; the operation tells which. -/
theorem resume_request (o : Sync.Options) (k : Listing) (d : Desk) (n : Nat) (found : k.Content) :
    let step := d.resume o (k.request n) (k.reply n (.ok found))
    ∃ taken, step.next = .done (.installed taken) none
      ∧ (taken = true → (k.holding d.view).seq.committed < n ∧ k.shown step.desk.view = found)
      ∧ (taken = false → n ≤ (k.holding d.view).seq.committed ∧ step.desk = d) := by
  cases k with
  | teams =>
    simp only [Listing.request, Listing.reply, Listing.holding, Listing.shown, Desk.resume,
      State.installTeams?, ListSeq.commit?]
    by_cases hle : n ≤ d.view.teamsSeq.committed
    · exact ⟨false, by simp [hle]⟩
    · exact ⟨true, by simp [hle, Nat.lt_of_not_le hle]⟩
  | allowlist =>
    simp only [Listing.request, Listing.reply, Listing.holding, Listing.shown, Desk.resume,
      State.installNetwork?, ListSeq.commit?]
    by_cases hle : n ≤ d.view.networkSeq.committed
    · exact ⟨false, by simp [hle]⟩
    · exact ⟨true, by simp [hle, Nat.lt_of_not_le hle]⟩

theorem number?_request (k : Listing) (n : Nat) : k.number? (k.request n) = some n := by
  cases k <;> rfl

/-- **The newest list is shown.** At every point of every run, whatever the order of the answers
and whichever of them failed, each of the two lists is what the answer to the latest request
brought among those answered with it. The requests are numbered in the order of their issue. The
operation that asks for a list tells that it was taken exactly if no answer overtook its own; what
was not taken, or failed, changes nothing. -/
theorem newest_list_is_shown {o : Sync.Options} {past : List Moment} {c : Scene} (h : Run o past c)
    (k : Listing) :
    ShowsNewest k past c ∧ InOrder o k past c
      ∧ (c.desk.start o k.operation).next
          = .wait (k.request ((k.holding c.view).seq.issued + 1))
      ∧ (∀ n found, k.request n ∈ c.waiting →
          let step := c.desk.resume o (k.request n) (k.reply n (.ok found))
          ∃ taken, step.next = .done (.installed taken) none
            ∧ (taken = true → Unovertaken k past n ∧ k.shown step.desk.view = found)
            ∧ (taken = false → ¬ Unovertaken k past n ∧ step.desk = c.desk))
      ∧ ∀ n e, c.desk.resume o (k.request n) (k.reply n (.error e)) = c.desk.ended (.failed e) := by
  refine ⟨h.showsNewest k, h.inOrder k, start_operation o k c.desk, ?_, ?_⟩
  · intro n found hwaiting
    have hnumber := List.mem_filterMap.mpr ⟨_, hwaiting, number?_request k n⟩
    have hover : Unovertaken k past n ↔ (k.holding c.view).seq.committed < n :=
      h.unovertaken_iff ((h.inOrder k).pos (List.mem_append_left _ hnumber))
    obtain ⟨taken, hnext, htaken, hleft⟩ := resume_request o k c.desk n found
    refine ⟨taken, hnext, fun htrue => ?_, fun hfalse => ?_⟩
    · exact ⟨hover.mpr (htaken htrue).1, (htaken htrue).2⟩
    · rw [hover, Nat.not_lt]
      exact hleft hfalse
  · intro n e
    cases k <;> rfl

/-- A bootstrap asks for the teams after a request for them, and is answered before. -/
def overtaken : List Moment × Scene :=
  played ⟨200, 3, 200⟩
    [.answer (.bootstrap 2 1) (.ok ⟨none, [⟨"t1", "alpha", none, 0, 0⟩], none, none, none, none⟩),
      .start .bootstrap, .start .refreshTeams]

/-- A slow list of teams is dropped. -/
theorem slow_list_is_dropped :
    Listing.teams.request 1 ∈ overtaken.2.waiting
      ∧ Listing.teams.shown overtaken.2.view = [⟨"t1", "alpha", none, 0, 0⟩]
      ∧ (overtaken.2.desk.resume ⟨200, 3, 200⟩ (.teams 1 false) (.ok [])).next
          = .done (.installed false) none := by
  have hrun : Run ⟨200, 3, 200⟩ overtaken.1 overtaken.2 := run_played (by decide)
  have hwaiting : Listing.teams.request 1 ∈ overtaken.2.waiting := by decide
  obtain ⟨_, _, _, hanswer, _⟩ := newest_list_is_shown hrun .teams
  obtain ⟨taken, hnext, htaken, _⟩ := hanswer 1 [] hwaiting
  refine ⟨hwaiting, rfl, ?_⟩
  cases taken with
  | false => exact hnext
  | true =>
    have hlate : 2 < 1 := (htaken rfl).1 _ List.mem_cons_self 2 _ rfl
    exact absurd hlate (by decide)

end TeamConsole
