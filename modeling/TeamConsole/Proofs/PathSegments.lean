import Mathlib.Data.List.Forall2
import TeamConsole.Gateway.Server
import TeamConsole.Proofs.ReadBack

/-!
# What the path of a request carries

The address of a request is the server's address with one segment for each word, name and number
of the call. A segment is percent-encoded, so a name may hold any character; but a text that reads
as a step (`.` or `..`) is passed over, and line breaks are taken out of it.

* **`Carriable`**: a text that is neither a step nor holds a line break.
* **`Carries`**: a segment from which its text is read back.
* **`pushSegment_of_carriable`**, **`pushSegment_of_not_carriable`**: what one text adds to a path,
  and the only ways in which one is lost.
* **`foldl_pushSegment_cases`**: the same for any number of texts.
* **`path_carries_iff`**: the headline, that a request goes below the server's address with all
  that its call names exactly if all its names are carriable.
* **`names_share_a_path`**: names that are not.
-/

namespace TeamConsole

namespace Url

/-! ## Texts that a path carries -/

/-- A text that a path carries as it is. -/
structure Carriable (text : String) : Prop where
  notHere : text ≠ "."
  notAbove : text ≠ ".."
  unbroken : ∀ c ∈ text.toList, isLineBreak c = false

theorem carriable_iff (text : String) :
    Carriable text ↔
      (text ≠ "." ∧ text ≠ "..") ∧ text.toList.all (fun c => !isLineBreak c) = true := by
  have hall : text.toList.all (fun c => !isLineBreak c) = true
      ↔ ∀ c ∈ text.toList, isLineBreak c = false := by simp
  rw [hall]
  exact ⟨fun h => ⟨⟨h.notHere, h.notAbove⟩, h.unbroken⟩, fun h => ⟨h.1.1, h.1.2, h.2⟩⟩

instance (text : String) : Decidable (Carriable text) :=
  decidable_of_iff _ (carriable_iff text).symm

/-- A segment carries a text: nothing in it parts it or ends the path, and it decodes to the
text. -/
structure Carries (segment text : String) : Prop where
  single : ∀ c ∈ segment.toList, c ∉ ['/', '\\', '?', '#']
  decodes : Text.Utf8.decode? (percentDecode segment.toList) = some text

/-- The segment as which a text is written. -/
def segmentOf (text : String) : String :=
  String.ofList (EncodeSet.segment.encode text.toList)

theorem decode_encode_segment (cs : List Char) :
    Text.Utf8.decode? (percentDecode (EncodeSet.segment.encode cs)) = some (String.ofList cs) := by
  rw [EncodeSet.percentDecode_encode (by decide), Text.Utf8.decode?_encodeChars]

theorem carries_segmentOf (text : String) : Carries (segmentOf text) text := by
  refine ⟨?_, ?_⟩
  · intro c hc
    rw [segmentOf, String.toList_ofList] at hc
    rcases EncodeSet.mem_encode hc with hplain | rfl | ⟨n, hn, rfl⟩
    · -- what stands by itself is not among the characters that are encoded
      intro hmark
      have hspecial : c ∈ EncodeSet.segment.special := by
        simp only [List.mem_cons, List.not_mem_nil, or_false] at hmark
        rcases hmark with rfl | rfl | rfl | rfl <;> decide
      simp [EncodeSet.encodes, hspecial] at hplain
    · decide
    · exact (by decide : ∀ k : Fin 16, Text.hexDigit 'A' k ∉ ['/', '\\', '?', '#']) ⟨n, hn⟩
  · rw [segmentOf, String.toList_ofList, decode_encode_segment, String.ofList_toList]

theorem segmentOf_injective {text text' : String} (h : segmentOf text = segmentOf text') :
    text = text' := by
  have hread := (carries_segmentOf text).decodes
  rw [h, (carries_segmentOf text').decodes] at hread
  exact (Option.some.inj hread).symm

/-! ### Steps

No encoding but that of the step itself reads as a step: percent signs are encoded, so it decodes
to what was written. -/

theorem eq_of_isDoubleDot {cs : List Char} (h : isDoubleDot (EncodeSet.segment.encode cs) = true) :
    cs = ['.', '.'] := by
  have hall : ∀ step ∈ ["..", "%2e%2e", "%2e%2E", "%2E%2e", "%2E%2E", "%2e.", "%2E.", ".%2e",
      ".%2E"], percentDecode step.toList = Text.Utf8.encodeChars ['.', '.'] := by decide
  have hbytes := hall _ (List.contains_iff_mem.mp h)
  rw [String.toList_ofList, EncodeSet.percentDecode_encode (by decide)] at hbytes
  exact Text.Utf8.encodeChars_injective hbytes

theorem eq_of_isSingleDot {cs : List Char} (h : isSingleDot (EncodeSet.segment.encode cs) = true) :
    cs = ['.'] := by
  have hall : ∀ step ∈ [".", "%2e", "%2E"],
      percentDecode step.toList = Text.Utf8.encodeChars ['.'] := by decide
  have hbytes := hall _ (List.contains_iff_mem.mp h)
  rw [String.toList_ofList, EncodeSet.percentDecode_encode (by decide)] at hbytes
  exact Text.Utf8.encodeChars_injective hbytes

/-! ## One text -/

/-- The path that a segment is added to: that of a bare server has none. -/
def rootless (path : List String) : List String :=
  if path = [""] then [] else path

theorem length_rootless_le (path : List String) : (rootless path).length ≤ path.length := by
  unfold rootless
  split
  · exact Nat.zero_le _
  · exact Nat.le_refl _

theorem rootless_of_ne {path : List String} (h : path ≠ [""]) : rootless path = path :=
  if_neg h

/-- A text that is no step is added without its line breaks. -/
theorem pushSegment_of_ne {text : String} (h : text ≠ "." ∧ text ≠ "..") (path : List String) :
    pushSegment path text = step (rootless path)
      (EncodeSet.segment.encode (text.toList.filter (!isLineBreak ·))) true := by
  rw [pushSegment, if_neg (by rintro (h' | h') <;> simp_all)]
  rfl

/-- **A carriable text adds its segment.** -/
theorem pushSegment_of_carriable {text : String} (h : Carriable text) (path : List String) :
    pushSegment path text = rootless path ++ [segmentOf text] := by
  have hfilter : text.toList.filter (!isLineBreak ·) = text.toList :=
    List.filter_eq_self.mpr fun c hc => by rw [h.unbroken c hc]; rfl
  rw [pushSegment_of_ne ⟨h.notHere, h.notAbove⟩, hfilter, step, if_neg, if_neg]
  · rfl
  · intro hdot
    exact h.notHere (String.toList_inj.mp (eq_of_isSingleDot hdot))
  · intro hdots
    exact h.notAbove (String.toList_inj.mp (eq_of_isDoubleDot hdots))

/-- A segment without line breaks carries no text that has one. -/
theorem not_carries_of_break {text : String} {c : Char} (hc : c ∈ text.toList)
    (hbreak : isLineBreak c = true) {cs : List Char} (hcs : ∀ d ∈ cs, isLineBreak d = false)
    {part : String} (hpart : part = String.ofList (EncodeSet.segment.encode cs)) :
    ¬ Carries part text := by
  intro hcarries
  have hread := hcarries.decodes
  rw [hpart, String.toList_ofList, decode_encode_segment] at hread
  have hsame : cs = text.toList := by
    rw [← Option.some.inj hread, String.toList_ofList]
  have hunbroken := hcs c (hsame ▸ hc)
  rw [hbreak] at hunbroken
  cases hunbroken

/-- **How a text is lost.** A text that is not carriable adds no segment, or one that does not
carry it. -/
theorem pushSegment_of_not_carriable {text : String} (h : ¬ Carriable text) (path : List String) :
    (pushSegment path text).length ≤ path.length
      ∨ ∃ part, pushSegment path text = rootless path ++ [part] ∧ ¬ Carries part text := by
  by_cases hdots : text = "." ∨ text = ".."
  · -- a step is passed over
    rw [pushSegment, if_pos hdots]
    exact Or.inl (Nat.le_refl _)
  have hne : text ≠ "." ∧ text ≠ ".." := not_or.mp hdots
  obtain ⟨c, hc, hbreak⟩ : ∃ c ∈ text.toList, isLineBreak c = true := by
    by_contra hnone
    refine h ⟨hne.1, hne.2, fun c hc => ?_⟩
    exact Bool.eq_false_iff.mpr fun hbreak => hnone ⟨c, hc, hbreak⟩
  have hempty : ¬ Carries "" text :=
    not_carries_of_break hc hbreak (fun d (hd : d ∈ []) => nomatch hd) rfl
  rw [pushSegment_of_ne hne, step]
  split
  · -- what is left reads as a step up, which may take a segment away
    unfold shorten
    split
    · exact Or.inr ⟨"", rfl, hempty⟩
    · by_cases hroot : rootless path = []
      · rw [hroot]
        exact Or.inr ⟨"", rfl, hempty⟩
      · have hpos := List.length_pos_iff.mpr hroot
        have hle := length_rootless_le path
        left
        simp only [List.length_append, List.length_dropLast, if_true, List.length_cons,
          List.length_nil]
        omega
  · split
    · exact Or.inr ⟨"", rfl, hempty⟩
    · refine Or.inr ⟨_, rfl, not_carries_of_break hc hbreak (fun d hd => ?_) rfl⟩
      simpa using (List.mem_filter.mp hd).2

/-! ## Any number of texts -/

/-- Texts are pushed one after the other. If the path grows by one segment for each, the segment
of a text carries it exactly if it is carriable. -/
theorem foldl_pushSegment_cases (path texts : List String) :
    (texts.foldl pushSegment path).length < path.length + texts.length
      ∨ ∃ parts, texts.foldl pushSegment path = path ++ parts
        ∧ List.Forall₂ (fun part text => Carries part text ↔ Carriable text) parts texts := by
  induction texts generalizing path with
  | nil => exact Or.inr ⟨[], (List.append_nil path).symm, .nil⟩
  | cons text texts ih =>
    rw [List.foldl_cons, List.length_cons]
    -- one text adds a segment to the path, or nothing
    have hone : (pushSegment path text).length ≤ path.length
        ∨ ∃ part, pushSegment path text = path ++ [part] ∧ (Carries part text ↔ Carriable text) := by
      by_cases hroot : path = [""]
      · left
        by_cases hcarriable : Carriable text
        · rw [pushSegment_of_carriable hcarriable, rootless, if_pos hroot, hroot]
          exact Nat.le_refl _
        · rcases pushSegment_of_not_carriable hcarriable path with hle | ⟨part, hpush, _⟩
          · exact hle
          · rw [hpush, rootless, if_pos hroot, hroot]
            exact Nat.le_refl _
      · by_cases hcarriable : Carriable text
        · refine Or.inr ⟨segmentOf text, ?_, ⟨fun _ => hcarriable, fun _ => carries_segmentOf text⟩⟩
          rw [pushSegment_of_carriable hcarriable, rootless_of_ne hroot]
        · rcases pushSegment_of_not_carriable hcarriable path with hle | ⟨part, hpush, hlost⟩
          · exact Or.inl hle
          · rw [rootless_of_ne hroot] at hpush
            exact Or.inr ⟨part, hpush, ⟨fun hcarries => absurd hcarries hlost,
              fun h => absurd h hcarriable⟩⟩
    rcases hone with hle | ⟨part, hpush, hiff⟩
    · left
      rcases ih (pushSegment path text) with hlt | ⟨parts, hfold, hparts⟩
      · omega
      · rw [hfold, List.length_append, hparts.length_eq]
        omega
    · rw [hpush]
      rcases ih (path ++ [part]) with hlt | ⟨parts, hfold, hparts⟩
      · left
        rw [List.length_append, List.length_singleton] at hlt
        omega
      · refine Or.inr ⟨part :: parts, ?_, .cons hiff hparts⟩
        rw [hfold, List.append_assoc, List.singleton_append]

/-- Below a path that has segments, carriable texts add one segment each. -/
theorem foldl_pushSegment_of_carriable {path : List String} (hpath : path ≠ [])
    (hroot : path ≠ [""]) {texts : List String} (h : ∀ text ∈ texts, Carriable text) :
    texts.foldl pushSegment path = path ++ texts.map segmentOf := by
  induction texts generalizing path with
  | nil => exact (List.append_nil path).symm
  | cons text texts ih =>
    obtain ⟨htext, hrest⟩ := List.forall_mem_cons.mp h
    have hlonger : path ++ [segmentOf text] ≠ [""] := by
      intro hsingle
      have hlength := congrArg List.length hsingle
      have hpos := List.length_pos_iff.mpr hpath
      rw [List.length_append, List.length_singleton, List.length_singleton] at hlength
      omega
    rw [List.foldl_cons, pushSegment_of_carriable htext, rootless_of_ne hroot,
      ih (by simp) hlonger hrest, List.append_assoc, List.map_cons, List.singleton_append]

/-! ## The path of an extended URL -/

/-- A path without an empty segment at its end. -/
def trunk (path : List String) : List String :=
  if path.getLast? = some "" then path.dropLast else path

/-- A path carries texts below a base: after the segments of the base, but for an empty one at its
end, there is one segment for each text, and it carries the text. -/
def CarriesBelow (base path texts : List String) : Prop :=
  ∃ parts, path = trunk base ++ parts ∧ List.Forall₂ Carries parts texts

/-- The path that the first text is added to: two empty segments count as none. -/
def stem (path : List String) : List String :=
  if path = ["", ""] then [] else trunk path

theorem rootless_extended (path : List String) :
    rootless (if 1 < path.length ∧ path.getLast? = some "" then path.dropLast else path)
      = stem path := by
  unfold stem
  match path with
  | [] => rfl
  | [x] => by_cases hx : x = "" <;> simp [rootless, trunk, hx]
  | x :: y :: rest =>
    by_cases hlast : (x :: y :: rest).getLast? = some ""
    · rw [if_pos ⟨by simp, hlast⟩, trunk, if_pos hlast, rootless]
      refine if_congr ?_ rfl rfl
      cases rest with
      | nil => simp_all
      | cons z rest => simp
    · rw [if_neg fun h => hlast h.2, trunk, if_neg hlast, rootless_of_ne (by simp), if_neg]
      intro h
      rw [h] at hlast
      exact hlast rfl

theorem extend_path (u : Url) {word : String} (hword : Carriable word) (texts : List String) :
    (u.extend (word :: texts)).path
      = texts.foldl pushSegment (stem u.path ++ [segmentOf word]) := by
  rw [← rootless_extended]
  show (word :: texts).foldl pushSegment _ = _
  rw [List.foldl_cons, pushSegment_of_carriable hword]

theorem segmentOf_empty_iff (text : String) : segmentOf text = "" ↔ text = "" :=
  ⟨fun h => segmentOf_injective h, fun h => by rw [h]; rfl⟩

/-- Carriable texts, the first of them not empty, add their segments to the stem. -/
theorem extend_path_of_carriable (u : Url) {word : String} (hword : Carriable word)
    (hne : word ≠ "") {texts : List String} (h : ∀ text ∈ texts, Carriable text) :
    (u.extend (word :: texts)).path = stem u.path ++ (word :: texts).map segmentOf := by
  have hroot : stem u.path ++ [segmentOf word] ≠ [""] := by
    intro hsingle
    have hlast := congrArg List.getLast? hsingle
    rw [List.getLast?_concat] at hlast
    exact hne ((segmentOf_empty_iff word).mp (Option.some.inj hlast))
  rw [extend_path u hword, foldl_pushSegment_of_carriable (by simp) hroot h, List.append_assoc,
    List.map_cons, List.singleton_append]

theorem carries_segments (texts : List String) :
    List.Forall₂ Carries (texts.map segmentOf) texts := by
  induction texts with
  | nil => exact .nil
  | cons text texts ih => exact .cons (carries_segmentOf text) ih

theorem carriable_of_carries {parts texts : List String}
    (hiff : List.Forall₂ (fun part text => Carries part text ↔ Carriable text) parts texts)
    (h : List.Forall₂ Carries parts texts) : ∀ text ∈ texts, Carriable text := by
  induction hiff with
  | nil => exact fun _ hmem => nomatch hmem
  | cons hone _ ih =>
    obtain ⟨hcarries, hrest⟩ := List.forall₂_cons.mp h
    exact List.forall_mem_cons.mpr ⟨hone.mp hcarries, ih hrest⟩

/-- **A path carries its texts below the base exactly if they are carriable**, and the base is not
the one that loses a segment of its own. -/
theorem carriesBelow_extend_iff (u : Url) {word : String} (hword : Carriable word)
    (hne : word ≠ "") (texts : List String) :
    CarriesBelow u.path (u.extend (word :: texts)).path (word :: texts)
      ↔ (∀ text ∈ texts, Carriable text) ∧ u.path ≠ ["", ""] := by
  constructor
  · rintro ⟨parts, hpath, hparts⟩
    have hlength := hparts.length_eq
    rw [List.length_cons] at hlength
    have hcases := foldl_pushSegment_cases (stem u.path ++ [segmentOf word]) texts
    rw [← extend_path u hword, hpath, List.length_append, List.length_append,
      List.length_singleton] at hcases
    by_cases hbase : u.path = ["", ""]
    · -- the path is too short
      have hstem : (stem u.path).length = 0 := by rw [stem, if_pos hbase, List.length_nil]
      have htrunk : (trunk u.path).length = 1 := by rw [hbase]; rfl
      rcases hcases with hlt | ⟨parts', hsame, hparts'⟩
      · omega
      · have hlengths := congrArg List.length hsame
        have hlength' := hparts'.length_eq
        simp only [List.length_append, List.length_singleton] at hlengths
        omega
    · refine ⟨?_, hbase⟩
      have hstem : stem u.path = trunk u.path := by rw [stem, if_neg hbase]
      rw [hstem] at hcases
      rcases hcases with hlt | ⟨parts', hsame, hparts'⟩
      · omega
      · -- segment by segment, the two ways to read the path agree
        rw [List.append_assoc, List.append_cancel_left_eq, List.singleton_append] at hsame
        subst hsame
        cases hparts with
        | cons _ hcarries => exact carriable_of_carries hparts' hcarries
  · rintro ⟨hcarriable, hbase⟩
    refine ⟨_, ?_, carries_segments (word :: texts)⟩
    rw [extend_path_of_carriable u hword hne hcarriable, stem, if_neg hbase]

/-! ## Paths as text -/

theorem toList_writePath (path : List String) :
    (writePath path).toList = (path.map String.toList).flatMap ('/' :: ·) := by
  induction path with
  | nil => rfl
  | cons segment path ih =>
    have hcons : writePath (segment :: path) = "/" ++ segment ++ writePath path := by
      rw [writePath, List.map_cons, String.join_cons]
      rfl
    rw [hcons, String.toList_append, String.toList_append, ih]
    rfl

/-- Below one base, the text of a path tells the texts that it carries. -/
theorem eq_of_writePath_eq {base : List String} {texts texts' : List String}
    (h : writePath (base ++ texts.map segmentOf) = writePath (base ++ texts'.map segmentOf)) :
    texts = texts' := by
  have hlist := congrArg String.toList h
  simp only [toList_writePath, List.map_append, List.flatMap_append,
    List.append_cancel_left_eq] at hlist
  have hsingle : ∀ ts : List String, ∀ part ∈ (ts.map segmentOf).map String.toList, '/' ∉ part := by
    intro ts part hpart hmem
    rw [List.map_map] at hpart
    obtain ⟨text, _, rfl⟩ := List.mem_map.mp hpart
    exact (carries_segmentOf text).single '/' hmem (by decide)
  have hparts := congrArg (Text.splitOn '/') hlist
  rw [Text.splitOn_flatMap_cons (hsingle texts), Text.splitOn_flatMap_cons (hsingle texts')]
    at hparts
  have hinjective : Function.Injective (String.toList ∘ segmentOf) := fun a b hab =>
    segmentOf_injective (String.toList_inj.mp hab)
  rw [List.cons_eq_cons, List.map_map, List.map_map] at hparts
  exact List.map_injective_iff.mpr hinjective hparts.2

end Url

/-! ## The paths of calls -/

namespace Call

/-- The agent in the path of a call. -/
def agent? : Call → Option String
  | journal _ agent _ | agentConfig _ agent => some agent
  | _ => none

/-- The task in the path of a call. -/
def task? : Call → Option Int
  | task _ id | patchTask _ id _ | approveTask _ id _ | requestReview _ id | submitReview _ id _
  | taskReviews _ id | taskDiff _ id => some id
  | _ => none

/-- The names in the path of a call, which may be any texts. -/
def names (c : Call) : List String :=
  c.team?.toList ++ c.agent?.toList

theorem carriable_integer (i : Int) : Url.Carriable (Text.integer i) := by
  refine ⟨?_, ?_, ?_⟩
  · intro h
    have hmem : '.' ∈ (Text.integer i).toList := by rw [h]; decide
    exact absurd (Text.mem_integer hmem) (by decide)
  · intro h
    have hmem : '.' ∈ (Text.integer i).toList := by rw [h]; decide
    exact absurd (Text.mem_integer hmem) (by decide)
  · intro c hc
    rcases Text.mem_integer hc with rfl | hdigit
    · decide
    · refine Bool.eq_false_iff.mpr fun hbreak => ?_
      simp only [Url.isLineBreak, Bool.or_eq_true, decide_eq_true_eq] at hbreak
      rcases hbreak with (rfl | rfl) | rfl <;> cases hdigit

/-- The words in the path of a call, and the numbers, are carriable; only a name may not be. -/
theorem segments_cases (c : Call) :
    ∃ word rest, c.segments = word :: rest ∧ Url.Carriable word ∧ word ≠ ""
      ∧ ((∀ text ∈ rest, Url.Carriable text) ↔ ∀ name ∈ c.names, Url.Carriable name) := by
  have hwords : Url.Carriable "tasks" ∧ Url.Carriable "agents" ∧ Url.Carriable "approve"
      ∧ Url.Carriable "request-review" ∧ Url.Carriable "submit-review" ∧ Url.Carriable "reviews"
      ∧ Url.Carriable "diff" ∧ Url.Carriable "messages" ∧ Url.Carriable "charter"
      ∧ Url.Carriable "journal" ∧ Url.Carriable "config" ∧ Url.Carriable "allow"
      ∧ Url.Carriable "disallow" ∧ Url.Carriable "reset" := by decide
  cases c <;> refine ⟨_, _, rfl, by decide, by decide, ?_⟩ <;>
    simp [names, team?, agent?, hwords, carriable_integer]

/-- The team, the agent and the task that the texts of a path name. -/
def teamIn : List String → Option String
  | "teams" :: team :: _ => some team
  | _ => none

def agentIn : List String → Option String
  | [_, _, "agents", agent, _] => some agent
  | _ => none

def taskIn : List String → Option String
  | _ :: _ :: "tasks" :: id :: _ => some id
  | _ => none

theorem of_segments_eq {c c' : Call} (h : c.segments = c'.segments) :
    c.team? = c'.team? ∧ c.agent? = c'.agent? ∧ c.task? = c'.task? := by
  have hteam (c : Call) : teamIn c.segments = c.team? := by cases c <;> rfl
  have hagent (c : Call) : agentIn c.segments = c.agent? := by cases c <;> rfl
  have htask (c : Call) : taskIn c.segments = c.task?.map Text.integer := by cases c <;> rfl
  refine ⟨?_, ?_, ?_⟩
  · rw [← hteam, h, hteam]
  · rw [← hagent, h, hagent]
  · refine Option.map_injective (fun _ _ => Text.integer_injective) ?_
    rw [← htask, h, htask]

end Call

theorem callUrl_path (s : Server) (c : Call) :
    (s.callUrl c).path = (s.base.extend c.segments).path := by
  unfold Server.callUrl
  split <;> rfl

/-! ## The headline -/

/-- **A request carries what its call names exactly if the names are carriable.** Take any server
and any call. The path of the request is the path of the server, but for an empty segment at its
end, with one segment for each word, name and number of the call, from which it can be decoded,
exactly if no name is a step or holds a line break and the server's path is not two empty
segments. The address of the stream names nothing, and is right for all other servers. Two calls
whose names are carriable go to the same path only if they name the same team, agent and task. -/
theorem path_carries_iff (s : Server) (c : Call) :
    (Url.CarriesBelow s.base.path (s.callUrl c).path c.segments
        ↔ (∀ name ∈ c.names, Url.Carriable name) ∧ s.base.path ≠ ["", ""])
      ∧ (Url.CarriesBelow s.base.path s.streamUrl.path ["stream"] ↔ s.base.path ≠ ["", ""])
      ∧ ∀ c' : Call, (∀ name ∈ c.names ++ c'.names, Url.Carriable name) →
          Url.writePath (s.callUrl c).path = Url.writePath (s.callUrl c').path →
          c.team? = c'.team? ∧ c.agent? = c'.agent? ∧ c.task? = c'.task? := by
  obtain ⟨word, rest, hsegments, hword, hne, hnames⟩ := c.segments_cases
  refine ⟨?_, ?_, ?_⟩
  · rw [callUrl_path, hsegments, Url.carriesBelow_extend_iff s.base hword hne, hnames]
  · have hcarriable : Url.Carriable "stream" := by decide
    have hstream := Url.carriesBelow_extend_iff s.base hcarriable (by decide) []
    exact hstream.trans ⟨And.right, fun hbase => ⟨(fun _ hmem => nomatch hmem), hbase⟩⟩
  · intro c' hboth hpath
    obtain ⟨word', rest', hsegments', hword', hne', hnames'⟩ := c'.segments_cases
    have hrest := hnames.mpr fun name hname => hboth name (List.mem_append_left _ hname)
    have hrest' := hnames'.mpr fun name hname => hboth name (List.mem_append_right _ hname)
    rw [callUrl_path, callUrl_path, hsegments, hsegments',
      Url.extend_path_of_carriable s.base hword hne hrest,
      Url.extend_path_of_carriable s.base hword' hne' hrest'] at hpath
    refine Call.of_segments_eq ?_
    rw [hsegments, hsegments']
    exact Url.eq_of_writePath_eq hpath

/-- The server of this machine. -/
def localServer : Server :=
  ⟨⟨.http, "", none, .domain "localhost", some 3548, [""], none, none⟩⟩

/-- Names that look like parts of a path do not part it, and none is taken for another. -/
theorem marked_names_differ :
    Url.CarriesBelow localServer.base.path (localServer.callUrl (.agentConfig "a/b?" "%2E")).path
        ["teams", "a/b?", "agents", "%2E", "config"]
      ∧ Url.writePath (localServer.callUrl (.agentConfig "a/b?" "%2E")).path
        ≠ Url.writePath (localServer.callUrl (.agentConfig "a%2Fb?" "é")).path := by
  obtain ⟨hcarries, _, hdiffer⟩ := path_carries_iff localServer (.agentConfig "a/b?" "%2E")
  refine ⟨hcarries.mpr ⟨by decide, by decide⟩, fun hpath => ?_⟩
  have hsame := hdiffer (.agentConfig "a%2Fb?" "é") (by decide) hpath
  exact absurd hsame.1 (by decide)

/-- **Names that share a path.** A team whose name is a step is left out of the path, and one with
a tab in its name is taken for another team, so a change to its task is sent to that one. -/
theorem names_share_a_path :
    Server.ofAddress "http://localhost:3548" = .ok localServer
      ∧ (localServer.callUrl (.requestReview "al\tpha" 7)).write
          = "http://localhost:3548/teams/alpha/tasks/7/request-review"
      ∧ (localServer.callUrl (.requestReview "alpha" 7)).write
          = "http://localhost:3548/teams/alpha/tasks/7/request-review"
      ∧ (localServer.callUrl (.task ".." 7)).path = ["teams", "tasks", "7"]
      ∧ (localServer.callUrl (.task "." 7)).path = ["teams", "tasks", "7"]
      ∧ ¬ Url.CarriesBelow localServer.base.path
          (localServer.callUrl (.task ".." 7)).path ["teams", "..", "tasks", "7"] := by
  refine ⟨rfl, rfl, rfl, rfl, rfl, ?_⟩
  rintro ⟨parts, hpath, hparts⟩
  have hlength := congrArg List.length hpath
  rw [List.length_append, hparts.length_eq] at hlength
  exact absurd hlength (by decide)

end TeamConsole
