import Mathlib.Data.Option.Basic
import TeamConsole.Gateway.Http
import TeamConsole.Proofs.JsonGrammar
import TeamConsole.Proofs.ReadBack
import TeamConsole.Proofs.Records

/-!
# How calls end

A call over HTTP has an answer, or one of three failures: there was no last response, the response
tells of no success, or its body cannot be read as the answer. Which of them it is depends on the
last response alone. Most calls read the body in the same way; the sender of a message does not
look at it, the list of tasks keeps the rows that it can read, and a refused inbox is empty.

* **`HttpResponse.Says`**: the words of a refusal: those of an error body, or the body as it is.
* **`Call.Decodes`**: what a call reads in the body of a response; for an inbox, **`Call.Inbox`**.
* **`Ends`**: the end of a call, one rule for each.
* **`call_ends`**: the headline, that every call ends by these rules and in no other way.
* **`deep_rows_are_undecodable`**: a list of tasks that is nested too deeply is not read.
-/

namespace TeamConsole

/-! ## The words of a refusal -/

namespace Json

/-- **An error body with these words**: an object with one field `error` among others, or the
fields of such a record as an array. -/
inductive ErrorBody (words : String) : Json → Prop where
  | object {members : List (String × Json)}
      (h : (members.filter fun m => m.1 = "error") = [("error", .str words)]) :
      ErrorBody words (.obj members)
  | array : ErrorBody words (.arr [.str words])

def errorFields : List Field :=
  [⟨"error", []⟩]

@[simp]
theorem readText_eq_some_iff {j : Json} {s : String} : readText j = some s ↔ j = .str s := by
  cases j <;> simp [readText]

theorem nodup_iff_of_one_name {name : String} {members : List (String × Json)}
    (h : ∀ m ∈ members, m.1 = name) :
    (members.map Prod.fst).Nodup ↔ members = [] ∨ ∃ j, members = [(name, j)] := by
  match members, h with
  | [], _ => simp
  | [(name', j)], h =>
    obtain rfl : name' = name := h _ List.mem_cons_self
    simp
  | m :: n :: rest, h =>
    -- the second member has the name of the first
    have hm : m.1 = name := h m List.mem_cons_self
    have hn : n.1 = name := h n (List.mem_cons_of_mem _ List.mem_cons_self)
    simp [hm, hn]

/-- An object is a record of one field if it has at most one member of that name. -/
theorem record?_one_field_eq_some_iff {name : String} {members : List (String × Json)}
    {r : Record} :
    record? [⟨name, []⟩] (.obj members) = some r ↔
      (members.filter fun m => m.1 = name) = r ∧ (r = [] ∨ ∃ j, r = [(name, j)]) := by
  have hfilter : (members.filter fun m => ([⟨name, []⟩].map Field.name).contains m.1)
      = members.filter fun m => m.1 = name := by
    refine List.filter_congr fun m _ => ?_
    simp
  have hname : ∀ m ∈ members.filter fun m => m.1 = name, m.1 = name := by
    intro m hm
    exact of_decide_eq_true (List.mem_filter.mp hm).2
  rw [record?_of_no_aliases (by simp), hfilter]
  -- the members left have one name, so they differ in it only if there is at most one
  constructor
  · intro h
    split at h
    · rename_i hnodup
      obtain rfl := Option.some.inj h
      exact ⟨rfl, (nodup_iff_of_one_name hname).mp hnodup⟩
    · cases h
  · rintro ⟨rfl, h⟩
    exact if_pos ((nodup_iff_of_one_name hname).mpr h)

theorem required_error_iff (members : List (String × Json)) (words : String) :
    ((record? errorFields (.obj members)).bind fun r => r.required "error" readText)
        = some words
      ↔ (members.filter fun m => m.1 = "error") = [("error", .str words)] := by
  simp only [errorFields, Option.bind_eq_some_iff, record?_one_field_eq_some_iff]
  constructor
  · rintro ⟨_, ⟨hgiven, rfl | ⟨j, rfl⟩⟩, hread⟩
    · cases hread
    · obtain rfl := readText_eq_some_iff.mp hread
      exact hgiven
  · intro hgiven
    exact ⟨_, ⟨hgiven, Or.inr ⟨_, rfl⟩⟩, rfl⟩

theorem errorBody_iff (j : Json) (words : String) :
    ((j.record? errorFields).bind fun r => r.required "error" readText) = some words
      ↔ j.ErrorBody words := by
  cases j with
  | obj members =>
    rw [required_error_iff]
    constructor
    · exact .object
    · intro h
      cases h with
      | object h => exact h
  | arr items =>
    cases items with
    | nil =>
      constructor <;> intro h <;> cases h
    | cons i items =>
      cases items with
      | nil =>
        have hread : ((record? errorFields (.arr [i])).bind fun r =>
            r.required "error" readText) = readText i := rfl
        rw [hread, readText_eq_some_iff]
        constructor
        · rintro rfl
          exact .array
        · intro h
          cases h
          rfl
      | cons i' items =>
        constructor
        · simp [record?, errorFields]
        · intro h
          cases h
  | _ => constructor <;> intro h <;> cases h

end Json

namespace HttpResponse

def Succeeds (r : HttpResponse) : Prop :=
  200 ≤ r.status ∧ r.status < 300

instance (r : HttpResponse) : Decidable r.Succeeds :=
  inferInstanceAs (Decidable (_ ∧ _))

theorem isSuccess_iff (r : HttpResponse) : r.isSuccess = true ↔ r.Succeeds :=
  decide_eq_true_iff

/-- The text of the body; there is none in a body that cannot be read to its end. -/
def text (r : HttpResponse) : String :=
  if r.complete then Text.Utf8.decodeLossy r.body else ""

/-- The text of the body is an error body with these words. -/
def Names (r : HttpResponse) (words : String) : Prop :=
  ∃ j, Json.Spells r.text.toList j ∧ j.ErrorBody words

/-- **The words of a refusal**: those of the error body, or the text without the blanks at its
ends if it is no error body. -/
inductive Says (r : HttpResponse) : String → Prop where
  | named {words : String} (h : r.Names words) : Says r words
  | plain (h : ∀ words, ¬ r.Names words) : Says r (Text.trim r.text)

def named? (r : HttpResponse) : Option String :=
  (Json.ofString? r.text).bind fun j =>
    (j.record? Json.errorFields).bind fun record => record.required "error" Json.readText

theorem named?_eq_some_iff (r : HttpResponse) (words : String) :
    r.named? = some words ↔ r.Names words := by
  unfold named? Names
  rw [Option.bind_eq_some_iff]
  exact exists_congr fun j => and_congr Json.ofString?_eq_some_iff (Json.errorBody_iff j words)

theorem reason_eq (r : HttpResponse) : r.reason = r.named?.getD (Text.trim r.text) := rfl

theorem reason_eq_iff (r : HttpResponse) (words : String) : r.reason = words ↔ r.Says words := by
  rw [reason_eq]
  cases hnamed : r.named? with
  | some named =>
    have hnames : r.Names named := (r.named?_eq_some_iff named).mp hnamed
    constructor
    · rintro rfl
      exact .named hnames
    · intro hsays
      cases hsays with
      | named hwords =>
        rw [← named?_eq_some_iff, hnamed] at hwords
        exact Option.some.inj hwords
      | plain hnone => exact absurd hnames (hnone named)
  | none =>
    have hnone : ∀ words, ¬ r.Names words := by
      intro words hwords
      rw [← named?_eq_some_iff, hnamed] at hwords
      cases hwords
    constructor
    · rintro rfl
      exact .plain hnone
    · intro hsays
      cases hsays with
      | named hwords => exact absurd hwords (hnone words)
      | plain => rfl

/-! ## What a call reads in a body -/

/-- The body holds this plain data: a JSON value that is nested no deeper than is followed, and
whose scalars all have a value; of several members of one name the last one counts. -/
def Holds (r : HttpResponse) (v : Json) : Prop :=
  ∃ j, r.json? = some j ∧ j.PlainWithin Json.maxDepth ∧ v = j.resolve

/-- The bytes of a text are read as that text, and as the value that the rules spell. -/
theorem text_of_encoded {r : HttpResponse} {s : String} (hcomplete : r.complete = true)
    (hbody : r.body = Text.Utf8.encode s) :
    r.text = s ∧ ∀ j, r.json? = some j ↔ Json.Spells s.toList j := by
  rw [text, json?, if_pos hcomplete, if_pos hcomplete, hbody]
  refine ⟨Text.Utf8.decodeLossy_encode s, fun j => ?_⟩
  rw [Json.ofBytes?, Text.Utf8.encode, Text.Utf8.pieces_encodeChars]
  exact Json.ofString?_eq_some_iff

/-- A body that cannot be read to its end says nothing, and is no JSON value. -/
theorem says_of_cut_short {r : HttpResponse} (h : r.complete = false) :
    (∀ words, r.Says words ↔ words = "") ∧ r.json? = none := by
  have hcut : ¬ r.complete = true := by simp [h]
  have htext : r.text = "" := if_neg hcut
  have hreason : r.reason = "" := by
    rw [reason_eq, named?, htext]
    rfl
  refine ⟨fun words => ?_, if_neg hcut⟩
  rw [← reason_eq_iff, hreason, eq_comm]

end HttpResponse

/-- The rows of an array; there are none in any other value. -/
def Json.rows : Json → List Json
  | .arr rows => rows
  | _ => []

namespace Call

/-- **What an inbox holds**: nothing if it is null, the messages of an array, or those in the field
`messages` of an object, which may be missing. An array is not taken for the fields of an object. -/
inductive Inbox : Json → List Message → Prop where
  | null : Inbox .null []
  | bare {rows : List Json} {found : List Message}
      (h : List.Forall₂ (fun row m => Message.ofJson? row = some m) rows found) :
      Inbox (.arr rows) found
  | wrapped {members : List (String × Json)} {rows : List Json} {found : List Message}
      (hgiven : (members.filter fun m => m.1 = "messages") = [("messages", .arr rows)])
      (h : List.Forall₂ (fun row m => Message.ofJson? row = some m) rows found) :
      Inbox (.obj members) found
  | missing {members : List (String × Json)}
      (hgiven : (members.filter fun m => m.1 = "messages") = []) : Inbox (.obj members) []

/-- **What a call reads in the body of a response.** The sender of a message reads nothing. Of
tasks any plain data will do, of which the rows count that are tasks. An inbox has to be plain data
that holds messages. Every other call reads the JSON value of the body as its answer. -/
def Decodes : (c : Call) → HttpResponse → c.Answer → Prop
  | sendMessage .., _, _ => True
  | tasks .., r, (found : List Task) => ∃ v, r.Holds v ∧ found = v.rows.filterMap Task.ofJson?
  | messages .., r, (found : List Message) =>
    ∃ j, r.json? = some j ∧ j.PlainWithin Json.maxDepth ∧ Inbox j found
  | c, r, a => ∃ j, r.json? = some j ∧ c.readAnswer j = some a

def decoded? (c : Call) (r : HttpResponse) : Option c.Answer :=
  match c with
  | sendMessage .. => some ()
  | c => r.json?.bind c.readAnswer

theorem readTasks_eq_some_iff {j : Json} {found : List Task} :
    readTasks j = some found
      ↔ j.PlainWithin Json.maxDepth ∧ found = j.resolve.rows.filterMap Task.ofJson? := by
  rw [← Json.isPlain_iff, readTasks, Json.keep?]
  by_cases hplain : j.isPlain Json.maxDepth = true
  · rw [if_pos hplain, Option.map_some, Option.some.injEq, eq_comm]
    simp only [hplain, true_and]
    cases j.resolve <;> rfl
  · rw [if_neg hplain]
    simp [hplain]

theorem bind_readTasks_eq_some_iff {r : HttpResponse} {found : List Task} :
    r.json?.bind readTasks = some found
      ↔ ∃ v, r.Holds v ∧ found = v.rows.filterMap Task.ofJson? := by
  rw [Option.bind_eq_some_iff]
  constructor
  · rintro ⟨j, hj, hread⟩
    obtain ⟨hplain, hfound⟩ := readTasks_eq_some_iff.mp hread
    exact ⟨j.resolve, ⟨j, hj, hplain, rfl⟩, hfound⟩
  · rintro ⟨_, ⟨j, hj, hplain, rfl⟩, hfound⟩
    exact ⟨j, hj, readTasks_eq_some_iff.mpr ⟨hplain, hfound⟩⟩

theorem readList_eq_some_iff {α : Type} {read : Json → Option α} {j : Json} {xs : List α} :
    Json.readList read j = some xs
      ↔ ∃ rows, j = .arr rows ∧ List.Forall₂ (fun row x => read row = some x) rows xs := by
  cases j <;> simp [Json.readList, mapM_eq_some_iff]

theorem readWrapped_eq_some_iff {members : List (String × Json)} {found : List Message} :
    readWrapped (.obj members) = some found ↔ Inbox (.obj members) found := by
  simp only [readWrapped, Option.bind_eq_bind, Option.bind_eq_some_iff,
    Json.record?_one_field_eq_some_iff]
  constructor
  · rintro ⟨_, ⟨hgiven, rfl | ⟨j, rfl⟩⟩, hread⟩
    · obtain rfl := Option.some.inj hread -- the default of the field
      exact .missing hgiven
    · obtain ⟨rows, rfl, h⟩ := readList_eq_some_iff.mp hread
      exact .wrapped hgiven h
  · intro h
    cases h with
    | missing hgiven => exact ⟨_, ⟨hgiven, Or.inl rfl⟩, rfl⟩
    | wrapped hgiven h =>
      exact ⟨_, ⟨hgiven, Or.inr ⟨_, rfl⟩⟩, readList_eq_some_iff.mpr ⟨_, rfl, h⟩⟩

theorem readMessages_eq_some_iff {j : Json} {found : List Message} :
    readMessages j = some found ↔ j.PlainWithin Json.maxDepth ∧ Inbox j found := by
  rw [readMessages, Option.bind_eq_bind, Option.bind_eq_some_iff, Unique.exists_iff,
    Option.guard_eq_some', Json.isPlain_iff]
  refine and_congr_right fun _ => ?_
  cases j with
  | null =>
    show some [] = some found ↔ _
    constructor
    · intro h
      obtain rfl := Option.some.inj h
      exact .null
    · intro h
      cases h
      rfl
  | arr rows =>
    show (Json.readList Message.ofJson? (.arr rows) <|> none) = some found ↔ _
    rw [Option.orElse_eq_orElse, Option.orElse_eq_or, Option.or_none, readList_eq_some_iff]
    constructor
    · rintro ⟨_, hrows, h⟩
      obtain rfl := Json.arr.inj hrows
      exact .bare h
    · intro h
      cases h with
      | bare h => exact ⟨_, rfl, h⟩
  | obj members => exact readWrapped_eq_some_iff
  | _ => constructor <;> intro h <;> cases h

/-- The rows may stand in an object, not in another array. -/
example : readMessages (.obj [("messages", .arr [])]) = some []
    ∧ readMessages (.arr [.arr []]) = none :=
  ⟨rfl, rfl⟩

theorem bind_readMessages_eq_some_iff {r : HttpResponse} {found : List Message} :
    r.json?.bind readMessages = some found
      ↔ ∃ j, r.json? = some j ∧ j.PlainWithin Json.maxDepth ∧ Inbox j found := by
  simp only [Option.bind_eq_some_iff, readMessages_eq_some_iff]

theorem decoded?_eq_some_iff {c : Call} {r : HttpResponse} {a : c.Answer} :
    c.decoded? r = some a ↔ c.Decodes r a := by
  cases c with
  | sendMessage => exact ⟨fun _ => trivial, fun _ => rfl⟩
  | tasks => exact bind_readTasks_eq_some_iff
  | messages => exact bind_readMessages_eq_some_iff
  | _ => exact Option.bind_eq_some_iff

/-! ## The end of a call -/

theorem replyOfResponse_success {c : Call} {r : HttpResponse} (h : r.Succeeds) :
    c.replyOfResponse r = match c.decoded? r with
      | some a => .ok a
      | none => .error .undecodable := by
  unfold replyOfResponse
  rw [if_pos (r.isSuccess_iff.mpr h)]
  cases c with
  | sendMessage => rfl
  | _ =>
    simp only [decoded?]
    cases r.json? <;> rfl

theorem replyOfResponse_refused {c : Call} {r : HttpResponse} (h : ¬ r.Succeeds)
    (hc : ∀ team recipient, c ≠ .messages team recipient) :
    c.replyOfResponse r = .error (.status r.status r.reason) := by
  unfold replyOfResponse
  rw [if_neg (mt r.isSuccess_iff.mp h)]
  cases c with
  | messages team recipient => exact absurd rfl (hc team recipient)
  | _ => rfl

theorem replyOfResponse_emptyInbox {team recipient : String} {r : HttpResponse}
    (h : ¬ r.Succeeds) : (messages team recipient).replyOfResponse r = .ok [] := by
  unfold replyOfResponse
  rw [if_neg (mt r.isSuccess_iff.mp h)]

end Call

/-- **The end of a call**, by the end of its requests. -/
inductive Ends : (c : Call) → Final → c.Reply → Prop where
  | unanswered {c : Call} (url : Url) :
      Ends c (.unanswered url)
        (.error (.transport ("error sending request for url (" ++ url.write ++ ")")))
  | redirected {c : Call} (url : Url) :
      Ends c (.tooManyRedirects url)
        (.error (.transport ("error following redirect for url (" ++ url.write ++ ")")))
  | refused {c : Call} {r : HttpResponse} {words : String} (hstatus : ¬ r.Succeeds)
      (hc : ∀ team recipient, c ≠ .messages team recipient) (hwords : r.Says words) :
      Ends c (.answered r) (.error (.status r.status words))
  /-- An inbox that is refused is shown as empty. -/
  | emptyInbox {team recipient : String} {r : HttpResponse} (hstatus : ¬ r.Succeeds) :
      Ends (.messages team recipient) (.answered r) (.ok [])
  | decoded {c : Call} {r : HttpResponse} {a : c.Answer} (hstatus : r.Succeeds)
      (h : c.Decodes r a) : Ends c (.answered r) (.ok a)
  | undecodable {c : Call} {r : HttpResponse} (hstatus : r.Succeeds)
      (h : ∀ a, ¬ c.Decodes r a) : Ends c (.answered r) (.error .undecodable)

/-- Every call has an end, whatever came of its requests. -/
theorem ends_replyOfFinal (c : Call) (final : Final) : Ends c final (c.replyOfFinal final) := by
  cases final with
  | unanswered url => exact .unanswered url
  | tooManyRedirects url => exact .redirected url
  | answered r =>
    show Ends c (.answered r) (c.replyOfResponse r)
    by_cases hstatus : r.Succeeds
    · rw [Call.replyOfResponse_success hstatus]
      cases hdecoded : c.decoded? r with
      | some a => exact .decoded hstatus (Call.decoded?_eq_some_iff.mp hdecoded)
      | none =>
        refine .undecodable hstatus fun a ha => ?_
        rw [← Call.decoded?_eq_some_iff, hdecoded] at ha
        cases ha
    · by_cases hc : ∀ team recipient, c ≠ .messages team recipient
      · rw [Call.replyOfResponse_refused hstatus hc]
        exact .refused hstatus hc ((r.reason_eq_iff _).mp rfl)
      · obtain ⟨team, recipient, rfl⟩ : ∃ team recipient, c = .messages team recipient := by
          simpa using hc
        rw [Call.replyOfResponse_emptyInbox hstatus]
        exact .emptyInbox hstatus

/-- And it has no other end. -/
theorem replyOfFinal_of_ends {c : Call} {final : Final} {reply : c.Reply}
    (h : Ends c final reply) : c.replyOfFinal final = reply := by
  cases h with
  | unanswered url => rfl
  | redirected url => rfl
  | @refused _ r words hstatus hc hwords =>
    show c.replyOfResponse r = _
    rw [Call.replyOfResponse_refused hstatus hc, (r.reason_eq_iff words).mpr hwords]
  | emptyInbox hstatus => exact Call.replyOfResponse_emptyInbox hstatus
  | @decoded _ r a hstatus hdecodes =>
    show c.replyOfResponse r = _
    rw [Call.replyOfResponse_success hstatus, Call.decoded?_eq_some_iff.mpr hdecodes]
  | @undecodable _ r hstatus hnone =>
    show c.replyOfResponse r = _
    rw [Call.replyOfResponse_success hstatus]
    cases hdecoded : c.decoded? r with
    | none => rfl
    | some a => exact absurd (Call.decoded?_eq_some_iff.mp hdecoded) (hnone a)

/-- **How calls end.** Take any server, any network with whatever effects, and any call. The reply
depends on the end of its requests alone, and on that as the rules say: a transport failure if
there is no last response; the status and the words of a refusal, or an empty inbox; and on a
success what the call reads in the body, or a decoding failure if it reads nothing there. A body
that is cut short has no words and no value; one that is a text has the value that the grammar of
JSON spells. -/
theorem call_ends {m : Type → Type} [Monad m] (s : Server) (network : Network m) (c : Call) :
    (c.make s network
        = HttpRequest.send network HttpRequest.maxRedirects (.ofCall s c) >>= fun final =>
            pure (c.replyOfFinal final))
      ∧ (∀ final reply, c.replyOfFinal final = reply ↔ Ends c final reply)
      ∧ (∀ r : HttpResponse, r.complete = false →
          (∀ words, r.Says words ↔ words = "") ∧ r.json? = none)
      ∧ ∀ (r : HttpResponse) (text : String), r.complete = true → r.body = Text.Utf8.encode text →
          r.text = text ∧ ∀ j, r.json? = some j ↔ Json.Spells text.toList j := by
  refine ⟨rfl, fun final reply => ⟨?_, replyOfFinal_of_ends⟩, fun r => r.says_of_cut_short,
    fun r text => r.text_of_encoded⟩
  rintro rfl
  exact ends_replyOfFinal c final

/-! ## A value that is nested too deeply -/

namespace Json

/-- Empty arrays within each other. -/
def nested : Nat → Json
  | 0 => .arr []
  | n + 1 => .arr [nested n]

/-- The text of arrays within each other, before some other text. -/
def nestedChars : Nat → List Char → List Char
  | 0, rest => '[' :: ']' :: rest
  | n + 1, rest => '[' :: nestedChars n (']' :: rest)

theorem value_nested (n : Nat) : ∃ ts, Value ts (nested n)
    ∧ ∀ cs us, Lexes cs us → Lexes (nestedChars n cs) (ts ++ us) := by
  induction n with
  | zero =>
    have hvalue : Value [.openArray, .closeArray] (nested 0) :=
      Value.array fun i (hi : i ∈ ([] : List Item)) => nomatch hi
    exact ⟨_, hvalue, fun cs us hrest => .mark rfl (.mark rfl hrest)⟩
  | succ n ih =>
    obtain ⟨ts, hvalue, hlexes⟩ := ih
    have hitems : ∀ i ∈ [(ts, nested n)], Value i.1 i.2 := by
      intro i hi
      rw [List.mem_singleton.mp hi]
      exact hvalue
    refine ⟨_, Value.array hitems, fun cs us hrest => ?_⟩
    rw [itemTokens_one, List.cons_append, List.append_assoc]
    exact .mark rfl (hlexes _ _ (.mark rfl hrest))

theorem spells_nested (n : Nat) : Spells (nestedChars n []) (nested n) := by
  obtain ⟨ts, hvalue, hlexes⟩ := value_nested n
  have hall := hlexes [] [] .nil
  rw [List.append_nil] at hall
  exact ⟨ts, hall, hvalue⟩

theorem lt_of_plainWithin_nested {n room : Nat} (h : PlainWithin room (nested n)) : n < room := by
  induction n generalizing room with
  | zero =>
    cases h
    exact Nat.succ_pos _
  | succ n ih =>
    cases h with
    | arr h => exact Nat.succ_lt_succ (ih (h _ List.mem_cons_self))

end Json

/-- A successful response with arrays within each other as its body. -/
def nestedResponse (n : Nat) : HttpResponse :=
  ⟨200, none, Text.Utf8.encode (String.ofList (Json.nestedChars n [])), true⟩

theorem json?_nested (n : Nat) : (nestedResponse n).json? = some (Json.nested n) := by
  refine ((HttpResponse.text_of_encoded rfl rfl).2 _).mpr ?_
  rw [String.toList_ofList]
  exact Json.spells_nested n

/-- **A list of tasks that is nested too deeply is not read.** The body is a JSON value, an array
within 127 others, and the call fails. -/
theorem deep_rows_are_undecodable :
    Json.Spells (Json.nestedChars 127 []) (Json.nested 127)
      ∧ (nestedResponse 127).Succeeds
      ∧ (nestedResponse 127).json? = some (Json.nested 127)
      ∧ (Call.tasks "alpha" 200).replyOfFinal (.answered (nestedResponse 127))
          = .error .undecodable := by
  have hstatus : (nestedResponse 127).Succeeds := by decide
  refine ⟨Json.spells_nested 127, hstatus, json?_nested 127, ?_⟩
  refine replyOfFinal_of_ends (.undecodable hstatus fun found => ?_)
  rintro ⟨v, ⟨j, hj, hplain, _⟩, _⟩
  -- no level is left for the innermost array
  cases hj.symm.trans (json?_nested 127)
  exact absurd (Json.lt_of_plainWithin_nested hplain) (Nat.lt_irrefl 127)

end TeamConsole
