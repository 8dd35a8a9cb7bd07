import FieldTemplates.Assistant.Answer
import FieldTemplates.Proofs.Export
import FieldTemplates.Proofs.Text.Trim

namespace FieldTemplates

theorem Value.member?_eq_some {v w : Value} {name : String} :
    v.member? name = some w ↔ ∃ members, v = .object members ∧ Table.find? members name = some w := by
  constructor
  · intro h
    cases v with
    | object members => exact ⟨members, rfl, h⟩
    | null | bool | int | real | text | list => cases h
  · rintro ⟨members, rfl, h⟩
    exact h

namespace Assistant

open Text (isBlank trim)

-- The body of a reply has a text where the message of its first choice belongs.
def Says (body : Value) (s : String) : Prop :=
  ∃ members first rest message, body = .object members ∧
    Table.find? members "choices" = some (.list (.object first :: rest)) ∧
    Table.find? first "message" = some (.object message) ∧
    Table.find? message "content" = some (.text s)

theorem contentOf_eq_some_iff {body : Value} {content : List Char} :
    contentOf body = some content ↔ ∃ s, Says body s ∧ content = trim s.toList ∧ content ≠ [] := by
  constructor
  · intro h
    simp only [contentOf] at h
    split at h
    · rename_i first rest hchoices
      split at h
      · rename_i s hpath
        split at h
        · cases h
        · rename_i hne
          obtain ⟨message, hfirst, hcontent⟩ := Option.bind_eq_some_iff.mp hpath
          obtain ⟨members, rfl, hchoices⟩ := Value.member?_eq_some.mp hchoices
          obtain ⟨inside, rfl, hmessage⟩ := Value.member?_eq_some.mp hfirst
          obtain ⟨said, rfl, hcontent⟩ := Value.member?_eq_some.mp hcontent
          obtain rfl := Option.some.inj h
          exact ⟨s, ⟨members, inside, rest, said, rfl, hchoices, hmessage, hcontent⟩, rfl,
            by simpa using hne⟩
      · cases h
    · cases h
  · rintro ⟨s, ⟨members, first, rest, message, rfl, hchoices, hmessage, hcontent⟩, rfl, hne⟩
    have hempty : (trim s.toList).isEmpty = false := by simpa using hne
    simp only [contentOf, Value.member?, hchoices, hmessage, Option.bind_some, hcontent, hempty,
      Bool.false_eq_true, ite_false]

-- A reply offers the value that its fenced block decodes to, or its whole text.
def Offers (reply : Web.Reply) (v : Value) : Prop :=
  ∃ status isError body s, reply = .answered status isError (some body) ∧ Says body s ∧
    (∃ c ∈ s.toList, isBlank c = false) ∧ Json.decode (Text.Fence.content (trim s.toList)) = .ok v

-- What is said in a reply is decoded or refused; no limit is in the way.
def IsReadable (reply : Web.Reply) : Prop :=
  ∀ status isError body s limit, reply = .answered status isError (some body) → Says body s →
    Json.decode (Text.Fence.content (trim s.toList)) ≠ .error (.beyond limit)

theorem trim_ne_nil_iff {cs : List Char} : trim cs ≠ [] ↔ ∃ c ∈ cs, isBlank c = false := by
  simp [Text.trim_eq_nil_iff]

-- A lone group in a list is the same candidate as by itself.
theorem candidates_wrapped (v : Value) : Export.candidates (wrapped v) = Export.candidates v := by
  cases v with
  | object members =>
      cases hkey : Table.has members "key" with
      | true => simp only [wrapped, Export.candidates, hkey, ite_true]
      | false => simp only [wrapped, hkey, Bool.false_eq_true, ite_false]
  | _ => rfl

theorem problems_wrapped (v : Value) : Export.problems (wrapped v) = Export.problems v := by
  have hdocument : Export.isDocument (wrapped v) = Export.isDocument v := by
    cases v with
    | object members =>
        rw [wrapped]
        split <;> rfl
    | _ => rfl
  rw [Export.problems, Export.problems, candidates_wrapped, hdocument]

-- What is handed over are the candidates that were checked, in their order.
theorem groupsIn_wrapped {v : Value} (h : Export.isDocument v = true) :
    groupsIn (wrapped v) = Export.candidates v := by
  cases v with
  | object members =>
      cases hkey : Table.has members "key" with
      | true => simp only [wrapped, groupsIn, Export.candidates, hkey, ite_true]
      | false => simp only [wrapped, groupsIn, Export.candidates, hkey, Bool.false_eq_true, ite_false]
  | list items => rfl
  | null | bool | int | real | text => cases h

theorem decodeContent_valid {content : List Char} {v : Value}
    (hdecode : Json.decode (Text.Fence.content content) = .ok v) (hv : Export.problems v = []) :
    decodeContent content = .ok (.ok (Export.candidates v)) := by
  have hgroups := groupsIn_wrapped (Export.isDocument_of_valid hv)
  simp only [decodeContent, hdecode, problems_wrapped, hv, hgroups]

theorem decodeReply_of_offers {reply : Web.Reply} {v : Value} (h : Offers reply v)
    (hv : Export.problems v = []) : decodeReply reply = .ok (.ok (Export.candidates v)) := by
  obtain ⟨status, isError, body, s, rfl, hsays, hsaid, hdecode⟩ := h
  have hcontent : contentOf body = some (trim s.toList) :=
    contentOf_eq_some_iff.mpr ⟨s, hsays, rfl, trim_ne_nil_iff.mpr hsaid⟩
  simp only [decodeReply, Option.bind_some, hcontent]
  exact decodeContent_valid hdecode hv

-- A reply whose body has a text in its place is told from its text, every other is a failure at once.
theorem decodeReply_cases (reply : Web.Reply) :
    (∃ e, decodeReply reply = .ok (.error e) ∧ e.problems = [] ∧ e.kind ≠ "invalid_schema") ∨
      ∃ status isError body s, reply = .answered status isError (some body) ∧ Says body s ∧
        (∃ c ∈ s.toList, isBlank c = false) ∧
        decodeReply reply = decodeContent (trim s.toList) := by
  have hunsaid : ∀ reason, (Failure.noReply reason).kind ≠ "invalid_schema" := fun _ => by
    simp only [Failure.kind]
    decide
  cases reply with
  | timedOut reason => exact .inl ⟨_, rfl, rfl, hunsaid reason⟩
  | statusOnly reason => exact .inl ⟨_, rfl, rfl, hunsaid reason⟩
  | failed reason => exact .inl ⟨_, rfl, rfl, hunsaid reason⟩
  | answered status isError body =>
      cases hcontent : body.bind contentOf with
      | none =>
          refine .inl ⟨.noContent, ?_, rfl, by simp only [Failure.kind]; decide⟩
          simp only [decodeReply, hcontent]
      | some content =>
          obtain ⟨body, rfl, hbody⟩ := Option.bind_eq_some_iff.mp hcontent
          obtain ⟨s, hsays, rfl, hne⟩ := contentOf_eq_some_iff.mp hbody
          refine .inr ⟨status, isError, body, s, rfl, hsays, trim_ne_nil_iff.mp hne, ?_⟩
          simp only [decodeReply, hcontent]

theorem decodeContent_cases (content : List Char) :
    (∃ v, Json.decode (Text.Fence.content content) = .ok v ∧ Export.problems v = [] ∧
        decodeContent content = .ok (.ok (Export.candidates v))) ∨
      (∃ e, decodeContent content = .ok (.error e) ∧
        (e.problems ≠ [] ↔ e.kind = "invalid_schema")) ∨
      ∃ limit, Json.decode (Text.Fence.content content) = .error (.beyond limit) := by
  cases hdecode : Json.decode (Text.Fence.content content) with
  | error failure =>
      cases failure with
      | refused e =>
          refine .inr (.inl ⟨.noJson e.problem content, by simp only [decodeContent, hdecode], ?_⟩)
          simp only [Failure.problems, Failure.kind]
          decide
      | beyond limit => exact .inr (.inr ⟨limit, rfl⟩)
  | ok v =>
      cases hv : Export.problems v with
      | nil => exact .inl ⟨v, rfl, hv, decodeContent_valid hdecode hv⟩
      | cons p ps =>
          refine .inr (.inl ⟨.noExport (p :: ps) content, ?_, ?_⟩)
          · simp only [decodeContent, hdecode, problems_wrapped, hv]
          · simp [Failure.problems, Failure.kind]

-- A readable reply is decoded: to the groups of a valid export that it offers, or to a failure that has
-- problems just where it is about an export.
theorem decodeReply_of_readable {reply : Web.Reply} (h : IsReadable reply) :
    (∃ v, Offers reply v ∧ Export.problems v = [] ∧
        decodeReply reply = .ok (.ok (Export.candidates v))) ∨
      ∃ e, decodeReply reply = .ok (.error e) ∧ (e.problems ≠ [] ↔ e.kind = "invalid_schema") := by
  rcases decodeReply_cases reply with
    ⟨e, he, hnone, hkind⟩ | ⟨status, isError, body, s, rfl, hsays, hsaid, hreply⟩
  · exact .inr ⟨e, he, by simp [hnone, hkind]⟩
  · rw [hreply]
    rcases decodeContent_cases (trim s.toList) with ⟨v, hdecode, hv, hok⟩ | hfailure | ⟨limit, hlimit⟩
    · exact .inl ⟨v, ⟨status, isError, body, s, rfl, hsays, hsaid, hdecode⟩, hv, hok⟩
    · exact .inr hfailure
    · exact absurd hlimit (h status isError body s limit rfl hsays)

theorem ask_without_key (send : Web.Transport) {s : Settings} (h : s.apiKey.truthy = false)
    (prompt : String) : ask send s prompt = .ok ⟨.error .missingKey, []⟩ := by
  simp [ask, h]

theorem ask_of_decoded {send : Web.Transport} {s : Settings} (h : s.apiKey.truthy = true)
    {prompt : String} {result : Except Failure (List Value)}
    (hreply : decodeReply (send (callFor s prompt)) = .ok result) :
    ask send s prompt = .ok ⟨result, [callFor s prompt]⟩ := by
  simp only [ask, h, hreply, ite_true]
  rfl

-- Every prompt has an answer. There is one request, and none without a key. Groups are handed over
-- exactly where the reply offers a valid export: its candidates, which load as the export does. A
-- failure hands over nothing.
theorem ask_hands_over_loadable (send : Web.Transport) (s : Settings) (prompt : String)
    (hreadable : s.apiKey.truthy = true → IsReadable (send (callFor s prompt))) :
    ∃ answer, ask send s prompt = .ok answer ∧
      answer.calls = (if s.apiKey.truthy then [callFor s prompt] else []) ∧
      ((∃ groups, answer.result = .ok groups) ↔ s.apiKey.truthy = true ∧
        ∃ v, Offers (send (callFor s prompt)) v ∧ Export.problems v = []) ∧
      (∀ v, s.apiKey.truthy = true → Offers (send (callFor s prompt)) v → Export.problems v = [] →
        answer.data = Export.candidates v ∧
          ∃ groups, Export.load (.list answer.data) = .ok groups ∧ Export.load v = .ok groups) ∧
      ∀ e, answer.result = .error e →
        answer.data = [] ∧ (e.problems ≠ [] ↔ e.kind = "invalid_schema") := by
  cases hkey : s.apiKey.truthy with
  | false =>
      refine ⟨_, ask_without_key send hkey prompt, by simp, ?_, ?_, ?_⟩
      · constructor
        · rintro ⟨groups, hgroups⟩
          cases hgroups
        · rintro ⟨habsurd, -⟩
          cases habsurd
      · intro v habsurd
        cases habsurd
      · intro e he
        obtain rfl := Except.error.inj he
        refine ⟨rfl, ?_⟩
        simp only [Failure.problems, Failure.kind]
        decide
  | true =>
      rcases decodeReply_of_readable (hreadable hkey) with ⟨v, hoffers, hv, hok⟩ | ⟨e, he, hproblems⟩
      · refine ⟨_, ask_of_decoded hkey hok, by simp, ?_, ?_, ?_⟩
        · exact ⟨fun _ => ⟨rfl, v, hoffers, hv⟩, fun _ => ⟨_, rfl⟩⟩
        · intro w _ hw hvalid
          have hsame : Export.candidates v = Export.candidates w := by
            rw [decodeReply_of_offers hw hvalid] at hok
            exact (Except.ok.inj (Except.ok.inj hok)).symm
          refine ⟨hsame, _, ?_, Export.load_of_valid hvalid⟩
          change Export.load (.list (Export.candidates v)) = _
          rw [hsame, Export.load_candidates hvalid, Export.load_of_valid hvalid]
        · intro e he
          cases he
      · refine ⟨_, ask_of_decoded hkey he, by simp, ?_, ?_, ?_⟩
        · constructor
          · rintro ⟨groups, hgroups⟩
            cases hgroups
          · rintro ⟨-, v, hoffers, hv⟩
            rw [decodeReply_of_offers hoffers hv] at he
            cases he
        · intro v _ hoffers hv
          rw [decodeReply_of_offers hoffers hv] at he
          cases he
        · intro d hd
          obtain rfl := Except.error.inj hd
          exact ⟨rfl, hproblems⟩

-- A reply that holds one group by itself, in a fenced block.
def fencedText : String :=
  " Here it is:\n```json\n\x7b\"key\": \"group_page\", \"title\": \"Page\"\x7d\n```\n"

def fencedBody : Value := .object [("id", .null), ("choices", .list [
  .object [("message", .object [("role", .text "assistant"), ("content", .text fencedText)])],
  .null])]

theorem ask_hands_over_loadable_of_fencedBody :
    let send : Web.Transport := fun _ => .answered 503 true (some fencedBody)
    let s : Settings := { apiKey := .text "secret" }
    ∃ v answer groups, Json.decode (Text.Fence.content (trim fencedText.toList)) = .ok v ∧
      v.display = "\x7b'key': 'group_page', 'title': 'Page'\x7d" ∧
      ask send s "A page" = .ok answer ∧ answer.calls = [callFor s "A page"] ∧
      answer.data = Export.candidates v ∧ Export.load (.list answer.data) = .ok groups ∧
      Export.load v = .ok groups := by
  intro send s
  have hsays : Says fencedBody fencedText := ⟨_, _, _, _, rfl, rfl, rfl, rfl⟩
  have hsaid : ∃ c ∈ fencedText.toList, isBlank c = false := ⟨'H', by decide, by decide⟩
  have hchecked : (Json.decode (Text.Fence.content (trim fencedText.toList))).toOption.any
      (fun v => (Export.problems v).isEmpty &&
        v.display == "\x7b'key': 'group_page', 'title': 'Page'\x7d") = true := by decide +kernel
  cases hdecode : Json.decode (Text.Fence.content (trim fencedText.toList)) with
  | error e =>
      rw [hdecode] at hchecked
      cases hchecked
  | ok v =>
      simp only [hdecode, Except.toOption, Option.any_some, Bool.and_eq_true, List.isEmpty_iff,
        beq_iff_eq] at hchecked
      have hreadable : IsReadable (send (callFor s "A page")) := by
        rintro status isError body text limit hreply
          ⟨members, first, rest, message, rfl, hchoices, hmessage, htext⟩
        cases hreply
        cases hchoices
        cases hmessage
        cases htext
        rw [hdecode]
        exact fun h => nomatch h
      have hoffers : Offers (send (callFor s "A page")) v :=
        ⟨503, true, fencedBody, fencedText, rfl, hsays, hsaid, hdecode⟩
      obtain ⟨answer, hanswer, hcalls, -, hdata, -⟩ :=
        ask_hands_over_loadable send s "A page" fun _ => hreadable
      obtain ⟨hcandidates, groups, hload, hsame⟩ := hdata v rfl hoffers hchecked.1
      exact ⟨v, answer, groups, rfl, hchecked.2, hanswer, hcalls, hcandidates, hload, hsame⟩

end Assistant

end FieldTemplates
