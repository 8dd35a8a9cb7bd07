import FieldTemplates.Proofs.Assistant.Answer
import FieldTemplates.Proofs.Json.Encode

namespace FieldTemplates.Assistant

open Text (isBlank)
open Text.Fence (around closing opening)

theorem nonblank_around (before block after : List Char) :
    ∃ c ∈ (String.ofList (around before block after)).toList, isBlank c = false := by
  refine ⟨'\x60', ?_, by decide⟩
  have hmem : '\x60' ∈ opening := by decide
  rw [String.toList_ofList, around]
  exact List.mem_append_right _ (List.mem_append_left _ hmem)

-- The groups in the block are handed over, and nothing else. What stands in front opens no fence and the
-- block closes none, as no value does that is written down; what follows is free.
theorem ask_reads_fenced_block (send : Web.Transport) (s : Settings) (prompt : String)
    (hkey : s.apiKey.truthy = true) {status : Int} {isError : Bool} {body : Value}
    (hreply : send (callFor s prompt) = .answered status isError (some body))
    {before block after : List Char}
    (hcontent : Says body (String.ofList (around before block after)))
    (hbefore : ¬ opening <:+: before) (hblock : ¬ closing <:+: block)
    {v : Value} (hdecode : Json.decode block = .ok v) (hvalid : Export.problems v = []) :
    (∃ answer, ask send s prompt = .ok answer ∧ answer.result = .ok (Export.candidates v) ∧
      answer.data = Export.candidates v) ∧
    ∀ w, ¬ closing <:+: (Json.encode w).toList ∧
      ¬ closing <:+: (Json.encodePretty w).toList := by
  have hoffers : Offers (send (callFor s prompt)) v := by
    refine ⟨status, isError, body, _, hreply, hcontent, nonblank_around before block after, ?_⟩
    rw [String.toList_ofList, Text.Fence.content_trim_around hbefore hblock, hdecode]
  have hanswer := ask_of_decoded hkey (decodeReply_of_offers hoffers hvalid)
  refine ⟨⟨_, hanswer, rfl, rfl⟩, fun w => ?_⟩
  exact ⟨Json.closing_not_infix_encode w, Json.closing_not_infix_encodePretty w⟩

-- Fences all around and inside the block, which holds a mapping of groups.
def fencedMapping : List Char :=
  "\n\x7b\"page\": \x7b\"key\": \"```json\", \"title\": \"\\n```\"\x7d\x7d\n".toList

def manyFences : String :=
  String.ofList (around "No ```json here:\n``".toList fencedMapping "\nor\n```json\n[]\n```".toList)

theorem ask_reads_fenced_block_of_manyFences :
    let send : Web.Transport := fun _ => .answered 200 false (some (.object [("choices", .list [
      .object [("message", .object [("content", .text manyFences)])]])]))
    let s : Settings := { apiKey := .text "secret" }
    ∃ answer, ask send s "A page" = .ok answer ∧
      answer.data.map Value.display = ["\x7b'key': '```json', 'title': '\\n```'\x7d"] := by
  intro send s
  have hchecked : (Json.decode fencedMapping).toOption.any (fun v =>
      (Export.problems v).isEmpty && (Export.candidates v).map Value.display ==
        ["\x7b'key': '```json', 'title': '\\n```'\x7d"]) = true := by decide +kernel
  cases hdecode : Json.decode fencedMapping with
  | error e =>
      rw [hdecode] at hchecked
      cases hchecked
  | ok v =>
      simp only [hdecode, Except.toOption, Option.any_some, Bool.and_eq_true, List.isEmpty_iff,
        beq_iff_eq] at hchecked
      obtain ⟨⟨answer, hanswer, -, hdata⟩, -⟩ := ask_reads_fenced_block send s "A page" rfl
        rfl ⟨_, _, _, _, rfl, rfl, rfl, rfl⟩ (by decide) (by decide) hdecode hchecked.1
      exact ⟨answer, hanswer, hdata ▸ hchecked.2⟩

end FieldTemplates.Assistant
