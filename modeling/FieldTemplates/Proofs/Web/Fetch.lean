import FieldTemplates.Command.Loading
import Mathlib.Data.List.TakeDrop
import Mathlib.Tactic.SplitIfs

namespace FieldTemplates

namespace Web

namespace Url

-- The characters that an address can be refused for.
def isMark (c : Char) : Bool := c == '[' || c == ']' || lookalikes.contains c.toNat

theorem clean_sublist (cs : List Char) : (clean cs).Sublist cs :=
  List.filter_sublist.trans (List.dropWhile_sublist _)

theorem splitScheme_sublist (cs : List Char) : (splitScheme cs).2.Sublist cs := by
  simp only [splitScheme, List.span_eq_takeWhile_dropWhile]
  cases hrest : cs.dropWhile (· != ':') with
  | nil => exact List.Sublist.refl cs
  | cons c rest =>
      have hsub : (c :: rest).Sublist cs := hrest ▸ List.dropWhile_sublist _
      dsimp only
      split_ifs
      · exact (List.sublist_cons_self c rest).trans hsub
      · exact List.Sublist.refl cs

theorem authorityOf_sublist (cs : List Char) : (authorityOf cs).Sublist cs := by
  fun_cases authorityOf cs with
  | case1 rest =>
      exact (List.takeWhile_sublist _).trans
        ((List.sublist_cons_self '/' rest).trans (List.sublist_cons_self '/' ('/' :: rest)))
  | case2 => exact List.nil_sublist cs

theorem ofText_of_unmarked {s : String} (h : ∀ c ∈ s.toList, isMark c = false) :
    ∃ u, ofText s = .ok u := by
  generalize hsplit : splitScheme (clean s.toList) = parts
  obtain ⟨scheme, rest⟩ := parts
  have hsub : (authorityOf rest).Sublist s.toList := by
    have hrest := splitScheme_sublist (clean s.toList)
    rw [hsplit] at hrest
    exact (authorityOf_sublist rest).trans (hrest.trans (clean_sublist s.toList))
  have hplain : ∀ c ∈ authorityOf rest, (c ≠ '[' ∧ c ≠ ']') ∧ lookalikes.contains c.toNat = false := by
    intro c hc
    simpa only [isMark, Bool.or_eq_false_iff, beq_eq_false_iff_ne] using h c (hsub.subset hc)
  have hopen : (authorityOf rest).contains '[' = false := by
    simpa using fun hc => (hplain '[' hc).1.1 rfl
  have hclose : (authorityOf rest).contains ']' = false := by
    simpa using fun hc => (hplain ']' hc).1.2 rfl
  have hbrackets : checkBrackets (authorityOf rest) = .ok () := by
    rw [checkBrackets, hopen, hclose]
  have hnone : (authorityOf rest).any (lookalikes.contains ·.toNat) = false :=
    List.any_eq_false.mpr fun c hc => by rw [(hplain c hc).2]; exact Bool.false_ne_true
  refine ⟨⟨scheme, authorityOf rest⟩, ?_⟩
  simp only [ofText, hsplit, hbrackets, hnone]
  rfl

end Url

-- Where an error status is reported, the answer that it came with is there.
def Complete (send : Transport) : Prop := ∀ call reason, send call ≠ .statusOnly reason

-- Statuses that tell of an error of the caller or of the server are reported, and no others.
def Reports (send : Transport) : Prop := ∀ call code isError body,
  send call = .answered code isError body → (isError = true ↔ 400 ≤ code ∧ code < 600)

section

variable {send : Transport} {url : String} {timeout : Value}

-- An address that can be asked, and the one answer that gives a document, whatever its status is.
structure Offers (send : Transport) (url : String) (timeout v : Value) : Prop where
  web : ∃ u, Url.ofText url = .ok u ∧ u.isWeb = true
  answer : ∃ code, send { method := .get, url := .text url, timeout } = .answered code false (some v)

theorem documentOf_eq_ok_iff {reply : Reply} {v : Value} :
    documentOf url timeout reply = .ok v ↔ ∃ code, reply = .answered code false (some v) := by
  constructor
  · intro h
    cases reply with
    | answered code isError body =>
        simp only [documentOf] at h
        split_ifs at h with hstatus
        cases body with
        | none => cases h
        | some w =>
            obtain rfl := Except.ok.inj h
            exact ⟨code, by rw [Bool.eq_false_iff.mpr hstatus]⟩
    | _ => cases h
  · rintro ⟨code, rfl⟩
    rfl

theorem answer_iff_of_reports (hsend : Reports send) {call : Call} {v : Value} :
    (∃ code, send call = .answered code false (some v)) ↔
      ∃ code isError, send call = .answered code isError (some v) ∧ ¬ (400 ≤ code ∧ code < 600) := by
  constructor
  · rintro ⟨code, h⟩
    exact ⟨code, false, h, fun hstatus => Bool.false_ne_true ((hsend _ _ _ _ h).mpr hstatus)⟩
  · rintro ⟨code, isError, h, hstatus⟩
    cases isError with
    | false => exact ⟨code, h⟩
    | true => exact absurd ((hsend _ _ _ _ h).mp rfl) hstatus

theorem isLoading_of_documentOf {reply : Reply} (hreply : ∀ reason, reply ≠ .statusOnly reason)
    {e : FetchError} (h : documentOf url timeout reply = .error e) : e.isLoading = true := by
  cases reply with
  | timedOut reason =>
      cases h
      rfl
  | statusOnly reason => exact absurd rfl (hreply reason)
  | failed reason =>
      cases h
      rfl
  | answered code isError body =>
      simp only [documentOf] at h
      split_ifs at h
      · cases h
        rfl
      · cases body with
        | none =>
            cases h
            rfl
        | some v => cases h

theorem result_of_unreadable {e : Url.Error} (h : Url.ofText url = .error e) :
    fetch send url timeout = ⟨.error (.unreadable e), []⟩ := by
  simp only [fetch, callFor, h]

theorem result_of_readable {u : Url} (h : Url.ofText url = .ok u) :
    fetch send url timeout =
      if u.isWeb then
        ⟨documentOf url timeout (send { method := .get, url := .text url, timeout }),
          [{ method := .get, url := .text url, timeout }]⟩
      else ⟨.error (.invalid url), []⟩ := by
  simp only [fetch, callFor, h]
  split_ifs <;> rfl

theorem result_eq_ok_iff {v : Value} :
    (fetch send url timeout).result = .ok v ↔ Offers send url timeout v := by
  constructor
  · intro h
    cases haddress : Url.ofText url with
    | error e =>
        rw [result_of_unreadable haddress] at h
        cases h
    | ok u =>
        rw [result_of_readable haddress] at h
        split_ifs at h with hweb
        exact ⟨⟨u, haddress, hweb⟩, documentOf_eq_ok_iff.mp h⟩
  · rintro ⟨⟨u, haddress, hweb⟩, hanswer⟩
    rw [result_of_readable haddress, if_pos hweb]
    exact documentOf_eq_ok_iff.mpr hanswer

theorem unexpected_iff (hsend : Complete send) :
    (∃ e, (fetch send url timeout).result = .error e ∧ e.isLoading = false) ↔
      ∃ e, Url.ofText url = .error e := by
  cases haddress : Url.ofText url with
  | error e =>
      rw [result_of_unreadable haddress]
      exact ⟨fun _ => ⟨e, rfl⟩, fun _ => ⟨_, rfl, rfl⟩⟩
  | ok u =>
      refine ⟨?_, fun ⟨_, h⟩ => by cases h⟩
      rintro ⟨e, he, hbroken⟩
      rw [result_of_readable haddress] at he
      split_ifs at he
      · rw [isLoading_of_documentOf (hsend _) he] at hbroken
        cases hbroken
      · rw [← Except.error.inj he] at hbroken
        cases hbroken

end

end Web

namespace Command

open Web (Complete Offers Reports fetch)

theorem loadDocuments_of_url (w : World) {url : String} (h : url ≠ "") :
    (loadDocuments w { url := some url }).result =
      ((fetch w.send url).result.mapError .fetch).map fun v => [⟨url, .ok v⟩] := by
  have haddress : Origin.address? { url := some url } = some url := by
    unfold Origin.address? given?
    split
    · rename_i hempty
      exact absurd (Option.some.inj hempty) h
    · rfl
  have hpath : Origin.path? { url := some url } = none := rfl
  simp only [loadDocuments, loadDocument, documentPlace, haddress, hpath]
  rfl

-- A document comes from the one answer that an address offers, and its place is the address. Where
-- statuses are reported as they should be, that is an answer with any status but those of errors. All
-- that goes wrong is an error of loading, unless the address cannot be read: then nothing is asked, and
-- one of the characters of the address is a mark.
theorem fetched_or_told (w : World) (hsend : Complete w.send) (url : String) (timeout : Value) :
    (∀ v, (fetch w.send url timeout).result = .ok v ↔ Offers w.send url timeout v) ∧
    (∀ documents, (loadDocuments w { url := some url }).result = .ok documents ↔
      ∃ v, documents = [⟨url, .ok v⟩] ∧ Offers w.send url Web.defaultTimeout v) ∧
    (Reports w.send → ∀ v, Offers w.send url timeout v ↔
      (∃ u, Web.Url.ofText url = .ok u ∧ u.isWeb = true) ∧
        ∃ code isError, w.send { method := .get, url := .text url, timeout } =
          .answered code isError (some v) ∧ ¬ (400 ≤ code ∧ code < 600)) ∧
    ((∃ e, (fetch w.send url timeout).result = .error e ∧ e.isLoading = false) ↔
      ∃ e, Web.Url.ofText url = .error e) ∧
    ((∃ e, Web.Url.ofText url = .error e) →
      (fetch w.send url timeout).calls = [] ∧ ∃ c ∈ url.toList, Web.Url.isMark c = true) := by
  refine ⟨fun v => Web.result_eq_ok_iff, fun documents => ?_, fun hreports v => ?_,
    Web.unexpected_iff hsend, ?_⟩
  · by_cases hempty : url = ""
    · subst hempty
      refine iff_of_false nofun ?_
      rintro ⟨v, -, ⟨u, hu, hweb⟩, -⟩
      have hread : Web.Url.ofText "" = .ok ⟨[], []⟩ := by decide
      obtain rfl := Except.ok.inj (hread.symm.trans hu)
      exact absurd hweb (by decide)
    · rw [loadDocuments_of_url w hempty]
      constructor
      · intro h
        cases hresult : (fetch w.send url).result with
        | error e =>
            rw [hresult] at h
            cases h
        | ok v =>
            rw [hresult] at h
            exact ⟨v, (Except.ok.inj h).symm, Web.result_eq_ok_iff.mp hresult⟩
      · rintro ⟨v, rfl, hv⟩
        rw [Web.result_eq_ok_iff.mpr hv]
        rfl
  · rw [← Web.answer_iff_of_reports hreports]
    exact ⟨fun h => ⟨h.web, h.answer⟩, fun h => ⟨h.1, h.2⟩⟩
  · rintro ⟨e, he⟩
    refine ⟨by rw [Web.result_of_unreadable he], ?_⟩
    by_contra hnone
    push Not at hnone
    obtain ⟨u, hu⟩ := Web.Url.ofText_of_unmarked fun c hc => by simpa using hnone c hc
    rw [he] at hu
    cases hu

-- A world that answers every call with an empty list of groups, under a status that nobody knows, and
-- has nothing on its screen.
def answeringWorld : World where
  files := ⟨[]⟩
  environment := []
  input := []
  send := fun _ => .answered 700 false (some (.list []))
  source := fun _ => ⟨"", 0⟩
  counter := 0
  time := ""
  readVariables := fun _ environment => .ok environment
  screen :=
    ⟨fun _ _ => .ok [], fun _ _ => .ok [], fun _ _ => .ok [], fun _ _ => .ok []⟩

theorem fetched_or_told_of_answeringWorld :
    Complete answeringWorld.send ∧ Reports answeringWorld.send ∧
    (loadDocuments answeringWorld { url := some "https://[::1]:8080/acf.json" }).result =
      .ok [⟨"https://[::1]:8080/acf.json", .ok (.list [])⟩] ∧
    (fetch answeringWorld.send "https://[::1/acf.json").calls = [] := by
  have hsend : Complete answeringWorld.send := fun _ _ => nofun
  have hreports : Reports answeringWorld.send := by
    intro call code isError body h
    cases h
    decide
  have hweb : ∃ u, Web.Url.ofText "https://[::1]:8080/acf.json" = .ok u ∧ u.isWeb = true :=
    ⟨⟨"https".toList, "[::1]:8080".toList⟩, by decide, by decide⟩
  have hbroken : Web.Url.ofText "https://[::1/acf.json" = .error .brackets := by decide
  obtain ⟨-, hloads, hoffers, -⟩ :=
    fetched_or_told answeringWorld hsend "https://[::1]:8080/acf.json" Web.defaultTimeout
  have hasks := (fetched_or_told answeringWorld hsend "https://[::1/acf.json" Web.defaultTimeout).2.2.2.2
  exact ⟨hsend, hreports,
    (hloads _).mpr ⟨.list [], rfl, (hoffers hreports _).mpr ⟨hweb, 700, false, rfl, by decide⟩⟩,
    (hasks ⟨_, hbroken⟩).1⟩

-- A host that lacks its closing bracket ends the fetching otherwise than as an error of loading.
theorem fetch_of_openBracket :
    ∃ e, (fetch answeringWorld.send "http://[::1").result = .error e ∧ e.isLoading = false := by
  have hbroken : Web.Url.ofText "http://[::1" = .error .brackets := by decide
  exact ⟨_, congrArg Web.Fetched.result (Web.result_of_unreadable hbroken), rfl⟩

end Command

end FieldTemplates
