import FieldTemplates.Proofs.Document.Report
import FieldTemplates.Proofs.Library.Basic

namespace FieldTemplates.Document

open Snippet (Style)

-- What is told of the request for a key.
def warningsOf (setup : Setup) (key : String) : List Warning :=
  match setup.library.find? key with
  | none => [.notFound key]
  | some g => warningsFor setup.catalog g

-- Runs that agree in all but what they tell of their requests: their number, and the warnings.
structure Run.Agrees (run other : Run) : Prop where
  allocator : run.allocator = other.allocator
  code : run.code = other.code
  report : { run.report with requested := 0 } = { other.report with requested := 0 }

-- Between two states of a run these keys were dealt with, one after another.
structure Told (setup : Setup) (keys : List String) (before after : Run) : Prop where
  requested : after.report.requested = before.report.requested + keys.length
  warnings : after.warnings = before.warnings ++ keys.flatMap (warningsOf setup)

variable {setup : Setup}

theorem Told.nil (run : Run) : Told setup [] run run := ⟨rfl, (List.append_nil _).symm⟩

theorem Told.cons {key : String} {keys : List String} {before between after : Run}
    (hfirst : Told setup [key] before between) (hrest : Told setup keys between after) :
    Told setup (key :: keys) before after := by
  refine ⟨?_, ?_⟩
  · have hone : between.report.requested = before.report.requested + 1 := hfirst.requested
    rw [hrest.requested, hone, List.length_cons]
    omega
  · rw [hrest.warnings, hfirst.warnings, List.flatMap_singleton, List.flatMap_cons, List.append_assoc]

theorem told_skip {key : String} (h : setup.library.find? key = none) (run : Run) :
    Told setup [key] run (skip run.asked key) := by
  refine ⟨rfl, ?_⟩
  simp only [List.flatMap_singleton, warningsOf, h]
  rfl

theorem told_addGroup (style : Style) {key : String} {g : Group} (h : setup.library.find? key = some g) (run : Run) :
    Told setup [key] run (addGroup setup style run.asked g).1 := by
  refine ⟨(addGroup_allocator setup style run.asked g).2, ?_⟩
  rw [addGroup_warnings]
  simp only [List.flatMap_singleton, warningsOf, h]
  rfl

theorem agrees_skip {run other : Run} (h : run.Agrees other) (key : String) :
    (skip run.asked key).Agrees other := ⟨h.allocator, h.code, h.report⟩

theorem agrees_asked {run other : Run} (h : run.Agrees other) : run.asked.Agrees other.asked :=
  ⟨h.allocator, h.code, h.report⟩

-- Adding a group reads nothing of what the run told before.
theorem agrees_addGroup (setup : Setup) (style : Style) {run other : Run} (h : run.Agrees other) (g : Group) :
    let r := addGroup setup style run g
    let s := addGroup setup style other g
    r.2 = s.2 ∧ r.1.Agrees s.1 := by
  intro r s
  obtain ⟨hallocator, hcode, hreport⟩ := h
  simp only [Report.mk.injEq] at hreport
  obtain ⟨-, hrendered, hfields, hreplaced, hunsupported⟩ := hreport
  simp only [r, s, addGroup, hallocator]
  cases (Snippet.renderLevel ⟨setup.catalog, style⟩ (prepare setup.source other.allocator g).key 0 ""
      (prepare setup.source other.allocator g).fields).text with
  | error e =>
      refine ⟨rfl, rfl, hcode, ?_⟩
      simp only [hrendered, hfields, hreplaced, hunsupported]
  | ok body =>
      refine ⟨rfl, rfl, ?_, ?_⟩
      · simp only [hcode]
      · simp only [hrendered, hfields, hreplaced, hunsupported]

-- Two runs that agree, one over keys and one over the known ones among them, end over the same group or
-- not at all. So they deal with corresponding keys, and they still agree.
theorem steps_known (setup : Setup) (style : Style) {run other : Run} (h : run.Agrees other) (keys : List String) :
    let r := steps setup style run (keys.map .key)
    let s := steps setup style other ((keys.filter setup.library.has).map .key)
    r.2 = s.2 ∧ r.1.Agrees s.1 ∧ ∃ count ≤ keys.length,
      (r.2 = none → count = keys.length) ∧ Told setup (keys.take count) run r.1 ∧
      Told setup ((keys.take count).filter setup.library.has) other s.1 := by
  induction keys generalizing run other with
  | nil => exact ⟨rfl, h, 0, Nat.le_refl 0, fun _ => rfl, .nil run, .nil other⟩
  | cons key keys ih =>
      have hhas := Library.has_eq_isSome_find? setup.library key
      cases hfind : setup.library.find? key with
      | none =>
          rw [hfind, Option.isSome_none] at hhas
          have hkeys : ∀ rest, (key :: rest).filter setup.library.has = rest.filter setup.library.has :=
            fun rest => List.filter_cons_of_neg (by rw [hhas]; exact Bool.false_ne_true)
          obtain ⟨hend, hagrees, count, hle, hall, htold, hknown⟩ := ih (agrees_skip h key)
          simp only [List.map_cons, steps, step_of_unknown hfind, hkeys]
          refine ⟨hend, hagrees, count + 1, Nat.succ_le_succ hle,
            fun hnone => congrArg (· + 1) (hall hnone), (told_skip hfind run).cons htold, ?_⟩
          rwa [List.take_succ_cons, hkeys]
      | some g =>
          rw [hfind, Option.isSome_some] at hhas
          have hkeys : ∀ rest, (key :: rest).filter setup.library.has =
              key :: rest.filter setup.library.has := fun rest => List.filter_cons_of_pos hhas
          have hfirst := told_addGroup style hfind run
          have hsecond := told_addGroup style hfind other
          obtain ⟨hend, hnext⟩ := agrees_addGroup setup style (agrees_asked h) g
          simp only [List.map_cons, steps, step_of_known hfind, hkeys]
          rcases hadd : addGroup setup style run.asked g with ⟨next, end?⟩
          rcases hadd' : addGroup setup style other.asked g with ⟨next', end?'⟩
          rw [hadd] at hfirst hend hnext
          rw [hadd'] at hsecond hend hnext
          obtain rfl : end? = end?' := hend
          cases end? with
          | some e =>
              refine ⟨rfl, hnext, 1, Nat.succ_le_succ (Nat.zero_le _),
                fun hnone => absurd hnone (Option.some_ne_none e), hfirst, ?_⟩
              rw [List.take_succ_cons, hkeys]
              exact hsecond
          | none =>
              obtain ⟨hends, hagrees, count, hle, hall, htold, hknown⟩ := ih hnext
              refine ⟨hends, hagrees, count + 1, Nat.succ_le_succ hle,
                fun hnone => congrArg (· + 1) (hall hnone), hfirst.cons htold, ?_⟩
              rw [List.take_succ_cons, hkeys]
              exact hsecond.cons hknown

theorem length_resolved (l : Library) (keys : List String) :
    (resolved l keys).length = (keys.filter l.has).length := by
  have hhas : l.has = fun key => (l.find? key).isSome := funext l.has_eq_isSome_find?
  rw [resolved, List.length_filterMap_eq_countP, hhas, List.countP_eq_length_filter]

-- A run that ends with a document has counted a group for each known key.
theorem rendered_of_generate {a : Key.Allocator} {keys : List String}
    (hok : (generate setup a (keys.map .key)).code.isOk = true) :
    (generate setup a (keys.map .key)).run.report.rendered = (keys.filter setup.library.has).length := by
  obtain ⟨count, hadvance⟩ := generate_advance setup a keys
  obtain ⟨-, hrendered, -⟩ := hadvance.finished (by
    cases hcode : (generate setup a (keys.map .key)).code with
    | error e =>
        rw [hcode] at hok
        cases hok
    | ok code => rfl)
  rw [hrendered, length_resolved]
  exact Nat.zero_add _

-- The run over all keys and the run over the known ones among them end alike, with one document or over
-- one error, and leave the same behind: the keys given, the counts of what was rendered, the types that
-- are not supported. They differ in what they tell: all keys that were dealt with are counted as
-- requested, and among the warnings of the known ones each unknown key has one of its own.
theorem unknown_keys_inert (setup : Setup) (a : Key.Allocator) (keys : List String) :
    let known := keys.filter setup.library.has
    let o := generate setup a (keys.map .key)
    let p := generate setup a (known.map .key)
    o.code = p.code ∧ o.run.allocator = p.run.allocator ∧
      { o.run.report with requested := 0 } = { p.run.report with requested := 0 } ∧
      ∃ count ≤ keys.length,
        o.run.report.requested = count ∧
        o.run.warnings = (keys.take count).flatMap (warningsOf setup) ∧
        p.run.report.requested = ((keys.take count).filter setup.library.has).length ∧
        p.run.warnings = ((keys.take count).filter setup.library.has).flatMap (warningsOf setup) ∧
        (o.code.isOk = true → count = keys.length ∧
          o.run.report.requested =
            o.run.report.rendered + (keys.filter (!setup.library.has ·)).length) := by
  intro known o p
  cases hstyle : Style.ofOptions setup.options with
  | error e =>
      have ho : o = ⟨.error (.indentation e), { allocator := a }⟩ := by
        simp only [o, generate, hstyle]
      have hp : p = ⟨.error (.indentation e), { allocator := a }⟩ := by
        simp only [p, generate, hstyle]
      rw [ho, hp]
      exact ⟨rfl, rfl, rfl, 0, Nat.zero_le _, rfl, rfl, rfl, rfl,
        fun hok => absurd hok Bool.false_ne_true⟩
  | ok style =>
      let r := steps setup style (Run.start setup a) (keys.map .key)
      let s := steps setup style (Run.start setup a) (known.map .key)
      have hstart : (Run.start setup a).Agrees (Run.start setup a) := ⟨rfl, rfl, rfl⟩
      obtain ⟨hend, hagrees, count, hle, hall, htold, hknown⟩ := steps_known setup style hstart keys
      have ho : o.run = r.1 := congrArg Outcome.run (generate_of_style hstyle a _)
      have hp : p.run = s.1 := congrArg Outcome.run (generate_of_style hstyle a _)
      have hrequested : o.run.report.requested = count := by
        rw [ho, htold.requested, List.length_take_of_le hle]
        exact Nat.zero_add count
      refine ⟨?_, ?_, ?_, count, hle, hrequested, ?_, ?_, ?_, fun hok => ?_⟩
      · simp only [o, p, generate_of_style hstyle, known, hend, hagrees.code]
      · rw [ho, hp]
        exact hagrees.allocator
      · rw [ho, hp]
        exact hagrees.report
      · rw [ho]
        exact htold.warnings
      · rw [hp]
        exact hknown.requested.trans (Nat.zero_add _)
      · rw [hp]
        exact hknown.warnings
      · have hcount : count = keys.length := hall (finished_of_isOk hstyle hok)
        refine ⟨hcount, ?_⟩
        rw [rendered_of_generate hok, hrequested, hcount]
        exact List.length_eq_length_filter_add setup.library.has

-- A page, asked for twice, and two keys of no group.
def sparseRequests : List String := ["group_news", "group_page", "", "group_page"]

def sparseSetup : Setup where
  library := ⟨[⟨"group_page", "Page", [⟨"field_map", "map", "Map", "open_map", [], [], []⟩], []⟩]⟩
  catalog := .standard
  source := Key.constantSource
  time := "2024-01-02 03:04:05"

theorem unknown_keys_inert_of_sparseRequests :
    let o := generate sparseSetup {} (sparseRequests.map .key)
    let p := generate sparseSetup {} (["group_page", "group_page"].map .key)
    o.code.isOk = true ∧ o.code = p.code ∧ o.run.allocator = p.run.allocator ∧
      o.run.report.requested = o.run.report.rendered + 2 ∧
      p.run.warnings = [.unsupported "open_map" "map" "Page", .unsupported "open_map" "map" "Page"] ∧
      o.run.warnings = [.notFound "group_news", .unsupported "open_map" "map" "Page", .notFound "",
        .unsupported "open_map" "map" "Page"] := by
  have hok : (generate sparseSetup {} (sparseRequests.map .key)).code.isOk = true := by decide +kernel
  have hknown : sparseRequests.filter sparseSetup.library.has = ["group_page", "group_page"] := by
    decide +kernel
  have hremoved : (sparseRequests.filter (!sparseSetup.library.has ·)).length = 2 := by decide +kernel
  obtain ⟨hcode, hallocator, -, count, -, -, hwarnings, -, hother, hdone⟩ :=
    unknown_keys_inert sparseSetup {} sparseRequests
  obtain ⟨hcount, hrequested⟩ := hdone hok
  rw [hcount, List.take_length] at hwarnings hother
  rw [hknown] at hcode hallocator hother
  rw [hremoved] at hrequested
  refine ⟨hok, hcode, hallocator, hrequested, hother.trans ?_, hwarnings.trans ?_⟩
  · decide +kernel
  · decide +kernel

end FieldTemplates.Document
