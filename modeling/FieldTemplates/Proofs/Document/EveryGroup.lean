import FieldTemplates.Proofs.Document.Generation
import FieldTemplates.Proofs.Document.Unknown

namespace FieldTemplates.Document

open Snippet (Catalog Style)

-- Groups added to a run one after another, each counted as asked for, up to the first that fails.
def addInTurn (setup : Setup) (style : Style) (run : Run) : List Group → Run × Option RunError
  | [] => (run, none)
  | g :: gs =>
    match addGroup setup style run.asked g with
    | (run, some e) => (run, some e)
    | (run, none) => addInTurn setup style run gs

theorem steps_of_known (setup : Setup) (style : Style) (run : Run) {keys : List String}
    (h : ∀ key ∈ keys, key ∈ setup.library.keys) : steps setup style run (keys.map .key) =
      addInTurn setup style run (resolved setup.library keys) := by
  induction keys generalizing run with
  | nil => rfl
  | cons key keys ih =>
      obtain ⟨hkey, hkeys⟩ := List.forall_mem_cons.mp h
      obtain ⟨g, hg⟩ := Option.isSome_iff_exists.mp (Library.isSome_find?.mpr hkey)
      have hresolved : resolved setup.library (key :: keys) = g :: resolved setup.library keys :=
        List.filterMap_cons_some hg
      simp only [List.map_cons, steps, step_of_known hg, hresolved, addInTurn]
      rcases addGroup setup style run.asked g with ⟨next, _ | e⟩
      · exact ih next hkeys
      · rfl

theorem generateAll_of_style {setup : Setup} {style : Style}
    (hstyle : Style.ofOptions setup.options = .ok style) (hkeys : setup.library.keys.Nodup)
    (a : Key.Allocator) : generateAll setup a =
      let r := addInTurn setup style (Run.start setup a) setup.library.groups
      ⟨match r.2 with | some e => .error e | none => .ok (tidy r.1.code), r.1⟩ := by
  have hall := steps_of_known setup style (Run.start setup a) (fun _ hkey => hkey)
  rw [resolved, Library.filterMap_find?_keys hkeys] at hall
  have hrun := generate_of_style hstyle a (setup.library.keys.map .key)
  rw [hall] at hrun
  exact hrun

-- Nothing is told of a known key but what its fields call for.
theorem notFound_notMem_warningsOf {setup : Setup} {key : String} (h : key ∈ setup.library.keys)
    (other : String) : .notFound other ∉ warningsOf setup key := by
  obtain ⟨g, hg⟩ := Option.isSome_iff_exists.mp (Library.isSome_find?.mpr h)
  intro hmem
  simp only [warningsOf, hg, warningsFor, unsupportedIn, List.mem_map] at hmem
  obtain ⟨f, -, hf⟩ := hmem
  cases hf

-- What a run over every group asks for and tells.
theorem generateAll_told (setup : Setup) (a : Key.Allocator) :
    (∀ key, .notFound key ∉ (generateAll setup a).run.warnings) ∧
      ((generateAll setup a).code.isOk = true →
        (generateAll setup a).run.report.requested = setup.library.size ∧
        (generateAll setup a).run.report.rendered = setup.library.size) := by
  have hsize : setup.library.keys.length = setup.library.size := List.length_map _
  have hhas : setup.library.keys.filter setup.library.has = setup.library.keys :=
    List.filter_eq_self.mpr fun _ hkey => Library.has_iff.mpr hkey
  cases hstyle : Style.ofOptions setup.options with
  | error e =>
      have hend : generateAll setup a = ⟨.error (.indentation e), { allocator := a }⟩ := by
        simp only [generateAll, generate, hstyle]
      rw [hend]
      exact ⟨fun _ => List.not_mem_nil, fun hok => absurd hok Bool.false_ne_true⟩
  | ok style =>
      have hsame : (Run.start setup a).Agrees (Run.start setup a) := ⟨rfl, rfl, rfl⟩
      obtain ⟨-, -, count, hle, hall, htold, -⟩ :=
        steps_known setup style hsame setup.library.keys
      have hrun : (generateAll setup a).run =
          (steps setup style (Run.start setup a) (setup.library.keys.map .key)).1 :=
        congrArg Outcome.run (generate_of_style hstyle a _)
      refine ⟨fun key hmem => ?_, fun hok => ⟨?_, ?_⟩⟩
      · rw [hrun, htold.warnings] at hmem
        obtain ⟨known, hknown, hwarning⟩ := List.mem_flatMap.mp ((List.mem_append.mp hmem).resolve_left
          List.not_mem_nil)
        exact notFound_notMem_warningsOf (List.mem_of_mem_take hknown) key hwarning
      · have hcount : count = setup.library.keys.length := hall (finished_of_isOk hstyle hok)
        rw [hrun, htold.requested, List.length_take_of_le hle, hcount, hsize]
        exact Nat.zero_add _
      · have hrendered := rendered_of_generate hok
        rw [hhas, hsize] at hrendered
        exact hrendered

-- Whatever groups are added to a library, it lists of each key the first, in the order in which the keys
-- first came, and answers a key with that group. A run over every group adds each of these once and in
-- that order, passes over none, and its report counts them all when it comes to its end. With the
-- standard renderers and options that are valid only memory can keep it from that.
theorem every_group_rendered_once (gs : List Group) (catalog : Catalog) (options : Options)
    (source : Key.Source) (time : String) (a : Key.Allocator) :
    let l := Library.ofGroups gs
    let setup : Setup := ⟨l, catalog, options, source, time⟩
    let o := generateAll setup a
    (l.groups = (gs.map Group.key).eraseDups.filterMap fun key => gs.find? (·.key == key)) ∧
      (∀ key, l.bare? key = (gs.find? (·.key == key)).map (fun g => { g with fields := [] }) ∧
        l.fields key = ((gs.find? (·.key == key)).map Group.fields).getD [] ∧
        (l.bare? key = none ∧ l.fields key = [] ↔ key ∉ gs.map Group.key)) ∧
      (∀ style, Style.ofOptions options = .ok style →
        let r := addInTurn setup style (Run.start setup a) l.groups
        o = ⟨match r.2 with | some e => .error e | none => .ok (tidy r.1.code), r.1⟩) ∧
      (∀ key, .notFound key ∉ o.run.warnings) ∧
      (o.code.isOk = true → o.run.report.requested = l.size ∧ o.run.report.rendered = l.size) ∧
      (catalog = .standard → options.problems = [] →
        o.code.isOk = true ∨ ∃ e, o.code = .error e ∧ Exhausted l.groups options e) := by
  intro l setup o
  have hkeys : l.keys.Nodup := Library.nodup_ofGroups gs
  have hfind : ∀ key, l.find? key = gs.find? (·.key == key) := Library.find?_ofGroups gs
  obtain ⟨hwarnings, hreport⟩ := generateAll_told setup a
  refine ⟨?_, fun key => ⟨?_, ?_, ?_⟩, fun style hstyle => generateAll_of_style hstyle hkeys a, hwarnings,
    hreport, fun hcatalog hoptions => ?_⟩
  · rw [← Library.keys_ofGroups, ← Library.filterMap_find?_keys hkeys]
    exact List.filterMap_congr fun key _ => hfind key
  · rw [Library.bare?, hfind]
  · rw [Library.fields, hfind]
  · have hnone : l.bare? key = none ↔ key ∉ gs.map Group.key := by
      rw [Library.bare?, Option.map_eq_none_iff, hfind, List.find?_eq_none]
      simp only [List.mem_map, beq_iff_eq, not_exists, not_and]
    refine ⟨fun h => hnone.mp h.1, fun h => ⟨hnone.mpr h, ?_⟩⟩
    rw [Library.fields, Option.map_eq_none_iff.mp (hnone.mpr h)]
    rfl
  · have hend := @generate_of_valid setup hcatalog hoptions a l.keys
    rcases hend with ⟨code, hcode, -⟩ | hends
    · exact .inl (congrArg Except.isOk hcode)
    · exact .inr hends

-- Two groups of one key, and one between them.
def repeatedKey : List Group := [
  ⟨"group_page", "First", [⟨"field_note", "note", "Note", "text", [], [], []⟩], []⟩,
  ⟨"group_news", "News", [], []⟩, ⟨"group_page", "Second", [], []⟩]

theorem every_group_rendered_once_of_repeatedKey :
    let l := Library.ofGroups repeatedKey
    let o := generateAll ⟨l, .standard, {}, Key.constantSource, "2024-01-02 03:04:05"⟩
      { used := ["group_news"], next := 7 }
    l.groups.map Group.title = ["First", "News"] ∧ l.bare? "group_none" = none ∧
      l.fields "group_none" = [] ∧ o.code.isOk = true ∧ .notFound "group_page" ∉ o.run.warnings ∧
      o.run.report.requested = 2 ∧ o.run.report.rendered = 2 := by
  have hok : (generateAll ⟨Library.ofGroups repeatedKey, .standard, {}, Key.constantSource,
      "2024-01-02 03:04:05"⟩ { used := ["group_news"], next := 7 }).code.isOk = true := by decide +kernel
  have hsize : (Library.ofGroups repeatedKey).size = 2 := by decide +kernel
  have hnone : "group_none" ∉ repeatedKey.map Group.key := by decide +kernel
  have htitles : ((repeatedKey.map Group.key).eraseDups.filterMap fun key =>
      repeatedKey.find? (·.key == key)).map Group.title = ["First", "News"] := by decide +kernel
  obtain ⟨hlisted, hanswers, -, hwarnings, hreport, -⟩ := every_group_rendered_once repeatedKey
    .standard {} Key.constantSource "2024-01-02 03:04:05" { used := ["group_news"], next := 7 }
  rw [← hlisted] at htitles
  obtain ⟨hnobare, hnofields⟩ := (hanswers "group_none").2.2.mpr hnone
  obtain ⟨hrequested, hrendered⟩ := hreport hok
  rw [hsize] at hrequested hrendered
  exact ⟨htitles, hnobare, hnofields, hok, hwarnings _, hrequested, hrendered⟩

end FieldTemplates.Document
