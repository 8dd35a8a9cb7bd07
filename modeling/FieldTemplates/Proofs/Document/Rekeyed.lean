import FieldTemplates.Proofs.Document.Pages
import FieldTemplates.Proofs.Document.Report

namespace FieldTemplates.Document

open Snippet (Style)
open Text (ended)

-- Runs that tell the same, but for the number of keys that they replaced.
structure Run.Alike (run other : Run) : Prop where
  warnings : run.warnings = other.warnings
  report : { run.report with replaced := 0 } = { other.report with replaced := 0 }

theorem addTypes_eq (known : List String) (fs : List Field) :
    addTypes known fs = (fs.map Field.type).foldl
      (fun known type => if type ∈ known then known else known ++ [type]) known := by
  rw [List.foldl_map]
  rfl

-- What a report takes from fields are their types and names.
theorem addTypes_unsupported_congr {c : Snippet.Catalog} {fs gs : List Field}
    (h : fs.map (fun f => (f.type, f.name)) = gs.map fun f => (f.type, f.name)) (known : List String) :
    addTypes known (fs.filter fun f => !c.supports f.type) =
      addTypes known (gs.filter fun f => !c.supports f.type) := by
  have htypes : ∀ fs : List Field, (fs.filter fun f => !c.supports f.type).map Field.type =
      ((fs.map fun f => (f.type, f.name)).map Prod.fst).filter fun type => !c.supports type := by
    intro fs
    simp [List.filter_map, Function.comp_def]
  rw [addTypes_eq, addTypes_eq, htypes, htypes, h]

section

variable (setup : Setup) (style : Style) {l : Library} (source : Key.Source)

theorem addGroup_alike {g h : Group} (hgh : g.unkeyedBelow = h.unkeyedBelow) {run other : Run}
    (hrun : run.Alike other) :
    let r := addGroup setup style run g
    let s := addGroup { setup with library := l, source := source } style other h
    r.2 = s.2 ∧ r.1.Alike s.1 := by
  intro r s
  let p := prepare setup.source run.allocator g
  let q := prepare source other.allocator h
  have htitle := congrArg Group.title hgh
  change g.title = h.title at htitle
  have hfields : Field.unkeyedAll p.fields = Field.unkeyedAll q.fields :=
    ((Key.assign_unkeyed setup.source).2.1 g.fields _).trans
      ((congrArg Group.fields hgh).trans ((Key.assign_unkeyed source).2.1 h.fields _).symm)
  have hnames : (Field.flattenAll p.fields).map (fun f => (f.type, f.name)) =
      (Field.flattenAll q.fields).map fun f => (f.type, f.name) := by
    rw [← Field.flatten_unkeyed.2.1, hfields, Field.flatten_unkeyed.2.1]
  have hlength : (Field.flattenAll p.fields).length = (Field.flattenAll q.fields).length := by
    rw [← Field.length_flatten_unkeyed, hfields, Field.length_flatten_unkeyed]
  have hwarnings : unsupportedIn setup.catalog g.title (Field.flattenAll p.fields) =
      unsupportedIn setup.catalog h.title (Field.flattenAll q.fields) := by
    rw [unsupportedIn_eq, unsupportedIn_eq, hnames, htitle]
  have hlevel : (Snippet.renderLevel ⟨setup.catalog, style⟩ p.key 0 "" p.fields).text =
      (Snippet.renderLevel ⟨setup.catalog, style⟩ q.key 0 "" q.fields).text :=
    Snippet.renderLevel_of_unkeyed _ hfields p.key q.key 0 ""
  obtain ⟨hwarned, hreport⟩ := hrun
  simp only [Report.mk.injEq] at hreport
  obtain ⟨hrequested, hrendered, hcount, -, hunsupported⟩ := hreport
  have htypes := addTypes_unsupported_congr (c := setup.catalog) hnames run.report.unsupported
  simp only [r, s, addGroup]
  rw [show prepare setup.source run.allocator g = p from rfl,
    show prepare source other.allocator h = q from rfl, hlevel]
  cases (Snippet.renderLevel ⟨setup.catalog, style⟩ q.key 0 "" q.fields).text with
  | error e =>
      refine ⟨rfl, ?_, ?_⟩
      · simp only [hwarned, hwarnings]
      · simp only [hrequested, hrendered, hcount, ← hunsupported, htypes]
  | ok body =>
      refine ⟨rfl, ?_, ?_⟩
      · simp only [hwarned, hwarnings]
      · simp only [hrequested, hrendered, hcount, ← hunsupported, htypes, hlength]

theorem steps_alike
    (hgroups : l.groups.map Group.unkeyedBelow = setup.library.groups.map Group.unkeyedBelow)
    {run other : Run} (hrun : run.Alike other) (keys : List String) :
    (steps setup style run (keys.map .key)).1.Alike
      (steps { setup with library := l, source := source } style other (keys.map .key)).1 := by
  induction keys generalizing run other with
  | nil => exact hrun
  | cons key keys ih =>
      have hfind := find?_of_map_eq Group.unkeyedBelow (fun g => rfl) hgroups key
      have hasked : run.asked.Alike other.asked := by
        obtain ⟨hwarned, hreport⟩ := hrun
        simp only [Report.mk.injEq] at hreport
        exact ⟨hwarned, by simp only [Run.asked, hreport]⟩
      simp only [List.map_cons, steps]
      cases hl : l.find? key with
      | none =>
          have hnone : setup.library.find? key = none := by simpa [hl] using hfind
          rw [step_of_unknown hnone, step_of_unknown hl]
          exact ih ⟨congrArg (· ++ [Warning.notFound key]) hasked.warnings, hasked.report⟩
      | some h =>
          obtain ⟨g, hg, hgh⟩ : ∃ g, setup.library.find? key = some g ∧ g.unkeyedBelow = h.unkeyedBelow := by
            rw [hl, Option.map_some] at hfind
            exact Option.map_eq_some_iff.mp hfind.symm
          rw [step_of_known hg, step_of_known hl]
          obtain ⟨hend, halike⟩ := addGroup_alike setup style source hgh hasked
          rcases hadd : addGroup setup style run.asked g with ⟨next, end?⟩
          rcases hadd' : addGroup { setup with library := l, source := source } style other.asked h with
            ⟨next', end?'⟩
          rw [hadd, hadd'] at hend halike
          obtain rfl : end? = end?' := hend
          cases end? with
          | none => exact ih halike
          | some e => exact halike

end

-- Two runs over the same requests end over the same error, or they write the same header and the same
-- pages, each under a banner with the key that its group was given. What they tell is the same but for
-- the number of keys that they replaced.
theorem generate_free_of_keys (setup : Setup) (l : Library) (source : Key.Source)
    (hgroups : l.groups.map Group.unkeyedBelow = setup.library.groups.map Group.unkeyedBelow)
    (a b : Key.Allocator) (keys : List String) :
    let other : Setup := { setup with library := l, source := source }
    let o := generate setup a (keys.map .key)
    let p := generate other b (keys.map .key)
    let given := givenKeys setup.source a (resolved setup.library keys)
    let given' := givenKeys source b (resolved l keys)
    let top := tidy (header setup.options.headerTitle.display setup.time)
    o.run.warnings = p.run.warnings ∧
      { o.run.report with replaced := 0 } = { p.run.report with replaced := 0 } ∧
      ((∃ e, o.code = .error e ∧ p.code = .error e) ∨
        ∃ gap pages, (gap = [] ∨ gap = ['\n']) ∧
          pages.map Page.title = (resolved setup.library keys).map Group.title ∧
          given.length = pages.length ∧ given'.length = pages.length ∧
          o.code = .ok (top ++ gap ++ ended (pageRows pages given)) ∧
          p.code = .ok (top ++ gap ++ ended (pageRows pages given'))) := by
  intro other o p given given' top
  have hresolved := resolved_of_map_eq Group.unkeyedBelow (fun g => rfl) hgroups keys
  cases hstyle : Style.ofOptions setup.options with
  | error e =>
      have ho : o = ⟨.error (.indentation e), { allocator := a }⟩ := by
        simp only [o, generate, hstyle]
      have hp : p = ⟨.error (.indentation e), { allocator := b }⟩ := by
        simp only [p, other, generate, hstyle]
      rw [ho, hp]
      exact ⟨rfl, rfl, .inl ⟨_, rfl, rfl⟩⟩
  | ok style =>
      have halike : (Run.start setup a).Alike (Run.start other b) := ⟨rfl, rfl⟩
      have hrun := steps_alike setup style source hgroups halike keys
      have ho : o.run = (steps setup style (Run.start setup a) (keys.map .key)).1 := by
        simp only [o, generate_of_style hstyle]
      have hp : p.run = (steps other style (Run.start other b) (keys.map .key)).1 :=
        congrArg Outcome.run (@generate_of_style other style hstyle b _)
      rw [ho, hp]
      refine ⟨hrun.warnings, hrun.report, ?_⟩
      have hcode := generate_code hstyle a keys
      have hcode' := @generate_code other style hstyle b keys
      have hpages : pagesOf ⟨other.catalog, style⟩ (resolved other.library keys) =
          pagesOf ⟨setup.catalog, style⟩ (resolved setup.library keys) := by
        rw [← pagesOf_unkeyedBelow, show (resolved other.library keys).map _ = _ from hresolved,
          pagesOf_unkeyedBelow]
      rw [hpages] at hcode'
      cases hpages : pagesOf ⟨setup.catalog, style⟩ (resolved setup.library keys) with
      | error e =>
          rw [hpages] at hcode hcode'
          exact .inl ⟨.render e, hcode, hcode'⟩
      | ok pages =>
          rw [hpages] at hcode hcode'
          have hlength : ∀ (source : Key.Source) (a : Key.Allocator) (gs : List Group),
              gs.length = (resolved setup.library keys).length →
                (givenKeys source a gs).length = pages.length := by
            intro source a gs hgs
            rw [length_givenKeys, hgs, ← List.length_map Group.title, ← titles_of_pagesOf _ hpages,
              List.length_map]
          have hgiven : given.length = pages.length := hlength _ _ _ rfl
          have hgiven' : given'.length = pages.length :=
            hlength _ _ _ (by simpa using congrArg List.length hresolved)
          obtain ⟨gap, pages', hgap, htitles', htidy⟩ :=
            tidy_document setup.options.headerTitle.display setup.time pages
          have hlength' : pages'.length = pages.length := by
            simpa using congrArg List.length htitles'
          refine .inr ⟨gap, pages', hgap, htitles'.trans (titles_of_pagesOf _ hpages),
            hgiven.trans hlength'.symm, hgiven'.trans hlength'.symm, ?_, ?_⟩
          · rw [← htidy given hgiven]
            exact hcode
          · rw [← htidy given' hgiven']
            exact hcode'

-- The sample page with keys that are missing, given twice or strange below it.
def rekeyedPage : Group :=
  ⟨"group_page", "Page", [⟨"", "sections", "Sections", "flexible_content", [],
    [⟨"group_page", "hero", "Hero", [⟨"*/ ?>", "title", "Title", "text", [], [], []⟩], []⟩], []⟩], []⟩

def rekeyedPageSetup : Setup := { samplePageSetup with
  library := ⟨[rekeyedPage]⟩
  source := fun n => ⟨"fedcba9876543210", 1700000000 + n⟩ }

theorem generate_free_of_keys_of_rekeyedPage :
    let o := generate samplePageSetup {} (["group_page", "none"].map .key)
    let p := generate rekeyedPageSetup ⟨["group_page"], 7⟩ (["group_page", "none"].map .key)
    rekeyedPageSetup.library.groups.map Group.unkeyedBelow =
        samplePageSetup.library.groups.map Group.unkeyedBelow ∧
      o.run.warnings = p.run.warnings ∧ o.run.report.replaced = 0 ∧ p.run.report.replaced = 3 ∧
      ∃ top page, o.code = .ok (top ++ ended (Page.rows page "group_page")) ∧
        p.code = .ok (top ++ ended (Page.rows page "group_fedcba9870007_1700000007")) := by
  intro o p
  have hgroups : rekeyedPageSetup.library.groups.map Group.unkeyedBelow =
      samplePageSetup.library.groups.map Group.unkeyedBelow := rfl
  have hok : o.code.isOk = true := by decide +kernel
  have hreplaced : o.run.report.replaced = 0 ∧ p.run.report.replaced = 3 := by decide +kernel
  have hgiven : givenKeys samplePageSetup.source {} (resolved samplePageSetup.library
      ["group_page", "none"]) = ["group_page"] := by decide +kernel
  have hgiven' : givenKeys rekeyedPageSetup.source ⟨["group_page"], 7⟩ (resolved
      rekeyedPageSetup.library ["group_page", "none"]) = ["group_fedcba9870007_1700000007"] := by
    decide +kernel
  obtain ⟨hwarnings, -, hend⟩ := generate_free_of_keys samplePageSetup rekeyedPageSetup.library
    rekeyedPageSetup.source hgroups {} ⟨["group_page"], 7⟩ ["group_page", "none"]
  refine ⟨hgroups, hwarnings, hreplaced.1, hreplaced.2, ?_⟩
  rcases hend with ⟨e, he, -⟩ | ⟨gap, pages, -, -, hlength, -, hcode, hcode'⟩
  · rw [show o.code = .error e from he] at hok
    cases hok
  · rw [hgiven] at hlength hcode
    rw [hgiven'] at hcode'
    obtain ⟨page, rfl⟩ := List.length_eq_one_iff.mp hlength.symm
    have hrows : ∀ key, pageRows [page] [key] = page.rows key := fun key => List.append_nil _
    rw [hrows] at hcode hcode'
    exact ⟨_, page, hcode, hcode'⟩

end FieldTemplates.Document
