import FieldTemplates.Document.Generation
import FieldTemplates.Proofs.Document.Tokens
import FieldTemplates.Proofs.Export
import FieldTemplates.Proofs.Library.Basic
import FieldTemplates.Proofs.Options.Load
import FieldTemplates.Proofs.Snippet.Levels

namespace FieldTemplates

open Snippet (Catalog Style)

def Options.size (o : Options) : Nat :=
  o.textDomain.display.length + o.imageSize.display.length + o.galleryImageSize.display.length

theorem Snippet.Style.ofOptions_of_valid {o : Options} (h : o.problems = []) :
    ∃ style, Style.ofOptions o = .ok style ∧ style.unit.length ≤ 16 ∧ style.size = o.size := by
  obtain ⟨unit, hunit, hlength⟩ := Options.indentUnit_of_valid h
  refine ⟨_, by rw [Style.ofOptions, hunit]; rfl, hlength, ?_⟩
  simp only [Style.size, Options.size, String.length_toList]

theorem Field.size_of_unkeyed {fs gs : List Field} (h : unkeyedAll fs = unkeyedAll gs) :
    size (flattenAll fs) = size (flattenAll gs) := by
  have hnames : ∀ hs : List Field,
      size hs = ((hs.map fun f => (f.type, f.name)).map fun p => p.2.length + 1).sum := fun hs => by
    rw [size, List.map_map]
    rfl
  rw [hnames, hnames, ← flatten_unkeyed.2.1 fs, h, flatten_unkeyed.2.1 gs]

namespace Document

-- The banners have a value for each of their slots, whatever the values are.
theorem render_header (title : Value) (time : String) :
    Banner.render "header.php.j2" Banner.header [("title", title), ("generated_at", .text time)] =
      .ok (header title.display time) := rfl

theorem render_groupBlock (title key : String) (body : List Char) :
    Banner.render "group.php.j2" Banner.group
        [("title", .text title), ("key", .text key), ("body", .text (String.ofList body))] =
      .ok (groupBlock title key body) := by
  have hbody : (Value.text (String.ofList body)).display.toList = body := String.toList_ofList
  have hfill : Banner.render "group.php.j2" Banner.group
      [("title", .text title), ("key", .text key), ("body", .text (String.ofList body))] =
        .ok (groupBlock title key (Value.text (String.ofList body)).display.toList) := rfl
  rw [hfill, hbody]

-- A run ends because no memory holds the indentation: a group or the options are of enormous size.
structure Exhausted (groups : List Group) (o : Options) (e : RunError) : Prop where
  indentation : ∃ d, e = .render (.indentation d)
  group : ∃ g ∈ groups, 2 ^ 26 ≤ Field.size g.flatten + o.size

-- How a run goes on: with a document that opens the language, or it ends for lack of memory.
def Proceeds (groups : List Group) (o : Options) (r : Run × Option RunError) : Prop :=
  (r.2 = none ∧ Php.opening <+: r.1.code) ∨ ∃ e, r.2 = some e ∧ Exhausted groups o e

section

variable {setup : Setup} (hcatalog : setup.catalog = .standard) {style : Style}
  (hindent : ∀ c ∈ style.unit, Text.isIndent c = true) (hunit : style.unit.length ≤ 16)
  (hsize : style.size = setup.options.size)
include hcatalog hindent hunit hsize

theorem addGroup_proceeds {run : Run} (hrun : Php.opening <+: run.code) {g : Group}
    (hg : g ∈ setup.library.groups) :
    Proceeds setup.library.groups setup.options (addGroup setup style run g) := by
  let p := prepare setup.source run.allocator g
  let s : Snippet.Setting := ⟨setup.catalog, style⟩
  have hunkeyed : Field.unkeyedAll p.fields = Field.unkeyedAll g.fields :=
    (Key.assign_unkeyed setup.source).2.1 g.fields _
  have hsafe : setup.catalog.Safe := hcatalog ▸ Catalog.standard_safe
  cases hlevel : (Snippet.renderLevel s p.key 0 "" p.fields).text with
  | ok body =>
      refine .inl ⟨by simp only [addGroup, p, hlevel, s], ?_⟩
      simp only [addGroup, p, hlevel, s]
      exact hrun.trans (List.prefix_append _ _)
  | error e =>
      obtain ⟨ls, hls, -⟩ := (Snippet.lines_set (s := s) hindent hsafe).2.1 p.fields
        (Snippet.Accessor.nested { groupKey := p.key } "") 0
      rcases Snippet.Trace.text_ok hls style.unit with ⟨d, hd⟩ | htext
      · have hlarge := Snippet.size_of_refused (s := s) hcatalog hunit hd
        have he : e = .indentation d := Except.error.inj (hlevel.symm.trans hd)
        rw [Field.size_of_unkeyed hunkeyed, hsize] at hlarge
        exact .inr ⟨.render e, by simp only [addGroup, p, hlevel, s], ⟨d, by rw [he]⟩, g, hg, hlarge⟩
      · cases hlevel.symm.trans htext

theorem steps_proceeds {run : Run} (hrun : Php.opening <+: run.code) (keys : List String) :
    Proceeds setup.library.groups setup.options (steps setup style run (keys.map .key)) := by
  refine steps_induction (motive := fun _ run r => Php.opening <+: run.code →
    Proceeds setup.library.groups setup.options r) ?done ?unknown ?ended ?added keys run hrun
  case done =>
    exact fun run hrun => .inl ⟨rfl, hrun⟩
  case unknown =>
    exact fun gs key run r ih hrun => ih hrun
  case ended =>
    intro g gs run next e hg hadd hrun
    have hgroup := addGroup_proceeds hcatalog hindent hunit hsize
      (show Php.opening <+: run.asked.code from hrun) hg
    rwa [hadd] at hgroup
  case added =>
    intro g gs run next r hg hadd ih hrun
    have hgroup := addGroup_proceeds hcatalog hindent hunit hsize
      (show Php.opening <+: run.asked.code from hrun) hg
    rw [hadd] at hgroup
    rcases hgroup with ⟨-, hnext⟩ | ⟨e, he, -⟩
    · exact ih hnext
    · cases he

end

-- With options that are valid a run over keys has a document, unless memory runs out.
theorem generate_of_valid {setup : Setup} (hcatalog : setup.catalog = .standard)
    (hoptions : setup.options.problems = []) (a : Key.Allocator) (keys : List String) :
    (∃ code, (generate setup a (keys.map .key)).code = .ok code ∧ Php.opening <+: code) ∨
      ∃ e, (generate setup a (keys.map .key)).code = .error e ∧
        Exhausted setup.library.groups setup.options e := by
  obtain ⟨style, hstyle, hunit, hsize⟩ := Style.ofOptions_of_valid hoptions
  have hstart : Php.opening <+: (Run.start setup a).code := ⟨_, (header_eq _ _).symm⟩
  rw [generate_of_style hstyle]
  rcases steps_proceeds hcatalog (Style.isIndent_unit hstyle) hunit hsize hstart keys with
    ⟨hnone, back, hback⟩ | ⟨e, he, hends⟩
  · refine .inl ⟨_, by simp only [hnone]; rfl, tidy back, ?_⟩
    rw [← hback, tidy_opening]
  · exact .inr ⟨e, by simp only [he], hends⟩

-- What comes of an outcome.
def Outcome.generation (o : Outcome) : Generation :=
  match o.code with
  | .ok code => ⟨code, o.run.warnings, some o.run.report, none⟩
  | .error e => .failed e

-- Nothing asks for all keys, a list of texts for those in it.
def AsksForKeys (keys : Value) : Prop :=
  keys = .null ∨ ∃ names : List String, keys = .list (names.map .text)

theorem run_of_asksForKeys {keys : Value} (hkeys : AsksForKeys keys) (setup : Setup) (counter : Nat) :
    ∃ names : List String, (Generation.run setup keys counter).1 =
      (generate setup { next := counter } (names.map .key)).generation := by
  rcases hkeys with rfl | ⟨names, rfl⟩
  · refine ⟨setup.library.keys, ?_⟩
    simp only [Generation.run, requestsOf, generateAll]
    split <;> rename_i hcode <;> simp only [Outcome.generation, hcode]
  · have hrequests : Request.listOf? (.list (names.map .text)) = some (names.map .key) := by
      simp [Request.listOf?, Request.ofValue]
    refine ⟨names, ?_⟩
    simp only [Generation.run, requestsOf, hrequests]
    split <;> rename_i hcode <;> simp only [Outcome.generation, hcode]

theorem resolve_nothing : Options.resolve [] [] = .ok {} := rfl

-- Overrides that load are the same options to a run.
theorem optionsOf_of_load {files : Files.Tree} {overrides : Value} {o : Options}
    (h : Options.load files none overrides = .ok o) : optionsOf overrides = .ok (.ok o) := by
  have hother : ∀ v : Value, ((if v.truthy then .error .overridesNoObject else .ok [] :
      Except Options.LoadError (Table Value)) >>= Options.resolve []) = .ok o →
        (if v.truthy then .error (.options v.kind) else .ok {} : Except RunError Options) = .ok o := by
    intro v hload
    split at hload
    · cases hload
    · rename_i hv
      rw [if_neg hv, Except.ok.inj (resolve_nothing.symm.trans hload)]
  cases overrides with
  | object members =>
      have hload : Options.load ⟨[]⟩ none (.object members) = .ok o := h
      simp only [optionsOf, hload]
      rfl
  | null | bool _ | int _ | real _ | text _ | list _ =>
      simp only [optionsOf]
      refine congrArg Except.ok (hother _ ?_)
      exact h

theorem fromDocument_of_load {files : Files.Tree} {overrides : Value} {o : Options}
    (h : Options.load files none overrides = .ok o) (data keys : Value) (source : Key.Source)
    (time : String) (counter : Nat) : fromDocument data keys overrides source time counter =
      fromOptions data keys o source time counter := by
  simp only [fromDocument, fromOptions, optionsOf_of_load h]
  cases documentOf data with
  | error e => rfl
  | ok v =>
      cases hgroups : Export.load v with
      | error e =>
          simp only [Except.mapError, bind, Except.bind, hgroups]
      | ok groups =>
          simp only [Except.mapError, bind, Except.bind, hgroups, Generation.run]
          cases requestsOf keys <;> rfl

theorem fromOptions_of_valid {v : Value} (hv : Export.problems v = []) (keys : Value) (o : Options)
    (source : Key.Source) (time : String) (counter : Nat) :
    let groups := (Export.candidates v).map Export.groupOf
    fromOptions v keys o source time counter =
      .ok (Generation.run ⟨.ofGroups groups, .standard, o, source, time⟩ keys counter).1 := by
  intro groups
  have hdocument : documentOf v = .ok v := by
    cases v with
    | text s => cases hv
    | _ => rfl
  have hload : Export.load v = .ok groups := Export.load_of_valid hv
  simp only [fromOptions, hdocument, Except.mapError, bind, Except.bind, hload]

-- A valid export is generated from, whatever stands below its groups, whichever keys are asked for and
-- with any options that load. The run has a document that opens the language, and its report. Otherwise
-- memory runs out, for a group of enormous size.
theorem generation_of_valid_export {v : Value} (hv : Export.problems v = []) {keys : Value}
    (hkeys : AsksForKeys keys) {files : Files.Tree} {file : Option String} {overrides : Value}
    {o : Options} (ho : Options.load files file overrides = .ok o) (source : Key.Source)
    (time : String) (counter : Nat) :
    ∃ g, fromOptions v keys o source time counter = .ok g ∧
      (file = none → fromDocument v keys overrides source time counter = .ok g) ∧
      ((g.failure = none ∧ g.report.isSome ∧ Php.opening <+: g.code) ∨
        ∃ e, g.failure = some e ∧ Exhausted ((Export.candidates v).map Export.groupOf) o e) := by
  let groups := (Export.candidates v).map Export.groupOf
  let setup : Setup := ⟨.ofGroups groups, .standard, o, source, time⟩
  have hrun := fromOptions_of_valid hv keys o source time counter
  refine ⟨_, hrun, ?_, ?_⟩
  · rintro rfl
    exact (fromDocument_of_load ho v keys source time counter).trans hrun
  · obtain ⟨names, hnames⟩ := run_of_asksForKeys hkeys setup counter
    rw [hnames]
    have hends := generate_of_valid (show setup.catalog = .standard from rfl)
      (Options.problems_of_load ho) { next := counter } names
    rcases hends with ⟨code, hcode, hopening⟩ | ⟨e, he, hindentation, g, hg, hlarge⟩
    · rw [Outcome.generation, hcode]
      exact .inl ⟨rfl, rfl, hopening⟩
    · rw [Outcome.generation, he]
      exact .inr ⟨e, rfl, hindentation, g, Library.mem_ofGroups hg, hlarge⟩

-- An export with values of all kinds below its group.
def looseExport : Value := .object [("key", .text "group_page"), ("title", .int 7), ("fields", .list [
  .null, .text "note",
  .object [("name", .list [.null]), ("type", .bool true), ("sub_fields", .text "none")],
  .object [("name", .int 3), ("type", .text "flexible_content"), ("layouts", .object [
    ("row", .object [("label", .object []), ("sub_fields", .list [.object [("type", .int 0)]])]),
    ("rest", .null)])]])]

def looseOverrides : Value := .object [("text_domain", .int 5), ("use_tabs", .list [.null]),
  ("header_title", .bool false), ("owner", .null)]

theorem generation_of_valid_export_of_looseExport :
    ∃ o g, Options.load ⟨[]⟩ none looseOverrides = .ok o ∧
      fromDocument looseExport (.list [.text "group_page", .text "absent"]) looseOverrides
        Key.constantSource "2024-01-02 03:04:05" 0 = .ok g ∧
      g.failure = none ∧ Php.opening <+: g.code := by
  let o : Options := { textDomain := .int 5, useTabs := .list [.null], headerTitle := .bool false }
  have ho : Options.load ⟨[]⟩ none looseOverrides = .ok o := rfl
  have hv : Export.problems looseExport = [] := rfl
  have hsizes : ∀ g ∈ (Export.candidates looseExport).map Export.groupOf,
      Field.size g.flatten + o.size < 2 ^ 26 := by decide +kernel
  obtain ⟨g, -, hg, hends⟩ := generation_of_valid_export hv (.inr ⟨["group_page", "absent"], rfl⟩) ho
    Key.constantSource "2024-01-02 03:04:05" 0
  rcases hends with ⟨hnone, -, hopening⟩ | ⟨e, -, -, g, hmem, hlarge⟩
  · exact ⟨o, g, ho, hg rfl, hnone, hopening⟩
  · exact absurd (hsizes g hmem) (Nat.not_lt.mpr hlarge)

end Document

end FieldTemplates
