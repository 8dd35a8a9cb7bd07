import FieldTemplates.Proofs.Document.Headings

namespace FieldTemplates

namespace Field

-- Every field that is shown is a field of the tree.
theorem shown_sublist :
    (∀ f : Field, f.shown.Sublist f.flatten) ∧
      (∀ fs, (shownAll fs).Sublist (flattenAll fs)) ∧
      (∀ ls, (shownIn ls).Sublist (flattenLayouts ls)) := by
  refine tree_induction ?_ ?_ ?_ ?_ ?_
  · intro key name label type subFields layouts extra hsub hlayouts
    simp only [shown, flatten]
    refine List.Sublist.cons_cons _ ?_
    split_ifs
    · exact hsub.trans (List.sublist_append_left _ _)
    · exact hlayouts.trans (List.sublist_append_right _ _)
    · exact List.nil_sublist _
  · exact List.nil_sublist _
  · intro f fs hf hfs
    exact hf.append hfs
  · exact List.nil_sublist _
  · intro key name label subFields extra ls hsub hlayouts
    exact hsub.append hlayouts

end Field

namespace Document

open Php (comments lex)
open Snippet (Catalog Placed Style fallbackText isFallback isHeading)

def Warning.isUnsupported : Warning → Bool
  | .unsupported .. => true
  | .notFound _ => false

-- The warnings that the fields of a group call for.
def warningsFor (c : Catalog) (g : Group) : List Warning := unsupportedIn c g.title g.flatten

theorem unsupportedIn_eq (c : Catalog) (title : String) (fs : List Field) :
    unsupportedIn c title fs = ((fs.map fun f => (f.type, f.name)).filter fun p =>
      !c.supports p.1).map fun p => .unsupported p.1 p.2 title := by
  simp [unsupportedIn, List.filter_map, Function.comp_def]

theorem unsupportedIn_prepared (setup : Setup) (a : Key.Allocator) (g : Group) :
    unsupportedIn setup.catalog g.title (Field.flattenAll (prepare setup.source a g).fields) =
      warningsFor setup.catalog g := by
  have hunkeyed : Field.unkeyedAll (prepare setup.source a g).fields = Field.unkeyedAll g.fields :=
    (Key.assign_unkeyed setup.source).2.1 g.fields _
  rw [warningsFor, Group.flatten, unsupportedIn_eq, unsupportedIn_eq,
    ← Field.flatten_unkeyed.2.1, hunkeyed, Field.flatten_unkeyed.2.1]

theorem filter_unsupportedIn (c : Catalog) (title : String) (fs : List Field) :
    (unsupportedIn c title fs).filter Warning.isUnsupported = unsupportedIn c title fs := by
  refine List.filter_eq_self.mpr fun w hw => ?_
  obtain ⟨f, -, rfl⟩ := List.mem_map.mp hw
  rfl

theorem addGroup_warnings (setup : Setup) (style : Style) (run : Run) (g : Group) :
    (addGroup setup style run g).1.warnings = run.warnings ++ warningsFor setup.catalog g := by
  rw [← unsupportedIn_prepared setup run.allocator g]
  simp only [addGroup]
  split <;> rfl

theorem steps_warnings (setup : Setup) (style : Style) (run : Run) (keys : List String)
    (hok : (steps setup style run (keys.map .key)).2 = none) :
    (steps setup style run (keys.map .key)).1.warnings.filter Warning.isUnsupported =
      run.warnings.filter Warning.isUnsupported ++
        (resolved setup.library keys).flatMap (warningsFor setup.catalog) := by
  refine steps_induction (motive := fun gs run r => r.2 = none →
    r.1.warnings.filter Warning.isUnsupported = run.warnings.filter Warning.isUnsupported ++
      gs.flatMap (warningsFor setup.catalog)) ?done ?unknown ?ended ?added keys run hok
  case done =>
    intro run _
    rw [List.flatMap_nil, List.append_nil]
  case unknown =>
    intro gs key run r ih hok
    rw [ih hok]
    simp [skip, Run.asked, Warning.isUnsupported]
  case ended =>
    intro g gs run next e _ _ hok
    cases hok
  case added =>
    intro g gs run next r _ hadd ih hok
    have hwarnings := addGroup_warnings setup style run.asked g
    rw [hadd] at hwarnings
    rw [ih hok, hwarnings, List.flatMap_cons, List.filter_append, warningsFor, filter_unsupportedIn,
      List.append_assoc]
    rfl

theorem generate_warnings {setup : Setup} {a : Key.Allocator} {keys : List String} {code : List Char}
    (hok : (generate setup a (keys.map .key)).code = .ok code) :
    (generate setup a (keys.map .key)).run.warnings.filter Warning.isUnsupported =
      (resolved setup.library keys).flatMap (warningsFor setup.catalog) := by
  cases hstyle : Style.ofOptions setup.options with
  | error e =>
      simp only [generate, hstyle] at hok
      cases hok
  | ok style =>
      have hnone := finished_of_isOk hstyle (show Except.isOk _ = true by rw [hok]; rfl)
      rw [generate_of_style hstyle]
      exact steps_warnings setup style (Run.start setup a) keys hnone

def allFields (gs : List Group) : List Field := gs.flatMap Group.flatten

theorem shownFields_sublist (gs : List Group) : (shownFields gs).Sublist (allFields gs) := by
  induction gs with
  | nil => exact List.nil_sublist _
  | cons g gs ih => exact (Field.shown_sublist.2.1 g.fields).append ih

def isUnsupported (f : Field) : Bool := !Catalog.standard.supports f.type

theorem fallbacks_commentsOf (style : Style) (gs : List Group) :
    (gs.flatMap (commentsOf style)).filter isFallback =
      ((shownFields gs).filter isUnsupported).map fun f => fallbackText f.type := by
  rw [List.filter_flatMap, shownFields, List.filter_flatMap, List.map_flatMap]
  refine List.flatMap_congr fun g _ => ?_
  have hrows := (Snippet.gathers_fallbacks style).shown g.fields
  rw [commentsOf, List.filter_flatMap]
  refine hrows.trans ?_
  induction Field.shownAll g.fields with
  | nil => rfl
  | cons f fs ih =>
      by_cases hf : Catalog.standard.supports f.type = true <;>
        simp [ih, isUnsupported, hf]

-- A warning about a field with a type, and the comment of the fallback for that type.
def Announces (w : Warning) (text : List Char) : Prop :=
  ∃ type name title, w = .unsupported type name title ∧ text = fallbackText type

theorem announces_all (gs : List Group) :
    List.Forall₂ Announces (gs.flatMap (warningsFor .standard))
      (((allFields gs).filter isUnsupported).map fun f => fallbackText f.type) := by
  have hgroup : ∀ g, List.Forall₂ Announces (warningsFor .standard g)
      ((g.flatten.filter isUnsupported).map fun f => fallbackText f.type) := by
    intro g
    refine List.forall₂_map_left_iff.mpr (List.forall₂_map_right_iff.mpr ?_)
    exact List.forall₂_same.mpr fun f _ => ⟨f.type, f.name, g.title, rfl, rfl⟩
  induction gs with
  | nil => exact .nil
  | cons g gs ih =>
      rw [List.flatMap_cons, allFields, List.flatMap_cons, List.filter_append, List.map_append]
      exact List.rel_append (hgroup g) ih

-- A run reports all fields and warns about all whose types are not supported. That is what stands in
-- its document exactly where all of these fields are shown.
theorem report_of_shown_fields (setup : Setup) (hcatalog : setup.catalog = .standard)
    (htime : IsTime setup.time) (a : Key.Allocator) (keys : List String) :
    let o := generate setup a (keys.map .key)
    let shown := shownFields (resolved setup.library keys)
    let all := allFields (resolved setup.library keys)
    let warned := o.run.warnings.filter Warning.isUnsupported
    (∃ e, o.code = .error e ∧ e.IsIndentation) ∨
      ∃ code ts, o.code = .ok code ∧ lex code = some ts ∧
        ((comments ts).filter isHeading).length = shown.length ∧
        ((comments ts).filter isFallback) =
          (shown.filter isUnsupported).map (fun f => fallbackText f.type) ∧
        (o.run.report.fields = ((comments ts).filter isHeading).length ↔ shown = all) ∧
        (List.Forall₂ Announces warned ((comments ts).filter isFallback) ↔
          shown.filter isUnsupported = all.filter isUnsupported) := by
  intro o shown all warned
  have hsublist : shown.Sublist all := shownFields_sublist _
  rcases generate_comments hcatalog htime a keys with hfail | ⟨style, code, ts, hcode, hlex, hts⟩
  · exact .inl hfail
  · have hheadings : (comments ts).filter isHeading =
        shown.map fun f => Snippet.headingText f.label f.type := by
      rw [hts, headings_commentsOf]
    have hfallbacks : (comments ts).filter isFallback =
        (shown.filter isUnsupported).map fun f => fallbackText f.type := by
      rw [hts, fallbacks_commentsOf]
    have hfields : o.run.report.fields = all.length := by
      obtain ⟨count, hadvance⟩ := generate_advance setup a keys
      obtain ⟨-, -, hcount, -⟩ := hadvance.finished (by rw [hcode]; rfl)
      exact hcount.trans ((Nat.zero_add _).trans List.length_flatMap.symm)
    have hwarned : List.Forall₂ Announces warned
        ((all.filter isUnsupported).map fun f => fallbackText f.type) := by
      have hall := announces_all (resolved setup.library keys)
      rw [← hcatalog, ← generate_warnings hcode] at hall
      exact hall
    refine .inr ⟨code, ts, hcode, hlex, by rw [hheadings, List.length_map], hfallbacks, ?_, ?_⟩
    · rw [hfields, hheadings, List.length_map]
      exact ⟨fun h => hsublist.eq_of_length h.symm, fun h => by rw [h]⟩
    · rw [hfallbacks]
      refine ⟨fun h => ?_, fun h => h ▸ hwarned⟩
      have hlength := h.length_eq.symm.trans hwarned.length_eq
      rw [List.length_map, List.length_map] at hlength
      exact (hsublist.filter _).eq_of_length hlength

-- A page on which all fields are shown, two of them by the fallback.
def plainRows : Group :=
  ⟨"group_page", "Page", [⟨"field_rows", "rows", "Rows", "repeater", [
    ⟨"field_stars", "stars", "Stars", "star_rating", [], [], []⟩,
    ⟨"field_note", "note", "Note", "text", [], [], []⟩], [], []⟩,
    ⟨"field_map", "map", "Map", "open_map", [], [], []⟩], []⟩

-- A text with a field inside, which has no place in a text.
def hiddenRating : Group :=
  ⟨"group_page", "Page", [⟨"field_note", "note", "Note", "text",
    [⟨"field_stars", "stars", "Stars", "star_rating", [], [], []⟩], [], []⟩], []⟩

def reportSetup (page : Group) : Setup where
  library := ⟨[page]⟩
  catalog := .standard
  source := Key.constantSource
  time := "2024-01-02 03:04:05"

theorem report_of_shown_fields_of_plainRows :
    let o := generate (reportSetup plainRows) {} (["group_page"].map .key)
    ∃ code ts, o.code = .ok code ∧ lex code = some ts ∧
      o.run.report.fields = ((comments ts).filter isHeading).length ∧
      List.Forall₂ Announces (o.run.warnings.filter Warning.isUnsupported)
        ((comments ts).filter isFallback) := by
  intro o
  have htime : IsTime (reportSetup plainRows).time := by decide +kernel
  have hok : o.code.isOk = true := by decide +kernel
  have hresolved : resolved (reportSetup plainRows).library ["group_page"] = [plainRows] := by
    simp [resolved, reportSetup, Library.find?, plainRows]
  have hall : shownFields [plainRows] = allFields [plainRows] := by
    have hrepeater : Text.lower "repeater" = "repeater" := by decide +kernel
    have hothers : ∀ type ∈ ["star_rating", "text", "open_map"],
        Text.lower type ∉ ["repeater", "group", "clone"] ∧
          Text.lower type ≠ "flexible_content" := by decide +kernel
    simp [shownFields, allFields, plainRows, Field.shownAll, Field.shown, Group.flatten,
      Field.flattenAll, Field.flatten, Field.flattenLayouts, hrepeater]
    simp_all
  rcases report_of_shown_fields (reportSetup plainRows) rfl htime {} ["group_page"] with
    ⟨e, he, -⟩ | ⟨code, ts, hcode, hlex, -, -, hfields, hwarnings⟩
  · have he : o.code = .error e := he
    rw [he] at hok
    cases hok
  · rw [hresolved] at hfields hwarnings
    exact ⟨code, ts, hcode, hlex, hfields.mpr hall, hwarnings.mpr (by rw [hall])⟩

theorem report_of_hiddenRating :
    let o := generate (reportSetup hiddenRating) {} (["group_page"].map .key)
    ∃ code ts, o.code = .ok code ∧ lex code = some ts ∧
      o.run.report.fields ≠ ((comments ts).filter isHeading).length ∧
      ¬ List.Forall₂ Announces (o.run.warnings.filter Warning.isUnsupported)
        ((comments ts).filter isFallback) := by
  intro o
  have hreport : o.run.report.fields = 2 ∧
      (o.run.warnings.filter Warning.isUnsupported).length = 1 := by decide +kernel
  have hcomments : (o.code.toOption.bind lex).map comments = some [" Field: Note (text) ".toList] := by
    decide +kernel
  have hkinds : ([" Field: Note (text) ".toList].filter isHeading).length = 1 ∧
      [" Field: Note (text) ".toList].filter isFallback = [] := by decide +kernel
  cases hcode : o.code with
  | error e =>
      rw [hcode] at hcomments
      cases hcomments
  | ok code =>
      rw [hcode] at hcomments
      obtain ⟨ts, hlex, hts⟩ := Option.map_eq_some_iff.mp hcomments
      rw [← hts] at hkinds
      refine ⟨code, ts, rfl, hlex, by rw [hreport.1, hkinds.1]; decide, fun h => ?_⟩
      have hlength := h.length_eq
      rw [hreport.2, hkinds.2] at hlength
      exact absurd hlength (by decide)

end Document

end FieldTemplates
