import FieldTemplates.Document.Generation
import FieldTemplates.Proofs.Document.Steps
import FieldTemplates.Proofs.Key.Assign

namespace FieldTemplates

def Group.places (g : Group) : List Key.Place := ⟨g.key, "group"⟩ :: Field.placesAll g.fields

def Group.layoutCount (g : Group) : Nat := Field.layoutCountAll g.fields

theorem Group.length_places (g : Group) :
    g.places.length = 1 + g.flatten.length + g.layoutCount := by
  simp only [Group.places, Group.flatten, Group.layoutCount, List.length_cons,
    Field.length_places.2.1]
  omega

theorem Group.field_places (g : Group) :
    (g.places.filter (·.kind = "field")).map Key.Place.key = g.flatten.map Field.key := by
  have hgroup : ¬"group" = "field" := by decide
  simp only [Group.places, List.filter_cons, hgroup, decide_false, Bool.false_eq_true, ite_false]
  exact Field.field_places.2.1 g.fields

theorem Group.length_flatten_unkeyed (g : Group) :
    g.unkeyed.flatten.length = g.flatten.length := Field.length_flatten_unkeyed g.fields

end FieldTemplates

namespace FieldTemplates.Document

open Key (Place Gives allocateAll countChanged)

-- A group with the keys it was given.
def Prepared.group (p : Prepared) (g : Group) : Group := { g with key := p.key, fields := p.fields }

-- Groups prepared one after another, each from where the one before ended.
def prepareAll (source : Key.Source) (a : Key.Allocator) :
    List Group → Key.Assigned (List Group)
  | [] => ⟨[], a, 0⟩
  | g :: gs =>
    let first := prepare source a g
    let rest := prepareAll source first.allocator gs
    ⟨first.group g :: rest.result, rest.allocator, first.changed + rest.changed⟩

theorem prepare_gives (source : Key.Source) (a : Key.Allocator) (g : Group) :
    Gives source a g.places ((prepare source a g).group g).places (prepare source a g).allocator
      (prepare source a g).changed :=
  Gives.cons (p := ⟨g.key, "group"⟩) ((Key.assign_gives source).2.1 g.fields _)

theorem prepare_unkeyed (source : Key.Source) (a : Key.Allocator) (g : Group) :
    ((prepare source a g).group g).unkeyed = g.unkeyed := by
  have hf : Field.unkeyedAll (prepare source a g).fields = Field.unkeyedAll g.fields :=
    (Key.assign_unkeyed source).2.1 g.fields _
  simp only [Group.unkeyed, Prepared.group, hf]

theorem prepareAll_gives (source : Key.Source) (a : Key.Allocator) (gs : List Group) :
    Gives source a (gs.flatMap Group.places)
      ((prepareAll source a gs).result.flatMap Group.places) (prepareAll source a gs).allocator
      (prepareAll source a gs).changed := by
  induction gs generalizing a with
  | nil => exact Gives.nil source a
  | cons g gs ih =>
      simp only [prepareAll, List.flatMap_cons]
      exact (prepare_gives source a g).append (ih _)

theorem prepareAll_unkeyed (source : Key.Source) (a : Key.Allocator) (gs : List Group) :
    (prepareAll source a gs).result.map Group.unkeyed = gs.map Group.unkeyed := by
  induction gs generalizing a with
  | nil => rfl
  | cons g gs ih => simp only [prepareAll, List.map_cons, prepare_unkeyed, ih]

theorem prepareAll_append (source : Key.Source) (a : Key.Allocator) (gs hs : List Group) :
    prepareAll source a (gs ++ hs) =
      ⟨(prepareAll source a gs).result ++
          (prepareAll source (prepareAll source a gs).allocator hs).result,
        (prepareAll source (prepareAll source a gs).allocator hs).allocator,
        (prepareAll source a gs).changed +
          (prepareAll source (prepareAll source a gs).allocator hs).changed⟩ := by
  induction gs generalizing a with
  | nil => simp only [List.nil_append, prepareAll, Nat.zero_add]
  | cons g gs ih => simp only [List.cons_append, prepareAll, ih, Nat.add_assoc]

theorem length_prepared_fields (source : Key.Source) (a : Key.Allocator) (g : Group) :
    (Field.flattenAll (prepare source a g).fields).length = g.flatten.length := by
  have hl := congrArg (fun g => g.flatten.length) (prepare_unkeyed source a g)
  simp only [Group.length_flatten_unkeyed] at hl
  exact hl

-- Whether rendering succeeds or not, a group that is added has its keys.
theorem addGroup_allocator (setup : Setup) (style : Snippet.Style) (run : Run) (g : Group) :
    (addGroup setup style run g).1.allocator = (prepare setup.source run.allocator g).allocator ∧
      (addGroup setup style run g).1.report.requested = run.report.requested := by
  simp only [addGroup]
  split <;> exact ⟨rfl, rfl⟩

theorem addGroup_report (setup : Setup) (style : Snippet.Style) (run : Run) (g : Group)
    (hok : (addGroup setup style run g).2 = none) :
    (addGroup setup style run g).1.report.rendered = run.report.rendered + 1 ∧
      (addGroup setup style run g).1.report.fields = run.report.fields + g.flatten.length ∧
      (addGroup setup style run g).1.report.replaced =
        run.report.replaced + (prepare setup.source run.allocator g).changed := by
  have hl := length_prepared_fields setup.source run.allocator g
  simp only [addGroup] at hok ⊢
  split at hok
  · cases hok
  · exact ⟨rfl, congrArg (run.report.fields + ·) hl, rfl⟩

-- How far a run has come from another: it has dealt with `count` requests, and the groups that
-- answer them have their keys. The other counts hold where nothing stopped it.
structure Advance (setup : Setup) (keys : List String) (before after : Run) (stopped : Bool)
    (count : Nat) : Prop where
  le : count ≤ keys.length
  requested : after.report.requested = before.report.requested + count
  allocator : after.allocator = (prepareAll setup.source before.allocator
    (resolved setup.library (keys.take count))).allocator
  finished : stopped = false → count = keys.length ∧
    after.report.rendered = before.report.rendered + (resolved setup.library keys).length ∧
    after.report.fields =
      before.report.fields + ((resolved setup.library keys).map (·.flatten.length)).sum ∧
    after.report.replaced = before.report.replaced +
      (prepareAll setup.source before.allocator (resolved setup.library keys)).changed

theorem step_advance (setup : Setup) (style : Snippet.Style) (run : Run) (key : String) :
    Advance setup [key] run (step setup style run (.key key)).1
      (step setup style run (.key key)).2.isSome 1 := by
  cases hfind : setup.library.find? key with
  | none =>
      have hr : resolved setup.library [key] = [] := List.filterMap_cons_none hfind
      rw [step_of_unknown hfind]
      refine ⟨Nat.le_refl 1, rfl, ?_, fun _ => ?_⟩
      · rw [List.take_of_length_le (Nat.le_refl 1), hr]
        rfl
      · rw [hr]
        exact ⟨rfl, rfl, rfl, rfl⟩
  | some g =>
      have hr : resolved setup.library [key] = [g] := List.filterMap_cons_some hfind
      obtain ⟨halloc, hreq⟩ := addGroup_allocator setup style run.asked g
      rw [step_of_known hfind]
      refine ⟨Nat.le_refl 1, hreq, ?_, fun hstop => ?_⟩
      · rw [List.take_of_length_le (Nat.le_refl 1), hr]
        exact halloc
      · obtain ⟨hren, hfields, hrep⟩ :=
          addGroup_report setup style run.asked g (Option.isNone_iff_eq_none.mp (by simpa using hstop))
        rw [hr]
        exact ⟨rfl, hren, hfields, hrep⟩

theorem resolved_cons (l : Library) (key : String) (keys : List String) :
    resolved l (key :: keys) = resolved l [key] ++ resolved l keys := by
  rw [resolved, ← List.singleton_append, List.filterMap_append]
  rfl

-- A request that stops a run is the last that was dealt with.
theorem Advance.stop {setup : Setup} {key : String} {before after : Run}
    (h : Advance setup [key] before after true 1) (keys : List String) :
    Advance setup (key :: keys) before after true 1 := by
  refine ⟨by simp, h.requested, h.allocator, fun hstop => ?_⟩
  cases hstop

theorem Advance.cons {setup : Setup} {key : String} {keys : List String}
    {before between after : Run} {stopped : Bool} {count : Nat}
    (hfirst : Advance setup [key] before between false 1)
    (hrest : Advance setup keys between after stopped count) :
    Advance setup (key :: keys) before after stopped (count + 1) := by
  obtain ⟨-, hreq, halloc, hfin⟩ := hfirst
  obtain ⟨-, hren, hfields, hrep⟩ := hfin rfl
  rw [List.take_of_length_le (Nat.le_refl 1)] at halloc
  refine ⟨Nat.succ_le_succ hrest.le, ?_, ?_, fun hstop => ?_⟩
  · rw [hrest.requested, hreq, Nat.add_right_comm]
    rfl
  · rw [hrest.allocator, List.take_succ_cons, resolved_cons, prepareAll_append, halloc]
  · obtain ⟨hcount, hren', hfields', hrep'⟩ := hrest.finished hstop
    rw [resolved_cons, prepareAll_append, List.length_append, List.map_append, List.sum_append]
    refine ⟨by rw [hcount, List.length_cons], ?_, ?_, ?_⟩
    · rw [hren', hren, Nat.add_assoc]
    · rw [hfields', hfields, Nat.add_assoc]
    · rw [hrep', hrep, halloc, Nat.add_assoc]

theorem steps_advance (setup : Setup) (style : Snippet.Style) (run : Run) (keys : List String) :
    ∃ count, Advance setup keys run (steps setup style run (keys.map .key)).1
      (steps setup style run (keys.map .key)).2.isSome count := by
  induction keys generalizing run with
  | nil => exact ⟨0, Nat.le_refl 0, rfl, rfl, fun _ => ⟨rfl, rfl, rfl, rfl⟩⟩
  | cons key keys ih =>
      have hfirst := step_advance setup style run key
      simp only [List.map_cons, steps]
      rcases hstep : step setup style run (.key key) with ⟨between, _ | e⟩
      · rw [hstep] at hfirst
        obtain ⟨count, hrest⟩ := ih between
        exact ⟨count + 1, hfirst.cons hrest⟩
      · rw [hstep] at hfirst
        exact ⟨1, hfirst.stop keys⟩

theorem generate_advance (setup : Setup) (a : Key.Allocator) (keys : List String) :
    ∃ count, Advance setup keys { allocator := a } (generate setup a (keys.map .key)).run
      (generate setup a (keys.map .key)).code.toOption.isNone count := by
  simp only [generate]
  split
  · refine ⟨0, Nat.zero_le _, rfl, rfl, fun hstop => ?_⟩
    cases hstop
  · rename_i style _
    let start : Run :=
      { allocator := a, code := header setup.options.headerTitle.display setup.time }
    obtain ⟨count, hle, hreq, halloc, hfin⟩ := steps_advance setup style start keys
    refine ⟨count, ?_⟩
    rcases hsteps : steps setup style start (keys.map .key) with ⟨run, _ | e⟩
    · rw [hsteps] at hreq halloc hfin
      exact ⟨hle, hreq, halloc, hfin⟩
    · rw [hsteps] at hreq halloc
      refine ⟨hle, hreq, halloc, fun hstop => ?_⟩
      cases hstop

theorem length_places_groups (gs : List Group) :
    (gs.flatMap Group.places).length =
      gs.length + (gs.map (·.flatten.length)).sum + (gs.map Group.layoutCount).sum := by
  induction gs with
  | nil => rfl
  | cons g gs ih =>
      simp only [List.flatMap_cons, List.length_append, List.length_cons, List.map_cons,
        List.sum_cons, Group.length_places, ih]
      omega

theorem filter_places_groups (gs : List Group) :
    ((gs.flatMap Group.places).filter (·.kind = "field")).map Place.key =
      (gs.flatMap Group.flatten).map Field.key := by
  induction gs with
  | nil => rfl
  | cons g gs ih =>
      simp only [List.flatMap_cons, List.filter_append, List.map_append, Group.field_places, ih]

-- The groups are those that answer the requests a run has dealt with, all of them where it ends
-- with a document. Each place in them is given one key, from the top and in order.
theorem generate_keys_in_order (setup : Setup) (a : Key.Allocator) (requests : List String) :
    let o := generate setup a (requests.map .key)
    let groups := resolved setup.library (requests.take o.run.report.requested)
    let final := (prepareAll setup.source a groups).result
    let authored := groups.flatMap Group.places
    let given := (allocateAll setup.source a authored).1
    o.run.allocator = (allocateAll setup.source a authored).2 ∧
      o.run.allocator.used = a.used ++ given ∧
      (final.flatMap Group.places).map Place.key = given ∧
      final.map Group.unkeyed = groups.map Group.unkeyed ∧
      (final.flatMap Group.flatten).map Field.key =
        ((authored.zip given).filter (·.1.kind = "field")).map (·.2) ∧
      ∀ code, o.code = .ok code →
        o.run.report.requested = requests.length ∧
        given.length = o.run.report.rendered + o.run.report.fields +
          (groups.map Group.layoutCount).sum ∧
        o.run.report.replaced = countChanged authored given ∧
        ((∀ p ∈ authored, p.key ≠ "") → (authored.map Place.key).Nodup →
          (∀ p ∈ authored, p.key ∉ a.used) →
          given = authored.map Place.key ∧ o.run.report.replaced = 0) := by
  intro o groups final authored given
  obtain ⟨count, hadv⟩ := generate_advance setup a requests
  have hcount : o.run.report.requested = count := hadv.requested.trans (Nat.zero_add count)
  have hgives := prepareAll_gives setup.source a groups
  have halloc : o.run.allocator = (allocateAll setup.source a authored).2 := by
    rw [← hgives.after_eq]
    simp only [groups, hcount]
    exact hadv.allocator
  have hused : o.run.allocator.used = a.used ++ given := by
    rw [halloc, Key.used_allocateAll]
  refine ⟨halloc, hused, hgives.keys, prepareAll_unkeyed setup.source a groups, ?_, ?_⟩
  · rw [← hgives.filter]
    exact (filter_places_groups final).symm
  · intro code hcode
    obtain ⟨hall, hren, hfields, hrep⟩ := hadv.finished (by
      change o.code.toOption.isNone = false
      rw [hcode]
      rfl)
    have hgroups : groups = resolved setup.library requests := by
      simp only [groups, hcount, hall, List.take_length]
    have hreplaced : o.run.report.replaced = countChanged authored given := by
      rw [← hgives.changed_eq, hgroups]
      exact hrep.trans (Nat.zero_add _)
    refine ⟨hcount.trans hall, ?_, hreplaced, ?_⟩
    · rw [Key.length_allocateAll, length_places_groups, hgroups, hren, hfields]
      simp only [Nat.zero_add]
    · intro hne hnodup hnew
      have hgiven : given = authored.map Place.key :=
        Key.allocateAll_of_free setup.source a authored hne hnodup hnew
      exact ⟨hgiven, by rw [hreplaced, hgiven, Key.countChanged_self]⟩

-- A page of sections, one layout with a text in it, under a catalog that has one renderer for all.
def samplePage : Group :=
  ⟨"group_page", "Page", [⟨"field_sections", "sections", "Sections", "flexible_content", [],
    [⟨"layout_hero", "hero", "Hero", [⟨"field_title", "title", "Title", "text", [], [], []⟩], []⟩],
    []⟩], []⟩

def samplePageSetup : Setup where
  library := ⟨[samplePage]⟩
  catalog := { fallback := some .unsupported }
  source := Key.constantSource
  time := "2024-01-02 03:04:05"

theorem generate_keys_in_order_of_samplePage :
    let o := generate samplePageSetup { used := ["field_old"] } (["group_page", "none"].map .key)
    o.code.isOk = true ∧ o.run.report.replaced = 0 ∧ o.run.allocator.used =
      ["field_old", "group_page", "field_sections", "layout_hero", "field_title"] := by
  intro o
  have hok : o.code.isOk = true := by decide +kernel
  obtain ⟨-, hused, -, -, -, hdone⟩ :=
    generate_keys_in_order samplePageSetup { used := ["field_old"] } ["group_page", "none"]
  cases hcode : o.code with
  | error e =>
      rw [hcode] at hok
      cases hok
  | ok code =>
      obtain ⟨hrequested, -, -, hfree⟩ := hdone code hcode
      rw [hrequested] at hused hfree
      obtain ⟨-, hreplaced⟩ := hfree (by decide +kernel) (by decide +kernel) (by decide +kernel)
      refine ⟨rfl, hreplaced, hused.trans ?_⟩
      decide +kernel

end FieldTemplates.Document
