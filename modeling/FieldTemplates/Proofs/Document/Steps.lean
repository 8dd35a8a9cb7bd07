import FieldTemplates.Document.Assembly

namespace FieldTemplates.Document

open Snippet (Style)

-- The groups that answer to keys, in the order of the keys.
def resolved (l : Library) (keys : List String) : List Group := keys.filterMap l.find?

-- Libraries that look alike, keys included, answer to keys with groups that look alike.
theorem find?_of_map_eq {l m : Library} (view : Group → Group) (hkey : ∀ g, (view g).key = g.key)
    (h : l.groups.map view = m.groups.map view) (key : String) :
    (l.find? key).map view = (m.find? key).map view := by
  have hview : (fun g : Group => g.key == key) = (fun g => g.key == key) ∘ view := by
    funext g
    rw [Function.comp_apply, hkey]
  rw [Library.find?, Library.find?, hview, ← List.find?_map, h, List.find?_map]

theorem resolved_of_map_eq {l m : Library} (view : Group → Group) (hkey : ∀ g, (view g).key = g.key)
    (h : l.groups.map view = m.groups.map view) (keys : List String) :
    (resolved l keys).map view = (resolved m keys).map view := by
  rw [resolved, resolved, List.map_filterMap, List.map_filterMap]
  exact congrArg (keys.filterMap ·) (funext (find?_of_map_eq view hkey h))

-- A run with one more request.
def Run.asked (run : Run) : Run :=
  { run with report := { run.report with requested := run.report.requested + 1 } }

variable {setup : Setup} {style : Style}

theorem step_of_unknown {key : String} (h : setup.library.find? key = none) (run : Run) :
    step setup style run (.key key) = (skip run.asked key, none) := by
  simp only [step, h]
  rfl

theorem step_of_known {key : String} {g : Group} (h : setup.library.find? key = some g) (run : Run) :
    step setup style run (.key key) = addGroup setup style run.asked g := by
  simp only [step, h]
  rfl

-- What holds of a run over the groups that answer its requests: of none, of all behind a request that
-- no group answers, of the group that ended it, and of a group in front of others.
theorem steps_induction {motive : List Group → Run → Run × Option RunError → Prop}
    (done : ∀ run, motive [] run (run, none))
    (unknown : ∀ gs key run r, motive gs (skip (Run.asked run) key) r → motive gs run r)
    (ended : ∀ g gs run next e, g ∈ setup.library.groups →
      addGroup setup style (Run.asked run) g = (next, some e) → motive (g :: gs) run (next, some e))
    (added : ∀ g gs run next r, g ∈ setup.library.groups →
      addGroup setup style (Run.asked run) g = (next, none) → motive gs next r → motive (g :: gs) run r)
    (keys : List String) (run : Run) :
    motive (resolved setup.library keys) run (steps setup style run (keys.map .key)) := by
  induction keys generalizing run with
  | nil => exact done run
  | cons key keys ih =>
      simp only [List.map_cons, steps]
      cases hfind : setup.library.find? key with
      | none =>
          have hresolved : resolved setup.library (key :: keys) = resolved setup.library keys :=
            List.filterMap_cons_none hfind
          rw [step_of_unknown hfind, hresolved]
          exact unknown _ key run _ (ih _)
      | some g =>
          have hresolved : resolved setup.library (key :: keys) = g :: resolved setup.library keys :=
            List.filterMap_cons_some hfind
          have hg : g ∈ setup.library.groups := List.mem_of_find?_eq_some hfind
          rw [step_of_known hfind, hresolved]
          rcases hadd : addGroup setup style run.asked g with ⟨next, _ | e⟩
          · exact added g _ run next _ hg hadd (ih next)
          · exact ended g _ run next e hg hadd

def Run.start (setup : Setup) (a : Key.Allocator) : Run :=
  { allocator := a, code := header setup.options.headerTitle.display setup.time }

theorem generate_of_style (h : Style.ofOptions setup.options = .ok style) (a : Key.Allocator)
    (rs : List Request) : generate setup a rs =
      let r := steps setup style (Run.start setup a) rs
      ⟨match r.2 with | some e => .error e | none => .ok (tidy r.1.code), r.1⟩ := by
  simp only [generate, h, Run.start]
  rcases hsteps : steps setup style _ rs with ⟨run, _ | e⟩ <;> rfl

-- Where there is a document, no step ended the run.
theorem finished_of_isOk (h : Style.ofOptions setup.options = .ok style) {a : Key.Allocator}
    {rs : List Request} (hok : (generate setup a rs).code.isOk = true) :
    (steps setup style (Run.start setup a) rs).2 = none := by
  rw [generate_of_style h] at hok
  cases hend : (steps setup style (Run.start setup a) rs).2 with
  | none => rfl
  | some e =>
      simp only [hend] at hok
      cases hok

end FieldTemplates.Document
