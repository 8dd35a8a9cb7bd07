import FieldTemplates.Proofs.Export
import Mathlib.Data.List.Forall2

namespace FieldTemplates

theorem Binary64.decimalText_ne_empty (d : Decimal) : decimalText d ≠ "" := by
  rw [decimalText]
  generalize ((Nat.toDigits 10 d.digits).reverse.dropWhile (· == '0')).reverse = ds
  dsimp only
  split_ifs <;> simp

-- What says anything has a text.
theorem Value.asText_ne_empty {v : Value} (h : v.truthy = true) : v.asText ≠ "" := by
  cases v with
  | null => cases h
  | bool b => cases b <;> simp [asText, display, literal, boolText]
  | int n =>
      have htext : (int n).asText = n.repr := rfl
      rw [htext, Int.repr_eq_if]
      split_ifs
      · exact Nat.repr_ne_empty
      · exact fun hempty => Nat.repr_ne_empty (String.append_eq_empty_iff.mp hempty).2
  | real x =>
      have htext : (real x).asText = x.text := rfl
      rw [htext]
      fun_cases Binary64.text x <;> simp [Binary64.decimalText_ne_empty]
  | text s => simpa [asText, display, truthy] using h
  | list items => simp [asText, display, literal]
  | object members => simp [asText, display, literal]

namespace Export

-- A member that is there and says something.
def gives (members : Table Value) (name : String) : Bool :=
  (Table.find? members name).any Value.truthy

def isList : Value → Bool
  | .list _ => true
  | _ => false

-- An entry that is no object, has no key or no title, or has other than a list for its fields.
def isBad : Value → Bool
  | .object members => !gives members "key" || !gives members "title" ||
      (Table.find? members "fields").any (!isList ·)
  | _ => true

-- What a bad entry is told to be: of the three the first that it is.
inductive Fault (index : Nat) : Value → Problem → Prop where
  | noObject {v : Value} (h : ∀ members, v ≠ .object members) : Fault index v (.noObject index)
  | missing {members : Table Value} {names : List String}
      (hnames : names = ["key", "title"].filter fun name => !gives members name) (h : names ≠ []) :
      Fault index (.object members) (.missing index names)
  | fieldsNoList {members : Table Value} {key fields : Value} (hkey : members.find? "key" = some key)
      (hgives : gives members "key" = true ∧ gives members "title" = true)
      (hfields : members.find? "fields" = some fields) (hlist : isList fields = false) :
      Fault index (.object members) (.fieldsNoList key)

theorem filter_missing_eq_nil_iff {members : Table Value} :
    (["key", "title"].filter fun name => !gives members name) = [] ↔
      gives members "key" = true ∧ gives members "title" = true := by
  simp [List.filter_eq_nil_iff]

theorem problem?_object (index : Nat) (members : Table Value) : problem? index (.object members) =
    if (["key", "title"].filter fun name => !gives members name) = [] then
      match Table.find? members "fields" with
      | none | some (.list _) => none
      | some _ => some (.fieldsNoList ((Table.find? members "key").getD .null))
    else some (.missing index (["key", "title"].filter fun name => !gives members name)) := by
  simp only [problem?, List.isEmpty_iff]
  rfl

-- An entry has a problem where it is bad, and only one.
theorem problem?_cases (index : Nat) (v : Value) : (isBad v = false ∧ problem? index v = none) ∨
    isBad v = true ∧ ∃ p, problem? index v = some p ∧ Fault index v p := by
  cases v with
  | object members =>
      rw [problem?_object]
      by_cases hnames : (["key", "title"].filter fun name => !gives members name) = []
      · have hgives := filter_missing_eq_nil_iff.mp hnames
        obtain ⟨key, hkey, -⟩ := (Option.any_eq_true ..).mp hgives.1
        rw [if_pos hnames, hkey, Option.getD_some]
        simp only [isBad, hgives, Bool.not_true, Bool.false_or]
        cases hfields : Table.find? members "fields" with
        | none => exact .inl ⟨rfl, rfl⟩
        | some fields =>
            cases fields with
            | list items => exact .inl ⟨rfl, rfl⟩
            | _ => exact .inr ⟨rfl, _, rfl, .fieldsNoList hkey hgives hfields rfl⟩
      · have hbad : isBad (.object members) = true := by
          rw [filter_missing_eq_nil_iff, not_and_or, Bool.not_eq_true, Bool.not_eq_true] at hnames
          rcases hnames with hkey | htitle
          · simp [isBad, hkey]
          · simp [isBad, htitle]
        rw [if_neg hnames]
        exact .inr ⟨hbad, _, rfl, .missing rfl hnames⟩
  | _ => exact .inr ⟨rfl, _, rfl, .noObject fun _ h => by cases h⟩

theorem problemsFrom_faults (index : Nat) (vs : List Value) :
    List.Forall₂ (fun entry p => Fault entry.2 entry.1 p)
      ((vs.zipIdx index).filter fun entry => isBad entry.1) (problemsFrom index vs) := by
  induction vs generalizing index with
  | nil => exact .nil
  | cons v vs ih =>
      rw [List.zipIdx_cons, problemsFrom]
      rcases problem?_cases index v with ⟨hgood, hnone⟩ | ⟨hbad, p, hp, hfault⟩
      · rw [List.filter_cons_of_neg (by simp [hgood]), hnone]
        exact ih (index + 1)
      · rw [List.filter_cons_of_pos (by exact hbad), hp]
        exact .cons hfault (ih (index + 1))

theorem problems_of_candidates {v : Value} (hv : isDocument v = true) (h : candidates v ≠ []) :
    problems v = problemsFrom 0 (candidates v) := by
  simp only [problems, hv, Bool.not_true, Bool.false_eq_true, if_false]

theorem load_eq_error_iff {v : Value} {e : Invalid} :
    load v = .error e ↔ problems v ≠ [] ∧ e = ⟨problems v⟩ := by
  rw [load]
  cases problems v with
  | nil => simp
  | cons p ps => simp [eq_comm]

-- A group that is read from an entry and can be told by its key and its title.
def LoadedFrom (entry : Value) (g : Group) : Prop :=
  ∃ members, entry = .object members ∧ g = Group.ofMembers members ∧ g.key ≠ "" ∧ g.title ≠ ""

theorem textIn_ne_empty {members : Table Value} {name : String} (h : gives members name = true) :
    textIn members name ≠ "" := by
  rw [gives, Option.any_eq_true] at h
  obtain ⟨v, hv, hsays⟩ := h
  rw [textIn, hv, Option.getD_some]
  exact Value.asText_ne_empty hsays

theorem loadedFrom_of_problem? {index : Nat} {v : Value} (h : problem? index v = none) :
    LoadedFrom v (groupOf v) := by
  rcases problem?_cases index v with ⟨hgood, -⟩ | ⟨-, p, hp, -⟩
  · cases v with
    | object members =>
        simp only [isBad, Bool.or_eq_false_iff, Bool.not_eq_false'] at hgood
        exact ⟨members, rfl, rfl, textIn_ne_empty hgood.1.1, textIn_ne_empty hgood.1.2⟩
    | _ => cases hgood
  · rw [h] at hp
    cases hp

-- Two documents that are told to have the same problems, or are loaded as the same groups.
structure SameExport (v w : Value) : Prop where
  problems : problems w = problems v
  load : load w = load v

theorem SameExport.of_candidates {v w : Value} (hv : isDocument v = true) (hw : isDocument w = true)
    (h : candidates w = candidates v) : SameExport v w := by
  have hproblems : Export.problems w = Export.problems v := by
    simp only [Export.problems, hv, hw, h]
  exact ⟨hproblems, by simp only [Export.load, hproblems, h]⟩

-- A document is loaded exactly where it has no problems, and else refused with its problems. There is one
-- problem for each bad entry, in the order of the entries, and where there is none, the groups are read
-- from the entries one by one, and all of them have a key and a title. An object with a key is an export
-- like the list of it, and like a mapping to it under a name that is not that of keys; an object
-- without a key is an export like the list of its values.
theorem loaded_without_bad_entries :
    (∀ v e, load v = .error e ↔ problems v ≠ [] ∧ e = ⟨problems v⟩) ∧
      (∀ v, isDocument v = true → candidates v ≠ [] →
        List.Forall₂ (fun entry p => Fault entry.2 entry.1 p)
          ((candidates v).zipIdx.filter fun entry => isBad entry.1) (problems v)) ∧
      (∀ v, problems v = [] →
        ∃ groups, load v = .ok groups ∧ List.Forall₂ LoadedFrom (candidates v) groups) ∧
      (∀ members, Table.has members "key" = true →
        let d := Value.object members
        candidates d = [d] ∧ SameExport d (.list [d]) ∧
          ∀ name, name ≠ "key" → SameExport d (.object [(name, d)])) ∧
      ∀ members, Table.has members "key" = false →
        candidates (.object members) = Table.values members ∧
          SameExport (.object members) (.list (Table.values members)) := by
  refine ⟨fun _ _ => load_eq_error_iff, fun v hv hne => ?_, fun v h => ?_, fun members hkey => ?_,
    fun members hkey => ?_⟩
  · rw [problems_of_candidates hv hne]
    exact problemsFrom_faults 0 (candidates v)
  · refine ⟨_, load_of_valid h, List.forall₂_map_right_iff.mpr (List.forall₂_same.mpr fun c hc => ?_)⟩
    obtain ⟨index, hnone⟩ := candidate_of_valid h hc
    exact loadedFrom_of_problem? hnone
  · have hsingle : candidates (.object members) = [.object members] := by
      simp only [candidates, hkey, if_true]
    refine ⟨hsingle, .of_candidates rfl rfl hsingle.symm, fun name hname => ?_⟩
    have hhas : Table.has [(name, Value.object members)] "key" = false := by
      simpa [Table.has] using hname
    refine .of_candidates rfl rfl ?_
    rw [hsingle, candidates, hhas]
    rfl
  · have hvalues : candidates (.object members) = Table.values members := by
      simp only [candidates, hkey, Bool.false_eq_true, if_false]
    exact ⟨hvalues, .of_candidates rfl rfl hvalues.symm⟩

-- A group that is told by a number and a list, and entries that are no object and have no title.
def numberedGroup : Table Value := [("key", .int 5), ("title", .list [.null])]

def mixedEntries : Value :=
  .list [.null, .object numberedGroup, .object [("key", .text "group_page"), ("title", .text "")]]

theorem loaded_without_bad_entries_of_mixedEntries :
    (problems mixedEntries).length = 2 ∧
      SameExport (.object numberedGroup) (.object [("page", .object numberedGroup)]) ∧
      ∃ g, load (.object [("page", .object numberedGroup)]) = .ok [g] ∧ g.key ≠ "" ∧ g.title ≠ "" := by
  obtain ⟨-, hfaults, hloaded, hsingle, -⟩ := loaded_without_bad_entries
  have hcount := (hfaults mixedEntries rfl (List.cons_ne_nil _ _)).length_eq
  have hbad : ((candidates mixedEntries).zipIdx.filter fun entry => isBad entry.1).length = 2 := rfl
  have hsame := (hsingle numberedGroup rfl).2.2 "page" (by decide)
  obtain ⟨groups, hload, hgroups⟩ := hloaded (.object numberedGroup) rfl
  have hentry : candidates (.object numberedGroup) = [.object numberedGroup] := rfl
  rw [hentry] at hgroups
  obtain ⟨g, rest, ⟨-, -, -, hkey, htitle⟩, hnil, rfl⟩ := List.forall₂_cons_left_iff.mp hgroups
  rw [List.forall₂_nil_left_iff.mp hnil] at hload
  exact ⟨hcount.symm.trans hbad, hsame, g, hsame.load.trans hload, hkey, htitle⟩

end Export

end FieldTemplates
