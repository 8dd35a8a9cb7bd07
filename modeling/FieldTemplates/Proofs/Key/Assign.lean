import FieldTemplates.Key.Assign
import FieldTemplates.Proofs.Field.Tree
import FieldTemplates.Proofs.Key.Allocator

namespace FieldTemplates.Key

-- What asks for a key: the key it came with, and the word that a minted one begins with.
structure Place where
  key : String
  kind : String

def Place.withKey (p : Place) (key : String) : Place := ⟨key, p.kind⟩

-- One allocation after another, each from where the one before ended.
def allocateAll (source : Source) (a : Allocator) : List Place → List String × Allocator
  | [] => ([], a)
  | p :: ps =>
    let given := a.allocate source p.key p.kind
    let rest := allocateAll source given.2 ps
    (given.1 :: rest.1, rest.2)

-- The positions whose key is not the one it came with.
def countChanged (ps : List Place) (keys : List String) : Nat :=
  (ps.zip keys).countP fun x => x.2 ≠ x.1.key

theorem countChanged_cons (p : Place) (ps : List Place) (key : String) (keys : List String) :
    countChanged (p :: ps) (key :: keys) = countChange p.key key + countChanged ps keys := by
  simp only [countChanged, List.zip_cons_cons, List.countP_cons, countChange]
  by_cases hk : key = p.key <;> simp [hk, Nat.add_comm]

theorem length_allocateAll (source : Source) (a : Allocator) (ps : List Place) :
    (allocateAll source a ps).1.length = ps.length := by
  induction ps generalizing a with
  | nil => rfl
  | cons p ps ih => simp only [allocateAll, List.length_cons, ih]

theorem allocateAll_append (source : Source) (a : Allocator) (ps qs : List Place) :
    allocateAll source a (ps ++ qs) =
      ((allocateAll source a ps).1 ++ (allocateAll source (allocateAll source a ps).2 qs).1,
        (allocateAll source (allocateAll source a ps).2 qs).2) := by
  induction ps generalizing a with
  | nil => rfl
  | cons p ps ih => simp only [List.cons_append, allocateAll, ih]

theorem countChanged_append (ps qs : List Place) (keys more : List String)
    (hl : ps.length = keys.length) :
    countChanged (ps ++ qs) (keys ++ more) = countChanged ps keys + countChanged qs more := by
  rw [countChanged, List.zip_append hl, List.countP_append]
  rfl

-- The book grows by the keys that are given, in order.
theorem used_allocateAll (source : Source) (a : Allocator) (ps : List Place) :
    (allocateAll source a ps).2.used = a.used ++ (allocateAll source a ps).1 := by
  induction ps generalizing a with
  | nil => exact (List.append_nil a.used).symm
  | cons p ps ih =>
      simp only [allocateAll]
      rw [ih, Allocator.allocate_used, List.append_assoc]
      rfl

-- Keys that are given one after another are new and differ.
theorem allocateAll_new {source : Source} (hs : Random source) (a : Allocator) (ps : List Place) :
    (allocateAll source a ps).1.Nodup ∧ ∀ key ∈ (allocateAll source a ps).1, key ∉ a.used := by
  induction ps generalizing a with
  | nil => exact ⟨List.nodup_nil, fun key hkey => absurd hkey List.not_mem_nil⟩
  | cons p ps ih =>
      obtain ⟨hnodup, hnew⟩ := ih (a.allocate source p.key p.kind).2
      simp only [Allocator.allocate_used, List.mem_append, List.mem_singleton, not_or] at hnew
      refine ⟨List.nodup_cons.mpr ⟨fun hmem => (hnew _ hmem).2 rfl, hnodup⟩, ?_⟩
      exact List.forall_mem_cons.mpr
        ⟨Allocator.allocate_notMem hs a p.key p.kind, fun key hkey => (hnew key hkey).1⟩

-- Keys that are all new come back as they are.
theorem allocateAll_of_free (source : Source) (a : Allocator) (ps : List Place)
    (hne : ∀ p ∈ ps, p.key ≠ "") (hnodup : (ps.map Place.key).Nodup)
    (hnew : ∀ p ∈ ps, p.key ∉ a.used) : (allocateAll source a ps).1 = ps.map Place.key := by
  induction ps generalizing a with
  | nil => rfl
  | cons p ps ih =>
      obtain ⟨hfirst, hrest⟩ := List.nodup_cons.mp hnodup
      have hfree : a.Free p.key := ⟨hne p (by simp), hnew p (by simp)⟩
      simp only [allocateAll, Allocator.allocate_of_free source p.kind hfree, List.map_cons]
      congr 1
      apply ih _ (fun q hq => hne q (List.mem_cons_of_mem _ hq)) hrest
      intro q hq hmem
      rcases List.mem_append.mp hmem with hmem | hmem
      · exact hnew q (List.mem_cons_of_mem _ hq) hmem
      · apply hfirst
        rw [← List.mem_singleton.mp hmem]
        exact List.mem_map_of_mem hq

theorem countChanged_self (ps : List Place) : countChanged ps (ps.map Place.key) = 0 := by
  induction ps with
  | nil => rfl
  | cons p ps ih => simp only [List.map_cons, countChanged_cons, countChange, ite_true, ih]

-- What an assignment comes to: `final` are the places `authored` with the keys that allocating them
-- in order gives, and the change count is theirs.
structure Gives (source : Source) (a : Allocator) (authored final : List Place)
    (after : Allocator) (changed : Nat) : Prop where
  final_eq : final = List.zipWith Place.withKey authored (allocateAll source a authored).1
  after_eq : after = (allocateAll source a authored).2
  changed_eq : changed = countChanged authored (allocateAll source a authored).1

theorem Gives.nil (source : Source) (a : Allocator) : Gives source a [] [] a 0 := ⟨rfl, rfl, rfl⟩

theorem Gives.append {source : Source} {a b c : Allocator} {ps qs ps' qs' : List Place}
    {m n : Nat} (hp : Gives source a ps ps' b m) (hq : Gives source b qs qs' c n) :
    Gives source a (ps ++ qs) (ps' ++ qs') c (m + n) := by
  obtain ⟨rfl, rfl, rfl⟩ := hp
  obtain ⟨rfl, rfl, rfl⟩ := hq
  have hl := (length_allocateAll source a ps).symm
  refine ⟨?_, ?_, ?_⟩
  · rw [allocateAll_append, List.zipWith_append hl]
  · rw [allocateAll_append]
  · rw [allocateAll_append, countChanged_append _ _ _ _ hl]

theorem Gives.cons {source : Source} {a b : Allocator} {p : Place} {ps ps' : List Place} {n : Nat}
    (hp : Gives source (a.allocate source p.key p.kind).2 ps ps' b n) :
    Gives source a (p :: ps) (p.withKey (a.allocate source p.key p.kind).1 :: ps') b
      (countChange p.key (a.allocate source p.key p.kind).1 + n) := by
  obtain ⟨rfl, rfl, rfl⟩ := hp
  exact ⟨rfl, rfl, (countChanged_cons p ps _ _).symm⟩

-- What was given stands in the tree, in the order in which it was given.
theorem Gives.keys {source : Source} {a b : Allocator} {ps ps' : List Place} {n : Nat}
    (hp : Gives source a ps ps' b n) : ps'.map Place.key = (allocateAll source a ps).1 := by
  have hl := length_allocateAll source a ps
  rw [hp.final_eq, ← List.map_uncurry_zip_eq_zipWith, List.map_map]
  exact List.map_snd_zip (Nat.le_of_eq hl)

-- Places keep their kind, so those of one kind keep their positions.
theorem Gives.filter {source : Source} {a b : Allocator} {ps ps' : List Place} {n : Nat}
    (hp : Gives source a ps ps' b n) (kind : String) :
    (ps'.filter (·.kind = kind)).map Place.key =
      ((ps.zip (allocateAll source a ps).1).filter (·.1.kind = kind)).map (·.2) := by
  rw [hp.final_eq, ← List.map_uncurry_zip_eq_zipWith, List.filter_map, List.map_map]
  rfl

end FieldTemplates.Key

namespace FieldTemplates.Field

open Key (Place)

mutual

-- A field, then its sub-fields, then each layout with the fields in it.
def places : Field → List Place
  | ⟨key, _, _, _, subFields, layouts, _⟩ =>
    ⟨key, "field"⟩ :: (placesAll subFields ++ placesInLayouts layouts)

def placesAll : List Field → List Place
  | [] => []
  | f :: fs => places f ++ placesAll fs

def placesInLayouts : List Layout → List Place
  | [] => []
  | ⟨key, _, _, subFields, _⟩ :: ls =>
    ⟨key, "layout"⟩ :: (placesAll subFields ++ placesInLayouts ls)

end

-- The places of fields come in the order of the flattened tree.
theorem field_places :
    (∀ f : Field, ((places f).filter (·.kind = "field")).map Place.key = (flatten f).map key) ∧
      (∀ fs, ((placesAll fs).filter (·.kind = "field")).map Place.key =
        (flattenAll fs).map key) ∧
      ∀ ls, ((placesInLayouts ls).filter (·.kind = "field")).map Place.key =
        (flattenLayouts ls).map key := by
  have hlayout : ¬"layout" = "field" := by decide
  refine tree_induction ?_ rfl ?_ rfl ?_
  · intro key name label type subFields layouts extra hs hl
    simp only [places, flatten, List.filter_cons, decide_true, ite_true, List.filter_append,
      List.map_cons, List.map_append, hs, hl]
  · intro f fs hf hfs
    simp only [placesAll, flattenAll, List.filter_append, List.map_append, hf, hfs]
  · intro key name label subFields extra ls hs hl
    simp only [placesInLayouts, flattenLayouts, List.filter_cons, hlayout, decide_false,
      Bool.false_eq_true, ite_false, List.filter_append, List.map_append, hs, hl]

theorem length_places :
    (∀ f : Field, (places f).length = (flatten f).length + layoutCount f) ∧
      (∀ fs, (placesAll fs).length = (flattenAll fs).length + layoutCountAll fs) ∧
      ∀ ls, (placesInLayouts ls).length = (flattenLayouts ls).length + layoutCountIn ls := by
  refine tree_induction ?_ rfl ?_ rfl ?_
  · intro key name label type subFields layouts extra hs hl
    simp only [places, flatten, layoutCount, List.length_cons, List.length_append, hs, hl]
    omega
  · intro f fs hf hfs
    simp only [placesAll, flattenAll, layoutCountAll, List.length_append, hf, hfs]
    omega
  · intro key name label subFields extra ls hs hl
    simp only [placesInLayouts, flattenLayouts, layoutCountIn, List.length_cons,
      List.length_append, hs, hl]
    omega

end FieldTemplates.Field

namespace FieldTemplates.Key

open FieldTemplates.Field (places placesAll placesInLayouts unkeyed unkeyedAll unkeyedLayouts)

theorem assign_gives (source : Source) :
    (∀ (f : Field) (a : Allocator), Gives source a (places f) (places (assignField source a f).result)
        (assignField source a f).allocator (assignField source a f).changed) ∧
      (∀ (fs : List Field) (a : Allocator),
        Gives source a (placesAll fs) (placesAll (assignFields source a fs).result)
          (assignFields source a fs).allocator (assignFields source a fs).changed) ∧
      ∀ (ls : List Layout) (a : Allocator),
        Gives source a (placesInLayouts ls) (placesInLayouts (assignLayouts source a ls).result)
          (assignLayouts source a ls).allocator (assignLayouts source a ls).changed := by
  refine Field.tree_induction ?_ (Gives.nil source) ?_ (Gives.nil source) ?_
  · intro key name label type subFields layouts extra hs hl a
    simp only [assignField, places, Nat.add_assoc]
    exact Gives.cons (p := ⟨key, "field"⟩) ((hs _).append (hl _))
  · intro f fs hf hfs a
    simp only [assignFields, placesAll]
    exact (hf a).append (hfs _)
  · intro key name label subFields extra ls hs hl a
    simp only [assignLayouts, placesInLayouts, Nat.add_assoc]
    exact Gives.cons (p := ⟨key, "layout"⟩) ((hs _).append (hl _))

theorem assign_unkeyed (source : Source) :
    (∀ (f : Field) (a : Allocator), unkeyed (assignField source a f).result = unkeyed f) ∧
      (∀ (fs : List Field) (a : Allocator),
        unkeyedAll (assignFields source a fs).result = unkeyedAll fs) ∧
      ∀ (ls : List Layout) (a : Allocator),
        unkeyedLayouts (assignLayouts source a ls).result = unkeyedLayouts ls := by
  refine Field.tree_induction ?_ (fun _ => rfl) ?_ (fun _ => rfl) ?_
  · intro key name label type subFields layouts extra hs hl a
    simp only [assignField, unkeyed, hs, hl]
  · intro f fs hf hfs a
    simp only [assignFields, unkeyedAll, hf, hfs]
  · intro key name label subFields extra ls hs hl a
    simp only [assignLayouts, unkeyedLayouts, hs, hl]

end FieldTemplates.Key
