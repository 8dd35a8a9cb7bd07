import FieldTemplates.Proofs.Field.Written
import FieldTemplates.Proofs.Key.Assign

namespace FieldTemplates

-- Equal as decoded documents are: objects are mappings, in which the order of members does not count.
inductive Value.SameAs : Value → Value → Prop
  | refl (v : Value) : SameAs v v
  | list {vs ws : List Value} (items : List.Forall₂ SameAs vs ws) : SameAs (.list vs) (.list ws)
  | object {ms ns : Table Value}
      (members : ∀ name, Option.Rel SameAs (Table.find? ms name) (Table.find? ns name)) :
      SameAs (.object ms) (.object ns)

inductive Part where
  | field
  | layout

-- What an object is written as once it was read as that part.
def Part.rewrite : Part → Table Value → Value
  | field, members => (Field.ofMembers members).toValue
  | layout, members => (Layout.ofMembers members "").toValue

-- The objects that have every member of their own in the form in which it is written. The collections of
-- a field are missing or not empty; that of a layout may be empty.
inductive Canonical : Part → Value → Prop
  | field {members : Table Value} {key label name type : String} {subFields layouts : List Value}
      (hkey : Table.find? members "key" = some (.text key))
      (hlabel : Table.find? members "label" = some (.text label))
      (hname : Table.find? members "name" = some (.text name))
      (htype : Table.find? members "type" = some (.text type))
      (labelled : label ≠ "" ∨ name = "")
      (hsub : Table.find? members "sub_fields" =
        if subFields.isEmpty then none else some (.list subFields))
      (hlayouts : Table.find? members "layouts" =
        if layouts.isEmpty then none else some (.list layouts))
      (fields : ∀ v ∈ subFields, Canonical .field v) (laidOut : ∀ v ∈ layouts, Canonical .layout v) :
      Canonical .field (.object members)
  | layout {members : Table Value} {key name label : String} {subFields : List Value}
      (hkey : Table.find? members "key" = some (.text key))
      (hname : Table.find? members "name" = some (.text name))
      (hlabel : Table.find? members "label" = some (.text label))
      (labelled : label ≠ "" ∨ name = "")
      (hsub : Table.find? members "sub_fields" = some (.list subFields))
      (fields : ∀ v ∈ subFields, Canonical .field v) : Canonical .layout (.object members)

-- Written over the members that have no place of their own, the own ones are the only ones in question.
theorem Value.SameAs.of_own {members own : Table Value} {names : List String}
    (hown : ∀ m ∈ own, m.1 ∈ names) (hnodup : (Table.names own).Nodup)
    (h : ∀ name ∈ names, Option.Rel SameAs (Table.find? own name) (Table.find? members name)) :
    SameAs (.object (Table.merge (Table.without members names) own)) (.object members) := by
  have hextra := Table.lacks_without members names
  rw [Table.merge_of_lacks hextra hown hnodup]
  refine .object fun name => ?_
  by_cases hname : name ∈ names
  · rw [Table.find?_append_of_lacks hextra hname]
    exact h name hname
  · have hnone : Table.find? own name = none := by
      refine Table.find?_eq_none fun hmem => hname ?_
      obtain ⟨m, hm, rfl⟩ := List.mem_map.mp hmem
      exact hown m hm
    rw [Table.find?_append, hnone, Option.or_none, Table.find?_without members hname]
    cases Table.find? members name with
    | none => exact .none
    | some v => exact .some (.refl v)

theorem Value.SameAs.of_text {own members : Table Value} {name text : String}
    (hown : Table.find? own name = some (.text text))
    (hmembers : Table.find? members name = some (.text text)) :
    Option.Rel SameAs (Table.find? own name) (Table.find? members name) := by
  rw [hown, hmembers]
  exact .some (.refl _)

theorem sameAs_items {part : Part} {again : List Value → List Value} (nil : again [] = [])
    (cons : ∀ members vs, again (.object members :: vs) = part.rewrite members :: again vs)
    {items : List Value}
    (h : ∀ v ∈ items, ∃ members, v = .object members ∧ Value.SameAs (part.rewrite members) v) :
    List.Forall₂ Value.SameAs (again items) items := by
  induction items with
  | nil =>
      rw [nil]
      exact .nil
  | cons v vs ih =>
      obtain ⟨⟨members, rfl, hsame⟩, hrest⟩ := List.forall_mem_cons.mp h
      rw [cons]
      exact .cons hsame (ih hrest)

theorem sameAs_fields {items : List Value}
    (h : ∀ v ∈ items, ∃ members, v = .object members ∧ Value.SameAs (Part.field.rewrite members) v) :
    List.Forall₂ Value.SameAs (fieldValues (fieldsOfItems items)) items :=
  @sameAs_items .field (fun vs => fieldValues (fieldsOfItems vs)) rfl (fun _ _ => rfl) items h

theorem sameAs_layouts {items : List Value}
    (h : ∀ v ∈ items, ∃ members, v = .object members ∧ Value.SameAs (Part.layout.rewrite members) v) :
    List.Forall₂ Value.SameAs (layoutValues (layoutsOfItems items)) items :=
  @sameAs_items .layout (fun vs => layoutValues (layoutsOfItems vs)) rfl (fun _ _ => rfl) items h

-- What is read is what stands there.
theorem find?_of_text {members : Table Value} {name text : String}
    (h : Table.find? members name = some (.text text)) :
    Table.find? members name = some (.text (textIn members name)) := by
  rw [textIn_of_find? h]
  exact h

theorem find?_of_labelled {members : Table Value} {name label : String}
    (hname : Table.find? members "name" = some (.text name))
    (hlabel : Table.find? members "label" = some (.text label)) (h : label ≠ "" ∨ name = "") :
    Table.find? members "label" = some (.text (labelIn members)) := by
  rw [labelIn_of_find? hname hlabel fun hempty => h.resolve_left fun hne => hne hempty]
  exact hlabel

-- A collection is missing where the same one is.
theorem Value.SameAs.of_listed {vs ws : List Value} (h : List.Forall₂ SameAs vs ws) :
    Option.Rel SameAs (if vs.isEmpty then none else some (.list vs))
      (if ws.isEmpty then none else some (.list ws)) := by
  cases h with
  | nil => exact .none
  | cons hfirst hrest => exact .some (.list (.cons hfirst hrest))

theorem subFieldsIn_of_listed {members : Table Value} {items : List Value}
    (h : Table.find? members "sub_fields" = if items.isEmpty then none else some (.list items)) :
    subFieldsIn members = fieldsOfItems items := by
  rw [subFieldsIn_eq, h]
  cases items <;> rfl

theorem layoutsIn_of_listed {members : Table Value} {items : List Value}
    (h : Table.find? members "layouts" = if items.isEmpty then none else some (.list items)) :
    layoutsIn members = layoutsOfItems items := by
  rw [layoutsIn_eq, h]
  cases items <;> rfl

-- A field is written as an object that holds the same members of its own and no other extra ones.
theorem Field.toValue_sameAs {f : Field} {members : Table Value}
    (hextra : f.extra = Table.without members fieldMembers)
    (hkey : Table.find? members "key" = some (.text f.key))
    (hname : Table.find? members "name" = some (.text f.name))
    (hlabel : Table.find? members "label" = some (.text f.label))
    (htype : Table.find? members "type" = some (.text f.type)) {subFields layouts : List Value}
    (hsub : Table.find? members "sub_fields" =
      if subFields.isEmpty then none else some (.list subFields))
    (hfields : List.Forall₂ Value.SameAs (fieldValues f.subFields) subFields)
    (hlayouts : Table.find? members "layouts" =
      if layouts.isEmpty then none else some (.list layouts))
    (hlaid : List.Forall₂ Value.SameAs (layoutValues f.layouts) layouts) :
    Value.SameAs f.toValue (.object members) := by
  obtain ⟨hnodup, hown⟩ := f.own_names
  obtain ⟨hk, hl, hn, ht⟩ := f.find?_own
  obtain ⟨hs, hls⟩ := f.find?_own_lists
  rw [← isEmpty_fieldValues] at hs
  rw [← isEmpty_layoutValues] at hls
  rw [toValue_eq_merge, hextra]
  refine Value.SameAs.of_own hown hnodup ?_
  simp only [fieldMembers, List.forall_mem_cons]
  refine ⟨Value.SameAs.of_text hk hkey, Value.SameAs.of_text hn hname, Value.SameAs.of_text hl hlabel,
    Value.SameAs.of_text ht htype, ?_, ?_, fun _ hnone => absurd hnone List.not_mem_nil⟩
  · rw [hs, hsub]
    exact Value.SameAs.of_listed hfields
  · rw [hls, hlayouts]
    exact Value.SameAs.of_listed hlaid

theorem Layout.toValue_sameAs {l : Layout} {members : Table Value}
    (hextra : l.extra = Table.without members layoutMembers)
    (hkey : Table.find? members "key" = some (.text l.key))
    (hname : Table.find? members "name" = some (.text l.name))
    (hlabel : Table.find? members "label" = some (.text l.label)) {subFields : List Value}
    (hsub : Table.find? members "sub_fields" = some (.list subFields))
    (hfields : List.Forall₂ Value.SameAs (fieldValues l.subFields) subFields) :
    Value.SameAs l.toValue (.object members) := by
  obtain ⟨hnodup, hown⟩ := l.own_names
  obtain ⟨hk, hn, hl, hs⟩ := l.find?_own
  rw [toValue_eq_merge, hextra]
  refine Value.SameAs.of_own hown hnodup ?_
  simp only [layoutMembers, List.forall_mem_cons]
  refine ⟨Value.SameAs.of_text hk hkey, Value.SameAs.of_text hn hname, Value.SameAs.of_text hl hlabel,
    ?_, fun _ hnone => absurd hnone List.not_mem_nil⟩
  rw [hs, hsub]
  exact .some (.list hfields)

theorem Layout.key_ofMembers (members : Table Value) :
    (Layout.ofMembers members "").key = textIn members "key" := by
  simp only [ofMembers, ofParts]
  split_ifs with hempty
  · exact hempty.symm
  · rfl

-- By induction on the canonical form: the objects inside are written as they were.
theorem rewrite_of_canonical {part : Part} {v : Value} (h : Canonical part v) :
    ∃ members, v = .object members ∧ Value.SameAs (part.rewrite members) v := by
  induction h with
  | @field members key label name type subFields layouts hkey hlabel hname htype labelled hsub hlayouts
      _ _ ihfields ihlayouts =>
      refine ⟨members, rfl, Field.toValue_sameAs rfl (find?_of_text hkey) (find?_of_text hname)
        (find?_of_labelled hname hlabel labelled) (find?_of_text htype) hsub ?_ hlayouts ?_⟩
      · rw [show (Field.ofMembers members).subFields = _ from subFieldsIn_of_listed hsub]
        exact sameAs_fields ihfields
      · rw [show (Field.ofMembers members).layouts = _ from layoutsIn_of_listed hlayouts]
        exact sameAs_layouts ihlayouts
  | @layout members key name label subFields hkey hname hlabel labelled hsub _ ih =>
      have hread : (Layout.ofMembers members "").subFields = fieldsOfItems subFields := by
        rw [show (Layout.ofMembers members "").subFields = _ from subFieldsIn_eq members, hsub]
        rfl
      refine ⟨members, rfl, Layout.toValue_sameAs rfl ?_ (find?_of_text hname)
        (find?_of_labelled hname hlabel labelled) hsub ?_⟩
      · rw [Layout.key_ofMembers]
        exact find?_of_text hkey
      · rw [hread]
        exact sameAs_fields ih

-- Written, read and written again, it is what it was written as first.
def Settles {α : Type} (read : Table Value → α) (write : α → Value) (members : Table Value) : Prop :=
  ∃ ms, write (read members) = .object ms ∧ write (read ms) = .object ms

theorem settles_of_returns {α : Type} {read : Table Value → α} {write : α → Value}
    {members : Table Value} (h : ∃ ms, write (read members) = .object ms ∧ read ms = read members) :
    Settles read write members := by
  obtain ⟨ms, hms, hread⟩ := h
  exact ⟨ms, hms, by rw [hread, hms]⟩

theorem Layout.settles (members : Table Value) (fallback : String) :
    Settles (Layout.ofMembers · fallback) Layout.toValue members := by
  obtain ⟨ms, hms, hread⟩ := @Layout.returns_of_unkeyed members fallback _ rfl
  refine settles_of_returns ⟨ms, hms, hread fallback fun hempty => ?_⟩
  simp only [Layout.ofMembers, Layout.ofParts] at hempty
  split_ifs at hempty with hnone
  · exact hempty
  · exact absurd hempty hnone

-- Every object is read as something that returns from what it is written as: as it was read, with any
-- other keys, and with the keys that an allocator gives. A group needs each of its names once, as an
-- object has them.
theorem documents_round_trip (source : Key.Source) (a : Key.Allocator) (members : Table Value) :
    ((∀ f : Field, f.unkeyed = (Field.ofMembers members).unkeyed → f.Returns) ∧
      (Key.assignField source a (Field.ofMembers members)).result.Returns ∧
      Settles Field.ofMembers Field.toValue members) ∧
    (∀ fallback,
      (∀ l : Layout, l.unkeyed = (Layout.ofMembers members fallback).unkeyed → l.Returns) ∧
      (∀ l ∈ (Key.assignLayouts source a [Layout.ofMembers members fallback]).result, l.Returns) ∧
      Settles (Layout.ofMembers · fallback) Layout.toValue members) ∧
    ((Table.names members).Nodup →
      (∀ g : Group, g.unkeyed = (Group.ofMembers members).unkeyed → g.Returns) ∧
      Group.Returns { Group.ofMembers members with
        fields := (Key.assignFields source a (Group.ofMembers members).fields).result } ∧
      Settles Group.ofMembers Group.toValue members) ∧
    (Canonical .field (.object members) →
      Value.SameAs (Field.ofMembers members).toValue (.object members)) := by
  have hrekeyed := Key.assign_unkeyed source
  refine ⟨⟨fun f => Field.returns_of_unkeyed, Field.returns_of_unkeyed (hrekeyed.1 _ a),
    settles_of_returns (Field.returns_of_unkeyed rfl)⟩, ?layouts, ?groups, ?canonical⟩
  case layouts =>
    intro fallback
    refine ⟨fun l => Layout.returns_of_unkeyed, fun l hl => ?_, Layout.settles members fallback⟩
    have hmem : l.unkeyed ∈ [Layout.ofMembers members fallback].map Layout.unkeyed := by
      rw [← Layout.unkeyedLayouts_eq_map, ← hrekeyed.2.2 _ a, Layout.unkeyedLayouts_eq_map]
      exact List.mem_map_of_mem hl
    have hsame : l.unkeyed = (Layout.ofMembers members fallback).unkeyed := List.mem_singleton.mp hmem
    exact Layout.returns_of_unkeyed hsame
  case groups =>
    intro hnodup
    refine ⟨fun g => Group.returns_of_unkeyed hnodup, Group.returns_of_unkeyed hnodup ?_,
      settles_of_returns (Group.returns_of_unkeyed hnodup rfl)⟩
    simp only [Group.unkeyed, hrekeyed.2.1]
  case canonical =>
    intro h
    obtain ⟨ms, hms, hsame⟩ := rewrite_of_canonical h
    cases hms
    exact hsame

-- A field with a setting in between and a layout that holds a field without a key, and a group that has
-- a number for its key.
def captionMembers : Table Value :=
  [("type", .text "text"), ("name", .text "caption"), ("label", .text "Caption"), ("key", .text "")]

def slideMembers : Table Value := [("key", .text "layout_slide"), ("label", .text "Slide"),
  ("name", .text "slide"), ("display", .text "block"), ("sub_fields", .list [.object captionMembers])]

def galleryMembers : Table Value :=
  [("key", .text "field_gallery"), ("label", .text "Gallery"), ("required", .bool true),
    ("name", .text "gallery"), ("type", .text "flexible_content"),
    ("layouts", .list [.object slideMembers])]

def articleMembers : Table Value := [("active", .bool true), ("title", .text "Article"),
  ("fields", .list [.object galleryMembers]), ("key", .int 7)]

theorem canonical_galleryMembers : Canonical .field (.object galleryMembers) := by
  have hcaption : Canonical .field (.object captionMembers) :=
    @Canonical.field captionMembers _ _ _ _ [] [] rfl rfl rfl rfl (.inl (by decide)) rfl rfl
      (fun v hv => absurd hv List.not_mem_nil) fun v hv => absurd hv List.not_mem_nil
  have hslide : Canonical .layout (.object slideMembers) :=
    .layout rfl rfl rfl (.inl (by decide)) rfl fun v hv => List.mem_singleton.mp hv ▸ hcaption
  exact @Canonical.field galleryMembers _ _ _ _ [] [.object slideMembers] rfl rfl rfl rfl
    (.inl (by decide)) rfl rfl (fun v hv => absurd hv List.not_mem_nil)
    fun v hv => List.mem_singleton.mp hv ▸ hslide

theorem documents_round_trip_of_article :
    Field.Returns { Field.ofMembers galleryMembers with key := "field_1" } ∧
      Layout.Returns { Layout.ofMembers slideMembers "layout_0" with key := "" } ∧
      (Table.names articleMembers).Nodup ∧
      Group.Returns { Group.ofMembers articleMembers with key := "group_1" } ∧
      Settles Group.ofMembers Group.toValue articleMembers ∧
      Canonical .field (.object galleryMembers) ∧
      Value.SameAs (Field.ofMembers galleryMembers).toValue (.object galleryMembers) := by
  have hnodup : (Table.names articleMembers).Nodup := by decide
  have htrip := documents_round_trip (fun n => ⟨"0123456789abcdef", 1700000000 + n⟩) {}
  obtain ⟨⟨hfield, -⟩, -, -, hsame⟩ := htrip galleryMembers
  obtain ⟨-, hlayout, -⟩ := htrip slideMembers
  obtain ⟨-, -, hgroup, -⟩ := htrip articleMembers
  exact ⟨hfield _ rfl, (hlayout "layout_0").1 _ rfl, hnodup, (hgroup hnodup).1 _ rfl,
    (hgroup hnodup).2.2, canonical_galleryMembers, hsame canonical_galleryMembers⟩

end FieldTemplates
