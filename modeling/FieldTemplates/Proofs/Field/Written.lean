import FieldTemplates.Field.Decode
import FieldTemplates.Field.Encode
import FieldTemplates.Proofs.Data.Table
import FieldTemplates.Proofs.Field.Tree

namespace FieldTemplates

theorem textIn_of_find? {members : Table Value} {name text : String}
    (h : Table.find? members name = some (.text text)) : textIn members name = text := by
  simp only [textIn, h]
  rfl

-- Without a label there is no name either.
theorem name_of_labelIn {members : Table Value} (h : labelIn members = "") :
    textIn members "name" = "" := by
  simp only [labelIn] at h
  split at h
  · exact h
  · rename_i hlabel
    exact absurd h hlabel

theorem labelIn_of_find? {members : Table Value} {name label : String}
    (hname : Table.find? members "name" = some (.text name))
    (hlabel : Table.find? members "label" = some (.text label)) (h : label = "" → name = "") :
    labelIn members = label := by
  simp only [labelIn, textIn_of_find? hlabel, textIn_of_find? hname]
  split
  · rename_i hempty
    rw [hempty, h hempty]
  · rfl

theorem subFieldsIn_eq (members : Table Value) :
    subFieldsIn members = fieldsOf ((Table.find? members "sub_fields").getD .null) := by
  induction members with
  | nil => rfl
  | cons m members ih =>
      obtain ⟨name, v⟩ := m
      rw [subFieldsIn, Table.find?_cons]
      by_cases h : name = "sub_fields"
      · rw [if_pos h, if_pos h.symm, Option.getD_some]
      · rw [if_neg h, if_neg (Ne.symm h), ih]

theorem layoutsIn_eq (members : Table Value) :
    layoutsIn members = layoutsOf ((Table.find? members "layouts").getD .null) := by
  induction members with
  | nil => rfl
  | cons m members ih =>
      obtain ⟨name, v⟩ := m
      rw [layoutsIn, Table.find?_cons]
      by_cases h : name = "layouts"
      · rw [if_pos h, if_pos h.symm, Option.getD_some]
      · rw [if_neg h, if_neg (Ne.symm h), ih]

namespace Field

mutual

-- What holds of every field that was read.
def IsRead : Field → Prop
  | ⟨_, name, label, _, subFields, layouts, extra⟩ => (label = "" → name = "") ∧
    Table.Lacks extra fieldMembers ∧ AreRead subFields ∧ LayoutsRead layouts

def AreRead : List Field → Prop
  | [] => True
  | f :: fs => IsRead f ∧ AreRead fs

def LayoutsRead : List Layout → Prop
  | [] => True
  | ⟨_, name, label, subFields, extra⟩ :: ls => ((label = "" → name = "") ∧
    Table.Lacks extra layoutMembers ∧ AreRead subFields) ∧ LayoutsRead ls

end

theorem isRead_ofParts (members : Table Value) {subFields : List Field} {layouts : List Layout}
    (hsub : AreRead subFields) (hlayouts : LayoutsRead layouts) :
    IsRead (ofParts members subFields layouts) :=
  ⟨name_of_labelIn, Table.lacks_without members fieldMembers, hsub, hlayouts⟩

theorem read :
    (∀ ms, AreRead (subFieldsIn ms)) ∧ (∀ v, AreRead (fieldsOf v)) ∧
      (∀ vs, AreRead (fieldsOfItems vs)) ∧ (∀ ms, LayoutsRead (layoutsIn ms)) ∧
      (∀ v, LayoutsRead (layoutsOf v)) ∧ (∀ ms, LayoutsRead (layoutsOfMembers ms)) ∧
      ∀ vs, LayoutsRead (layoutsOfItems vs) := by
  have hlayout : ∀ (fallback : String) (members : Table Value) (ls : List Layout),
      AreRead (subFieldsIn members) → LayoutsRead ls →
        LayoutsRead (Layout.ofParts fallback members (subFieldsIn members) :: ls) :=
    fun fallback members ls hsub hls =>
      ⟨⟨name_of_labelIn, Table.lacks_without members layoutMembers, hsub⟩, hls⟩
  refine subFieldsIn.mutual_induct (fun ms => AreRead (subFieldsIn ms)) (fun v => AreRead (fieldsOf v))
    (fun vs => AreRead (fieldsOfItems vs)) (fun ms => LayoutsRead (layoutsIn ms))
    (fun v => LayoutsRead (layoutsOf v)) (fun ms => LayoutsRead (layoutsOfMembers ms))
    (fun vs => LayoutsRead (layoutsOfItems vs)) ?fields ?noFields ?layouts ?keyedLayouts ?noLayouts
    ?endOfFields ?field ?noField ?endOfLayouts ?layout ?noLayout ?noSubFields ?subFields ?beforeSubFields
    ?noneLaidOut ?laidOut ?beforeLayouts ?endOfKeyed ?keyed ?noKeyed
  case fields | layouts => exact fun items hitems => hitems
  case keyedLayouts => exact fun members hmembers => hmembers
  case noFields =>
    intro v hlist
    cases v with
    | list items => exact (hlist items rfl).elim
    | _ => trivial
  case noLayouts =>
    intro v hlist hobject
    cases v with
    | list items => exact (hlist items rfl).elim
    | object members => exact (hobject members rfl).elim
    | _ => trivial
  case endOfFields | endOfLayouts | noSubFields | noneLaidOut | endOfKeyed => trivial
  case field =>
    intro members vs hsub hlayouts hrest
    exact ⟨isRead_ofParts members hsub hlayouts, hrest⟩
  case layout => exact fun members vs hsub hrest => hlayout "" members _ hsub hrest
  case keyed => exact fun name members ms hsub hrest => hlayout name members _ hsub hrest
  case noField | noLayout =>
    intro v vs hobject hrest
    cases v with
    | object members => exact (hobject members rfl).elim
    | _ => exact hrest
  case noKeyed =>
    rintro ⟨name, v⟩ ms hobject hrest
    cases v with
    | object members => exact (hobject name members rfl).elim
    | _ => exact hrest
  case subFields =>
    intro v ms hv
    rw [subFieldsIn, if_pos rfl]
    exact hv
  case laidOut =>
    intro v ms hv
    rw [layoutsIn, if_pos rfl]
    exact hv
  case beforeSubFields =>
    intro name v ms hname hrest
    rw [subFieldsIn, if_neg hname]
    exact hrest
  case beforeLayouts =>
    intro name v ms hname hrest
    rw [layoutsIn, if_neg hname]
    exact hrest

-- It holds whatever keys a tree has.
theorem isRead_unkeyed :
    (∀ f : Field, IsRead f.unkeyed ↔ IsRead f) ∧ (∀ fs, AreRead (unkeyedAll fs) ↔ AreRead fs) ∧
      ∀ ls, LayoutsRead (unkeyedLayouts ls) ↔ LayoutsRead ls := by
  refine tree_induction ?_ Iff.rfl ?_ Iff.rfl ?_
  · intro key name label type subFields layouts extra hsub hlayouts
    simp only [unkeyed, IsRead, hsub, hlayouts]
  · intro f fs hf hfs
    simp only [unkeyedAll, AreRead, hf, hfs]
  · intro key name label subFields extra ls hsub hlayouts
    simp only [unkeyedLayouts, LayoutsRead, hsub, hlayouts]

-- A collection is written where there is something in it.
def listed (name : String) (items : List Value) : Table Value :=
  if items.isEmpty then [] else [(name, .list items)]

-- The members of its own that a field writes.
def own (f : Field) : Table Value :=
  [("key", .text f.key), ("label", .text f.label), ("name", .text f.name), ("type", .text f.type)] ++
    (listed "sub_fields" (fieldValues f.subFields) ++ listed "layouts" (layoutValues f.layouts))

theorem isEmpty_fieldValues (fs : List Field) : (fieldValues fs).isEmpty = fs.isEmpty := by
  cases fs <;> rfl

theorem isEmpty_layoutValues (ls : List Layout) : (layoutValues ls).isEmpty = ls.isEmpty := by
  rcases ls with _ | ⟨⟨_, _, _, _, _⟩, _⟩ <;> rfl

theorem toValue_eq_merge (f : Field) : f.toValue = .object (Table.merge f.extra f.own) := by
  obtain ⟨key, name, label, type, subFields, layouts, extra⟩ := f
  simp only [toValue, own, listed, Table.merge_append, isEmpty_fieldValues, isEmpty_layoutValues]
  split_ifs <;> rfl

theorem own_names (f : Field) : f.own.names.Nodup ∧ ∀ m ∈ f.own, m.1 ∈ fieldMembers := by
  simp only [own, listed]
  split_ifs <;> simp [Table.names, fieldMembers]

theorem find?_own (f : Field) : f.own.find? "key" = some (.text f.key) ∧
    f.own.find? "label" = some (.text f.label) ∧ f.own.find? "name" = some (.text f.name) ∧
    f.own.find? "type" = some (.text f.type) := by
  simp [own, Table.find?_cons]

theorem find?_own_lists (f : Field) :
    f.own.find? "sub_fields" = (if f.subFields.isEmpty then none else
      some (.list (fieldValues f.subFields))) ∧
    f.own.find? "layouts" = if f.layouts.isEmpty then none else some (.list (layoutValues f.layouts)) := by
  have hnil : ∀ name, Table.find? ([] : Table Value) name = none := fun _ => rfl
  simp only [own, listed, isEmpty_fieldValues, isEmpty_layoutValues]
  split_ifs <;> simp [Table.find?_cons, hnil]

-- The field is written, and what is written is read as the field.
def Returns (f : Field) : Prop := ∃ ms, f.toValue = .object ms ∧ Field.ofMembers ms = f

theorem returns_of_read {f : Field} (hlabel : f.label = "" → f.name = "")
    (hextra : Table.Lacks f.extra fieldMembers)
    (hsub : fieldsOfItems (fieldValues f.subFields) = f.subFields)
    (hlayouts : layoutsOfItems (layoutValues f.layouts) = f.layouts) : f.Returns := by
  obtain ⟨hnodup, hown⟩ := f.own_names
  obtain ⟨hkey, hlab, hname, htype⟩ := f.find?_own
  obtain ⟨hsubs, hlays⟩ := f.find?_own_lists
  have hfind : ∀ name ∈ fieldMembers, Table.find? (f.extra ++ f.own) name = Table.find? f.own name :=
    fun name hname => Table.find?_append_of_lacks hextra hname
  rw [← hfind _ (by decide)] at hkey hlab hname htype hsubs hlays
  have hread : subFieldsIn (f.extra ++ f.own) = f.subFields := by
    rw [subFieldsIn_eq, hsubs]
    split_ifs with hempty
    · exact (List.isEmpty_iff.mp hempty).symm
    · exact hsub
  have hread' : layoutsIn (f.extra ++ f.own) = f.layouts := by
    rw [layoutsIn_eq, hlays]
    split_ifs with hempty
    · exact (List.isEmpty_iff.mp hempty).symm
    · exact hlayouts
  refine ⟨f.extra ++ f.own, ?_, ?_⟩
  · rw [toValue_eq_merge, Table.merge_of_lacks hextra hown hnodup]
  · rw [ofMembers, ofParts, textIn_of_find? hkey, textIn_of_find? hname, textIn_of_find? htype,
      labelIn_of_find? hname hlab hlabel, hread, hread', Table.without_append_of_lacks hextra hown]
    cases f
    rfl

end Field

namespace Layout

def own (l : Layout) : Table Value := [("key", .text l.key), ("name", .text l.name),
  ("label", .text l.label), ("sub_fields", .list (fieldValues l.subFields))]

theorem toValue_eq_merge (l : Layout) : l.toValue = .object (Table.merge l.extra l.own) := rfl

theorem own_names (l : Layout) : (Table.names l.own).Nodup ∧ ∀ m ∈ l.own, m.1 ∈ layoutMembers := by
  simp [own, Table.names, layoutMembers]

theorem find?_own (l : Layout) : Table.find? l.own "key" = some (.text l.key) ∧
    Table.find? l.own "name" = some (.text l.name) ∧
    Table.find? l.own "label" = some (.text l.label) ∧
    Table.find? l.own "sub_fields" = some (.list (fieldValues l.subFields)) := by
  simp [own, Table.find?_cons]

-- The layout is written, and what is written is read as the layout, without a fallback for its key and
-- with one that it does not need.
def Returns (l : Layout) : Prop := ∃ ms, l.toValue = .object ms ∧
  ∀ fallback, (l.key = "" → fallback = "") → Layout.ofMembers ms fallback = l

theorem returns_of_read {l : Layout} (hlabel : l.label = "" → l.name = "")
    (hextra : Table.Lacks l.extra layoutMembers)
    (hsub : fieldsOfItems (fieldValues l.subFields) = l.subFields) : l.Returns := by
  obtain ⟨hnodup, hown⟩ := l.own_names
  have hfind : ∀ name ∈ layoutMembers, Table.find? (l.extra ++ l.own) name = Table.find? l.own name :=
    fun name hname => Table.find?_append_of_lacks hextra hname
  obtain ⟨hkey, hname, hlab, hsubs⟩ := l.find?_own
  rw [← hfind _ (by decide)] at hkey hname hlab hsubs
  have hchosen : ∀ fallback, (l.key = "" → fallback = "") →
      (if l.key = "" then fallback else l.key) = l.key := by
    intro fallback hfallback
    split_ifs with hempty
    · rw [hempty, hfallback hempty]
    · rfl
  have hread : subFieldsIn (l.extra ++ l.own) = l.subFields := by
    rw [subFieldsIn_eq, hsubs]
    exact hsub
  refine ⟨l.extra ++ l.own, ?_, fun fallback hfallback => ?_⟩
  · rw [toValue_eq_merge, Table.merge_of_lacks hextra hown hnodup]
  simp only [ofMembers, ofParts, textIn_of_find? hkey, textIn_of_find? hname,
    labelIn_of_find? hname hlab hlabel, hread, Table.without_append_of_lacks hextra hown,
    hchosen fallback hfallback]
  cases l
  rfl

end Layout

namespace Field

-- One induction for fields, lists of fields and lists of layouts.
theorem returns :
    (∀ f : Field, f.IsRead → f.Returns) ∧
      (∀ fs, AreRead fs → fieldsOfItems (fieldValues fs) = fs) ∧
      ∀ ls, LayoutsRead ls → layoutsOfItems (layoutValues ls) = ls ∧ ∀ l ∈ ls, l.Returns := by
  refine tree_induction ?_ (fun _ => rfl) ?_ (fun _ => ⟨rfl, fun l hl => absurd hl List.not_mem_nil⟩) ?_
  · rintro key name label type subFields layouts extra hsub hlayouts ⟨hlabel, hextra, hsubs, hlays⟩
    exact returns_of_read hlabel hextra (hsub hsubs) (hlayouts hlays).1
  · rintro f fs hf hfs ⟨hread, hreads⟩
    obtain ⟨ms, hms, hback⟩ := hf hread
    rw [fieldValues, hms, fieldsOfItems, hfs hreads]
    exact congrArg (· :: fs) hback
  · rintro key name label subFields extra ls hsub hlayouts ⟨⟨hlabel, hextra, hsubs⟩, hlays⟩
    have hreturns : Layout.Returns ⟨key, name, label, subFields, extra⟩ :=
      Layout.returns_of_read hlabel hextra (hsub hsubs)
    obtain ⟨hrest, hall⟩ := hlayouts hlays
    refine ⟨?_, List.forall_mem_cons.mpr ⟨hreturns, hall⟩⟩
    obtain ⟨ms, hms, hback⟩ := hreturns
    change layoutsOfItems (Layout.toValue ⟨key, name, label, subFields, extra⟩ :: layoutValues ls) = _
    rw [hms, layoutsOfItems, hrest]
    exact congrArg (· :: ls) (hback "" fun _ => rfl)

end Field

namespace Layout

-- Everything but the keys.
def unkeyed (l : Layout) : Layout := { l with key := "", subFields := Field.unkeyedAll l.subFields }

theorem unkeyedLayouts_eq_map (ls : List Layout) : Field.unkeyedLayouts ls = ls.map unkeyed := by
  induction ls with
  | nil => rfl
  | cons l ls ih =>
      cases l
      rw [Field.unkeyedLayouts, ih]
      rfl

-- A layout that was read returns, whatever keys it has by then.
theorem returns_of_unkeyed {members : Table Value} {fallback : String} {l : Layout}
    (h : l.unkeyed = (ofMembers members fallback).unkeyed) : l.Returns := by
  have hread : Field.LayoutsRead [ofMembers members fallback] :=
    ⟨⟨name_of_labelIn, Table.lacks_without members layoutMembers, Field.read.1 members⟩, trivial⟩
  rw [← Field.isRead_unkeyed.2.2, unkeyedLayouts_eq_map, List.map_singleton, ← h,
    ← List.map_singleton, ← unkeyedLayouts_eq_map, Field.isRead_unkeyed.2.2] at hread
  exact (Field.returns.2.2 [l] hread).2 l List.mem_cons_self

end Layout

-- A field that was read returns, whatever keys it has by then.
theorem Field.returns_of_unkeyed {members : Table Value} {f : Field}
    (h : f.unkeyed = (ofMembers members).unkeyed) : f.Returns := by
  have hread : (ofMembers members).IsRead :=
    isRead_ofParts members (read.1 members) (read.2.2.2.1 members)
  rw [← isRead_unkeyed.1, ← h, isRead_unkeyed.1] at hread
  exact returns.1 f hread

namespace Group

-- The group is written, and what is written is read as the group.
def Returns (g : Group) : Prop := ∃ ms, g.toValue = .object ms ∧ Group.ofMembers ms = g

def own (g : Group) : Table Value :=
  [("key", .text g.key), ("title", .text g.title), ("fields", .list (fieldValues g.fields))]

theorem find?_own (g : Group) : Table.find? g.own "key" = some (.text g.key) ∧
    Table.find? g.own "title" = some (.text g.title) ∧
    Table.find? g.own "fields" = some (.list (fieldValues g.fields)) := by
  simp [own, Table.find?_cons]

-- The extra members are put over the group's own ones, so they are its own only where they have none of
-- its names, and each once.
theorem returns_of_read {g : Group} (hextra : Table.Lacks g.extra groupMembers)
    (hnodup : (Table.names g.extra).Nodup)
    (hfields : fieldsOfItems (fieldValues g.fields) = g.fields) : g.Returns := by
  have hfound : ∀ {name v}, Table.find? g.own name = some v →
      Table.find? (g.own ++ g.extra) name = some v := by
    intro name v hv
    rw [Table.find?_append, hv, Option.some_or]
  have hleft : Table.without (g.own ++ g.extra) groupMembers = g.extra := by
    rw [Table.without_append, Table.without_of_lacks hextra]
    rfl
  obtain ⟨hkey, htitle, hlist⟩ := g.find?_own
  refine ⟨g.own ++ g.extra, congrArg Value.object (Table.merge_of_new hextra hnodup), ?_⟩
  simp only [ofMembers, textIn_of_find? (hfound hkey), textIn_of_find? (hfound htitle),
    hfound hlist, hleft, Option.getD_some, fieldsOf, hfields]

-- A group that was read returns, whatever keys it has by then.
theorem returns_of_unkeyed {members : Table Value} (hnodup : (Table.names members).Nodup) {g : Group}
    (h : g.unkeyed = (ofMembers members).unkeyed) : g.Returns := by
  have hextra : g.extra = Table.without members groupMembers := congrArg Group.extra h
  have hread : Field.AreRead g.fields := by
    have hfields : Field.unkeyedAll g.fields = Field.unkeyedAll (ofMembers members).fields :=
      congrArg Group.fields h
    rw [← Field.isRead_unkeyed.2.1, hfields, Field.isRead_unkeyed.2.1]
    exact Field.read.2.1 _
  refine returns_of_read ?_ ?_ (Field.returns.2.1 g.fields hread)
  · rw [hextra]
    exact Table.lacks_without members groupMembers
  · rw [hextra]
    exact hnodup.sublist (List.filter_sublist.map _)

end Group

end FieldTemplates
