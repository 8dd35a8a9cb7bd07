import FieldTemplates.Proofs.Snippet.Catalog.Support
import FieldTemplates.Proofs.Snippet.Inside

namespace FieldTemplates.Snippet

open Code (Line)

namespace Catalog

-- A name is rendered as a type is: it is the type, or an alias of it without a renderer of its own.
def Follows (c : Catalog) (type name : String) : Prop :=
  Text.lower name = Text.lower type ∨ c.own? name = none ∧ c.ownerOf? name = some (Text.lower type)

theorem register_replacing (c : Catalog) (type : String) (r : Renderer) :
    c.register type (some r) [] true = (c.registered type r [], none) := by
  have hends := register_ends c type (some r) [] true
  generalize c.register type (some r) [] true = result at hends
  cases hends with
  | done => rfl

section

variable {c : Catalog} {type name : String} (r : Renderer)

theorem find?_of_follows (h : c.Follows type name) :
    (c.registered type r []).find? name = some r := by
  rw [find?_registered]
  rcases h with hname | ⟨hown, howner⟩
  · rw [if_pos hname]
  · rw [hown, howner, Option.none_or, Option.bind_some, Table.find?_put, if_pos rfl]
    split_ifs <;> rfl

theorem find?_of_not_follows (h : ¬ c.Follows type name) :
    (c.registered type r []).find? name = c.find? name := by
  have hname : Text.lower name ≠ Text.lower type := fun heq => h (.inl heq)
  rw [find?_registered, if_neg hname, List.map_nil, if_neg List.not_mem_nil, find?_eq_or]
  cases hown : c.own? name with
  | some q => rfl
  | none =>
      cases howner : c.ownerOf? name with
      | none => rfl
      | some owner =>
          have hne : owner ≠ Text.lower type := fun heq => h (.inr ⟨hown, heq ▸ howner⟩)
          rw [Option.bind_some, Option.bind_some, Table.find?_put, if_neg hne]

theorem resolve_of_follows (h : c.Follows type name) :
    (c.registered type r []).resolve name = .ok r := by
  rw [resolve, find?_of_follows r h]

-- The fallback stays, so that only the list of types in a refusal can differ.
theorem resolve_of_not_follows (h : ¬ c.Follows type name) (q : Renderer) :
    (c.registered type r []).resolve name = .ok q ↔ c.resolve name = .ok q := by
  have hfallback : (c.registered type r []).fallback = c.fallback := rfl
  rw [resolve_eq_ok_iff, resolve_eq_ok_iff, supports, supports, find?_of_not_follows r h, hfallback]

end

end Catalog

-- Lines that are there on both sides and are the same, or are on neither.
def SameLines (lines other : Except CatalogError (List Line)) : Prop :=
  ∀ ls, lines = .ok ls ↔ other = .ok ls

theorem SameLines.refl (lines : Except CatalogError (List Line)) : SameLines lines lines :=
  fun _ => Iff.rfl

theorem SameLines.append {first rest first' rest' : Except CatalogError (List Line)}
    (hfirst : SameLines first first') (hrest : SameLines rest rest') :
    SameLines (joined first rest) (joined first' rest') := fun ls => by
  simp only [joined_eq_ok_iff, hfirst _, hrest _]

-- Two catalogs that have the same renderers for the types in a tree set the same lines for it.
theorem lines_same (c d : Catalog) (style : Style) :
    (∀ f : Field, (∀ g ∈ f.flatten, ∀ q, d.resolve g.type = .ok q ↔ c.resolve g.type = .ok q) →
        ∀ a depth, SameLines (fieldLines ⟨d, style⟩ a depth f) (fieldLines ⟨c, style⟩ a depth f)) ∧
      (∀ fs, (∀ g ∈ Field.flattenAll fs, ∀ q, d.resolve g.type = .ok q ↔ c.resolve g.type = .ok q) →
        ∀ a depth, SameLines (fieldsLines ⟨d, style⟩ a depth fs) (fieldsLines ⟨c, style⟩ a depth fs)) ∧
      (∀ ls, (∀ g ∈ Field.flattenLayouts ls, ∀ q, d.resolve g.type = .ok q ↔ c.resolve g.type = .ok q) →
        ∀ a depth first, SameLines (branchLines ⟨d, style⟩ a depth first ls)
          (branchLines ⟨c, style⟩ a depth first ls)) := by
  refine Field.tree_induction ?_ ?_ ?_ ?_ ?_
  · intro key name label type subFields layouts extra hsub hlayouts h a depth
    simp only [Field.flatten, List.forall_mem_cons, List.forall_mem_append] at h
    obtain ⟨htype, hsubTypes, hlayoutTypes⟩ := h
    cases hr : c.resolve type with
    | error e =>
        cases hd : d.resolve type with
        | ok q =>
            have hq := (htype q).mp hd
            rw [hr] at hq
            cases hq
        | error e' =>
            let f : Field := ⟨key, name, label, type, subFields, layouts, extra⟩
            rw [fieldLines_of_refused (s := ⟨d, style⟩) (f := f) hd,
              fieldLines_of_refused (s := ⟨c, style⟩) (f := f) hr]
            intro ls
            constructor <;> intro h <;> cases h
    | ok r =>
        have hsteps : ∀ step ∈ r.steps,
            SameLines (stepLines ⟨d, style⟩ a depth name type subFields layouts step)
              (stepLines ⟨c, style⟩ a depth name type subFields layouts step) := by
          intro step _
          cases step with
          | line offset row => exact .refl _
          | block rows => exact .refl _
          | children offset => exact hsub hsubTypes _ _
          | splice => exact hsub hsubTypes _ _
          | branches => exact (hlayouts hlayoutTypes _ _ _).append (.refl _)
        have hall := ((SameLines.refl (.ok [heading depth label type])).append
          (steps_related (SameLines.refl _) SameLines.append hsteps)).append (.refl (.ok [Code.blank]))
        rw [fieldLines_of_resolve (s := ⟨d, style⟩) ((htype r).mpr hr),
          fieldLines_of_resolve (s := ⟨c, style⟩) hr]
        exact hall
  · exact fun _ a depth => .refl _
  · intro f fs hf hfs h a depth
    simp only [Field.flattenAll, List.forall_mem_append] at h
    rw [fieldsLines_cons, fieldsLines_cons]
    exact (hf h.1 a depth).append (hfs h.2 a depth)
  · exact fun _ a depth first => .refl _
  · intro key name label subFields extra ls hsub hlayouts h a depth first
    simp only [Field.flattenLayouts, List.forall_mem_append] at h
    rw [branchLines_cons, branchLines_cons]
    exact (((SameLines.refl _).append (hsub h.1 _ _)).append (.refl _)).append (hlayouts h.2 _ _ _)

-- A renderer that replaces that of a type is found for the type and for the names that follow it, and all
-- other names are found as before. So the code of a field of such a type is the text of the lines that the
-- new renderer sets, between the heading and the blank line; a field of another type that sets all of its
-- code itself is rendered as before, and so is a field without such types anywhere in it.
theorem replaced_for_followers (c : Catalog) (type : String) (r : Renderer) :
    let result := c.register type (some r) [] true
    let d := result.1
    result.2 = none ∧ (∀ name, c.Follows type name → d.find? name = some r) ∧
      (∀ name, ¬ c.Follows type name → d.find? name = c.find? name) ∧
      ∀ style a depth (f : Field),
        (c.Follows type f.type → ∀ code, (renderField ⟨d, style⟩ a depth f).text = .ok code ↔
          ∃ ls, r.lines ⟨d, style⟩ a depth f = .ok ls ∧ Code.text? style.unit
            (heading depth f.label f.type :: ls ++ [Code.blank]) = .ok code) ∧
        (∀ q, ¬ c.Follows type f.type → c.resolve f.type = .ok q → q.isLeaf = true →
          renderField ⟨d, style⟩ a depth f = renderField ⟨c, style⟩ a depth f) ∧
        ((∀ g ∈ f.flatten, ¬ c.Follows type g.type) → ∀ code,
          (renderField ⟨d, style⟩ a depth f).text = .ok code ↔
            (renderField ⟨c, style⟩ a depth f).text = .ok code) := by
  intro result d
  have hresult : result = (c.registered type r [], none) := c.register_replacing type r
  have hd : d = c.registered type r [] := congrArg Prod.fst hresult
  rw [hd]
  refine ⟨congrArg Prod.snd hresult, fun _ => Catalog.find?_of_follows r,
    fun _ => Catalog.find?_of_not_follows r, fun style a depth f => ⟨fun h code => ?_, fun q h hq hleaf => ?_,
    fun h code => ?_⟩⟩
  · let after : Setting := ⟨c.registered type r [], style⟩
    have hlines : (fieldTrace after a depth f).lines? = enclosed depth f (r.lines after a depth f) :=
      fieldLines_eq_enclosed (Catalog.resolve_of_follows r h) a depth
    rw [renderField, Trace.text_eq_ok_iff, hlines]
    constructor
    · rintro ⟨all, hall, hcode⟩
      obtain ⟨ls, hls, rfl⟩ := enclosed_eq_ok_iff.mp hall
      exact ⟨ls, hls, hcode⟩
    · rintro ⟨ls, hls, hcode⟩
      exact ⟨_, enclosed_eq_ok_iff.mpr ⟨ls, hls, rfl⟩, hcode⟩
  · let before : Setting := ⟨c, style⟩
    let after : Setting := ⟨c.registered type r [], style⟩
    have hstyle : after.style = before.style := rfl
    have htrace : fieldTrace after a depth f = fieldTrace before a depth f :=
      fieldTrace_of_isLeaf hleaf hstyle hq ((Catalog.resolve_of_not_follows r h q).mpr hq) a depth
    exact congrArg (Trace.rendered style.unit) htrace
  · have hsame := (lines_same c (c.registered type r []) style).1 f
      (fun g hg => Catalog.resolve_of_not_follows r (h g hg)) a depth
    rw [renderField, renderField, Trace.text_eq_ok_iff, Trace.text_eq_ok_iff]
    exact exists_congr fun ls => and_congr_left' (hsame ls)

-- Two types, one of them with an alias, and a field of the other with one inside that is not shown.
def proseCatalog : Catalog := .after none [.register "text" (some .text) ["textarea"] false,
  .register "wysiwyg" (some .wysiwyg) [] false]

def wrappedText : Field :=
  ⟨"field_body", "body", "Body", "WYSIWYG", [⟨"field_note", "note", "Note", "text", [], [], []⟩], [], []⟩

theorem replaced_for_followers_of_proseCatalog :
    let d := (proseCatalog.register "TEXT" (some .url) [] true).1
    d.find? "TextArea" = some .url ∧ d.find? "WYSIWYG" = proseCatalog.find? "WYSIWYG" ∧
      renderField ⟨d, .plain⟩ {} 0 wrappedText = renderField ⟨proseCatalog, .plain⟩ {} 0 wrappedText := by
  intro d
  have hanswers : (proseCatalog.own? "TextArea" = none ∧
        proseCatalog.ownerOf? "TextArea" = some (Text.lower "TEXT")) ∧
      Text.lower "WYSIWYG" ≠ Text.lower "TEXT" ∧ proseCatalog.ownerOf? "WYSIWYG" = none ∧
        proseCatalog.find? "WYSIWYG" = some .wysiwyg := by
    decide
  obtain ⟨hfollows, hother, hunowned, hfind⟩ := hanswers
  have hapart : ¬ proseCatalog.Follows "TEXT" "WYSIWYG" := by
    rintro (hsame | ⟨-, howned⟩)
    · exact hother hsame
    · rw [hunowned] at howned
      cases howned
  have hwysiwyg : proseCatalog.resolve "WYSIWYG" = .ok .wysiwyg := by rw [Catalog.resolve, hfind]
  have hleaf : Renderer.wysiwyg.isLeaf = true := rfl
  obtain ⟨-, hfollowers, hothers, hrendered⟩ := replaced_for_followers proseCatalog "TEXT" .url
  exact ⟨hfollowers "TextArea" (.inr hfollows), hothers "WYSIWYG" hapart,
    (hrendered .plain {} 0 wrappedText).2.1 .wysiwyg hapart hwysiwyg hleaf⟩

end FieldTemplates.Snippet
