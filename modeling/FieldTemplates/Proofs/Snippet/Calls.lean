import FieldTemplates.Proofs.Snippet.Shown

namespace FieldTemplates.Snippet

namespace Trace

variable {t u : Trace} {unit : List Char}

-- All calls, where nothing ends them early.
def calls (t : Trace) : List Call := t.events.filterMap Event.call?

theorem calls_lines (ls : List Code.Line) : (lines ls).calls = [] := by
  have hnone : Event.call? ∘ Event.line = fun _ => none := rfl
  rw [lines, calls, List.filterMap_map, hnone, List.filterMap_none]

theorem calls_andThen (h : t.refusal = none) (u : Trace) :
    (t.andThen u).calls = t.calls ++ u.calls := by
  rw [andThen, h]
  exact List.filterMap_append

theorem refusal_andThen (h : t.refusal = none) (u : Trace) : (t.andThen u).refusal = u.refusal := by
  rw [andThen, h]

-- A line without a text ends the calls too.
theorem calls_rendered (t : Trace) (unit : List Char) : (t.rendered unit).calls <+: t.calls := by
  have hfirst := List.takeWhile_prefix (l := t.events) fun e => (e.error? unit).isNone
  exact hfirst.filterMap Event.call?

theorem calls_of_text {code : List Char} (h : (t.rendered unit).text = .ok code) :
    (t.rendered unit).calls = t.calls := by
  have hnone : t.events.findSome? (Event.error? unit) = none := by
    simp only [rendered] at h
    split at h
    · cases h
    · cases h
    · assumption
  have hevents : ∀ e ∈ t.events, (e.error? unit).isNone = true := fun e he =>
    Option.isNone_iff_eq_none.mpr (List.findSome?_eq_none_iff.mp hnone e he)
  rw [rendered, List.takeWhile_eq_self_iff.mpr hevents, calls]

end Trace

-- What a renderer is handed at a place: the field, and how values are read there.
def Spot.handed (k : String) (p : Spot) : Field × Accessor := (p.field, .inside k p.around)

-- Nothing is refused, and a renderer is called at each of these places, in order.
structure Hands (k : String) (t : Trace) (spots : List Spot) : Prop where
  total : t.refusal = none
  calls : t.calls.map (fun c => (c.field, c.accessor)) = spots.map (Spot.handed k)

namespace Hands

variable {k : String}

theorem lines (ls : List Code.Line) : Hands k (.lines ls) [] where
  total := rfl
  calls := congrArg (List.map _) (Trace.calls_lines ls)

theorem append {t u : Trace} {ps qs : List Spot} (ht : Hands k t ps) (hu : Hands k u qs) :
    Hands k (t.andThen u) (ps ++ qs) where
  total := (Trace.refusal_andThen ht.total u).trans hu.total
  calls := by rw [Trace.calls_andThen ht.total, List.map_append, List.map_append, ht.calls, hu.calls]

theorem all {γ : Type} {xs : List γ} {trace : γ → Trace} {spots : γ → List Spot}
    (h : ∀ x ∈ xs, Hands k (trace x) (spots x)) :
    Hands k (.all (xs.map trace)) (xs.flatMap spots) := by
  induction xs with
  | nil => exact ⟨rfl, rfl⟩
  | cons x xs ih =>
      exact (h x List.mem_cons_self).append (ih fun y hy => h y (List.mem_cons_of_mem _ hy))

end Hands

-- Every field that is shown is handed to a renderer once, with what the fields around it say. What a
-- renderer hands on is made of what it is handed, so that the accessor is that of the fields around.
theorem fields_handed (k : String) (style : Style) :
    (∀ (f : Field) depth around,
        Hands k (fieldTrace ⟨.standard, style⟩ (.inside k around) depth f) (f.spots around)) ∧
      (∀ fs depth around, Hands k (fieldsTrace ⟨.standard, style⟩ (.inside k around) depth fs)
        (Field.spotsAll around fs)) ∧
      (∀ ls depth around first, Hands k
        (branchTrace ⟨.standard, style⟩ (.inside k around) depth first ls)
        (Field.spotsIn around ls)) := by
  refine Field.tree_induction ?_ ?_ ?_ ?_ ?_
  · intro key name label type subFields layouts extra hsub hlayouts depth around
    obtain ⟨r, -, hr⟩ := Catalog.standard_resolve type
    let s : Setting := ⟨.standard, style⟩
    let f : Field := ⟨key, name, label, type, subFields, layouts, extra⟩
    let call : Call := ⟨f, .inside k around, depth⟩
    have hsteps : ∀ step ∈ r.steps, Hands k (stepTrace s call step)
        (step.held (Field.spotsAll (f :: around) subFields) (Field.spotsAll (f :: around) subFields)
          (Field.spotsIn (f :: around) layouts)) := by
      intro step hstep
      have hholds := standard_holds hr step hstep
      cases step with
      | line | block => exact .lines _
      | children offset =>
          have hnested := Accessor.nested_inside k around (f := f) (beq_eq_false_iff_ne.mpr hholds.1)
          simp only [stepTrace, call, hnested, Step.held]
          exact hsub _ _
      | splice =>
          have hnested := Accessor.nested_enclosing_inside k around (f := f) (beq_iff_eq.mpr hholds)
          simp only [stepTrace, call, hnested, Step.held]
          exact hsub _ _
      | branches =>
          have hnested := Accessor.nested_inside k around (f := f) (beq_eq_false_iff_ne.mpr hholds)
          have hall := (hlayouts depth (f :: around) true).append (.lines (branchesEnd depth layouts))
          rw [List.append_nil] at hall
          simp only [stepTrace, call, hnested, Step.held]
          exact hall
    have hcalled : Hands k (.called call) [⟨f, around⟩] := ⟨rfl, rfl⟩
    have hall := (Hands.lines [heading depth label type]).append
      (hcalled.append ((Hands.all hsteps).append (.lines [Code.blank])))
    rw [List.append_nil] at hall
    rw [fieldTrace_of_resolve (s := s) (f := f) hr, spots_of_resolve (f := f) hr]
    exact hall
  · exact fun depth around => ⟨rfl, rfl⟩
  · intro f fs hf hfs depth around
    exact (hf depth around).append (hfs depth around)
  · exact fun depth around first => ⟨rfl, rfl⟩
  · intro key name label subFields extra ls hsub hlayouts depth around first
    have hall := (Hands.lines (branchOpening first depth name)).append
      ((hsub (depth + 4) around).append
        ((Hands.lines (branchClosing depth)).append (hlayouts depth around false)))
    exact hall

end FieldTemplates.Snippet
