import FieldTemplates.Proofs.Snippet.Rows

namespace FieldTemplates.Snippet

theorem rowLine_rekeyed (style : Style) (a : Accessor) (k : String) (subject : Subject) (depth : Int)
    (offset : Nat) (row : Row) :
    rowLine style { a with groupKey := k } subject depth offset row =
      rowLine style a subject depth offset row := by
  have htext : rowText style { a with groupKey := k } subject row = rowText style a subject row := by
    rw [← rowText_isSubField, ← rowText_isSubField style a]
  rw [rowLine, rowLine, htext]

theorem blockText_rekeyed (style : Style) (a : Accessor) (k : String) (subject : Subject)
    (rows : List (Nat × Row)) :
    blockText style { a with groupKey := k } subject rows = blockText style a subject rows := by
  have htext : rowText style { a with groupKey := k } subject = rowText style a subject := by
    funext row
    rw [← rowText_isSubField, ← rowText_isSubField style a]
  rw [blockText, blockText, htext]

theorem branchesEnd_unkeyed (depth : Int) (layouts : List Layout) :
    branchesEnd depth (Field.unkeyedLayouts layouts) = branchesEnd depth layouts := by
  rcases layouts with _ | ⟨⟨_, _, _, _, _⟩, _⟩ <;> rfl

-- Neither the key of the group nor those of the fields are written anywhere.
theorem written_rekeyed (s : Setting) (k : String) :
    (∀ f a depth, (fieldTrace s { a with groupKey := k } depth f.unkeyed).written =
        (fieldTrace s a depth f).written) ∧
      (∀ fs a depth, (fieldsTrace s { a with groupKey := k } depth (Field.unkeyedAll fs)).written =
        (fieldsTrace s a depth fs).written) ∧
      (∀ ls a depth first,
        (branchTrace s { a with groupKey := k } depth first (Field.unkeyedLayouts ls)).written =
          (branchTrace s a depth first ls).written) := by
  refine Field.tree_induction ?_ ?_ ?_ ?_ ?_
  · intro key name label type subFields layouts extra hsub hlayouts a depth
    let f : Field := ⟨key, name, label, type, subFields, layouts, extra⟩
    have htype : f.unkeyed.type = type := by simp only [f, Field.unkeyed]
    have hheading : heading depth f.unkeyed.label f.unkeyed.type = heading depth label type := by
      simp only [f, Field.unkeyed]
    cases hr : s.catalog.resolve type with
    | error e =>
        rw [fieldTrace_of_refused (f := f.unkeyed) (htype ▸ hr), fieldTrace_of_refused (f := f) hr,
          hheading]
    | ok r =>
        have hsteps : ∀ step ∈ r.steps,
            (stepTrace s ⟨f.unkeyed, { a with groupKey := k }, depth⟩ step).written =
              (stepTrace s ⟨f, a, depth⟩ step).written := by
          intro step _
          simp only [f, Field.unkeyed]
          cases step with
          | line offset row => simp only [stepTrace, Call.subject, rowLine_rekeyed]
          | block rows => simp only [stepTrace, Call.subject, blockText_rekeyed]
          | children offset => exact hsub (a.nested name) _
          | splice => exact hsub (a.nested a.enclosing) _
          | branches =>
              refine Trace.written_andThen_congr (hlayouts (a.nested name) depth true) ?_
              rw [branchesEnd_unkeyed]
        rw [fieldTrace_of_resolve (f := f.unkeyed) (htype ▸ hr), fieldTrace_of_resolve (f := f) hr,
          hheading]
        exact Trace.written_andThen_congr rfl (Trace.written_andThen_congr rfl
          (Trace.written_andThen_congr (Trace.written_all_congr hsteps) rfl))
  · exact fun a depth => rfl
  · intro f fs hf hfs a depth
    exact Trace.written_andThen_congr (hf a depth) (hfs a depth)
  · exact fun a depth first => rfl
  · intro key name label subFields extra ls hsub hlayouts a depth first
    exact Trace.written_andThen_congr rfl (Trace.written_andThen_congr (hsub a (depth + 4))
      (Trace.written_andThen_congr rfl (hlayouts a depth false)))

-- The text of a level is that of its fields without their keys, whatever key the group has.
theorem renderLevel_unkeyed (s : Setting) (k k' : String) (depth : Int) (parent : String)
    (fs : List Field) : (renderLevel s k depth parent (Field.unkeyedAll fs)).text =
      (renderLevel s k' depth parent fs).text :=
  Trace.text_congr
    ((written_rekeyed s k).2.1 fs (Accessor.nested { groupKey := k' } parent) depth) s.style.unit

theorem renderLevel_of_unkeyed (s : Setting) {fs gs : List Field}
    (h : Field.unkeyedAll fs = Field.unkeyedAll gs) (k k' : String) (depth : Int) (parent : String) :
    (renderLevel s k depth parent fs).text = (renderLevel s k' depth parent gs).text := by
  rw [← renderLevel_unkeyed s k k, h, renderLevel_unkeyed]

end FieldTemplates.Snippet
