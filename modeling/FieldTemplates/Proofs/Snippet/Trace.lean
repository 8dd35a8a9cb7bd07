import FieldTemplates.Proofs.Field.Tree
import FieldTemplates.Snippet.Render

namespace FieldTemplates.Snippet

open Code (Line)

-- Lines and then more of them, if all are there.
def joined (lines more : Except CatalogError (List Line)) : Except CatalogError (List Line) := do
  let ls ← lines
  let rest ← more
  .ok (ls ++ rest)

theorem joined_nil (lines : Except CatalogError (List Line)) : joined lines (.ok []) = lines := by
  cases lines with
  | error e => rfl
  | ok ls => exact congrArg Except.ok (List.append_nil ls)

theorem nil_joined (lines : Except CatalogError (List Line)) : joined (.ok []) lines = lines := by
  cases lines <;> rfl

theorem joined_assoc (lines more last : Except CatalogError (List Line)) :
    joined (joined lines more) last = joined lines (joined more last) := by
  cases lines with
  | error e => rfl
  | ok ls =>
      cases more with
      | error e => rfl
      | ok ms =>
          cases last with
          | error e => rfl
          | ok rest => exact congrArg Except.ok (List.append_assoc ls ms rest)

theorem joined_eq_ok_iff {lines more : Except CatalogError (List Line)} {ls : List Line} :
    joined lines more = .ok ls ↔
      ∃ first rest, lines = .ok first ∧ more = .ok rest ∧ ls = first ++ rest := by
  constructor
  · intro h
    cases lines with
    | error e => cases h
    | ok first =>
        cases more with
        | error e => cases h
        | ok rest => exact ⟨first, rest, rfl, rfl, (Except.ok.inj h).symm⟩
  · rintro ⟨first, rest, rfl, rfl, rfl⟩
    rfl

-- The lines of all steps, one after another.
def stepsLines (f : Step → Except CatalogError (List Line)) (steps : List Step) :
    Except CatalogError (List Line) := (steps.mapM f).map List.flatten

theorem stepsLines_cons (f : Step → Except CatalogError (List Line)) (step : Step)
    (steps : List Step) : stepsLines f (step :: steps) = joined (f step) (stepsLines f steps) := by
  rw [stepsLines, stepsLines, List.mapM_cons]
  cases f step <;> cases steps.mapM f <;> rfl

def Event.line? : Event → Option Line
  | call _ => none
  | line l => some l

namespace Trace

-- A trace without its calls.
def written (t : Trace) : List Line × Option CatalogError :=
  (t.events.filterMap Event.line?, t.refusal)

-- All lines, where nothing ends them early.
def lines? (t : Trace) : Except CatalogError (List Line) :=
  match t.refusal with
  | some e => .error e
  | none => .ok (t.events.filterMap Event.line?)

variable {t u : Trace} {unit : List Char}

theorem andThen_empty (t : Trace) : t.andThen .empty = t := by
  obtain ⟨events, refusal⟩ := t
  cases refusal with
  | some e => rfl
  | none => exact congrArg (Trace.mk · none) (List.append_nil events)

theorem lines?_eq_ok_iff {ls : List Line} : t.lines? = .ok ls ↔ t.written = (ls, none) := by
  obtain ⟨events, refusal⟩ := t
  cases refusal <;> simp [lines?, written]

theorem written_andThen (t u : Trace) : (t.andThen u).written =
    match t.refusal with
    | some e => (t.written.1, some e)
    | none => (t.written.1 ++ u.written.1, u.written.2) := by
  obtain ⟨events, refusal⟩ := t
  cases refusal with
  | some e => rfl
  | none => exact congrArg (·, u.refusal) List.filterMap_append

theorem written_andThen_congr {t' u' : Trace} (ht : t.written = t'.written)
    (hu : u.written = u'.written) : (t.andThen u).written = (t'.andThen u').written := by
  have hrefusal : t.refusal = t'.refusal := congrArg Prod.snd ht
  rw [written_andThen, written_andThen, ht, hu, hrefusal]

theorem written_all_congr {γ : Type} {xs : List γ} {f g : γ → Trace}
    (h : ∀ x ∈ xs, (f x).written = (g x).written) :
    (all (xs.map f)).written = (all (xs.map g)).written := by
  induction xs with
  | nil => rfl
  | cons x xs ih =>
      exact written_andThen_congr (h x List.mem_cons_self)
        (ih fun y hy => h y (List.mem_cons_of_mem _ hy))

theorem lines?_andThen (t u : Trace) : (t.andThen u).lines? = joined t.lines? u.lines? := by
  obtain ⟨events, refusal⟩ := t
  obtain ⟨more, refusal'⟩ := u
  cases refusal with
  | some e => rfl
  | none =>
      cases refusal' with
      | some e => rfl
      | none => exact congrArg Except.ok List.filterMap_append

theorem lines?_lines (ls : List Line) : (lines ls).lines? = .ok ls := by
  have hsome : Event.line? ∘ Event.line = some := rfl
  rw [lines, lines?, List.filterMap_map, hsome, List.filterMap_some]

theorem lines?_called (c : Call) : (called c).lines? = .ok [] := rfl

theorem lines?_all (f : Step → Trace) (steps : List Step) :
    (all (steps.map f)).lines? = stepsLines (fun step => (f step).lines?) steps := by
  induction steps with
  | nil => rfl
  | cons step steps ih =>
      rw [stepsLines_cons, ← ih]
      exact lines?_andThen _ _

theorem findSome?_error (unit : List Char) (es : List Event) :
    es.findSome? (Event.error? unit) = (es.filterMap Event.line?).findSome? (Line.error? unit) := by
  have herror : Event.error? unit = fun e => (Event.line? e).bind (Line.error? unit) := by
    funext e
    cases e <;> rfl
  rw [← List.head?_filterMap, ← List.head?_filterMap, List.filterMap_filterMap, herror]

theorem flatMap_text (unit : List Char) (es : List Event) :
    es.flatMap (Event.text unit) = Code.text unit (es.filterMap Event.line?) := by
  induction es with
  | nil => rfl
  | cons e es ih =>
      rw [List.flatMap_cons, ih]
      cases e <;> rfl

theorem text_rendered (unit : List Char) (t : Trace) : (t.rendered unit).text =
    match t.written.1.findSome? (Line.error? unit), t.written.2 with
    | some e, _ => .error (.indentation e)
    | none, some e => .error (.catalog e)
    | none, none => .ok (Code.text unit t.written.1) := by
  simp only [rendered, findSome?_error, flatMap_text]
  rfl

-- Calls leave no text.
theorem text_congr (h : t.written = u.written) (unit : List Char) :
    (t.rendered unit).text = (u.rendered unit).text := by
  rw [text_rendered, text_rendered, h]

theorem text_of_lines {ls : List Line} (h : t.lines? = .ok ls) (unit : List Char) :
    (t.rendered unit).text = (Code.text? unit ls).mapError .indentation := by
  rw [text_rendered, lines?_eq_ok_iff.mp h, Code.text?]
  cases ls.findSome? (Line.error? unit) <;> rfl

theorem text_eq_ok_iff {code : List Char} : (t.rendered unit).text = .ok code ↔
    ∃ ls, t.lines? = .ok ls ∧ Code.text? unit ls = .ok code := by
  constructor
  · intro h
    cases hlines : t.lines? with
    | ok ls =>
        rw [text_of_lines hlines] at h
        refine ⟨ls, rfl, ?_⟩
        cases htext : Code.text? unit ls with
        | error e =>
            rw [htext] at h
            cases h
        | ok text =>
            rw [htext] at h
            exact congrArg Except.ok (Except.ok.inj h)
    | error e =>
        obtain ⟨events, refusal⟩ := t
        cases refusal with
        | none => cases hlines
        | some e =>
            rw [text_rendered] at h
            split at h
            · cases h
            · cases h
            · rename_i hnone
              cases hnone
  · rintro ⟨ls, hlines, htext⟩
    rw [text_of_lines hlines, htext]
    rfl

-- Lines that are there have their text, unless an indentation is too large to be written.
theorem text_ok {ls : List Line} (h : t.lines? = .ok ls) (unit : List Char) :
    (∃ e, (t.rendered unit).text = .error (.indentation e)) ∨
      (t.rendered unit).text = .ok (Code.text unit ls) := by
  rw [text_of_lines h]
  cases htext : Code.text? unit ls with
  | error e => exact .inl ⟨e, rfl⟩
  | ok code =>
      simp only [Code.text?] at htext
      split at htext
      · cases htext
      · cases htext
        exact .inr rfl

end Trace

-- What a step of a renderer does, from what the renderer was called with.
def stepTrace (s : Setting) (c : Call) : Step → Trace
  | .line offset row => .lines [rowLine s.style c.accessor c.subject c.depth offset row]
  | .block rows => .lines (Code.block c.depth (blockText s.style c.accessor c.subject rows))
  | .children offset =>
    fieldsTrace s (c.accessor.nested c.field.name) (c.depth + offset) c.field.subFields
  | .splice => fieldsTrace s (c.accessor.nested c.accessor.enclosing) c.depth c.field.subFields
  | .branches => (branchTrace s (c.accessor.nested c.field.name) c.depth true c.field.layouts).andThen
      (.lines (branchesEnd c.depth c.field.layouts))

theorem fieldTrace_of_resolve {s : Setting} {f : Field} {r : Renderer}
    (hr : s.catalog.resolve f.type = .ok r) (a : Accessor) (depth : Int) :
    fieldTrace s a depth f = (Trace.lines [heading depth f.label f.type]).andThen
      ((Trace.called ⟨f, a, depth⟩).andThen
        ((Trace.all (r.steps.map (stepTrace s ⟨f, a, depth⟩))).andThen (.lines [Code.blank]))) := by
  obtain ⟨key, name, label, type, subFields, layouts, extra⟩ := f
  simp only [fieldTrace, hr]
  rfl

theorem fieldTrace_of_refused {s : Setting} {f : Field} {e : CatalogError}
    (he : s.catalog.resolve f.type = .error e) (a : Accessor) (depth : Int) :
    fieldTrace s a depth f =
      (Trace.lines [heading depth f.label f.type]).andThen (.refused e) := by
  obtain ⟨key, name, label, type, subFields, layouts, extra⟩ := f
  simp only [fieldTrace, he]

-- The lines of fields, where each type in them has a renderer.
def fieldLines (s : Setting) (a : Accessor) (depth : Int) (f : Field) :
    Except CatalogError (List Line) := (fieldTrace s a depth f).lines?

def fieldsLines (s : Setting) (a : Accessor) (depth : Int) (fs : List Field) :
    Except CatalogError (List Line) := (fieldsTrace s a depth fs).lines?

def branchLines (s : Setting) (a : Accessor) (depth : Int) (first : Bool) (ls : List Layout) :
    Except CatalogError (List Line) := (branchTrace s a depth first ls).lines?

-- What a step of a field's renderer sets.
def stepLines (s : Setting) (a : Accessor) (depth : Int) (name type : String)
    (subFields : List Field) (layouts : List Layout) : Step → Except CatalogError (List Line)
  | .line offset row => .ok [rowLine s.style a ⟨name, type⟩ depth offset row]
  | .block rows => .ok (Code.block depth (blockText s.style a ⟨name, type⟩ rows))
  | .children offset => fieldsLines s (a.nested name) (depth + offset) subFields
  | .splice => fieldsLines s (a.nested a.enclosing) depth subFields
  | .branches =>
    joined (branchLines s (a.nested name) depth true layouts) (.ok (branchesEnd depth layouts))

theorem lines?_stepTrace (s : Setting) (c : Call) (step : Step) : (stepTrace s c step).lines? =
    stepLines s c.accessor c.depth c.field.name c.field.type c.field.subFields c.field.layouts step := by
  cases step with
  | line | block => exact Trace.lines?_lines _
  | children | splice => rfl
  | branches =>
      rw [stepTrace, Trace.lines?_andThen, Trace.lines?_lines]
      rfl

theorem fieldLines_of_resolve {s : Setting} {type : String} {r : Renderer}
    (hr : s.catalog.resolve type = .ok r) (a : Accessor) (depth : Int) (key name label : String)
    (subFields : List Field) (layouts : List Layout) (extra : List (String × Value)) :
    fieldLines s a depth ⟨key, name, label, type, subFields, layouts, extra⟩ =
      joined (joined (.ok [heading depth label type])
        (stepsLines (stepLines s a depth name type subFields layouts) r.steps)) (.ok [Code.blank]) := by
  let f : Field := ⟨key, name, label, type, subFields, layouts, extra⟩
  have hsteps : (Trace.all (r.steps.map (stepTrace s ⟨f, a, depth⟩))).lines? =
      stepsLines (stepLines s a depth name type subFields layouts) r.steps := by
    rw [Trace.lines?_all]
    exact congrArg (stepsLines · r.steps) (funext (lines?_stepTrace s ⟨f, a, depth⟩))
  rw [fieldLines, fieldTrace_of_resolve (f := f) hr, Trace.lines?_andThen, Trace.lines?_andThen,
    Trace.lines?_andThen, Trace.lines?_lines, Trace.lines?_lines, Trace.lines?_called, nil_joined,
    hsteps, joined_assoc]

theorem fieldLines_of_refused {s : Setting} {f : Field} {e : CatalogError}
    (he : s.catalog.resolve f.type = .error e) (a : Accessor) (depth : Int) :
    fieldLines s a depth f = .error e := by
  rw [fieldLines, fieldTrace_of_refused he]
  rfl

theorem branchLines_cons (s : Setting) (a : Accessor) (depth : Int) (first : Bool)
    (key name label : String) (subFields : List Field) (extra : List (String × Value))
    (ls : List Layout) : branchLines s a depth first (⟨key, name, label, subFields, extra⟩ :: ls) =
      joined (joined (joined (.ok (branchOpening first depth name))
        (fieldsLines s a (depth + 4) subFields)) (.ok (branchClosing depth)))
        (branchLines s a depth false ls) := by
  rw [branchLines, branchTrace, Trace.lines?_andThen, Trace.lines?_andThen, Trace.lines?_andThen,
    Trace.lines?_lines, Trace.lines?_lines, joined_assoc, joined_assoc]
  rfl

theorem fieldsLines_cons {s : Setting} (a : Accessor) (depth : Int) (f : Field) (fs : List Field) :
    fieldsLines s a depth (f :: fs) = joined (fieldLines s a depth f) (fieldsLines s a depth fs) := by
  rw [fieldsLines, fieldsTrace, Trace.lines?_andThen]
  rfl

theorem fieldsTrace_singleton {s : Setting} (a : Accessor) (depth : Int) (f : Field) :
    fieldsTrace s a depth [f] = fieldTrace s a depth f := Trace.andThen_empty _

theorem fieldsLines_singleton {s : Setting} (a : Accessor) (depth : Int) (f : Field) :
    fieldsLines s a depth [f] = fieldLines s a depth f := congrArg Trace.lines? (fieldsTrace_singleton a depth f)

theorem fieldsLines_append {s : Setting} (a : Accessor) (depth : Int) (fs gs : List Field) :
    fieldsLines s a depth (fs ++ gs) = joined (fieldsLines s a depth fs) (fieldsLines s a depth gs) := by
  induction fs with
  | nil => exact (nil_joined _).symm
  | cons f fs ih => rw [List.cons_append, fieldsLines_cons, fieldsLines_cons, ih, joined_assoc]

-- What holds of no lines, and of lines that are put together, holds of the lines of all steps.
theorem steps_closed {β : Type} {P : Except CatalogError (List Line) → List β → Prop}
    (nil : P (.ok []) [])
    (append : ∀ {first rest bs cs}, P first bs → P rest cs →
      P (joined first rest) (bs ++ cs))
    {f : Step → Except CatalogError (List Line)} {g : Step → List β} {steps : List Step}
    (h : ∀ step ∈ steps, P (f step) (g step)) :
    P (stepsLines f steps) (steps.flatMap g) := by
  induction steps with
  | nil => exact nil
  | cons step steps ih =>
      have hrest := ih fun other hother => h other (List.mem_cons_of_mem _ hother)
      rw [stepsLines_cons]
      exact append (h step List.mem_cons_self) hrest

-- The same for two ways to set the lines of steps.
theorem steps_related {R : Except CatalogError (List Line) → Except CatalogError (List Line) → Prop}
    (nil : R (.ok []) (.ok []))
    (append : ∀ {first rest first' rest'}, R first first' → R rest rest' →
      R (joined first rest) (joined first' rest'))
    {f g : Step → Except CatalogError (List Line)} {steps : List Step}
    (h : ∀ step ∈ steps, R (f step) (g step)) :
    R (stepsLines f steps) (stepsLines g steps) := by
  induction steps with
  | nil => exact nil
  | cons step steps ih =>
      have hrest := ih fun other hother => h other (List.mem_cons_of_mem _ hother)
      rw [stepsLines_cons, stepsLines_cons]
      exact append (h step List.mem_cons_self) hrest

-- All lines are there where every type has a renderer.
theorem exists_lines {s : Setting} (htotal : ∀ type, ∃ r, s.catalog.resolve type = .ok r) :
    (∀ f a depth, ∃ ls, fieldLines s a depth f = .ok ls) ∧
      (∀ fs a depth, ∃ ls, fieldsLines s a depth fs = .ok ls) ∧
      (∀ ls a depth first, ∃ ms, branchLines s a depth first ls = .ok ms) := by
  have append : ∀ {first rest : Except CatalogError (List Line)}, (∃ ls, first = .ok ls) →
      (∃ ls, rest = .ok ls) → ∃ ls, joined first rest = .ok ls := by
    rintro _ _ ⟨ls, rfl⟩ ⟨ms, rfl⟩
    exact ⟨ls ++ ms, rfl⟩
  refine Field.tree_induction ?_ ?_ ?_ ?_ ?_
  · intro key name label type subFields layouts extra hsub hlayouts a depth
    obtain ⟨r, hr⟩ := htotal type
    have hsteps : ∀ step ∈ r.steps,
        ∃ ls, stepLines s a depth name type subFields layouts step = .ok ls := by
      intro step _
      cases step with
      | line | block => exact ⟨_, rfl⟩
      | children offset => exact hsub _ _
      | splice => exact hsub _ _
      | branches => exact append (hlayouts _ _ _) ⟨_, rfl⟩
    rw [fieldLines_of_resolve hr]
    exact append (append ⟨_, rfl⟩ (steps_closed (P := fun lines (_ : List Unit) => ∃ ls, lines = .ok ls)
      (g := fun _ => []) ⟨[], rfl⟩ append hsteps)) ⟨_, rfl⟩
  · exact fun a depth => ⟨[], rfl⟩
  · intro f fs hf hfs a depth
    rw [fieldsLines_cons]
    exact append (hf a depth) (hfs a depth)
  · exact fun a depth first => ⟨[], rfl⟩
  · intro key name label subFields extra ls hsub hlayouts a depth first
    rw [branchLines_cons]
    exact append (append (append ⟨_, rfl⟩ (hsub _ _)) ⟨_, rfl⟩) (hlayouts _ _ _)

end FieldTemplates.Snippet
