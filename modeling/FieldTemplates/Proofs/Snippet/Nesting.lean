import FieldTemplates.Proofs.Snippet.Standard

namespace FieldTemplates.Snippet

open Php

def echoText : List Token := [.word "echo".toList, .literal [], semicolon]

def haveRows : List Token := [.word "have_rows".toList, openRound, .literal [], closeRound]

def theRow : List Token := [.word "the_row".toList, openRound, closeRound, semicolon]

-- The loop over the rows of a field, if it has any.
def framed (body : List Token) : List Token :=
  ifWord :: guarded haveRows (echoText ++
    whileWord :: openRound :: haveRows ++ closeRound :: colon :: (theRow ++ body) ++
      endwhileWord :: semicolon :: echoText)

-- The test for a layout, its name left out.
def layoutTest : List Token :=
  [.word "get_row_layout".toList, openRound, closeRound, .symbol '=', .symbol '=', .literal []]

def elseifs : List (List Token) → List Token
  | [] => []
  | body :: bodies => elseifWord :: guarded layoutTest body ++ elseifs bodies

-- One chain with a branch for each body, and none without a body.
def ifChain : List (List Token) → List Token
  | [] => []
  | body :: bodies => ifWord :: guarded layoutTest body ++ elseifs bodies

-- Rows that write a text and nothing else.
def divRows : List Row := [
  ["echo '<div class=\"repeater-", .className, "\">';"],
  ["echo '<div class=\"repeater-item\">';"],
  ["echo '<div class=\"flexible-content-", .className, "\">';"],
  ["echo '<div class=\"group-", .className, "\">';"],
  ["echo '</div>';"],
  layoutRow]

section

variable (sub : Bool)

theorem outline_rows :
    Renderer.rowsGuard.outline sub ⟨[], [], []⟩ =
        ifWord :: openRound :: haveRows ++ [closeRound, openBody] ∧
      Renderer.rowsLoop.outline sub ⟨[], [], []⟩ =
        whileWord :: openRound :: haveRows ++ closeRound :: colon :: theRow ∧
      Renderer.rowsEnd.flatMap (Step.outline sub ⟨[], [], []⟩) =
        endwhileWord :: semicolon :: echoText ++ [closeBody] ∧
      rowOutline sub ["/* Clone field: ", .commentName, " */"] = [] ∧
      rowOutline false (branchRow true) =
        ifWord :: openRound :: layoutTest ++ [closeRound, openBody] ∧
      rowOutline false (branchRow false) =
        closeBody :: elseifWord :: openRound :: layoutTest ++ [closeRound, openBody] ∧
      rowOutline false chainEndRow = [closeBody] ∧
      divRows.all (rowOutline sub · = echoText) = true := by
  cases sub <;> decide +kernel

theorem outline_div {row : Row} (h : row ∈ divRows) : rowOutline sub row = echoText := by
  obtain ⟨-, -, -, -, -, -, -, hdivs⟩ := outline_rows sub
  exact of_decide_eq_true (List.all_eq_true.mp hdivs row h)

-- What a renderer sets between the start and the end of the loop stands in the loop.
theorem outline_framed (inside : Inside) {div : Row} (hdiv : div ∈ divRows) (steps : List Step) :
    ([Renderer.rowsGuard, .line 1 div, Renderer.rowsLoop] ++ steps ++ Renderer.rowsEnd).flatMap
      (Step.outline sub inside) = framed (steps.flatMap (Step.outline sub inside)) := by
  have hguard : Step.outline sub inside Renderer.rowsGuard =
      ifWord :: openRound :: haveRows ++ [closeRound, openBody] := (outline_rows sub).1
  have hloop : Step.outline sub inside Renderer.rowsLoop =
      whileWord :: openRound :: haveRows ++ closeRound :: colon :: theRow := (outline_rows sub).2.1
  have hend : Renderer.rowsEnd.flatMap (Step.outline sub inside) =
      endwhileWord :: semicolon :: echoText ++ [closeBody] := (outline_rows sub).2.2.1
  have hline : Step.outline sub inside (.line 1 div) = echoText := outline_div sub hdiv
  simp only [List.flatMap_append, List.flatMap_cons, hguard, hloop, hend, hline, framed, guarded,
    List.cons_append, List.append_assoc, List.nil_append]

theorem outline_repeater (inside : Inside) :
    Renderer.repeater.outline sub inside = framed (echoText ++ inside.rows ++ echoText) := by
  have hitem : rowOutline sub ["echo '<div class=\"repeater-item\">';"] = echoText :=
    outline_div sub (by simp [divRows])
  have hend : rowOutline sub ["echo '</div>';"] = echoText := outline_div sub (by simp [divRows])
  refine (outline_framed sub inside (by simp [divRows]) _).trans ?_
  simp [Step.outline, hitem, hend]

theorem outline_flexibleContent (inside : Inside) :
    Renderer.flexibleContent.outline sub inside = framed (chain inside.bodies) := by
  refine (outline_framed sub inside (by simp [divRows]) [.branches]).trans ?_
  simp [Step.outline]

theorem outline_group (inside : Inside) :
    Renderer.group.outline sub inside = framed inside.rows := by
  refine (outline_framed sub inside (by simp [divRows]) [.children 3]).trans ?_
  simp [Step.outline]

theorem outline_clone (inside : Inside) : Renderer.clone.outline sub inside = inside.splice := by
  obtain ⟨-, -, -, hcomment, -⟩ := outline_rows sub
  simp [Renderer.outline, Renderer.clone, Step.outline, hcomment]

end

-- The end of a branch and the start of the next make an `elseif`.
theorem branches_elseifs (bodies : List (List Token)) :
    branches false bodies ++ [closeBody] = closeBody :: elseifs bodies := by
  obtain ⟨-, -, -, -, -, hnext, -⟩ := outline_rows false
  induction bodies with
  | nil => rfl
  | cons body bodies ih => simp [branches, elseifs, guarded, hnext, ih]

theorem chain_eq (bodies : List (List Token)) : chain bodies = ifChain bodies := by
  obtain ⟨-, -, -, -, hfirst, -, hend, -⟩ := outline_rows false
  cases bodies with
  | nil => rfl
  | cons body bodies =>
      simp [chain, branches, ifChain, guarded, hfirst, hend, branches_elseifs]

theorem nested_echoText : Nested .block echoText := .of_plain (by decide) (by decide)

theorem nested_haveRows : Nested .inner haveRows := by
  have hname : Nested .inner [.literal []] := .of_plain (by decide) (by decide)
  exact .plain (by decide) (by decide) (.round (by decide) hname (.nil _))

theorem nested_theRow : Nested .block theRow := by
  have hend : Nested .block [semicolon] := .of_plain (by decide) (by decide)
  exact .plain (by decide) (by decide) (.round (by decide) (.nil _) hend)

theorem nested_layoutTest : Nested .inner layoutTest := by
  have hend : Nested .inner [.symbol '=', .symbol '=', .literal []] :=
    .of_plain (by decide) (by decide)
  exact .plain (by decide) (by decide) (.round (by decide) (.nil _) hend)

theorem nested_elseifs {bodies : List (List Token)} (h : ∀ b ∈ bodies, Nested .block b) :
    Nested .tail (elseifs bodies) := by
  induction bodies with
  | nil => exact .nil _
  | cons body bodies ih =>
      exact .elseif nested_layoutTest (h body List.mem_cons_self)
        (ih fun b hb => h b (List.mem_cons_of_mem _ hb))

theorem nested_ifChain {bodies : List (List Token)} (h : ∀ b ∈ bodies, Nested .block b) :
    Nested .block (ifChain bodies) := by
  cases bodies with
  | nil => exact .nil _
  | cons body bodies =>
      have htail := nested_elseifs fun b hb => h b (List.mem_cons_of_mem body hb)
      simpa [ifChain] using
        Nested.branch nested_layoutTest (h body List.mem_cons_self) htail (.nil _)

theorem nested_framed {body : List Token} (h : Nested .block body) :
    Nested .block (framed body) := by
  have hloop := Nested.loop nested_haveRows (nested_theRow.append h) nested_echoText
  have hinside := nested_echoText.append hloop
  simpa [framed] using Nested.branch nested_haveRows hinside (.nil _) (.nil _)

-- What a standard renderer makes of nested code is nested.
theorem nested_outline {r : Renderer} (hmem : r ∈ standardPlans) (sub : Bool) {inside : Inside}
    (hrows : Nested .block inside.rows) (hsplice : Nested .block inside.splice)
    (hbodies : ∀ b ∈ inside.bodies, Nested .block b) :
    Nested .block (r.outline sub inside) := by
  rcases standard_composites r hmem with hleaf | rfl | rfl | rfl | rfl
  · exact nested_leaf hmem hleaf sub inside
  · rw [outline_repeater]
    exact nested_framed ((nested_echoText.append hrows).append nested_echoText)
  · rw [outline_flexibleContent, chain_eq]
    exact nested_framed (nested_ifChain hbodies)
  · rw [outline_group]
    exact nested_framed hrows
  · rw [outline_clone]
    exact hsplice

theorem nested_fields :
    (∀ f a, Nested .block (fieldOutline .standard a f)) ∧
      (∀ fs a, Nested .block (fieldsOutline .standard a fs)) ∧
      (∀ ls a, ∀ b ∈ bodyOutlines .standard a ls, Nested .block b) := by
  have hdiv : rowOutline false layoutRow = echoText := outline_div false (by simp [divRows])
  have hend : rowOutline false layoutEndRow = echoText :=
    outline_div false (by simp [divRows, layoutEndRow])
  refine Field.tree_induction ?_ ?_ ?_ ?_ ?_
  · intro key name label type subFields layouts extra hsub hlayouts a
    obtain ⟨r, hmem, hr⟩ := Catalog.standard_resolve type
    simp only [fieldOutline, hr]
    exact nested_outline hmem a.isSubField (hsub _) (hsub _) (hlayouts _)
  · intro a
    exact .nil _
  · intro f fs hf hfs a
    exact (hf a).append (hfs a)
  · intro a b hb
    cases hb
  · intro key name label subFields extra ls hsub hlayouts a b hb
    rcases List.mem_cons.mp hb with rfl | hb
    · rw [hdiv, hend]
      exact (nested_echoText.append (hsub a)).append nested_echoText
    · exact hlayouts a b hb

theorem length_bodyOutlines (c : Catalog) (a : Accessor) (layouts : List Layout) :
    (bodyOutlines c a layouts).length = layouts.length := by
  induction layouts with
  | nil => rfl
  | cons l ls ih =>
      obtain ⟨key, name, label, subFields, extra⟩ := l
      simp only [bodyOutlines, List.length_cons, ih]

theorem flexible_outline (a : Accessor) (f : Field)
    (htype : Text.lower f.type = Kind.flexibleContent.name) :
    ∃ bodies : List (List Token), bodies.length = f.layouts.length ∧
      (∀ body ∈ bodies, Nested .block body) ∧
      fieldOutline .standard a f = framed (ifChain bodies) := by
  obtain ⟨key, name, label, type, subFields, layouts, extra⟩ := f
  have hr : Catalog.standard.resolve type = .ok .flexibleContent := by
    have hname : Text.lower Kind.flexibleContent.name = Kind.flexibleContent.name ∧
        Catalog.standard.resolve Kind.flexibleContent.name = .ok .flexibleContent := by
      decide +kernel
    rw [Catalog.standard_resolve_lower (htype.trans hname.1.symm)]
    exact hname.2
  refine ⟨bodyOutlines .standard (a.nested name) layouts, length_bodyOutlines _ _ _,
    nested_fields.2.2 layouts _, ?_⟩
  simp only [fieldOutline, hr, outline_flexibleContent, chain_eq]

end FieldTemplates.Snippet
