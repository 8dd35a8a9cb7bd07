import FieldTemplates.Proofs.Data.Table
import FieldTemplates.Snippet.Standard

namespace FieldTemplates.Snippet.Catalog

-- The renderer that a name has itself, and the type that it stands for.
def own? (c : Catalog) (name : String) : Option Renderer := Table.find? c.renderers (Text.lower name)

def ownerOf? (c : Catalog) (name : String) : Option String := Table.find? c.aliases (Text.lower name)

theorem find?_eq_or (c : Catalog) (name : String) :
    c.find? name = (c.own? name).or ((c.ownerOf? name).bind (Table.find? c.renderers)) := by
  simp only [find?, own?, ownerOf?]
  cases Table.find? c.renderers (Text.lower name) <;> rfl

theorem find?_of_own {c : Catalog} {name : String} {r : Renderer} (h : c.own? name = some r) :
    c.find? name = some r := by
  rw [find?_eq_or, h, Option.some_or]

-- The catalog with a type's own renderer.
def setOwn (c : Catalog) (type : String) (r : Renderer) : Catalog :=
  { c with renderers := c.renderers.put type r }

-- The catalog with a name as alias of a type. A type is no alias of itself.
def point (c : Catalog) (type name : String) : Catalog :=
  if Text.lower name = type then c
  else { c with aliases := c.aliases.put (Text.lower name) type }

def pointAll (c : Catalog) (type : String) (names : List String) : Catalog := names.foldl (point · type) c

-- Why a name may not become an alias of a type, unless to replace what there is.
def refusal? (c : Catalog) (type name : String) : Option CatalogError :=
  if Text.lower name = type then none
  else if (c.own? name).isSome then some (.aliasIsType name)
  else (c.ownerOf? name).bind fun owner => if owner = type then none else some (.aliasTaken name owner)

theorem addAliases_cons (c : Catalog) (type : String) (replace : Bool) (name : String)
    (names : List String) : c.addAliases type replace (name :: names) =
      match if replace then none else c.refusal? type name with
      | some e => (c, some e)
      | none => (c.point type name).addAliases type replace names := by
  have hhas : Table.has c.renderers (Text.lower name) = (c.own? name).isSome :=
    Table.has_eq_isSome_find? _ _
  by_cases hself : Text.lower name = type
  · simp [addAliases, refusal?, point, hself]
  · simp only [addAliases, refusal?, point, if_neg hself, hhas]
    cases replace <;> cases hown : (c.own? name).isSome <;>
      cases howner : Table.find? c.aliases (Text.lower name) <;>
      simp [ownerOf?, howner]
    split_ifs <;> simp_all

-- What pointing names to a type leaves as it is, and where they lead then.
section

variable (c : Catalog) (type : String) (names : List String)

theorem pointAll_nil : c.pointAll type [] = c := rfl

theorem pointAll_cons (name : String) :
    c.pointAll type (name :: names) = (c.point type name).pointAll type names := rfl

theorem renderers_point (name : String) : (c.point type name).renderers = c.renderers := by
  unfold point
  split_ifs <;> rfl

theorem ownerOf?_point (name other : String) : (c.point type name).ownerOf? other =
    if Text.lower other = Text.lower name ∧ Text.lower name ≠ type then some type else c.ownerOf? other := by
  by_cases hself : Text.lower name = type
  · rw [point, if_pos hself, if_neg (fun h => h.2 hself)]
  · rw [point, if_neg hself, ownerOf?, Table.find?_put]
    by_cases hother : Text.lower other = Text.lower name
    · rw [if_pos hother, if_pos ⟨hother, hself⟩]
    · rw [if_neg hother, if_neg (fun h => hother h.1), ownerOf?]

theorem renderers_pointAll : (c.pointAll type names).renderers = c.renderers := by
  induction names generalizing c with
  | nil => rfl
  | cons name names ih => rw [pointAll_cons, ih, renderers_point]

theorem own?_pointAll (name : String) : (c.pointAll type names).own? name = c.own? name := by
  rw [own?, renderers_pointAll, own?]

theorem ownerOf?_pointAll (other : String) : (c.pointAll type names).ownerOf? other =
    if Text.lower other ∈ names.map Text.lower ∧ Text.lower other ≠ type then some type
    else c.ownerOf? other := by
  induction names generalizing c with
  | nil => simp [pointAll_nil]
  | cons name names ih =>
      rw [pointAll_cons, ih, ownerOf?_point, List.map_cons]
      by_cases hrest : Text.lower other ∈ names.map Text.lower ∧ Text.lower other ≠ type
      · rw [if_pos hrest, if_pos ⟨List.mem_cons_of_mem _ hrest.1, hrest.2⟩]
      · rw [if_neg hrest]
        grind

end

-- Aliases go in one after another, all of them, or up to the first that is refused. Only without leave
-- to replace are any refused, and then none that go in is a type.
theorem addAliases_cases (c : Catalog) (type : String) (replace : Bool) (names : List String) :
    (c.addAliases type replace names = (c.pointAll type names, none) ∧
        (replace = false → ∀ name ∈ names, Text.lower name = type ∨ c.own? name = none)) ∨
      replace = false ∧ ∃ front name back e, names = front ++ name :: back ∧
        (c.pointAll type front).refusal? type name = some e ∧
        c.addAliases type replace front = (c.pointAll type front, none) ∧
        c.addAliases type replace names = (c.pointAll type front, some e) := by
  induction names generalizing c with
  | nil => exact .inl ⟨rfl, fun _ _ hname => absurd hname List.not_mem_nil⟩
  | cons name names ih =>
      cases hrefused : (if replace then none else c.refusal? type name) with
      | some e =>
          have hreplace : replace = false := by
            cases replace
            · rfl
            · cases hrefused
          subst hreplace
          refine .inr ⟨rfl, [], name, names, e, rfl, hrefused, rfl, ?_⟩
          rw [addAliases_cons, hrefused, pointAll_nil]
      | none =>
          have hcons : ∀ rest, c.addAliases type replace (name :: rest) =
              (c.point type name).addAliases type replace rest := fun rest => by
            rw [addAliases_cons, hrefused]
          rcases ih (c.point type name) with
            ⟨hall, hnew⟩ | ⟨hreplace, front, bad, back, e, rfl, hbad, hfront, hall⟩
          · refine .inl ⟨by rw [hcons, hall, pointAll_cons], fun hreplace => ?_⟩
            refine List.forall_mem_cons.mpr ⟨?_, fun other hother => ?_⟩
            · subst hreplace
              by_cases hself : Text.lower name = type
              · exact .inl hself
              · right
                cases hown : c.own? name with
                | none => rfl
                | some r => simp [refusal?, hself, hown] at hrefused
            · have hown := hnew hreplace other hother
              rwa [own?, renderers_point] at hown
          · refine .inr ⟨hreplace, name :: front, bad, back, e, rfl, ?_, ?_, ?_⟩
            · rw [pointAll_cons]
              exact hbad
            · rw [hcons, hfront, pointAll_cons]
            · rw [hcons, hall, pointAll_cons]

-- The catalog with a renderer for a type and names that stand for it.
def registered (c : Catalog) (type : String) (r : Renderer) (names : List String) : Catalog :=
  (c.setOwn (Text.lower type) r).pointAll (Text.lower type) names

theorem renderers_registered (c : Catalog) (type : String) (r : Renderer) (names : List String) :
    (c.registered type r names).renderers = c.renderers.put (Text.lower type) r :=
  renderers_pointAll ..

theorem own?_setOwn (c : Catalog) (type : String) (r : Renderer) (name : String) :
    (c.setOwn type r).own? name = if Text.lower name = type then some r else c.own? name :=
  Table.find?_put ..

-- How a registration can end, and the catalog that it leaves.
inductive Registers (c : Catalog) (type : String) (aliases : List String) :
    Option Renderer → Bool → Catalog × Option CatalogError → Prop where
  | notCallable (replace : Bool) :
    Registers c type aliases none replace (c, some (.notCallable type))
  -- The type keeps the renderer it has.
  | kept (r : Renderer) (h : (c.own? type).isSome = true) :
    Registers c type aliases (some r) false (c, none)
  | done {r : Renderer} {replace : Bool} (hnew : replace = true ∨ c.own? type = none)
      (hfree : replace = false → ∀ name ∈ aliases,
        Text.lower name = Text.lower type ∨ c.own? name = none) :
    Registers c type aliases (some r) replace (c.registered type r aliases, none)
  -- It went through with the aliases in front of one that is refused.
  | refused {r : Renderer} {front back : List String} {name : String} {e : CatalogError}
      (hnew : c.own? type = none) (haliases : aliases = front ++ name :: back)
      (hrefused : (c.registered type r front).refusal? (Text.lower type) name = some e)
      (hfront : c.register type (some r) front false = (c.registered type r front, none)) :
    Registers c type aliases (some r) false (c.registered type r front, some e)

theorem register_ends (c : Catalog) (type : String) (r : Option Renderer) (aliases : List String)
    (replace : Bool) :
    Registers c type aliases r replace (c.register type r aliases replace) := by
  cases r with
  | none => exact .notCallable replace
  | some r =>
      have hhas : Table.has c.renderers (Text.lower type) = (c.own? type).isSome :=
        Table.has_eq_isSome_find? _ _
      by_cases hkept : replace = false ∧ (c.own? type).isSome = true
      · obtain ⟨rfl, hown⟩ := hkept
        have hsame : c.register type (some r) aliases false = (c, none) := by
          simp only [register, hhas, hown, Bool.not_false, Bool.and_self, if_true]
        rw [hsame]
        exact .kept r hown
      · have hgoes : ∀ names, c.register type (some r) names replace =
            (c.setOwn (Text.lower type) r).addAliases (Text.lower type) replace names := by
          intro names
          have hcond : ¬ ((c.own? type).isSome && !replace) = true := by
            cases replace <;> simp_all
          simp only [register, hhas, if_neg hcond, setOwn]
        have hnew : replace = true ∨ c.own? type = none := by
          cases replace <;> simp_all
        rcases addAliases_cases (c.setOwn (Text.lower type) r) (Text.lower type) replace aliases with
          ⟨hall, hfree⟩ | ⟨rfl, front, name, back, e, haliases, hrefused, hfront, hall⟩
        · rw [hgoes, hall]
          refine .done hnew fun hreplace name hname => ?_
          rcases hfree hreplace name hname with hself | hown
          · exact .inl hself
          · rw [own?_setOwn] at hown
            split_ifs at hown with hself
            exact .inr hown
        · rw [hgoes, hall]
          exact .refused (hnew.resolve_left Bool.false_ne_true) haliases hrefused
            ((hgoes front).trans hfront)

-- The type has the renderer, and so have the names that have none of their own.
theorem find?_registered (c : Catalog) (type : String) (r : Renderer) (names : List String)
    (name : String) : (c.registered type r names).find? name =
      if Text.lower name = Text.lower type then some r
      else (c.own? name).or (if Text.lower name ∈ names.map Text.lower then some r
        else (c.ownerOf? name).bind (Table.find? (c.renderers.put (Text.lower type) r))) := by
  have howner : (c.setOwn (Text.lower type) r).ownerOf? name = c.ownerOf? name := rfl
  rw [find?_eq_or, renderers_registered, registered, own?_pointAll, own?_setOwn, ownerOf?_pointAll, howner]
  by_cases htype : Text.lower name = Text.lower type
  · rw [if_pos htype, if_pos htype, Option.some_or]
  · rw [if_neg htype, if_neg htype]
    by_cases hname : Text.lower name ∈ names.map Text.lower
    · rw [if_pos ⟨hname, htype⟩, if_pos hname, Option.bind_some, Table.find?_put, if_pos rfl]
    · rw [if_neg (fun h => hname h.1), if_neg hname]

-- Whatever a registration comes to, it brings in no other renderer.
theorem mem_values_register {c : Catalog} {type : String} {r q : Renderer} {aliases : List String}
    {replace : Bool} (h : q ∈ (c.register type (some r) aliases replace).1.renderers.values) :
    q ∈ c.renderers.values ∨ q = r := by
  have hput : ∀ names, q ∈ (c.registered type r names).renderers.values →
      q ∈ c.renderers.values ∨ q = r := fun names hq => by
    rw [renderers_registered] at hq
    exact (Table.mem_values_put hq).symm
  have hends := register_ends c type (some r) aliases replace
  generalize c.register type (some r) aliases replace = result at hends h
  cases hends with
  | kept => exact .inl h
  | done => exact hput aliases h
  | refused => exact hput _ h

-- What each registration keeps, registering one after another keeps, also up to one that is refused.
theorem registerAll_kept {P : Catalog → Prop} {replace : Bool}
    {added : List (Kind × Renderer × List Kind)}
    (hstep : ∀ c, P c → ∀ p ∈ added,
      P (c.register p.1.name (some p.2.1) (p.2.2.map Kind.name) replace).1)
    {c : Catalog} (h : P c) : P (c.registerAll replace added).1 := by
  induction added generalizing c with
  | nil => exact h
  | cons first rest ih =>
      obtain ⟨kind, r, shared⟩ := first
      have hfirst := hstep c h _ List.mem_cons_self
      have hrest := fun d hd p hp => hstep d hd p (List.mem_cons_of_mem _ hp)
      rcases hreg : c.register kind.name (some r) (shared.map Kind.name) replace with ⟨d, _ | e⟩
      all_goals
        rw [hreg] at hfirst
        simp only [registerAll, hreg]
      · exact ih hrest hfirst
      · exact hfirst

theorem addStandard_fst (c : Catalog) (replace : Bool) :
    let all := (c.registerAll replace standardRenderers).1
    (c.addStandard replace).1 = all ∨ (c.addStandard replace).1 = all.setFallback .unsupported := by
  rcases hall : c.registerAll replace standardRenderers with ⟨d, _ | e⟩
  · exact .inr (by rw [addStandard, hall])
  · exact .inl (by rw [addStandard, hall])

end FieldTemplates.Snippet.Catalog
