import FieldTemplates.Proofs.Snippet.Shown

namespace FieldTemplates

namespace Php

theorem head?_joinLines {cs : List Char} {c : Char} (h : (joinLines cs).head? = some c)
    (hc : c ≠ ' ') : cs.head? = some c := by
  have hmem : isBreak c = false := joinLines_unbroken cs c (List.mem_of_head? h)
  fun_induction joinLines cs with
  | case1 => cases h
  | case2 d hb => exact absurd (Option.some.inj h).symm hc
  | case3 d hb => exact h
  | case4 d e cs hd he ih =>
      have hfirst := ih h
      rw [List.head?_cons] at hfirst
      rw [Option.some.inj hfirst, hmem] at he
      cases he
  | case5 d e cs hd he ih => exact absurd (Option.some.inj h).symm hc
  | case6 d e cs hd ih => exact h

-- A comment starts as its text does, a line end apart.
theorem head?_comment {cs : List Char} {c : Char} (h : (comment cs).head? = some c) (hc : c ≠ ' ') :
    cs.head? = some c := by
  rw [comment, head?_part, head?_part] at h
  exact head?_joinLines h hc

end Php

namespace Snippet

open Php (Token comments)

def isHeading (w : List Char) : Bool := " Field: ".toList.isPrefixOf w

def headingText (label type : String) : List Char :=
  " Field: ".toList ++ (Php.comment label.toList ++ (" (".toList ++
    (Php.comment type.toList ++ ") ".toList)))

def isFallback (w : List Char) : Bool := " Unsupported field type: ".toList.isPrefixOf w

def fallbackText (type : String) : List Char :=
  " Unsupported field type: ".toList ++ (Php.comment type.toList ++ " ".toList)

-- The first letter of a comment.
def opener? (w : List Char) : Option Char := (w.drop 1).head?

theorem opener_of_isHeading {w : List Char} (h : isHeading w = true) : opener? w = some 'F' := by
  have hstart : " Field: ".toList = ' ' :: 'F' :: "ield: ".toList := by decide
  rw [isHeading, List.isPrefixOf_iff_prefix, hstart] at h
  obtain ⟨rest, rfl⟩ := h
  rfl

theorem opener_of_isFallback {w : List Char} (h : isFallback w = true) : opener? w = some 'U' := by
  have hstart : " Unsupported field type: ".toList =
      ' ' :: 'U' :: "nsupported field type: ".toList := by decide
  rw [isFallback, List.isPrefixOf_iff_prefix, hstart] at h
  obtain ⟨rest, rfl⟩ := h
  rfl

theorem isHeading_headingText (label type : String) : isHeading (headingText label type) = true :=
  List.isPrefixOf_iff_prefix.mpr (List.prefix_append _ _)

theorem isFallback_fallbackText (type : String) : isFallback (fallbackText type) = true :=
  List.isPrefixOf_iff_prefix.mpr (List.prefix_append _ _)

-- A type of the admin screen, which stands at the start of a comment of its own.
theorem standard_uiOnly {type : String} (h : Catalog.standard.resolve type = .ok .uiOnly) :
    Text.lower type = "accordion" ∨ Text.lower type = "tab" := by
  have hnames : ∀ m ∈ standardTable, m.2.name = "render_ui_only" →
      m.1 = "accordion" ∨ m.1 = "tab" := by decide +kernel
  rw [Catalog.standard_resolve_eq] at h
  cases hfind : standardTable.find? (Text.lower type) with
  | none =>
      rw [hfind] at h
      have hname : Renderer.unsupported.name = Renderer.uiOnly.name :=
        congrArg Renderer.name (Except.ok.inj h)
      exact absurd hname (by decide)
  | some r =>
      rw [hfind] at h
      obtain rfl : r = .uiOnly := Except.ok.inj h
      exact hnames _ (Table.mem_of_find? hfind) rfl

theorem opener_of_uiOnly {type : String} (h : Catalog.standard.resolve type = .ok .uiOnly)
    (rest : List Char) {c : Char} (hc : c = 'F' ∨ c = 'U') :
    opener? (' ' :: (Php.comment type.toList ++ ' ' :: rest)) ≠ some c := by
  intro hopener
  have hspace : c ≠ ' ' := by rcases hc with rfl | rfl <;> decide
  have hhead : (Php.comment type.toList).head? = some c := by
    simp only [opener?, List.drop_succ_cons, List.drop_zero, List.head?_append,
      List.head?_cons] at hopener
    cases hcomment : (Php.comment type.toList).head? with
    | none =>
        rw [hcomment] at hopener
        exact absurd (Option.some.inj hopener).symm hspace
    | some d =>
        rw [hcomment] at hopener
        exact hopener
  obtain ⟨cs, hcs⟩ : ∃ cs, type.toList = c :: cs :=
    List.head?_eq_some_iff.mp (Php.head?_comment hhead hspace)
  have hlower : (Text.lower type).toList.head? = some (Text.lowerChar c) := by
    rw [Text.lower, String.toList_ofList, hcs]
    rcases hc with rfl | rfl <;> rfl
  have hletter : Text.lowerChar c ≠ 'a' ∧ Text.lowerChar c ≠ 't' := by
    rcases hc with rfl | rfl <;> decide
  rcases standard_uiOnly h with hname | hname
  · rw [hname] at hlower
    exact hletter.1 (Option.some.inj hlower).symm
  · rw [hname] at hlower
    exact hletter.2 (Option.some.inj hlower).symm

theorem opener_of_opens {fallback free : Bool} {v : List Char} (h : opens fallback free v = true)
    (style : Style) (subject : Subject) :
    opener? (v.flatMap (Slot.meant style subject)) ∈ [some 'P', some 'N', some 'C'] ∨
      (fallback = true ∧ opener? (v.flatMap (Slot.meant style subject)) = some 'U') ∨
      free = true ∧ ∃ rest, v.flatMap (Slot.meant style subject) =
        ' ' :: (Php.comment subject.type.toList ++ ' ' :: rest) := by
  have hplain : ∀ c, Php.isSign c = false → Slot.meant style subject c = [c] := fun c =>
    Slot.meant_plain style subject
  have hspace := hplain ' ' (by decide)
  simp only [opens] at h
  split at h
  · rename_i c w
    simp only [Bool.or_eq_true, beq_iff_eq, Bool.and_eq_true] at h
    rw [List.flatMap_cons, List.flatMap_cons, hspace]
    rcases h with (((rfl | rfl) | rfl) | ⟨hfallback, rfl⟩) | ⟨⟨hfree, rfl⟩, hw⟩
    · exact .inl (by rw [hplain _ (by decide)]; exact List.mem_cons_self)
    · exact .inl (by rw [hplain _ (by decide)]; simp [opener?])
    · exact .inl (by rw [hplain _ (by decide)]; simp [opener?])
    · exact .inr (.inl ⟨hfallback, by rw [hplain _ (by decide)]; rfl⟩)
    · obtain ⟨rest, rfl⟩ := List.head?_eq_some_iff.mp hw
      refine .inr (.inr ⟨hfree, rest.flatMap (Slot.meant style subject), ?_⟩)
      rw [List.flatMap_cons, hspace, Slot.meant_sign]
      rfl
  · cases h

theorem uiOnly_mem : Renderer.uiOnly ∈ standardPlans := by simp [standardPlans, standardRenderers]

theorem unsupported_mem : Renderer.unsupported ∈ standardPlans := List.mem_cons_self

-- How a comment of a field's renderer starts.
theorem opener_of_row {type : String} {r : Renderer} (hmem : r ∈ standardPlans)
    (hr : Catalog.standard.resolve type = .ok r) {row : Row} (hrow : row ∈ r.rows) (style : Style)
    (sub : Bool) (name : String) :
    ∀ w ∈ comments (Placed.tokens style ⟨sub, ⟨name, type⟩, row⟩),
      opener? w ≠ some 'F' ∧ (opener? w = some 'U' → r = .unsupported) := by
  have hhas : Catalog.standard.Has row := .inr ⟨type, r, hr, hrow⟩
  intro w hw
  rw [Placed.comments_tokens (p := ⟨sub, ⟨name, type⟩, row⟩) style hhas] at hw
  obtain ⟨v, hv, rfl⟩ := List.mem_map.mp hw
  have hopens := ((Renderer.fits_row hmem hrow).comments sub v hv).2
  rcases opener_of_opens hopens style ⟨name, type⟩ with hown | ⟨hfallback, hU⟩ | ⟨hfree, rest, hrest⟩
  · simp only [List.mem_cons, List.not_mem_nil, or_false] at hown
    rcases hown with h | h | h <;> rw [h] <;> exact ⟨by decide, fun h => absurd h (by decide)⟩
  · have hunsupported := name_inj_plans hmem unsupported_mem (beq_iff_eq.mp hfallback)
    exact ⟨by rw [hU]; decide, fun _ => hunsupported⟩
  · obtain rfl := name_inj_plans hmem uiOnly_mem (beq_iff_eq.mp hfree)
    rw [hrest]
    exact ⟨opener_of_uiOnly hr rest (.inl rfl), fun h => absurd h (opener_of_uiOnly hr rest (.inr rfl))⟩

def Placed.headings (style : Style) (p : Placed) : List (List Char) :=
  (comments (p.tokens style)).filter isHeading

def Placed.fallbacks (style : Style) (p : Placed) : List (List Char) :=
  (comments (p.tokens style)).filter isFallback

theorem has_headingOf (label type : String) :
    Catalog.standard.Has (headingOf label type).row := .inl (by simp [headingOf, frameRows])

theorem comments_headingOf (style : Style) (label type : String) :
    comments ((headingOf label type).tokens style) = [headingText label type] := by
  have hsigned : comments (signedTokens false headingRow) =
      [" Field: ".toList ++ ([Slot.commentName.sign] ++ (" (".toList ++ ([Slot.commentType.sign] ++
        ") ".toList)))] := by decide +kernel
  rw [Placed.comments_tokens style (has_headingOf label type)]
  change (comments (signedTokens false headingRow)).map _ = _
  rw [hsigned]
  simp only [List.map_singleton, List.flatMap_append, List.flatMap_singleton, Slot.meant_sign]
  rw [Slot.flatMap_meant_plain _ _ (by decide), Slot.flatMap_meant_plain _ _ (by decide),
    Slot.flatMap_meant_plain _ _ (by decide)]
  rfl

-- Rows around fields that are no headings hold no comments.
theorem comments_frame (style : Style) {p : Placed} (hrow : p.row ∈ frameRows)
    (hne : p.row ≠ headingRow) : comments (p.tokens style) = [] := by
  have hnone : ∀ row ∈ frameRows, row ≠ headingRow → ∀ sub ∈ [false, true],
      comments (signedTokens sub row) = [] := by decide +kernel
  rw [Placed.comments_tokens style (.inl hrow),
    hnone p.row hrow hne p.sub (by cases p.sub <;> simp), List.map_nil]

-- Each field that is shown has its heading, and nothing else passes for one.
theorem gathers_headings (style : Style) :
    Gathers (Placed.headings style) fun _ f => [headingText f.label f.type] where
  frame p hrow hne := by rw [Placed.headings, comments_frame style hrow hne, List.filter_nil]
  leaf f r hmem hr hleaf sub := by
    have hown : ∀ row ∈ r.rows, Placed.headings style ⟨sub, ⟨f.name, f.type⟩, row⟩ = [] := by
      intro row hrow
      refine List.filter_eq_nil_iff.mpr fun w hw hheading => ?_
      exact (opener_of_row hmem hr hrow style sub f.name w hw).1 (opener_of_isHeading hheading)
    rw [List.flatMap_eq_nil_iff.mpr hown, List.append_nil, Placed.headings, comments_headingOf]
    exact List.filter_eq_self.mpr fun w hw => by
      rw [List.mem_singleton.mp hw]
      exact isHeading_headingText f.label f.type
  composite f r hmem hr hleaf sub := by
    refine ⟨?_, fun row hrow => ?_⟩
    · rw [Placed.headings, comments_headingOf]
      exact List.filter_eq_self.mpr fun w hw => by
        rw [List.mem_singleton.mp hw]
        exact isHeading_headingText f.label f.type
    · refine List.filter_eq_nil_iff.mpr fun w hw hheading => ?_
      exact (opener_of_row hmem hr hrow style sub f.name w hw).1 (opener_of_isHeading hheading)

-- A type is supported where it has a renderer that is not the fallback.
theorem standard_supports {type : String} {r : Renderer}
    (h : Catalog.standard.resolve type = .ok r) :
    Catalog.standard.supports type = false ↔ r = .unsupported := by
  have hnames : ∀ r ∈ standardRenderers.map (·.2.1), r.name ≠ "render_unsupported" := by
    decide +kernel
  rw [Catalog.supports]
  cases hfind : Catalog.standard.find? type with
  | none =>
      rw [Catalog.resolve, hfind, Catalog.standard_fallback] at h
      exact ⟨fun _ => (Except.ok.inj h).symm, fun _ => rfl⟩
  | some q =>
      rw [Catalog.resolve, hfind] at h
      obtain rfl : q = r := Except.ok.inj h
      refine ⟨fun hsome => absurd hsome (by simp), ?_⟩
      rintro rfl
      exact absurd rfl (hnames _ (Catalog.standard_values _ (Catalog.mem_of_find? hfind)))

theorem fallbacks_unsupported (style : Style) (sub : Bool) (f : Field)
    (hr : Catalog.standard.resolve f.type = .ok .unsupported) :
    Renderer.unsupported.rows.flatMap
      (fun row => Placed.fallbacks style ⟨sub, ⟨f.name, f.type⟩, row⟩) = [fallbackText f.type] := by
  have hsigned : ∀ sub ∈ [false, true], Renderer.unsupported.rows.flatMap
      (fun row => comments (signedTokens sub row)) =
      [" Unsupported field type: ".toList ++ ([Slot.commentType.sign] ++ " ".toList)] := by
    decide +kernel
  have htokens : ∀ row ∈ Renderer.unsupported.rows,
      Placed.fallbacks style ⟨sub, ⟨f.name, f.type⟩, row⟩ =
        ((comments (signedTokens sub row)).map
          (·.flatMap (Slot.meant style ⟨f.name, f.type⟩))).filter isFallback := by
    intro row hrow
    have hhas : Catalog.standard.Has row := .inr ⟨f.type, _, hr, hrow⟩
    rw [Placed.fallbacks,
      Placed.comments_tokens (p := ⟨sub, ⟨f.name, f.type⟩, row⟩) style hhas]
  rw [List.flatMap_congr htokens, ← List.filter_flatMap, ← List.map_flatMap,
    hsigned sub (by cases sub <;> simp)]
  simp only [List.map_singleton, List.flatMap_append, List.flatMap_singleton, Slot.meant_sign]
  rw [Slot.flatMap_meant_plain _ _ (by decide), Slot.flatMap_meant_plain _ _ (by decide)]
  exact List.filter_eq_self.mpr fun w hw => by
    rw [List.mem_singleton.mp hw]
    exact isFallback_fallbackText f.type

-- The fallback speaks for each field that is shown with a type that is not supported.
theorem gathers_fallbacks (style : Style) : Gathers (Placed.fallbacks style) fun _ f =>
    if Catalog.standard.supports f.type then [] else [fallbackText f.type] := by
  have hheading : ∀ label type, Placed.fallbacks style (headingOf label type) = [] := by
    intro label type
    rw [Placed.fallbacks, comments_headingOf]
    refine List.filter_eq_nil_iff.mpr fun w hw hfallback => ?_
    have hopener := opener_of_isFallback hfallback
    rw [List.mem_singleton.mp hw, opener_of_isHeading (isHeading_headingText label type)] at hopener
    exact absurd hopener (by decide)
  have hown : ∀ (f : Field) (r : Renderer), r ∈ standardPlans →
      Catalog.standard.resolve f.type = .ok r → r ≠ .unsupported → ∀ sub, ∀ row ∈ r.rows,
        Placed.fallbacks style ⟨sub, ⟨f.name, f.type⟩, row⟩ = [] := by
    intro f r hmem hr hne sub row hrow
    refine List.filter_eq_nil_iff.mpr fun w hw hfallback => ?_
    exact hne ((opener_of_row hmem hr hrow style sub f.name w hw).2 (opener_of_isFallback hfallback))
  refine ⟨?_, ?_, ?_⟩
  · intro p hrow hne
    rw [Placed.fallbacks, comments_frame style hrow hne, List.filter_nil]
  · intro f r hmem hr hleaf sub
    rw [hheading, List.nil_append]
    by_cases hunsupported : r = .unsupported
    · subst hunsupported
      rw [fallbacks_unsupported style sub f hr, (standard_supports hr).mpr rfl]
      rfl
    · rw [List.flatMap_eq_nil_iff.mpr (hown f r hmem hr hunsupported sub),
        (Bool.not_eq_false _).mp (mt (standard_supports hr).mp hunsupported)]
      rfl
  · intro f r hmem hr hleaf sub
    have hne : r ≠ .unsupported := by
      rintro rfl
      cases hleaf
    refine ⟨?_, hown f r hmem hr hne sub⟩
    rw [hheading, (Bool.not_eq_false _).mp (mt (standard_supports hr).mp hne)]
    rfl

end Snippet

end FieldTemplates
