import FieldTemplates.Proofs.Text.Fence
import FieldTemplates.Text.Blank
import Mathlib.Data.Set.Basic
import Mathlib.Order.Nat

namespace FieldTemplates.Text

-- The places at or behind `start` where the mark stands.
def places (mark cs : List Char) (start : Nat) : Set Nat := {i | start ≤ i ∧ mark <+: cs.drop i}

section Places

variable {mark cs : List Char} {start i : Nat}

theorem places_anti {start' : Nat} (h : start ≤ start') :
    places mark cs start' ⊆ places mark cs start := fun _ hk => ⟨h.trans hk.1, hk.2⟩

theorem places_cases (mark cs : List Char) (start : Nat) :
    places mark cs start = ∅ ∨ ∃ i, IsLeast (places mark cs start) i := by
  classical
  refine (places mark cs start).eq_empty_or_nonempty.imp_right fun h => ?_
  exact ⟨Nat.find h, h.isLeast_natFind⟩

-- The text is broken at the first place of the mark.
theorem breakOn_of_isLeast (h : IsLeast (places mark cs start) i) :
    breakOn mark (cs.drop start) = some (cs.extract start i, cs.drop (i + mark.length)) := by
  obtain ⟨⟨hstart, after, hafter⟩, hleast⟩ := h
  have hrest : (cs.drop start).drop (i - start) = cs.drop i := by
    rw [List.drop_drop, Nat.add_sub_cancel' hstart]
  have hsplit : cs.drop start = cs.extract start i ++ (mark ++ after) := by
    rw [hafter, ← hrest, List.extract_eq_take_drop, List.take_append_drop]
  have hbefore : ∀ k < (cs.extract start i).length,
      ¬ mark <+: (cs.extract start i ++ (mark ++ after)).drop k := by
    intro k hk hmark
    rw [← hsplit, List.drop_drop] at hmark
    have hle : i ≤ start + k := hleast ⟨Nat.le_add_right _ _, hmark⟩
    rw [List.extract_eq_take_drop, List.length_take] at hk
    omega
  have hback : cs.drop (i + mark.length) = after := by
    rw [← List.drop_drop, ← hafter, List.drop_left]
  rw [hsplit, breakOn_append hbefore, breakOn_mark, hback, Option.map_some, List.append_nil]

theorem breakOn_eq_none_iff : breakOn mark cs = none ↔ ¬ mark <:+: cs := by
  induction cs with
  | nil => cases mark <;> simp [breakOn]
  | cons c cs ih =>
      rw [breakOn, List.infix_cons_iff, not_or, ← ih]
      by_cases hmark : mark <+: c :: cs
      · rw [if_pos (List.isPrefixOf_iff_prefix.mpr hmark)]
        exact iff_of_false (Option.some_ne_none _) fun h => h.1 hmark
      · rw [if_neg (mt List.isPrefixOf_iff_prefix.mp hmark), Option.map_eq_none_iff]
        exact (and_iff_right hmark).symm

theorem breakOn_of_empty (h : places mark cs start = ∅) : breakOn mark (cs.drop start) = none := by
  rw [breakOn_eq_none_iff, List.infix_iff_prefix_suffix]
  rintro ⟨rest, hmark, hrest⟩
  have hdrop := List.suffix_iff_eq_drop.mp hrest
  rw [hdrop, List.drop_drop] at hmark
  exact h.subset ⟨Nat.le_add_right _ _, hmark⟩

theorem breakOn_eq_append {before after : List Char} (h : breakOn mark cs = some (before, after)) :
    cs = before ++ (mark ++ after) := by
  induction cs generalizing before with
  | nil =>
      cases mark with
      | nil =>
          obtain ⟨rfl, rfl⟩ := Prod.mk.inj (Option.some.inj h)
          rfl
      | cons m mark => cases h
  | cons c cs ih =>
      rw [breakOn] at h
      split at h
      · rename_i hmark
        obtain ⟨rfl, rfl⟩ := Prod.mk.inj (Option.some.inj h)
        obtain ⟨rest, hrest⟩ := List.isPrefixOf_iff_prefix.mp hmark
        rw [← hrest, List.drop_left, List.nil_append]
      · obtain ⟨⟨front, rest⟩, hfront, hpair⟩ := Option.map_eq_some_iff.mp h
        obtain ⟨rfl, rfl⟩ := Prod.mk.inj hpair
        rw [ih hfront, List.cons_append]

end Places

-- One way to read the front of a text: what is taken, the texts of its groups, and what is left.
structure Reading where
  taken : List Char
  groups : List (List Char)
  rest : List Char

-- A fixed text, as few characters of a kind as possible, a pattern whose text is kept as a group, and one
-- pattern behind another.
inductive Pattern where
  | text (mark : List Char)
  | few (among : Char → Bool)
  | group (p : Pattern)
  | seq (p q : Pattern)

-- What can be taken off the front and what is left, the shortest first.
def splits (among : Char → Bool) : List Char → List (List Char × List Char)
  | [] => [([], [])]
  | c :: cs =>
    ([], c :: cs) :: if among c then (splits among cs).map fun (taken, rest) => (c :: taken, rest) else []

namespace Pattern

-- All ways to read the front of a text, in the order in which they are tried.
def readings : Pattern → List Char → List Reading
  | text mark, cs => if mark.isPrefixOf cs then [⟨mark, [], cs.drop mark.length⟩] else []
  | few among, cs => (splits among cs).map fun (taken, rest) => ⟨taken, [], rest⟩
  | group p, cs => (p.readings cs).map fun r => { r with groups := r.taken :: r.groups }
  | seq p q, cs => (p.readings cs).flatMap fun r => (q.readings r.rest).map fun s =>
      ⟨r.taken ++ s.taken, r.groups ++ s.groups, s.rest⟩

-- The first reading at the first place that has one.
def search (p : Pattern) (cs : List Char) : Option Reading :=
  cs.tails.findSome? fun rest => (p.readings rest).head?

def anything (c : Char) : Bool := isBlank c || !isBlank c

-- A mark, as few characters as possible, which are a group, and another mark.
def between (opening closing : List Char) : Pattern :=
  seq (text opening) (seq (group (few anything)) (text closing))

-- Taking as little as possible stops at the first mark.
theorem findSome?_splits {α : Type} (mark cs : List Char) (f : List Char × List Char → α) :
    ((splits anything cs).findSome? fun r =>
      if mark.isPrefixOf r.2 then some (f (r.1, r.2.drop mark.length)) else none) =
      (breakOn mark cs).map f := by
  induction cs generalizing f with
  | nil => cases mark <;> simp [splits, breakOn]
  | cons c cs ih =>
      have hany : anything c = true := Bool.or_not_self _
      rw [splits, if_pos hany, List.findSome?_cons, breakOn, List.findSome?_map]
      cases mark.isPrefixOf (c :: cs) with
      | true => rfl
      | false =>
          simp only [Bool.false_eq_true, if_false, Option.map_map]
          exact ih fun r => f (c :: r.1, r.2)

theorem head?_enclosed (closing cs : List Char) :
    ((seq (group (few anything)) (text closing)).readings cs).head? =
      (breakOn closing cs).map fun r => ⟨r.1 ++ closing, [r.1], r.2⟩ := by
  rw [← findSome?_splits]
  simp only [readings, List.head?_flatMap, List.map_map, List.findSome?_map]
  refine congrArg (List.findSome? · _) (funext fun r => ?_)
  simp only [Function.comp_apply]
  split <;> simp

theorem head?_between (opening closing cs : List Char) :
    ((between opening closing).readings cs).head? =
      if opening.isPrefixOf cs then (breakOn closing (cs.drop opening.length)).map fun r =>
        ⟨opening ++ (r.1 ++ closing), [r.1], r.2⟩
      else none := by
  rw [between, readings, readings]
  split
  · rw [List.flatMap_singleton, List.head?_map, head?_enclosed, Option.map_map]
    rfl
  · rfl

-- What stands between the first opening mark and the first closing one behind it.
def inside? (opening closing cs : List Char) : Option (List Char) :=
  (breakOn opening cs).bind fun r => (breakOn closing r.2).map Prod.fst

-- Where the first opening mark is not closed no later one is: what stands behind a later one stands
-- behind the first one too.
theorem inside?_of_unclosed {opening closing cs : List Char} {c : Char}
    (h : breakOn closing ((c :: cs).drop opening.length) = none) : inside? opening closing cs = none := by
  cases hopening : breakOn opening cs with
  | none => rw [inside?, hopening, Option.bind_none]
  | some r =>
      have hsplit : (c :: cs).drop opening.length = (c :: (r.1 ++ opening)).drop opening.length ++ r.2 := by
        have hroom : opening.length ≤ (c :: (r.1 ++ opening)).length := by
          simp only [List.length_cons, List.length_append]
          omega
        rw [← List.drop_append_of_le_length hroom, breakOn_eq_append hopening]
        simp only [List.cons_append, List.append_assoc]
      have hclosing : breakOn closing r.2 = none := by
        rw [breakOn_eq_none_iff] at h ⊢
        exact fun hmark => h (hmark.trans (hsplit ▸ List.suffix_append _ _).isInfix)
      rw [inside?, hopening, Option.bind_some, hclosing, Option.map_none]

theorem inside?_of_opening {opening cs : List Char} (h : opening.isPrefixOf cs = true)
    (closing : List Char) :
    inside? opening closing cs = (breakOn closing (cs.drop opening.length)).map Prod.fst := by
  obtain ⟨rest, rfl⟩ := List.isPrefixOf_iff_prefix.mp h
  rw [inside?, breakOn_mark, Option.bind_some, List.drop_left]

theorem inside?_of_isLeast {opening cs : List Char} {i : Nat} (h : IsLeast (places opening cs 0) i)
    (closing : List Char) :
    inside? opening closing cs = (breakOn closing (cs.drop (i + opening.length))).map Prod.fst := by
  have hbreak := breakOn_of_isLeast h
  rw [List.drop_zero] at hbreak
  rw [inside?, hbreak, Option.bind_some]

theorem inside?_of_empty {opening closing cs : List Char} (h : places opening cs 0 = ∅) :
    inside? opening closing cs = none := by
  have hbreak := breakOn_of_empty h
  rw [List.drop_zero] at hbreak
  rw [inside?, hbreak, Option.bind_none]

theorem search_cons (p : Pattern) (c : Char) (cs : List Char) :
    p.search (c :: cs) = ((p.readings (c :: cs)).head?).or (p.search cs) := by
  rw [search, List.tails_cons, List.findSome?_cons]
  cases (p.readings (c :: cs)).head? <;> rfl

-- The first place where the search can end is the first opening mark.
theorem search_between (opening closing cs : List Char) :
    ((between opening closing).search cs).bind (·.groups.head?) = inside? opening closing cs := by
  induction cs with
  | nil => cases opening <;> cases closing <;> rfl
  | cons c cs ih =>
      rw [search_cons, head?_between]
      split
      · rename_i hopening
        rw [inside?_of_opening hopening]
        cases hclosing : breakOn closing ((c :: cs).drop opening.length) with
        | none =>
            rw [Option.map_none, Option.none_or, ih, inside?_of_unclosed hclosing]
            rfl
        | some r => rfl
      · rename_i hopening
        rw [Option.none_or, ih, inside?, inside?, breakOn, if_neg hopening, Option.bind_map]
        rfl

end Pattern

namespace Fence

-- What the block of a text is: a fence that opens it, as little as possible, and one that closes it.
def pattern : Pattern := .between opening closing

theorem content_eq_inside? (cs : List Char) :
    content cs = (Pattern.inside? opening closing cs).getD cs := by
  rw [content, Pattern.inside?]
  cases breakOn opening cs with
  | none => rfl
  | some r =>
      simp only [Option.bind_some]
      cases breakOn closing r.2 <;> rfl

-- The first fence that opens a block decides: either it is closed, and the block ends at the first
-- place behind it where it can, or no fence is closed at all. The line feed of the opening fence is not
-- that of the closing one.
theorem content_between_fences (cs : List Char) :
    content cs = ((pattern.search cs).bind (·.groups.head?)).getD cs ∧
    ((∃ i j, IsLeast (places opening cs 0) i ∧
        IsLeast (places closing cs (i + opening.length)) j ∧
        content cs = cs.extract (i + opening.length) j) ∨
      ((∀ i ∈ places opening cs 0, places closing cs (i + opening.length) = ∅) ∧ content cs = cs)) := by
  have hinside := content_eq_inside? cs
  refine ⟨by rw [pattern, Pattern.search_between, hinside], ?_⟩
  rcases places_cases opening cs 0 with hnone | ⟨i, hfirst⟩
  · refine .inr ⟨by simp [hnone], ?_⟩
    rw [hinside, Pattern.inside?_of_empty hnone, Option.getD_none]
  · have hbehind := Pattern.inside?_of_isLeast hfirst closing
    rcases places_cases closing cs (i + opening.length) with hnone | ⟨j, hlast⟩
    · refine .inr ⟨fun k hk => ?_, ?_⟩
      · have hle : i + opening.length ≤ k + opening.length := Nat.add_le_add_right (hfirst.2 hk) _
        exact Set.subset_eq_empty (places_anti hle) hnone
      · rw [hinside, hbehind, breakOn_of_empty hnone, Option.map_none, Option.getD_none]
    · refine .inl ⟨i, j, hfirst, hlast, ?_⟩
      rw [hinside, hbehind, breakOn_of_isLeast hlast, Option.map_some, Option.getD_some]

-- Backticks right behind the opening fence do not close it.
example : content "```json\n```\n\n```json\n1\n```".toList = "```\n".toList := by decide

end Fence

end FieldTemplates.Text
