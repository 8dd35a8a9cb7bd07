import FieldTemplates.Proofs.Php.Fill
import FieldTemplates.Proofs.Php.Gist

namespace FieldTemplates.Php

open Text (settle)

def Token.comment? : Token → Option (List Char)
  | .comment w => some w
  | _ => none

def comments (ts : List Token) : List (List Char) := ts.filterMap Token.comment?

theorem comments_append (ts us : List Token) : comments (ts ++ us) = comments ts ++ comments us :=
  List.filterMap_append

theorem comments_flatMap {α : Type} (f : α → List Token) (l : List α) :
    comments (l.flatMap f) = l.flatMap fun a => comments (f a) := List.filterMap_flatMap ..

def Token.remark? : Token → Option (List Char)
  | .remark w => some w
  | _ => none

def remarks (ts : List Token) : List (List Char) := ts.filterMap Token.remark?

theorem remarks_append (ts us : List Token) : remarks (ts ++ us) = remarks ts ++ remarks us :=
  List.filterMap_append

theorem remarks_flatMap {α : Type} (f : α → List Token) (l : List α) :
    remarks (l.flatMap f) = l.flatMap fun a => remarks (f a) := List.filterMap_flatMap ..

-- What stands behind a symbol at the front.
def behind? (c : Char) : List Token → Option (List Token)
  | .symbol d :: ts => if d = c then some ts else none
  | _ => none

-- A literal at the front, and what stands behind it.
def literal? : List Token → Option (List Char × List Token)
  | .literal w :: ts => some (w, ts)
  | _ => none

-- The only argument of a call, a literal.
def argument? (ts : List Token) : Option (List Char) := do
  let (w, ts) ← literal? (← behind? '(' ts)
  let _ ← behind? ')' ts
  some w

-- The literal that a call without arguments is compared with.
def compared? (ts : List Token) : Option (List Char) := do
  let ts ← behind? ')' (← behind? '(' ts)
  let (w, _) ← literal? (← behind? '=' (← behind? '=' ts))
  some w

-- A function that takes a name, and the name, where it is a literal and nothing else.
structure Call where
  function : List Char
  argument : Option (List Char)
deriving DecidableEq, Repr

-- The functions that read what their argument names.
def readers : List (List Char) :=
  ["get_field".toList, "get_sub_field".toList, "have_rows".toList]

-- The function whose value is compared with a name.
def layoutReader : List Char := "get_row_layout".toList

-- The call that a word starts, before what follows it.
def callOf? (f : List Char) (rest : List Token) : Option Call :=
  if f ∈ readers then some ⟨f, argument? rest⟩
  else if f = layoutReader then some ⟨f, compared? rest⟩
  else none

def calls : List Token → List Call
  | [] => []
  | .word f :: ts => (callOf? f ts).toList ++ calls ts
  | _ :: ts => calls ts

theorem behind?_append {c : Char} {ts us : List Token} (h : behind? c ts = some us)
    (more : List Token) : behind? c (ts ++ more) = some (us ++ more) := by
  cases ts with
  | nil => cases h
  | cons t ts =>
      cases t with
      | symbol d =>
          simp only [behind?] at h
          split_ifs at h with hd
          cases h
          simp only [List.cons_append, behind?, hd, ite_true]
      | word | literal | comment | remark => cases h

theorem literal?_append {w : List Char} {ts us : List Token} (h : literal? ts = some (w, us))
    (more : List Token) : literal? (ts ++ more) = some (w, us ++ more) := by
  cases ts with
  | nil => cases h
  | cons t ts =>
      cases t with
      | literal v =>
          cases h
          rfl
      | word | symbol | comment | remark => cases h

theorem argument?_append {ts : List Token} {w : List Char} (h : argument? ts = some w)
    (more : List Token) : argument? (ts ++ more) = some w := by
  simp only [argument?, Option.bind_eq_bind, Option.bind_eq_some_iff] at h
  obtain ⟨inner, hopen, ⟨v, rest⟩, hliteral, behind, hclose, hw⟩ := h
  simp only [argument?, Option.bind_eq_bind, behind?_append hopen, Option.bind_some,
    literal?_append hliteral, behind?_append hclose, hw]

theorem compared?_append {ts : List Token} {w : List Char} (h : compared? ts = some w)
    (more : List Token) : compared? (ts ++ more) = some w := by
  simp only [compared?, Option.bind_eq_bind, Option.bind_eq_some_iff] at h
  obtain ⟨inner, hopen, rest, hclose, one, hfirst, two, hsecond, ⟨v, behind⟩, hliteral, hw⟩ := h
  simp only [compared?, Option.bind_eq_bind, behind?_append hopen, Option.bind_some,
    behind?_append hclose, behind?_append hfirst, behind?_append hsecond, literal?_append hliteral, hw]

theorem callOf?_append {f : List Char} {ts : List Token}
    (h : ∀ call ∈ callOf? f ts, call.argument.isSome = true) (more : List Token) :
    callOf? f (ts ++ more) = callOf? f ts := by
  simp only [callOf?] at h ⊢
  split_ifs at h ⊢
  · obtain ⟨w, hw⟩ := Option.isSome_iff_exists.mp (h _ rfl)
    have hw : argument? ts = some w := hw
    rw [argument?_append hw, hw]
  · obtain ⟨w, hw⟩ := Option.isSome_iff_exists.mp (h _ rfl)
    have hw : compared? ts = some w := hw
    rw [compared?_append hw, hw]
  · rfl

-- Calls that are all complete do not depend on the code behind them.
theorem calls_append {ts : List Token} (h : ∀ call ∈ calls ts, call.argument.isSome = true)
    (us : List Token) : calls (ts ++ us) = calls ts ++ calls us := by
  induction ts with
  | nil => rfl
  | cons t ts ih =>
      cases t with
      | word f =>
          simp only [calls, List.mem_append, Option.mem_toList] at h
          have hrest := ih fun call hcall => h call (.inr hcall)
          have hown := callOf?_append (fun call hcall => h call (.inl hcall)) us
          simp only [List.cons_append, calls, hown, hrest, List.append_assoc]
      | symbol | literal | comment | remark => exact ih h

theorem calls_flatMap {α : Type} {f : α → List Token} {l : List α}
    (h : ∀ a ∈ l, ∀ call ∈ calls (f a), call.argument.isSome = true) :
    calls (l.flatMap f) = l.flatMap fun a => calls (f a) := by
  induction l with
  | nil => rfl
  | cons a l ih =>
      rw [List.flatMap_cons, calls_append (h a List.mem_cons_self),
        ih fun b hb => h b (List.mem_cons_of_mem _ hb), List.flatMap_cons]

-- Other texts in literals and comments, everything else the same.
structure Rewords (f : Token → Token) (g : List Char → List Char) : Prop where
  word : ∀ w, f (.word w) = .word w
  symbol : ∀ c, f (.symbol c) = .symbol c
  literal : ∀ w, f (.literal w) = .literal (g w)
  comment : ∀ w, f (.comment w) = .comment (g w)
  remark : ∀ w, ∃ v, f (.remark w) = .remark v

theorem rewords_gist : Rewords Token.gist settle :=
  ⟨fun _ => rfl, fun _ => rfl, fun _ => rfl, fun _ => rfl, fun _ => ⟨_, rfl⟩⟩

theorem rewords_fill (meant : Char → List Char) : Rewords (Token.fill meant) (·.flatMap meant) :=
  ⟨fun _ => rfl, fun _ => rfl, fun _ => rfl, fun _ => rfl, fun _ => ⟨_, rfl⟩⟩

def Call.map (g : List Char → List Char) (call : Call) : Call :=
  { call with argument := call.argument.map g }

namespace Rewords

variable {f : Token → Token} {g : List Char → List Char} (h : Rewords f g)
include h

theorem comments_map (ts : List Token) : comments (ts.map f) = (comments ts).map g := by
  simp only [comments, List.filterMap_map, List.map_filterMap]
  refine List.filterMap_congr fun t _ => ?_
  cases t with
  | word w => simp only [Function.comp_apply, h.word, Token.comment?, Option.map_none]
  | symbol c => simp only [Function.comp_apply, h.symbol, Token.comment?, Option.map_none]
  | literal w => simp only [Function.comp_apply, h.literal, Token.comment?, Option.map_none]
  | comment w => simp only [Function.comp_apply, h.comment, Token.comment?, Option.map_some]
  | remark w =>
      obtain ⟨v, hv⟩ := h.remark w
      simp only [Function.comp_apply, hv, Token.comment?, Option.map_none]

theorem length_remarks_map (ts : List Token) : (remarks (ts.map f)).length = (remarks ts).length := by
  induction ts with
  | nil => rfl
  | cons t ts ih =>
      cases t with
      | word w =>
          rw [List.map_cons, h.word]
          exact ih
      | symbol c =>
          rw [List.map_cons, h.symbol]
          exact ih
      | literal w =>
          rw [List.map_cons, h.literal]
          exact ih
      | comment w =>
          rw [List.map_cons, h.comment]
          exact ih
      | remark w =>
          obtain ⟨v, hv⟩ := h.remark w
          rw [List.map_cons, hv]
          exact congrArg (· + 1) ih

theorem remarks_map_eq_nil {ts : List Token} : remarks (ts.map f) = [] ↔ remarks ts = [] := by
  rw [← List.length_eq_zero_iff, h.length_remarks_map, List.length_eq_zero_iff]

theorem behind?_map (c : Char) (ts : List Token) :
    behind? c (ts.map f) = (behind? c ts).map (·.map f) := by
  cases ts with
  | nil => rfl
  | cons t ts =>
      cases t with
      | word w => simp only [List.map_cons, h.word, behind?, Option.map_none]
      | symbol d =>
          simp only [List.map_cons, h.symbol, behind?]
          split_ifs <;> rfl
      | literal w => simp only [List.map_cons, h.literal, behind?, Option.map_none]
      | comment w => simp only [List.map_cons, h.comment, behind?, Option.map_none]
      | remark w =>
          obtain ⟨v, hv⟩ := h.remark w
          simp only [List.map_cons, hv, behind?, Option.map_none]

theorem literal?_map (ts : List Token) :
    literal? (ts.map f) = (literal? ts).map fun r => (g r.1, r.2.map f) := by
  cases ts with
  | nil => rfl
  | cons t ts =>
      cases t with
      | word w => simp only [List.map_cons, h.word, literal?, Option.map_none]
      | symbol d => simp only [List.map_cons, h.symbol, literal?, Option.map_none]
      | literal w => simp only [List.map_cons, h.literal, literal?, Option.map_some]
      | comment w => simp only [List.map_cons, h.comment, literal?, Option.map_none]
      | remark w =>
          obtain ⟨v, hv⟩ := h.remark w
          simp only [List.map_cons, hv, literal?, Option.map_none]

theorem argument?_map (ts : List Token) : argument? (ts.map f) = (argument? ts).map g := by
  simp only [argument?, Option.bind_eq_bind, h.behind?_map, h.literal?_map, Option.bind_map,
    Option.map_bind, Function.comp_def, Option.map_some]

theorem compared?_map (ts : List Token) : compared? (ts.map f) = (compared? ts).map g := by
  simp only [compared?, Option.bind_eq_bind, h.behind?_map, h.literal?_map, Option.bind_map,
    Option.map_bind, Function.comp_def, Option.map_some]

theorem callOf?_map (w : List Char) (ts : List Token) :
    callOf? w (ts.map f) = (callOf? w ts).map (Call.map g) := by
  simp only [callOf?]
  split_ifs
  · rw [h.argument?_map]
    rfl
  · rw [h.compared?_map]
    rfl
  · rfl

theorem calls_map (ts : List Token) : calls (ts.map f) = (calls ts).map (Call.map g) := by
  induction ts with
  | nil => rfl
  | cons t ts ih =>
      cases t with
      | word w =>
          simp only [List.map_cons, h.word, calls, h.callOf?_map, ih, List.map_append,
            Option.toList_map]
      | symbol c => simpa only [List.map_cons, h.symbol, calls] using ih
      | literal w => simpa only [List.map_cons, h.literal, calls] using ih
      | comment w => simpa only [List.map_cons, h.comment, calls] using ih
      | remark w =>
          obtain ⟨v, hv⟩ := h.remark w
          simpa only [List.map_cons, hv, calls] using ih

end Rewords

end FieldTemplates.Php
