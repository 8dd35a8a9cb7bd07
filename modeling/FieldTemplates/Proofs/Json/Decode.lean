import FieldTemplates.Json.Decode
import FieldTemplates.Proofs.Data.Table

namespace FieldTemplates

theorem ok_of_bind {ε α β : Type} {x : Except ε α} {f : α → Except ε β} {b : β}
    (h : x >>= f = .ok b) : ∃ a, x = .ok a ∧ f a = .ok b := by
  cases x with
  | error e => cases h
  | ok a => exact ⟨a, rfl, h⟩

-- No object within the value has two members of one name.
inductive Value.Distinct : Value → Prop where
  | null : Distinct .null
  | bool (b : Bool) : Distinct (.bool b)
  | int (n : Int) : Distinct (.int n)
  | real (x : Binary64) : Distinct (.real x)
  | text (s : String) : Distinct (.text s)
  | list {items : List Value} (hitems : ∀ v ∈ items, Distinct v) : Distinct (.list items)
  | object {members : Table Value} (hnames : members.names.Nodup)
      (hmembers : ∀ m ∈ members, Distinct m.2) : Distinct (.object members)

theorem Value.Distinct.names {members : Table Value} (h : (Value.object members).Distinct) :
    members.names.Nodup := by
  cases h with
  | object hnames hmembers => exact hnames

theorem Value.Distinct.member {members : Table Value} (h : (Value.object members).Distinct)
    {m : String × Value} (hm : m ∈ members) : m.2.Distinct := by
  cases h with
  | object hnames hmembers => exact hmembers m hm

theorem Value.Distinct.perm {members others : Table Value} (h : (Value.object members).Distinct)
    (hperm : others.Perm members) : (Value.object others).Distinct :=
  .object ((hperm.map Prod.fst).nodup_iff.mpr h.names) fun _ hm => h.member (hperm.mem_iff.mp hm)

namespace Json

theorem distinct_readWord {cs rest : List Char} {v : Value} (h : readWord cs = some (v, rest)) :
    v.Distinct := by
  obtain ⟨⟨word, w⟩, hword, hfound⟩ := List.exists_of_findSome?_eq_some h
  dsimp only at hfound
  split_ifs at hfound
  obtain ⟨rfl, -⟩ := Prod.mk.inj (Option.some.inj hfound)
  simp only [words, List.mem_cons, List.not_mem_nil, or_false, Prod.mk.injEq] at hword
  rcases hword with ⟨-, rfl⟩ | ⟨-, rfl⟩ | ⟨-, rfl⟩ | ⟨-, rfl⟩ | ⟨-, rfl⟩ | ⟨-, rfl⟩ <;> constructor

theorem distinct_readNumber {negative : Bool} {cs rest : List Char} {v : Value}
    (h : readNumber negative cs = .ok (some (v, rest))) : v.Distinct := by
  simp only [readNumber] at h
  split at h
  · cases h
  · split at h
    · obtain ⟨n, -, hn⟩ := ok_of_bind h
      obtain ⟨rfl, -⟩ := Prod.mk.inj (Option.some.inj (Except.ok.inj hn))
      exact .int _
    · obtain ⟨rfl, -⟩ := Prod.mk.inj (Option.some.inj (Except.ok.inj h))
      exact .real _

theorem distinct_readScalar {cs rest : List Char} {v : Value} (h : readScalar cs = .ok (v, rest)) :
    v.Distinct := by
  simp only [readScalar] at h
  split at h
  · rename_i r hword
    obtain rfl := Except.ok.inj h
    exact distinct_readWord hword
  · split at h
    all_goals
      obtain ⟨number, hnumber, hr⟩ := ok_of_bind h
      cases number with
      | none => cases hr
      | some r =>
          obtain rfl := Except.ok.inj hr
          exact distinct_readNumber hnumber

theorem distinct_ofMembers {members : List (String × Value)} (h : ∀ m ∈ members, m.2.Distinct) :
    (Value.object (Table.ofMembers members)).Distinct :=
  .object (Table.nodup_merge (t := []) List.nodup_nil members) fun _ hm =>
    h _ ((Table.mem_merge hm).resolve_left List.not_mem_nil)

-- What is read within so many calls.
structure ReadsDistinct (fuel : Nat) : Prop where
  value : ∀ {depth cs v rest}, readValue fuel depth cs = .ok (v, rest) → v.Distinct
  items : ∀ {depth cs vs rest}, readItems fuel depth cs = .ok (vs, rest) → ∀ v ∈ vs, v.Distinct
  members : ∀ {depth cs ms rest}, readMembers fuel depth cs = .ok (ms, rest) → ∀ m ∈ ms, m.2.Distinct

section

variable {fuel depth : Nat} {cs rest : List Char} (ih : ReadsDistinct fuel)
include ih

theorem distinct_readValue {v : Value} (h : readValue (fuel + 1) depth cs = .ok (v, rest)) :
    v.Distinct := by
  unfold readValue at h
  split at h
  · obtain ⟨s, -, hs⟩ := ok_of_bind h
    obtain ⟨rfl, -⟩ := Prod.mk.inj (Except.ok.inj hs)
    exact .text _
  · cases h
  · cases h
  · split at h
    · obtain ⟨rfl, -⟩ := Prod.mk.inj (Except.ok.inj h)
      exact .list fun v hv => absurd hv List.not_mem_nil
    · obtain ⟨items, hitems, hrest⟩ := ok_of_bind h
      obtain ⟨rfl, -⟩ := Prod.mk.inj (Except.ok.inj hrest)
      exact .list (ih.items hitems)
  · split at h
    · obtain ⟨rfl, -⟩ := Prod.mk.inj (Except.ok.inj h)
      exact .object List.nodup_nil fun m hm => absurd hm List.not_mem_nil
    · obtain ⟨members, hmembers, hrest⟩ := ok_of_bind h
      obtain ⟨rfl, -⟩ := Prod.mk.inj (Except.ok.inj hrest)
      exact distinct_ofMembers (ih.members hmembers)
  · exact distinct_readScalar h

theorem distinct_readItems {vs : List Value} (h : readItems (fuel + 1) depth cs = .ok (vs, rest)) :
    ∀ v ∈ vs, v.Distinct := by
  unfold readItems at h
  obtain ⟨⟨first, after⟩, hfirst, hrest⟩ := ok_of_bind h
  dsimp only at hrest
  split at hrest
  · obtain ⟨rfl, -⟩ := Prod.mk.inj (Except.ok.inj hrest)
    exact List.forall_mem_singleton.mpr (ih.value hfirst)
  · obtain ⟨⟨others, _⟩, hothers, hlist⟩ := ok_of_bind hrest
    obtain ⟨rfl, -⟩ := Prod.mk.inj (Except.ok.inj hlist)
    exact List.forall_mem_cons.mpr ⟨ih.value hfirst, ih.items hothers⟩
  · cases hrest

theorem distinct_readMembers {ms : List (String × Value)}
    (h : readMembers (fuel + 1) depth cs = .ok (ms, rest)) : ∀ m ∈ ms, m.2.Distinct := by
  unfold readMembers at h
  split at h
  · obtain ⟨⟨name, after⟩, -, hcolon⟩ := ok_of_bind h
    dsimp only at hcolon
    split at hcolon
    · obtain ⟨⟨first, after⟩, hfirst, hrest⟩ := ok_of_bind hcolon
      dsimp only at hrest
      split at hrest
      · obtain ⟨rfl, -⟩ := Prod.mk.inj (Except.ok.inj hrest)
        exact List.forall_mem_singleton.mpr (ih.value hfirst)
      · obtain ⟨⟨others, _⟩, hothers, hlist⟩ := ok_of_bind hrest
        obtain ⟨rfl, -⟩ := Prod.mk.inj (Except.ok.inj hlist)
        exact List.forall_mem_cons.mpr ⟨ih.value hfirst, ih.members hothers⟩
      · cases hrest
    · cases hcolon
  · cases h

end

theorem reads_distinct (fuel : Nat) : ReadsDistinct fuel := by
  induction fuel with
  | zero =>
      constructor
      · exact fun h => nomatch h
      · exact fun h => nomatch h
      · exact fun h => nomatch h
  | succ fuel ih => exact ⟨distinct_readValue ih, distinct_readItems ih, distinct_readMembers ih⟩

theorem distinct_decode {cs : List Char} {v : Value} (h : decode cs = .ok v) : v.Distinct := by
  simp only [decode] at h
  split at h
  · rename_i w hread
    obtain rfl := Except.ok.inj h
    simp only [readDocument] at hread
    split at hread
    · cases hread
    · obtain ⟨⟨v, rest⟩, hvalue, hend⟩ := ok_of_bind hread
      split at hend
      · obtain rfl := Except.ok.inj hend
        exact (reads_distinct _).value hvalue
      · cases hend
  · cases h
  · cases h

end Json

end FieldTemplates
