import FieldTemplates.Proofs.Key.Process

namespace FieldTemplates.Key

-- `Searches source kind used count mints key`: from the counter at `count` on, `mints` are made, each
-- but the last gives a key in use, and the last gives `key`.
inductive Searches (source : Source) (kind : String) (used : List String) :
    Nat → List Mint → String → Prop where
  | found {count} (hnew : mint source kind count ∉ used) :
      Searches source kind used count [⟨kind, count⟩] (mint source kind count)
  | taken {count mints key} (hused : mint source kind count ∈ used)
      (hrest : Searches source kind used (count + 1) mints key) :
      Searches source kind used count (⟨kind, count⟩ :: mints) key

namespace Searches

variable {source : Source} {kind : String} {used : List String} {count : Nat}

theorem unique {mints others : List Mint} {key other : String}
    (h : Searches source kind used count mints key)
    (hother : Searches source kind used count others other) : mints = others ∧ key = other := by
  induction h generalizing others with
  | found hnew =>
      cases hother with
      | found => exact ⟨rfl, rfl⟩
      | taken hused => exact absurd hused hnew
  | taken hused hrest ih =>
      cases hother with
      | found hnew => exact absurd hused hnew
      | taken hused hrest =>
          obtain ⟨rfl, rfl⟩ := ih hrest
          exact ⟨rfl, rfl⟩

-- The counter goes up by one with each mint.
theorem counts {mints : List Mint} {key : String}
    (h : Searches source kind used count mints key) :
    mints.map Mint.count = List.range' count mints.length := by
  induction h with
  | found => rfl
  | taken hused hrest ih => simp only [List.map_cons, List.length_cons, List.range'_succ, ih]

theorem mem_mints {mints : List Mint} {key : String}
    (h : Searches source kind used count mints key) :
    ∃ m ∈ mints, m.kind = kind ∧ m.key source = key := by
  induction h with
  | found => exact ⟨_, List.mem_singleton_self _, rfl, rfl⟩
  | taken hused hrest ih =>
      obtain ⟨m, hm, hkind, hkey⟩ := ih
      exact ⟨m, List.mem_cons_of_mem _ hm, hkind, hkey⟩

-- What is tried in vain, and then the mint that is new.
theorem of_tried {tried : Nat} (hused : ∀ i < tried, mint source kind (count + i) ∈ used)
    (hnew : mint source kind (count + tried) ∉ used) :
    ∃ mints, mints.length = tried + 1 ∧
      Searches source kind used count mints (mint source kind (count + tried)) := by
  induction tried generalizing count with
  | zero => exact ⟨_, rfl, .found hnew⟩
  | succ tried ih =>
      have hshift : ∀ i, count + 1 + i = count + (i + 1) := by omega
      have hlater : ∀ i < tried, mint source kind (count + 1 + i) ∈ used :=
        fun i hi => hshift i ▸ hused (i + 1) (by omega)
      obtain ⟨mints, hlength, hrest⟩ := ih hlater (hshift tried ▸ hnew)
      refine ⟨⟨kind, count⟩ :: mints, by simp only [List.length_cons, hlength], ?_⟩
      rw [← hshift tried]
      exact .taken (hused 0 (by omega)) hrest

end Searches

-- What a call comes to, with the mints that it makes: a candidate that is free is given as it is.
inductive Call.Runs (source : Source) (a : Allocator) :
    Call → List Mint → Option String × Allocator → Prop where
  | kept {candidate kind} (hfree : a.Free (candidate.getD "")) :
      Call.Runs source a (.allocate candidate kind) []
        (some (candidate.getD ""), { a with used := a.used ++ [candidate.getD ""] })
  | minted {candidate kind mints key} (hfree : ¬a.Free (candidate.getD ""))
      (hsearch : Searches source kind a.used a.next mints key) :
      Call.Runs source a (.allocate candidate kind) mints
        (some key, ⟨a.used ++ [key], a.next + mints.length⟩)
  | reset : Call.Runs source a .reset [] (none, a.reset)

namespace Call.Runs

variable {source : Source} {a : Allocator} {call : Call}

theorem unique {mints others : List Mint} {result other : Option String × Allocator}
    (h : call.Runs source a mints result) (hother : call.Runs source a others other) :
    mints = others ∧ result = other := by
  cases h with
  | kept hfree =>
      cases hother with
      | kept => exact ⟨rfl, rfl⟩
      | minted hnot => exact absurd hfree hnot
  | minted hnot hsearch =>
      cases hother with
      | kept hfree => exact absurd hfree hnot
      | minted _ hother =>
          obtain ⟨rfl, rfl⟩ := hsearch.unique hother
          exact ⟨rfl, rfl⟩
  | reset =>
      cases hother
      exact ⟨rfl, rfl⟩

theorem counts {mints : List Mint} {result : Option String × Allocator}
    (h : call.Runs source a mints result) :
    mints.map Mint.count = List.range' a.next mints.length ∧
      result.2.next = a.next + mints.length := by
  cases h with
  | kept | reset => exact ⟨rfl, rfl⟩
  | minted hnot hsearch => exact ⟨hsearch.counts, rfl⟩

end Call.Runs

-- With the bound on the tries taken away, a call comes to what `perform` says, and soon.
theorem runs_perform {source : Source} (hs : Random source) (a : Allocator) (call : Call) :
    ∃ mints, mints.length ≤ a.used.length + 1 ∧
      call.Runs source a mints (call.perform source a) := by
  cases call with
  | reset => exact ⟨[], Nat.zero_le _, .reset⟩
  | allocate candidate kind =>
      by_cases hfree : a.Free (candidate.getD "")
      · refine ⟨[], Nat.zero_le _, ?_⟩
        rw [Call.perform, Allocator.allocate_of_free source kind hfree]
        exact .kept hfree
      · obtain ⟨tried, hle, hused, hnew, heq⟩ := Allocator.allocate_of_not_free hs kind hfree
        obtain ⟨mints, hlength, hsearch⟩ := Searches.of_tried hused hnew
        refine ⟨mints, by omega, ?_⟩
        rw [Call.perform, heq, Nat.add_assoc, ← hlength]
        exact .minted hfree hsearch

-- The calls of a process one after another, with all the mints that they make.
inductive Plays (source : Source) :
    Process → List (Nat × Call) → List Mint → History → Prop where
  | nil {p} : Plays source p [] [] ⟨[], p⟩
  | cons {p i call calls mints more answer a h}
      (hcall : call.Runs source (p.allocator i) mints (answer, a))
      (hcalls : Plays source (p.put i a) calls more h) :
      Plays source p ((i, call) :: calls) (mints ++ more) ⟨⟨i, call, answer⟩ :: h.events, h.process⟩

namespace Plays

variable {source : Source} {p : Process} {calls : List (Nat × Call)}

theorem unique {mints others : List Mint} {h other : History} (hplays : Plays source p calls mints h)
    (hother : Plays source p calls others other) : mints = others ∧ h = other := by
  induction hplays generalizing others other with
  | nil =>
      cases hother
      exact ⟨rfl, rfl⟩
  | cons hcall hcalls ih =>
      cases hother with
      | cons hfirst hrest =>
          obtain ⟨rfl, hresult⟩ := hcall.unique hfirst
          obtain ⟨rfl, rfl⟩ := Prod.mk.inj hresult
          obtain ⟨rfl, rfl⟩ := ih hrest
          exact ⟨rfl, rfl⟩

-- Whoever calls, each mint of a process takes the next value of the counter.
theorem counts {mints : List Mint} {h : History} (hplays : Plays source p calls mints h) :
    mints.map Mint.count = List.range' p.counter mints.length := by
  induction hplays with
  | nil => rfl
  | @cons p i call calls mints more answer a h hcall hcalls ih =>
      obtain ⟨hcounts, hnext⟩ := hcall.counts
      have hstart : (p.allocator i).next = p.counter := rfl
      have hcounter : (p.put i a).counter = p.counter + mints.length := hnext
      rw [List.map_append, hcounts, ih, hstart, hcounter, List.length_append, List.range'_append_1]

theorem count_getElem? {mints : List Mint} {h : History} (hplays : Plays source p calls mints h)
    {i : Nat} {m : Mint} (hget : mints[i]? = some m) : m.count = p.counter + i := by
  have hcount : (mints.map Mint.count)[i]? = some m.count := by
    rw [List.getElem?_map, hget, Option.map_some]
  obtain ⟨hi, -⟩ := List.getElem?_eq_some_iff.mp hget
  rw [hplays.counts, List.getElem?_range' hi, Nat.one_mul] at hcount
  exact (Option.some.inj hcount).symm

theorem nodup_keys (hs : Random source) {mints : List Mint} {h : History}
    (hplays : Plays source p calls mints h) : (mints.map (Mint.key source)).Nodup := by
  apply Key.nodup_keys hs
  rw [hplays.counts]
  exact List.nodup_range'

end Plays

theorem plays_play {source : Source} (hs : Random source) (p : Process)
    (calls : List (Nat × Call)) : ∃ mints, Plays source p calls mints (play source p calls) := by
  induction calls generalizing p with
  | nil => exact ⟨[], .nil⟩
  | cons first calls ih =>
      obtain ⟨i, call⟩ := first
      obtain ⟨mints, -, hcall⟩ := runs_perform hs (p.allocator i) call
      obtain ⟨more, hcalls⟩ := ih (p.put i (call.perform source (p.allocator i)).2)
      exact ⟨mints ++ more, .cons hcall hcalls⟩

-- All mints of a process differ, over all its allocators and resets, and a call ends after at most
-- one mint more than there are used keys. That holds of any values of the counter, so also where other
-- callers mint in between.
theorem mints_apart_and_few (source : Source) (hs : Random source) :
    (∀ (kind other : String) (m n : Nat), m ≠ n → mint source kind m ≠ mint source other n) ∧
      (∀ (p : Process) (calls : List (Nat × Call)),
        (∃ mints, Plays source p calls mints (play source p calls)) ∧
          ∀ mints h, Plays source p calls mints h →
            h = play source p calls ∧ (mints.map (Mint.key source)).Nodup) ∧
      (∀ (a : Allocator) (call : Call),
        (∃ mints, call.Runs source a mints (call.perform source a)) ∧
          ∀ mints result, call.Runs source a mints result →
            result = call.perform source a ∧ mints.length ≤ a.used.length + 1) ∧
      ∀ (used : List String) (kind : String) (counts : Nat → Nat), Function.Injective counts →
        ∃ tried ≤ used.length, mint source kind (counts tried) ∉ used := by
  refine ⟨?_, ?_, ?_, ?_⟩
  · intro kind other m n hne heq
    exact hne (mint_inj hs heq)
  · intro p calls
    obtain ⟨mints, hplays⟩ := plays_play hs p calls
    refine ⟨⟨mints, hplays⟩, fun others h hother => ?_⟩
    exact ⟨(hother.unique hplays).2, hother.nodup_keys hs⟩
  · intro a call
    obtain ⟨mints, hle, hruns⟩ := runs_perform hs a call
    refine ⟨⟨mints, hruns⟩, fun others result hother => ?_⟩
    obtain ⟨rfl, rfl⟩ := hother.unique hruns
    exact ⟨rfl, hle⟩
  · intro used kind counts hcounts
    exact Allocator.exists_unused_mint hs kind used hcounts

-- The book holds what the next mint gives, so that mint is thrown away.
def spentBook : Allocator := ⟨[mint constantSource "field" 1], 1⟩

theorem mints_apart_and_few_of_spentBook :
    let call := Call.allocate none "field"
    let mints : List Mint := [⟨"field", 1⟩, ⟨"field", 2⟩]
    let key := mint constantSource "field" 2
    Random constantSource ∧
      mint constantSource "field" 1 ≠ mint constantSource "field_0" 0x10000 ∧
      (∃ made, Plays constantSource { counter := 1 } mixedCalls made
          (play constantSource { counter := 1 } mixedCalls) ∧
        (made.map (Mint.key constantSource)).Nodup) ∧
      call.Runs constantSource spentBook mints (some key, ⟨spentBook.used ++ [key], 3⟩) ∧
      (some key, ⟨spentBook.used ++ [key], 3⟩) = call.perform constantSource spentBook ∧
      mints.length ≤ spentBook.used.length + 1 ∧
      ∃ tried ≤ 1, mint constantSource "field" (2 * tried + 1) ∉ spentBook.used := by
  intro call mints key
  obtain ⟨hapart, hplay, hcall, hsearch⟩ :=
    mints_apart_and_few constantSource constantSource_random
  have hnew : key ∉ spentBook.used := by
    simpa [spentBook] using hapart "field" "field" 2 1 (by omega)
  have hruns : call.Runs constantSource spentBook mints (some key, ⟨spentBook.used ++ [key], 3⟩) :=
    .minted (fun hfree => hfree.1 rfl) (.taken List.mem_cons_self (.found hnew))
  obtain ⟨hresult, hfew⟩ := (hcall spentBook call).2 mints _ hruns
  refine ⟨constantSource_random, hapart _ _ 1 0x10000 (by omega), ?_, hruns, hresult, hfew, ?_⟩
  · obtain ⟨made, hplays⟩ := (hplay { counter := 1 } mixedCalls).1
    exact ⟨made, hplays, ((hplay { counter := 1 } mixedCalls).2 made _ hplays).2⟩
  · exact hsearch spentBook.used "field" (2 * · + 1) fun m n hmn => by
      simp only at hmn
      omega

end FieldTemplates.Key
