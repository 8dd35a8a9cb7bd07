import FieldTemplates.Proofs.Key.Allocator

namespace FieldTemplates.Key

-- What a caller asks of an allocator. A candidate may be missing altogether.
inductive Call where
  | allocate (candidate : Option String) (kind : String)
  | reset

-- The answer, where there is one, and the allocator after the call.
def Call.perform (source : Source) (a : Allocator) : Call → Option String × Allocator
  | .allocate candidate kind =>
    let given := a.allocate source (candidate.getD "") kind
    (some given.1, given.2)
  | .reset => (none, a.reset)

-- `used` holds the book of each allocator, by its number.
structure Process where
  counter : Nat
  used : Nat → List String := fun _ => []

namespace Process

def allocator (p : Process) (i : Nat) : Allocator := ⟨p.used i, p.counter⟩

def put (p : Process) (i : Nat) (a : Allocator) : Process where
  counter := a.next
  used := fun j => if j = i then a.used else p.used j

end Process

-- A call to one of the allocators with what came back.
structure Event where
  allocator : Nat
  call : Call
  answer : Option String

structure History where
  events : List Event
  process : Process

def play (source : Source) (p : Process) : List (Nat × Call) → History
  | [] => ⟨[], p⟩
  | (i, call) :: calls =>
    let done := call.perform source (p.allocator i)
    let rest := play source (p.put i done.2) calls
    ⟨⟨i, call, done.1⟩ :: rest.events, rest.process⟩

-- The keys that are out after an event, for those who watch one allocator. Only a reset has no
-- answer, and it calls all keys in.
def Event.keysAfter (i : Nat) (keys : List String) (e : Event) : List String :=
  if e.allocator = i then
    match e.answer with
    | some key => keys ++ [key]
    | none => []
  else keys

def keysOut (i : Nat) (keys : List String) (events : List Event) : List String :=
  events.foldl (Event.keysAfter i) keys

-- The keys that an allocator has given since its last reset.
def returned (i : Nat) (events : List Event) : List String := keysOut i [] events

-- Keys that may stand side by side.
structure Distinct (keys : List String) : Prop where
  nonempty : ∀ key ∈ keys, key ≠ ""
  nodup : keys.Nodup

theorem Distinct.concat {keys : List String} {key : String} (hk : Distinct keys)
    (hne : key ≠ "") (hnew : key ∉ keys) : Distinct (keys ++ [key]) := by
  refine ⟨?_, ?_⟩
  · intro other ho
    rcases List.mem_append.mp ho with ho | ho
    · exact hk.nonempty other ho
    · exact List.mem_singleton.mp ho ▸ hne
  · exact List.nodup_append.mpr ⟨hk.nodup, List.nodup_singleton key, by
      intro old ho new hn he
      exact hnew (List.mem_singleton.mp hn ▸ he ▸ ho)⟩

theorem perform_used (source : Source) (a : Allocator) (i : Nat) (call : Call) :
    (call.perform source a).2.used =
      Event.keysAfter i a.used ⟨i, call, (call.perform source a).1⟩ := by
  cases call with
  | allocate candidate kind => simp [Call.perform, Event.keysAfter]
  | reset => simp [Call.perform, Event.keysAfter, Allocator.reset]

theorem perform_distinct {source : Source} (hs : Random source) {a : Allocator}
    (ha : Distinct a.used) (call : Call) : Distinct (call.perform source a).2.used := by
  cases call with
  | allocate candidate kind =>
      simp only [Call.perform, Allocator.allocate_used]
      exact ha.concat (Allocator.allocate_ne_empty source a _ kind)
        (Allocator.allocate_notMem hs a _ kind)
  | reset => exact ⟨by simp [Call.perform, Allocator.reset], List.nodup_nil⟩

-- One call adds its answer to the book of the allocator that was called, and to no other.
theorem put_used (source : Source) (p : Process) (i j : Nat) (call : Call) :
    (p.put j (call.perform source (p.allocator j)).2).used i =
      Event.keysAfter i (p.used i) ⟨j, call, (call.perform source (p.allocator j)).1⟩ := by
  by_cases hij : i = j
  · subst hij
    simp only [Process.put, ite_true]
    exact perform_used source (p.allocator i) i call
  · have hji : ¬j = i := fun h => hij h.symm
    simp [Process.put, Event.keysAfter, hij, hji]

theorem play_used (source : Source) (p : Process) (calls : List (Nat × Call)) (i : Nat) :
    (play source p calls).process.used i =
      keysOut i (p.used i) (play source p calls).events := by
  induction calls generalizing p with
  | nil => rfl
  | cons first calls ih =>
      obtain ⟨j, call⟩ := first
      simp only [play, keysOut, List.foldl_cons]
      rw [ih, put_used]
      rfl

theorem play_distinct {source : Source} (hs : Random source) (p : Process)
    (hp : ∀ i, Distinct (p.used i)) (calls : List (Nat × Call)) (i : Nat) :
    Distinct ((play source p calls).process.used i) := by
  induction calls generalizing p with
  | nil => exact hp i
  | cons first calls ih =>
      obtain ⟨j, call⟩ := first
      apply ih
      intro k
      by_cases hk : k = j
      · simp only [Process.put, hk, ite_true]
        exact perform_distinct hs (hp j) call
      · simpa only [Process.put, hk, ite_false] using hp k

-- The next call to an allocator after any history: a candidate that is free comes back without a
-- mint, any other is answered with another key.
theorem perform_allocate {source : Source} (hs : Random source) (a : Allocator)
    (candidate : Option String) (kind : String) :
    ∃ key, ((Call.allocate candidate kind).perform source a).1 = some key ∧
      (∀ c, candidate = some c → a.Free c →
        key = c ∧ ((Call.allocate candidate kind).perform source a).2.next = a.next) ∧
      ((∀ c, candidate = some c → ¬a.Free c) → some key ≠ candidate) := by
  refine ⟨_, rfl, ?_, ?_⟩
  · rintro c rfl hfree
    simp [Call.perform, Allocator.allocate_of_free source kind hfree]
  · intro hnone hkey
    cases candidate with
    | none => cases hkey
    | some c => exact Allocator.allocate_ne hs kind (hnone c rfl) (Option.some.inj hkey)

-- Whatever is asked of the allocators of a process and in whatever order, what one of them has
-- given since its last reset is free of repetitions and is exactly what its book says.
theorem returned_keys_distinct (source : Source) (hs : Random source) (counter : Nat)
    (calls : List (Nat × Call)) (i : Nat) :
    let h := play source { counter } calls
    let a := h.process.allocator i
    let keys := returned i h.events
    (∀ key ∈ keys, key ≠ "") ∧ keys.Nodup ∧ a.used = keys ∧
      (∀ key, a.isUsed key = true ↔ key ∈ keys) ∧
      ∀ (candidate : Option String) (kind : String), ∃ key,
        ((Call.allocate candidate kind).perform source a).1 = some key ∧
        (∀ c, candidate = some c → c ≠ "" → c ∉ keys →
          key = c ∧ ((Call.allocate candidate kind).perform source a).2.next = h.process.counter) ∧
        ((∀ c, candidate = some c → ¬(c ≠ "" ∧ c ∉ keys)) → some key ≠ candidate) := by
  intro h a keys
  have hbook : a.used = keys := play_used source { counter } calls i
  have hd : Distinct a.used :=
    play_distinct hs { counter } (fun _ => ⟨by simp, List.nodup_nil⟩) calls i
  refine ⟨hbook ▸ hd.nonempty, hbook ▸ hd.nodup, hbook, ?_, ?_⟩
  · intro key
    rw [← hbook]
    exact List.contains_iff_mem
  · intro candidate kind
    obtain ⟨key, hkey, hkeep, hother⟩ := perform_allocate hs a candidate kind
    refine ⟨key, hkey, ?_, ?_⟩
    · intro c hc hne hnew
      exact hkeep c hc ⟨hne, hbook ▸ hnew⟩
    · intro hnone
      apply hother
      intro c hc hfree
      exact hnone c hc ⟨hfree.1, hbook ▸ hfree.2⟩

-- Two allocators in turn: a repeated candidate, a missing one, and a candidate that was minted for
-- another call before.
def mixedCalls : List (Nat × Call) := [
  (0, .allocate (some "field_a") "field"), (1, .allocate (some "field_a") "field"),
  (0, .allocate (some "field_a") "field"), (1, .reset), (0, .allocate none "group"),
  (0, .allocate (some "field_0123456780001_1700000000") "field")]

theorem returned_keys_distinct_of_mixedCalls :
    let keys := returned 0 (play constantSource { counter := 1 } mixedCalls).events
    Random constantSource ∧ keys = ["field_a", "field_0123456780001_1700000000",
      "group_0123456780002_1700000000", "field_0123456780003_1700000000"] ∧ keys.Nodup :=
  ⟨constantSource_random, by decide +kernel,
    (returned_keys_distinct constantSource constantSource_random 1 mixedCalls 0).2.1⟩

end FieldTemplates.Key
