import FieldTemplates.Proofs.Key.Search

namespace FieldTemplates.Key

-- `kind`, then `width` hexadecimal digits, then the decimal digits of `seconds`.
def Formed (kind : String) (width : Nat) (seconds : Int) (key : String) : Prop :=
  ∃ token, token.length = width ∧ (∀ c ∈ token, c ∈ Text.hexAlphabet) ∧
    key.toList = kind.toList ++ '_' :: (token ++ '_' :: Nat.toDigits 10 seconds.toNat)

theorem Formed.width_unique {kind key : String} {width other : Nat} {seconds : Int}
    (h : Formed kind width seconds key) (hother : Formed kind other seconds key) :
    width = other := by
  obtain ⟨token, rfl, -, hkey⟩ := h
  obtain ⟨digits, rfl, -, hdigits⟩ := hother
  rw [hkey] at hdigits
  have hrest := List.append_cancel_left hdigits
  rw [List.append_cancel_right (List.cons.inj hrest).2]

theorem formed_mint {source : Source} (hs : Random source) (kind : String) {count : Nat}
    (hclock : 0 ≤ (source count).seconds) :
    Formed kind (9 + max 4 (Nat.toDigits 16 count).length) (source count).seconds
      (mint source kind count) := by
  refine ⟨token source count, length_token hs count, fun c hc => mem_token hs hc, ?_⟩
  rw [toList_mint, Text.toList_toString_of_nonneg hclock]

-- The documented width is the width of the counters with at most four digits.
theorem formed_thirteen_iff {source : Source} (hs : Random source) (kind : String) {count : Nat}
    (hclock : 0 ≤ (source count).seconds) :
    Formed kind 13 (source count).seconds (mint source kind count) ↔ count < 0x10000 := by
  have hformed := formed_mint hs kind hclock
  have hdigits : (Nat.toDigits 16 count).length ≤ 4 ↔ count < 0x10000 :=
    Nat.length_toDigits_le_iff (by omega) (by omega)
  rw [← hdigits]
  constructor
  · intro h
    have hwidth := h.width_unique hformed
    omega
  · intro h
    have hwidth : 9 + max 4 (Nat.toDigits 16 count).length = 13 := by omega
    exact hwidth ▸ hformed

-- The event of a key that is minted: only then is the answer not what was asked for.
def Event.Mints (e : Event) (kind key : String) : Prop :=
  ∃ candidate, e.call = .allocate candidate kind ∧ e.answer = some key ∧ candidate ≠ some key

-- Each minted key is that of a mint of the process.
theorem Plays.mem_mints {source : Source} {p : Process} {calls : List (Nat × Call)}
    {mints : List Mint} {h : History} (hplays : Plays source p calls mints h) {e : Event}
    (he : e ∈ h.events) {kind key : String} (hmints : e.Mints kind key) :
    ∃ m ∈ mints, m.kind = kind ∧ m.key source = key := by
  induction hplays with
  | nil => cases he
  | cons hcall hcalls ih =>
      rcases List.mem_cons.mp he with rfl | he
      · obtain ⟨candidate, rfl, hanswer, hne⟩ := hmints
        cases hcall with
        | kept hfree =>
            cases candidate with
            | none => exact absurd rfl hfree.1
            | some c => exact absurd hanswer hne
        | minted hfree hsearch =>
            obtain rfl := Option.some.inj hanswer
            obtain ⟨m, hm, hkind, hkey⟩ := hsearch.mem_mints
            exact ⟨m, List.mem_append_left _ hm, hkind, hkey⟩
      · obtain ⟨m, hm, hkind, hkey⟩ := ih he
        exact ⟨m, List.mem_append_right _ hm, hkind, hkey⟩

-- A caller without a candidate is given one mint after another, as long as its book holds no mint
-- of a later counter.
theorem events_of_missing {source : Source} (hs : Random source) (kind : String) (i : Nat)
    (p : Process) (hbook : ∀ key ∈ p.used i, ∃ n < p.counter, key = mint source kind n) (k : Nat) :
    (play source p (List.replicate k (i, .allocate none kind))).events =
      (List.range' p.counter k).map fun n => ⟨i, .allocate none kind, some (mint source kind n)⟩ := by
  induction k generalizing p with
  | zero => rfl
  | succ k ih =>
      have hfree : ¬(p.allocator i).Free "" := fun h => h.1 rfl
      obtain ⟨tried, -, hused, -, heq⟩ := Allocator.allocate_of_not_free hs kind hfree
      -- the book knows only earlier mints, so the first try is new
      have htried : tried = 0 := by
        by_contra hne
        obtain ⟨n, hn, hmint⟩ := hbook _ (hused 0 (by omega))
        have hsame : p.counter + 0 = n := mint_inj hs hmint
        omega
      subst htried
      have hperform : (Call.allocate none kind).perform source (p.allocator i) =
          (some (mint source kind p.counter),
            ⟨p.used i ++ [mint source kind p.counter], p.counter + 1⟩) := by
        rw [Call.perform, Option.getD_none, heq]
        rfl
      simp only [List.replicate_succ, play, hperform, List.range'_succ, List.map_cons]
      congr 1
      apply ih
      intro key hkey
      simp only [Process.put, ite_true] at hkey
      rcases List.mem_append.mp hkey with hkey | hkey
      · obtain ⟨n, hn, hmint⟩ := hbook key hkey
        exact ⟨n, Nat.lt_succ_of_lt hn, hmint⟩
      · exact ⟨p.counter, Nat.lt_succ_self _, List.mem_singleton.mp hkey⟩

theorem mem_events_of_missing {source : Source} (hs : Random source) (kind : String) {k n : Nat}
    (hn : 1 ≤ n) (hk : n ≤ k) :
    ⟨0, .allocate none kind, some (mint source kind n)⟩ ∈
      (play source { counter := 1 } (List.replicate k (0, .allocate none kind))).events := by
  rw [events_of_missing hs kind 0 { counter := 1 } (by simp)]
  refine List.mem_map.mpr ⟨n, ?_, rfl⟩
  simp only [List.mem_range'_1]
  omega

-- The keys that a process mints from its start on have the kind, the time and hexadecimal digits in
-- their places. There are thirteen digits in those of the first 65535 mints and in no later one.
theorem minted_keys_formed (source : Source) (hs : Random source)
    (hclock : ∀ count, 0 ≤ (source count).seconds) (calls : List (Nat × Call)) :
    let h := play source { counter := 1 } calls
    ∃ mints, Plays source { counter := 1 } calls mints h ∧
      ∀ e ∈ h.events, ∀ kind key, e.Mints kind key →
        ∃ i, mints[i]? = some ⟨kind, i + 1⟩ ∧ key = mint source kind (i + 1) ∧
          Formed kind (9 + max 4 (Nat.toDigits 16 (i + 1)).length) (source (i + 1)).seconds key ∧
          (Formed kind 13 (source (i + 1)).seconds key ↔ i < 0xFFFF) := by
  intro h
  obtain ⟨mints, hplays⟩ := plays_play hs { counter := 1 } calls
  refine ⟨mints, hplays, fun e he kind key hmints => ?_⟩
  obtain ⟨⟨word, count⟩, hm, rfl, rfl⟩ := hplays.mem_mints he hmints
  obtain ⟨i, hget⟩ := List.mem_iff_getElem?.mp hm
  have hcount : count = 1 + i := hplays.count_getElem? hget
  obtain rfl : count = i + 1 := by omega
  have hthirteen := formed_thirteen_iff hs word (hclock (i + 1))
  refine ⟨i, hget, rfl, formed_mint hs word (hclock (i + 1)), hthirteen.trans ?_⟩
  omega

theorem minted_keys_formed_of_longRun :
    let key := "field_012345678ffff_1700000000"
    let calls := List.replicate 0xFFFF (0, Call.allocate none "field")
    let e : Event := ⟨0, .allocate none "field", some key⟩
    Random constantSource ∧ (∀ count, 0 ≤ (constantSource count).seconds) ∧
      e ∈ (play constantSource { counter := 1 } calls).events ∧ e.Mints "field" key ∧
      Formed "field" 13 (constantSource 0xFFFF).seconds key := by
  intro key calls e
  have hkey : mint constantSource "field" 0xFFFF = key := by decide +kernel
  have hclock : ∀ count, 0 ≤ (constantSource count).seconds := fun _ => Int.natCast_nonneg 1700000000
  have he : e ∈ (play constantSource { counter := 1 } calls).events := by
    have hmem := mem_events_of_missing constantSource_random "field" (by omega) (Nat.le_refl 0xFFFF)
    rwa [hkey] at hmem
  have hmints : e.Mints "field" key := ⟨none, rfl, rfl, (Option.some_ne_none key).symm⟩
  refine ⟨constantSource_random, hclock, he, hmints, ?_⟩
  obtain ⟨mints, -, hformed⟩ := minted_keys_formed constantSource constantSource_random hclock calls
  obtain ⟨i, -, hmint, -, hthirteen⟩ := hformed e he "field" key hmints
  have hi : 0xFFFF = i + 1 := mint_inj constantSource_random (hkey.trans hmint)
  rw [hi]
  exact hthirteen.mpr (by omega)

-- One call more, and there is a key with fourteen digits.
theorem not_formed_of_longerRun :
    let key := "field_01234567810000_1700000000"
    let calls := List.replicate 0x10000 (0, Call.allocate none "field")
    let e : Event := ⟨0, .allocate none "field", some key⟩
    e ∈ (play constantSource { counter := 1 } calls).events ∧ e.Mints "field" key ∧
      ¬Formed "field" 13 (constantSource 0x10000).seconds key := by
  intro key calls e
  have hkey : mint constantSource "field" 0x10000 = key := by decide +kernel
  refine ⟨?_, ⟨none, rfl, rfl, (Option.some_ne_none key).symm⟩, ?_⟩
  · have hmem := mem_events_of_missing constantSource_random "field" (by omega) (Nat.le_refl 0x10000)
    rwa [hkey] at hmem
  · rw [← hkey, formed_thirteen_iff constantSource_random "field" (by decide)]
    omega

end FieldTemplates.Key
