import FieldTemplates.Key.Allocator
import FieldTemplates.Proofs.Text.HexDigits
import Mathlib.Data.List.Basic

namespace FieldTemplates.Key

-- What a random identifier is promised to be: thirty-two hexadecimal digits.
def Stamp.Random (s : Stamp) : Prop :=
  s.hex.toList.length = 32 ∧ ∀ c ∈ s.hex.toList, c ∈ Text.hexAlphabet

def Random (source : Source) : Prop := ∀ count, (source count).Random

-- The same digits at every mint, so that only the counter tells minted keys apart.
def constantSource : Source := fun _ => ⟨"0123456789abcdef0123456789abcdef", 1700000000⟩

theorem constantSource_random : Random constantSource := by
  intro count
  have hlength : "0123456789abcdef0123456789abcdef".toList.length = 32 := by decide
  have hdigits : "0123456789abcdef0123456789abcdef".toList.all (· ∈ Text.hexAlphabet) = true := by
    decide
  exact ⟨hlength, fun c hc => of_decide_eq_true (List.all_eq_true.mp hdigits c hc)⟩

-- The part of a minted key between its kind and its time.
def token (source : Source) (count : Nat) : List Char :=
  (source count).hex.toList.take 9 ++ Text.hexDigits 4 count

theorem toList_mint (source : Source) (kind : String) (count : Nat) :
    (mint source kind count).toList =
      kind.toList ++ '_' :: (token source count ++ '_' :: (toString (source count).seconds).toList) := by
  simp [mint, token]

theorem mint_ne_empty (source : Source) (kind : String) (count : Nat) :
    mint source kind count ≠ "" := by
  intro h
  have hl := congrArg String.toList h
  simp [toList_mint] at hl

theorem underscore_notMem_seconds (n : Int) : '_' ∉ (toString n).toList :=
  fun h => absurd (Text.mem_toString_int h) (by decide)

theorem mem_token {source : Source} (hs : Random source) {count : Nat} {c : Char}
    (h : c ∈ token source count) : c ∈ Text.hexAlphabet := by
  rcases List.mem_append.mp h with h | h
  · exact (hs count).2 _ (List.mem_of_mem_take h)
  · exact Text.mem_hexDigits h

theorem underscore_notMem_token {source : Source} (hs : Random source) (count : Nat) :
    '_' ∉ token source count := fun h => Text.underscore_notMem_hexAlphabet (mem_token hs h)

theorem length_random_digits {source : Source} (hs : Random source) (count : Nat) :
    ((source count).hex.toList.take 9).length = 9 := by
  rw [List.length_take, (hs count).1]
  rfl

theorem length_token {source : Source} (hs : Random source) (count : Nat) :
    (token source count).length = 9 + max 4 (Nat.toDigits 16 count).length := by
  rw [token, List.length_append, length_random_digits hs, Text.length_hexDigits]

-- Nine random digits stand in front of the counter, so the counter begins at the tenth.
theorem drop_token {source : Source} (hs : Random source) (count : Nat) :
    (token source count).drop 9 = Text.hexDigits 4 count := by
  have hl := length_random_digits hs count
  rw [token, List.drop_append, hl]
  simp [List.drop_eq_nil_of_le hl.le]

theorem split_at_last {α : Type} {x : α} {a b c d : List α} (hb : x ∉ b) (hd : x ∉ d)
    (h : a ++ x :: b = c ++ x :: d) : a = c ∧ b = d := by
  rcases List.append_eq_append_iff.mp h with ⟨e, hc, he⟩ | ⟨e, ha, he⟩
  · cases e with
    | nil => simp_all
    | cons y e =>
        obtain ⟨-, hbd⟩ := List.cons.inj he
        exact absurd (by simp [hbd]) hb
  · cases e with
    | nil => simp_all
    | cons y e =>
        obtain ⟨-, hdb⟩ := List.cons.inj he
        exact absurd (by simp [hdb]) hd

-- A kind may hold underscores itself, so the key is taken apart from its end.
theorem mint_inj {source : Source} (hs : Random source) {kind other : String} {m n : Nat}
    (h : mint source kind m = mint source other n) : m = n := by
  have hl := congrArg String.toList h
  rw [toList_mint, toList_mint] at hl
  have hreorder : ∀ (k t s : List Char), k ++ '_' :: (t ++ '_' :: s) = (k ++ '_' :: t) ++ '_' :: s := by
    simp
  rw [hreorder, hreorder] at hl
  obtain ⟨hfront, -⟩ := split_at_last (underscore_notMem_seconds _) (underscore_notMem_seconds _) hl
  obtain ⟨-, ht⟩ :=
    split_at_last (underscore_notMem_token hs m) (underscore_notMem_token hs n) hfront
  have hd := congrArg (List.drop 9) ht
  rw [drop_token hs, drop_token hs] at hd
  exact Text.hexDigits_inj hd

-- One mint: the word that the key begins with, and the value of the counter.
structure Mint where
  kind : String
  count : Nat
deriving DecidableEq, Repr

def Mint.key (source : Source) (m : Mint) : String := mint source m.kind m.count

theorem nodup_keys {source : Source} (hs : Random source) {mints : List Mint}
    (hcounts : (mints.map Mint.count).Nodup) : (mints.map (Mint.key source)).Nodup := by
  apply List.pairwise_map.mpr
  refine (List.pairwise_map.mp hcounts).imp ?_
  intro m n hne heq
  exact hne (mint_inj hs heq)

end FieldTemplates.Key
