import FieldTemplates.Proofs.Php.Lexer
import Mathlib.Tactic.SplitIfs

namespace FieldTemplates.Php

def ifWord : Token := .word ['i', 'f']

def elseifWord : Token := .word ['e', 'l', 's', 'e', 'i', 'f']

def elseWord : Token := .word ['e', 'l', 's', 'e']

def whileWord : Token := .word ['w', 'h', 'i', 'l', 'e']

def endwhileWord : Token := .word ['e', 'n', 'd', 'w', 'h', 'i', 'l', 'e']

def foreachWord : Token := .word ['f', 'o', 'r', 'e', 'a', 'c', 'h']

def openRound : Token := .symbol '('

def closeRound : Token := .symbol ')'

def openSquare : Token := .symbol '['

def closeSquare : Token := .symbol ']'

def openBody : Token := .symbol '\x7b'

def closeBody : Token := .symbol '\x7d'

def colon : Token := .symbol ':'

def semicolon : Token := .symbol ';'

-- Tokens that stand only where a rule of nesting puts them.
def reserved : List Token := [openRound, closeRound, openSquare, closeSquare, openBody, closeBody,
  ifWord, elseifWord, elseWord, whileWord, endwhileWord, foreachWord]

-- What a stretch of code can be: what stands between brackets, statements, or what goes on after the
-- body of an `if`.
inductive Part where
  | inner
  | block
  | tail
deriving DecidableEq, Repr

-- A condition and a body.
def guarded (es bs : List Token) : List Token :=
  openRound :: es ++ closeRound :: openBody :: bs ++ [closeBody]

inductive Nested : Part → List Token → Prop where
  | nil (p : Part) : Nested p []
  | plain {p : Part} {t : Token} {ts : List Token} (hp : p ≠ .tail) (ht : t ∉ reserved)
    (hts : Nested p ts) : Nested p (t :: ts)
  | round {p : Part} {es ts : List Token} (hp : p ≠ .tail) (hes : Nested .inner es)
    (hts : Nested p ts) : Nested p (openRound :: es ++ closeRound :: ts)
  | square {p : Part} {es ts : List Token} (hp : p ≠ .tail) (hes : Nested .inner es)
    (hts : Nested p ts) : Nested p (openSquare :: es ++ closeSquare :: ts)
  | branch {es bs cs ts : List Token} (hes : Nested .inner es) (hbs : Nested .block bs)
    (hcs : Nested .tail cs) (hts : Nested .block ts) :
    Nested .block (ifWord :: guarded es bs ++ cs ++ ts)
  | elseif {es bs cs : List Token} (hes : Nested .inner es) (hbs : Nested .block bs)
    (hcs : Nested .tail cs) : Nested .tail (elseifWord :: guarded es bs ++ cs)
  | otherwise {bs : List Token} (hbs : Nested .block bs) :
    Nested .tail (elseWord :: openBody :: bs ++ [closeBody])
  | loop {es bs ts : List Token} (hes : Nested .inner es) (hbs : Nested .block bs)
    (hts : Nested .block ts) : Nested .block
      (whileWord :: openRound :: es ++ closeRound :: colon :: bs ++ endwhileWord :: semicolon :: ts)
  | each {es bs ts : List Token} (hes : Nested .inner es) (hbs : Nested .block bs)
    (hts : Nested .block ts) : Nested .block (foreachWord :: guarded es bs ++ ts)

theorem Nested.of_plain {p : Part} (hp : p ≠ .tail) {ts : List Token}
    (h : ts.all (· ∉ reserved) = true) : Nested p ts := by
  induction ts with
  | nil => exact .nil p
  | cons t ts ih =>
      rw [List.all_cons, Bool.and_eq_true] at h
      exact .plain hp (of_decide_eq_true h.1) (ih h.2)

theorem Nested.append {ts us : List Token} (hts : Nested .block ts) (hus : Nested .block us) :
    Nested .block (ts ++ us) := by
  generalize hp : Part.block = p at hts
  induction hts with
  | nil =>
      subst hp
      exact hus
  | plain hne ht _ ih =>
      subst hp
      exact .plain hne ht (ih rfl)
  | round hne hes _ _ ih =>
      subst hp
      simpa using Nested.round hne hes (ih rfl)
  | square hne hes _ _ ih =>
      subst hp
      simpa using Nested.square hne hes (ih rfl)
  | branch hes hbs hcs _ _ _ _ ih => simpa using Nested.branch hes hbs hcs (ih rfl)
  | loop hes hbs _ _ _ ih => simpa using Nested.loop hes hbs (ih rfl)
  | each hes hbs _ _ _ ih => simpa using Nested.each hes hbs (ih rfl)
  | elseif | otherwise => cases hp

def closerOf? (t : Token) : Option Token :=
  if t = openRound then some closeRound
  else if t = openSquare then some closeSquare
  else if t = openBody then some closeBody
  else if t = whileWord then some endwhileWord
  else none

def closers : List Token := [closeRound, closeSquare, closeBody, endwhileWord]

-- Whether everything closes that is open, the last opened first, and nothing else does.
def closes : List Token → List Token → Bool
  | due, [] => due.isEmpty
  | due, t :: ts =>
    match closerOf? t with
    | some c => closes (c :: due) ts
    | none =>
      if t ∈ closers then
        match due with
        | [] => false
        | c :: due => t = c && closes due ts
      else closes due ts

theorem closes_open {t c : Token} (ht : closerOf? t = some c) (due ts : List Token) :
    closes due (t :: ts) = closes (c :: due) ts := by
  simp only [closes, ht]

theorem closes_closer {c : Token} (hc : c ∈ closers) (due ts : List Token) :
    closes (c :: due) (c :: ts) = closes due ts := by
  have hnone : closerOf? c = none := by
    revert c
    decide
  simp only [closes, hnone, hc, ite_true, decide_true, Bool.true_and]

theorem closes_other {t : Token} (hopen : closerOf? t = none) (hclose : t ∉ closers)
    (due ts : List Token) : closes due (t :: ts) = closes due ts := by
  simp only [closes, hopen, hclose, ite_false]

theorem closes_plain {t : Token} (ht : t ∉ reserved) (due ts : List Token) :
    closes due (t :: ts) = closes due ts := by
  simp only [reserved, List.mem_cons, List.not_mem_nil, or_false, not_or] at ht
  refine closes_other ?_ ?_ due ts
  · simp only [closerOf?, ht, ite_false]
  · simp only [closers, List.mem_cons, List.not_mem_nil, ht, or_self, not_false_eq_true]

-- A nested part closes all that it opens and nothing that was open before.
theorem Nested.closes {p : Part} {ts : List Token} (h : Nested p ts) (due us : List Token) :
    closes due (ts ++ us) = closes due us := by
  have hround : closerOf? openRound = some closeRound := by decide
  have hsquare : closerOf? openSquare = some closeSquare := by decide
  have hbody : closerOf? openBody = some closeBody := by decide
  have hwhile : closerOf? whileWord = some endwhileWord := by decide
  have hother : ∀ t ∈ [ifWord, elseifWord, elseWord, foreachWord, colon, semicolon],
      ∀ due ts, Php.closes due (t :: ts) = Php.closes due ts := by
    intro t ht due ts
    refine closes_other ?_ ?_ due ts <;> revert t <;> decide
  have hclosers : ∀ c ∈ closers, ∀ due ts, Php.closes (c :: due) (c :: ts) = Php.closes due ts :=
    fun c hc => closes_closer hc
  simp only [closers, List.mem_cons, List.not_mem_nil, or_false, forall_eq_or_imp,
    forall_eq] at hother hclosers
  induction h generalizing due us with
  | nil => rfl
  | plain hp ht _ ih => rw [List.cons_append, closes_plain ht, ih]
  | _ =>
      simp only [guarded, List.cons_append, List.append_assoc, List.nil_append,
        closes_open hround, closes_open hsquare, closes_open hbody, closes_open hwhile, *]

-- What is left of tokens behind a start that they have to have.
def expect (start ts : List Token) : Option (List Token) :=
  if start.isPrefixOf ts then some (ts.drop start.length) else none

theorem eq_append_of_expect {start ts us : List Token} (h : expect start ts = some us) :
    ts = start ++ us := by
  simp only [expect] at h
  split at h
  · rename_i hp
    obtain ⟨rest, rfl⟩ := List.isPrefixOf_iff_prefix.mp hp
    cases h
    rw [List.drop_left]
  · cases h

-- What is left behind a condition and a body.
def afterGuarded (read : Part → List Token → Option (List Token)) (ts : List Token) :
    Option (List Token) := do
  let ts ← expect [openRound] ts
  let ts ← read .inner ts
  let ts ← expect [closeRound, openBody] ts
  let ts ← read .block ts
  expect [closeBody] ts

-- What is left behind the longest part at the front. `n` bounds the number of tokens.
def rest? : Nat → Part → List Token → Option (List Token)
  | 0, _, _ => none
  | _ + 1, _, [] => some []
  | n + 1, p, t :: ts =>
    if p ≠ .tail ∧ t ∉ reserved then rest? n p ts
    else if p ≠ .tail ∧ t = openRound then do
      let ts ← rest? n .inner ts
      let ts ← expect [closeRound] ts
      rest? n p ts
    else if p ≠ .tail ∧ t = openSquare then do
      let ts ← rest? n .inner ts
      let ts ← expect [closeSquare] ts
      rest? n p ts
    else if p = .block ∧ t = ifWord then do
      let ts ← afterGuarded (rest? n) ts
      let ts ← rest? n .tail ts
      rest? n .block ts
    else if p = .block ∧ t = foreachWord then do
      let ts ← afterGuarded (rest? n) ts
      rest? n .block ts
    else if p = .block ∧ t = whileWord then do
      let ts ← expect [openRound] ts
      let ts ← rest? n .inner ts
      let ts ← expect [closeRound, colon] ts
      let ts ← rest? n .block ts
      let ts ← expect [endwhileWord, semicolon] ts
      rest? n .block ts
    else if p = .tail ∧ t = elseifWord then do
      let ts ← afterGuarded (rest? n) ts
      rest? n .tail ts
    else if p = .tail ∧ t = elseWord then do
      let ts ← expect [openBody] ts
      let ts ← rest? n .block ts
      expect [closeBody] ts
    else some (t :: ts)

def isBlock (ts : List Token) : Bool := rest? (ts.length + 1) .block ts == some []

-- A reader is right about a part where it takes that part from the front.
def Takes (read : Part → List Token → Option (List Token)) : Prop :=
  ∀ p ts us, read p ts = some us → ∃ used, ts = used ++ us ∧ Nested p used

theorem Takes.guarded {read : Part → List Token → Option (List Token)} (hread : Takes read)
    {ts us : List Token} (h : afterGuarded read ts = some us) :
    ∃ es bs, ts = guarded es bs ++ us ∧ Nested .inner es ∧ Nested .block bs := by
  simp only [afterGuarded, Option.bind_eq_bind, Option.bind_eq_some_iff] at h
  obtain ⟨ts₁, hopen, ts₂, hinner, ts₃, hclose, ts₄, hblock, hend⟩ := h
  obtain rfl := eq_append_of_expect hopen
  obtain ⟨es, rfl, hes⟩ := hread _ _ _ hinner
  obtain rfl := eq_append_of_expect hclose
  obtain ⟨bs, rfl, hbs⟩ := hread _ _ _ hblock
  obtain rfl := eq_append_of_expect hend
  exact ⟨es, bs, by simp [Php.guarded], hes, hbs⟩

theorem rest?_takes (n : Nat) : Takes (rest? n) := by
  induction n with
  | zero =>
      intro p ts us h
      cases h
  | succ n ih =>
      intro p ts us h
      cases ts with
      | nil =>
          cases h
          exact ⟨[], rfl, .nil p⟩
      | cons t ts =>
          simp only [rest?, Option.bind_eq_bind] at h
          split_ifs at h with hplain hround hsquare hif hforeach hwhile helseif helse
          · obtain ⟨used, rfl, hused⟩ := ih _ _ _ h
            exact ⟨t :: used, rfl, .plain hplain.1 hplain.2 hused⟩
          · simp only [Option.bind_eq_some_iff] at h
            obtain ⟨ts₁, hinner, ts₂, hclose, hrest⟩ := h
            obtain ⟨es, rfl, hes⟩ := ih _ _ _ hinner
            obtain rfl := eq_append_of_expect hclose
            obtain ⟨used, rfl, hused⟩ := ih _ _ _ hrest
            exact ⟨_, by simp [hround.2], .round hround.1 hes hused⟩
          · simp only [Option.bind_eq_some_iff] at h
            obtain ⟨ts₁, hinner, ts₂, hclose, hrest⟩ := h
            obtain ⟨es, rfl, hes⟩ := ih _ _ _ hinner
            obtain rfl := eq_append_of_expect hclose
            obtain ⟨used, rfl, hused⟩ := ih _ _ _ hrest
            exact ⟨_, by simp [hsquare.2], .square hsquare.1 hes hused⟩
          · simp only [Option.bind_eq_some_iff] at h
            obtain ⟨ts₁, hguarded, ts₂, htail, hrest⟩ := h
            obtain ⟨es, bs, rfl, hes, hbs⟩ := ih.guarded hguarded
            obtain ⟨cs, rfl, hcs⟩ := ih _ _ _ htail
            obtain ⟨used, rfl, hused⟩ := ih _ _ _ hrest
            obtain ⟨rfl, rfl⟩ := hif
            exact ⟨_, by simp, .branch hes hbs hcs hused⟩
          · simp only [Option.bind_eq_some_iff] at h
            obtain ⟨ts₁, hguarded, hrest⟩ := h
            obtain ⟨es, bs, rfl, hes, hbs⟩ := ih.guarded hguarded
            obtain ⟨used, rfl, hused⟩ := ih _ _ _ hrest
            obtain ⟨rfl, rfl⟩ := hforeach
            exact ⟨_, by simp, .each hes hbs hused⟩
          · simp only [Option.bind_eq_some_iff] at h
            obtain ⟨ts₁, hopen, ts₂, hinner, ts₃, hclose, ts₄, hblock, ts₅, hend, hrest⟩ := h
            obtain rfl := eq_append_of_expect hopen
            obtain ⟨es, rfl, hes⟩ := ih _ _ _ hinner
            obtain rfl := eq_append_of_expect hclose
            obtain ⟨bs, rfl, hbs⟩ := ih _ _ _ hblock
            obtain rfl := eq_append_of_expect hend
            obtain ⟨used, rfl, hused⟩ := ih _ _ _ hrest
            obtain ⟨rfl, rfl⟩ := hwhile
            exact ⟨_, by simp, .loop hes hbs hused⟩
          · simp only [Option.bind_eq_some_iff] at h
            obtain ⟨ts₁, hguarded, hrest⟩ := h
            obtain ⟨es, bs, rfl, hes, hbs⟩ := ih.guarded hguarded
            obtain ⟨used, rfl, hused⟩ := ih _ _ _ hrest
            obtain ⟨rfl, rfl⟩ := helseif
            exact ⟨_, by simp, .elseif hes hbs hused⟩
          · simp only [Option.bind_eq_some_iff] at h
            obtain ⟨ts₁, hopen, ts₂, hblock, hend⟩ := h
            obtain rfl := eq_append_of_expect hopen
            obtain ⟨bs, rfl, hbs⟩ := ih _ _ _ hblock
            obtain rfl := eq_append_of_expect hend
            obtain ⟨rfl, rfl⟩ := helse
            exact ⟨_, by simp, .otherwise hbs⟩
          · cases h
            exact ⟨[], rfl, .nil p⟩

theorem nested_of_isBlock {ts : List Token} (h : isBlock ts = true) : Nested .block ts := by
  obtain ⟨used, hts, hused⟩ := rest?_takes _ _ _ _ (beq_iff_eq.mp h)
  rw [hts, List.append_nil]
  exact hused

end FieldTemplates.Php
