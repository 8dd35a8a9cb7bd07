import FieldTemplates.Proofs.Php.Lexer

namespace FieldTemplates.Php

-- What is forgotten of a state must not matter to what is kept later.
structure View where
  token : Token → Option Token
  state : State → State
  state_state : ∀ s, state (state s) = state s
  step_state : ∀ s c, (step (state s) c).map (fun r => (r.1.filterMap token, state r.2)) =
    (step s c).map fun r => (r.1.filterMap token, state r.2)

namespace View

variable (v : View)

def kept (ts : List Token) : List Token := ts.filterMap v.token

def read (s : State) (cs : List Char) : Option (List Token × State) :=
  (scan s cs).map fun r => (v.kept r.1, v.state r.2)

-- From one state to another with some tokens.
def Reads (s : State) (cs : List Char) (ts : List Token) (t : State) : Prop :=
  v.read s cs = some (ts, t)

instance (s : State) (cs : List Char) (ts : List Token) (t : State) : Decidable (v.Reads s cs ts t) :=
  inferInstanceAs (Decidable (v.read s cs = some (ts, t)))

theorem kept_append (ts us : List Token) : v.kept (ts ++ us) = v.kept ts ++ v.kept us :=
  List.filterMap_append

theorem read_nil (s : State) : v.read s [] = some ([], v.state s) := rfl

theorem read_cons (s : State) (c : Char) (cs : List Char) :
    v.read s (c :: cs) =
      (step s c).bind fun r => (v.read r.2 cs).map fun q => (v.kept r.1 ++ q.1, q.2) := by
  simp only [read, scan]
  cases step s c with
  | none => rfl
  | some r =>
      simp only [Option.bind_some]
      cases scan r.2 cs with
      | none => rfl
      | some q => simp only [Option.map_some, kept_append]

theorem read_state (s : State) (cs : List Char) : v.read (v.state s) cs = v.read s cs := by
  induction cs generalizing s with
  | nil => rw [read_nil, read_nil, v.state_state]
  | cons c cs ih =>
      have hstep := v.step_state s c
      simp only [read_cons]
      cases hb : step (v.state s) c <;> cases hs : step s c <;> simp only [hb, hs] at hstep
      · rfl
      · cases hstep
      · cases hstep
      · rename_i r q
        simp only [Option.map_some, Option.some.injEq, Prod.mk.injEq] at hstep
        obtain ⟨hts, hstate⟩ := hstep
        simp only [Option.bind_some, kept, hts, ← ih r.2, ← ih q.2, hstate]

theorem read_append (s : State) (cs ds : List Char) :
    v.read s (cs ++ ds) =
      (v.read s cs).bind fun r => (v.read r.2 ds).map fun q => (r.1 ++ q.1, q.2) := by
  simp only [read, scan_append]
  cases scan s cs with
  | none => rfl
  | some r =>
      simp only [Option.bind_some, Option.map_some]
      have hr : v.read (v.state r.2) ds = v.read r.2 ds := v.read_state r.2 ds
      simp only [read] at hr ⊢
      rw [hr]
      cases scan r.2 ds with
      | none => rfl
      | some q => simp only [Option.map_some, kept_append]

-- States that are one to the view read on the same way.
theorem read_congr {s t : State} (h : v.state s = v.state t) (cs : List Char) :
    v.read s cs = v.read t cs := by
  rw [← v.read_state s, h, v.read_state]

theorem read_of_scan {s t : State} {cs ds : List Char} (h : scan s cs = scan t ds) :
    v.read s cs = v.read t ds := by
  rw [read, h, read]

-- A step that completes no token and changes nothing that is kept is no step.
theorem read_of_stays {s t : State} {c : Char} (hstep : step s c = some ([], t))
    (hstate : v.state t = v.state s) (cs : List Char) : v.read s (c :: cs) = v.read s cs := by
  rw [read_cons, hstep, Option.bind_some, v.read_congr hstate]
  cases v.read s cs with
  | none => rfl
  | some q => rfl

variable {v}

theorem reads_of_scan {s t : State} {cs : List Char} {ts : List Token}
    (h : scan s cs = some (ts, t)) : v.Reads s cs (v.kept ts) (v.state t) := by
  rw [Reads, read, h]
  rfl

theorem Reads.append {s m t : State} {cs ds : List Char} {ts us : List Token}
    (hc : v.Reads s cs ts m) (hd : v.Reads m ds us t) : v.Reads s (cs ++ ds) (ts ++ us) t := by
  simp only [Reads] at *
  rw [read_append, hc, Option.bind_some, hd]
  rfl

theorem Reads.nil {s : State} (hs : v.state s = s) : v.Reads s [] [] s := by
  rw [Reads, read_nil, hs]

theorem reads_append_iff {s t : State} {cs ds : List Char} {ts : List Token} :
    v.Reads s (cs ++ ds) ts t ↔
      ∃ us m vs, v.Reads s cs us m ∧ v.Reads m ds vs t ∧ us ++ vs = ts := by
  constructor
  · intro h
    rw [Reads, read_append, Option.bind_eq_some_iff] at h
    obtain ⟨⟨us, m⟩, hfirst, h⟩ := h
    obtain ⟨⟨vs, t'⟩, hrest, h⟩ := Option.map_eq_some_iff.mp h
    obtain ⟨hts, rfl⟩ := Prod.mk.inj h
    exact ⟨us, m, vs, hfirst, hrest, hts⟩
  · rintro ⟨us, m, vs, hfirst, hrest, rfl⟩
    exact hfirst.append hrest

-- A reader ends in that state up to what the view forgets.
theorem Reads.exists_scan {s t : State} {cs : List Char} {ts : List Token} (h : v.Reads s cs ts t) :
    ∃ us u, scan s cs = some (us, u) ∧ v.kept us = ts ∧ v.state u = t := by
  simp only [Reads, read, Option.map_eq_some_iff] at h
  obtain ⟨⟨us, u⟩, hscan, hr⟩ := h
  obtain ⟨hts, hstate⟩ := Prod.mk.inj hr
  exact ⟨us, u, hscan, hts, hstate⟩

end View

end FieldTemplates.Php
