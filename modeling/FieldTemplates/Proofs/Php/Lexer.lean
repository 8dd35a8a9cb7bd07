
namespace FieldTemplates.Php

inductive Token where
  -- A name, a number, a keyword or a variable.
  | word (text : List Char)
  | symbol (c : Char)
  -- What a literal stands for.
  | literal (content : List Char)
  | comment (text : List Char)
  | remark (text : List Char)
deriving DecidableEq, Repr

-- Where the reader is, with what it has read of the token it is in. A slash, a question mark, a
-- backslash or a star is kept apart until the next character tells what it is.
inductive State where
  | code
  | word (text : List Char)
  | slash
  | question
  | literal (content : List Char)
  | escape (content : List Char)
  | comment (text : List Char)
  | star (text : List Char)
  | remark (text : List Char)
  | remarkQuestion (text : List Char)
deriving DecidableEq, Repr

def isWordChar (c : Char) : Bool := c.isAlphanum || c == '_' || c == '$'

def isSpace (c : Char) : Bool := c == ' ' || c == '\t' || c == '\n' || c == '\r'

def isSymbol (c : Char) : Bool := "()\x7b\x7d[];:,.=->".toList.contains c

-- A character at the start of a token. There are no other characters in code.
def start (c : Char) : Option (List Token × State) :=
  if isWordChar c then some ([], .word [c])
  else if isSpace c then some ([], .code)
  else if c = '\'' then some ([], .literal [])
  else if c = '/' then some ([], .slash)
  else if c = '?' then some ([], .question)
  else if isSymbol c then some ([.symbol c], .code)
  else none

-- A token that the next character has ended, before what that character does.
def after (t : Token) (r : Option (List Token × State)) : Option (List Token × State) :=
  r.map fun r => (t :: r.1, r.2)

-- The tokens that a character completes, and the state after it. A question mark before `>` would
-- leave the language, in code as in a line comment.
def step : State → Char → Option (List Token × State)
  | .code, c => start c
  | .word w, c => if isWordChar c then some ([], .word (w ++ [c])) else after (.word w) (start c)
  | .slash, c =>
    if c = '*' then some ([], .comment []) else if c = '/' then some ([], .remark []) else none
  | .question, c => if c = '>' then none else after (.symbol '?') (start c)
  | .literal w, c =>
    if c = '\\' then some ([], .escape w)
    else if c = '\'' then some ([.literal w], .code)
    else some ([], .literal (w ++ [c]))
  | .escape w, c =>
    if c = '\\' ∨ c = '\'' then some ([], .literal (w ++ [c]))
    else some ([], .literal (w ++ ['\\', c]))
  | .comment w, c => if c = '*' then some ([], .star w) else some ([], .comment (w ++ [c]))
  | .star w, c =>
    if c = '/' then some ([.comment w], .code)
    else if c = '*' then some ([], .star (w ++ ['*']))
    else some ([], .comment (w ++ ['*', c]))
  | .remark w, c =>
    if c = '\n' ∨ c = '\r' then some ([.remark w], .code)
    else if c = '?' then some ([], .remarkQuestion w)
    else some ([], .remark (w ++ [c]))
  | .remarkQuestion w, c =>
    if c = '>' then none
    else if c = '\n' ∨ c = '\r' then some ([.remark (w ++ ['?'])], .code)
    else if c = '?' then some ([], .remarkQuestion (w ++ ['?']))
    else some ([], .remark (w ++ ['?', c]))

def scan (s : State) : List Char → Option (List Token × State)
  | [] => some ([], s)
  | c :: cs => (step s c).bind fun r => (scan r.2 cs).map fun q => (r.1 ++ q.1, q.2)

def opening : List Char := "<?php\n".toList

-- The tokens of a document that opens the language at once and ends in code.
def lex (cs : List Char) : Option (List Token) :=
  if opening.isPrefixOf cs then
    match scan .code (cs.drop opening.length) with
    | some (ts, .code) => some ts
    | _ => none
  else none

theorem scan_append (s : State) (cs ds : List Char) :
    scan s (cs ++ ds) =
      (scan s cs).bind fun r => (scan r.2 ds).map fun q => (r.1 ++ q.1, q.2) := by
  induction cs generalizing s with
  | nil => simp [scan]
  | cons c cs ih =>
      simp only [List.cons_append, scan, ih]
      cases step s c with
      | none => rfl
      | some r =>
          simp only [Option.bind_some]
          cases scan r.2 cs with
          | none => rfl
          | some q =>
              simp only [Option.bind_some, Option.map_some]
              cases scan q.2 ds with
              | none => rfl
              | some p => simp only [Option.map_some, List.append_assoc]

theorem scan_trans {s m t : State} {cs ds : List Char} {ts us : List Token}
    (hc : scan s cs = some (ts, m)) (hd : scan m ds = some (us, t)) :
    scan s (cs ++ ds) = some (ts ++ us, t) := by
  rw [scan_append, hc, Option.bind_some, hd]
  rfl

theorem lex_opening (cs : List Char) (ts : List Token) (h : scan .code cs = some (ts, .code)) :
    lex (opening ++ cs) = some ts := by
  have hp : opening.isPrefixOf (opening ++ cs) = true :=
    List.isPrefixOf_iff_prefix.mpr (List.prefix_append _ _)
  simp only [lex, hp, ite_true, List.drop_left, h]

end FieldTemplates.Php
