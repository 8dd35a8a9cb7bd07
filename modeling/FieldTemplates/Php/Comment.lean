
namespace FieldTemplates.Php

def isBreak (c : Char) : Bool := c == '\n' || c == '\r'

-- Each run of line ends becomes one space.
def joinLines : List Char → List Char
  | [] => []
  | [c] => if isBreak c then [' '] else [c]
  | c :: d :: cs =>
    if isBreak c then
      if isBreak d then joinLines (d :: cs) else ' ' :: joinLines (d :: cs)
    else c :: joinLines (d :: cs)

-- A space between `a` and `b` wherever they meet.
def part (a b : Char) : List Char → List Char
  | [] => []
  | [c] => [c]
  | c :: d :: cs =>
    if c = a ∧ d = b then c :: ' ' :: part a b (d :: cs) else c :: part a b (d :: cs)

def comment (cs : List Char) : List Char :=
  part '?' '>' (part '*' '/' (joinLines cs))

end FieldTemplates.Php
