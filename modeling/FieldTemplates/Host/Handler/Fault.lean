import FieldTemplates.Host.Handler.Token

namespace FieldTemplates.Host.Handler

inductive Fault where
  | token (f : TokenFault)
  | afterBackslash
  | unclosed (opening : Char)
  | invalid
  | noComma
  | noElse
  | noParentheses (name : String)
  | equalsSign
  | assigned (label : String)
  | named (label : String)
  | starred
  | doubleStarred
  | noColon
  | noValue
  | starredValue
  | assignedArgument
  | assignedConstant (word : String)
  | positionAfterName
  | positionAfterUnpacking
  | unpackingAfterUnpacking
  | mixedTexts
deriving DecidableEq, Repr

def Fault.message : Fault → String
  | token f => f.message
  | afterBackslash => "unexpected character after line continuation character"
  | unclosed c => s!"'{c}' was never closed"
  | invalid => "invalid syntax"
  | noComma => "invalid syntax. Perhaps you forgot a comma?"
  | noElse => "expected 'else' after 'if' expression"
  | noParentheses name =>
    s!"Missing parentheses in call to '{name}'. Did you mean {name}(...)?"
  | equalsSign => "invalid syntax. Maybe you meant '==' or ':=' instead of '='?"
  | assigned label => s!"cannot assign to {label} here. Maybe you meant '==' instead of '='?"
  | named label => s!"cannot use assignment expressions with {label}"
  | starred => "cannot use starred expression here"
  | doubleStarred => "cannot use double starred expression here"
  | noColon => "':' expected after dictionary key"
  | noValue => "expression expected after dictionary key and ':'"
  | starredValue => "cannot use a starred expression in a dictionary value"
  | assignedArgument => "expression cannot contain assignment, perhaps you meant \"==\"?"
  | assignedConstant word => s!"cannot assign to {word}"
  | positionAfterName => "positional argument follows keyword argument"
  | positionAfterUnpacking => "positional argument follows keyword argument unpacking"
  | unpackingAfterUnpacking => "iterable argument unpacking follows keyword argument unpacking"
  | mixedTexts => "cannot mix bytes and nonbytes literals"

end FieldTemplates.Host.Handler
