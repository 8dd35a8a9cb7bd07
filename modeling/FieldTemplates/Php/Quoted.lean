
namespace FieldTemplates.Php

def quoteChar (c : Char) : List Char :=
  if c = '\\' || c = '\'' then ['\\', c] else [c]

-- The inside of a literal that stands for the given text.
def quoted (cs : List Char) : List Char := cs.flatMap quoteChar

def attributeChar (c : Char) : List Char :=
  if c = '"' then "&quot;".toList else quoteChar c

-- The same for text inside an attribute in double quotes.
def inAttribute (cs : List Char) : List Char := cs.flatMap attributeChar

end FieldTemplates.Php
