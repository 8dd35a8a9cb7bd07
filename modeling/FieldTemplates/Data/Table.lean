
namespace FieldTemplates

abbrev Table (α : Type) := List (String × α)

namespace Table

variable {α : Type}

def find? (t : Table α) (name : String) : Option α := List.lookup name t

def has (t : Table α) (name : String) : Bool := t.any (·.1 == name)

def names (t : Table α) : List String := t.map (·.1)

def values (t : Table α) : List α := t.map (·.2)

-- A known name keeps its place and takes the new value; a new one goes to the end.
def put : Table α → String → α → Table α
  | [], name, a => [(name, a)]
  | (n, b) :: t, name, a => if n == name then (n, a) :: t else (n, b) :: put t name a

-- The members of `u`, put one after another.
def merge (t u : Table α) : Table α := u.foldl (fun t m => t.put m.1 m.2) t

def ofMembers (members : List (String × α)) : Table α := merge [] members

def without (t : Table α) (names : List String) : Table α := t.filter (fun m => !names.contains m.1)

end Table

end FieldTemplates
