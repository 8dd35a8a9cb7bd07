import FieldTemplates.Field.Basic
import FieldTemplates.Log.Entry

namespace FieldTemplates

structure Library where
  groups : List Group := []

namespace Library

def has (l : Library) (key : String) : Bool := l.groups.any (·.key == key)

def find? (l : Library) (key : String) : Option Group := l.groups.find? (·.key == key)

-- A group by itself, without its fields.
def bare? (l : Library) (key : String) : Option Group :=
  (l.find? key).map fun g => { g with fields := [] }

def keys (l : Library) : List String := l.groups.map Group.key

def size (l : Library) : Nat := l.groups.length

-- The top-level fields of a group; none of an unknown one.
def fields (l : Library) (key : String) : List Field := ((l.find? key).map Group.fields).getD []

-- The first group of a key stays.
def add (l : Library) (g : Group) : Library :=
  if l.has g.key then l else ⟨l.groups ++ [g]⟩

def addLog (l : Library) (g : Group) : List Log.Entry :=
  if l.has g.key then [Log.warning s!"Duplicate field group key {g.key}; keeping the first"] else []

def addAll (l : Library) (gs : List Group) : Library := gs.foldl add l

def addAllLog (l : Library) : List Group → List Log.Entry
  | [] => []
  | g :: gs => l.addLog g ++ (l.add g).addAllLog gs

def ofGroups (gs : List Group) : Library := addAll {} gs

end Library

end FieldTemplates
