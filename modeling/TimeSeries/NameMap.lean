set_option autoImplicit false

/-!
# Maps from names

Entries under distinct names, kept in ascending order of the names, so that equal maps have equal
entries and listing a map needs no sorting.
-/
namespace TimeSeries

/-- A map from names to values; ascending names make lookups and listings unambiguous. -/
structure NameMap (α : Type) where
  entries : List (String × α)

namespace NameMap

variable {α : Type}

def empty : NameMap α := ⟨[]⟩

def find? (map : NameMap α) (name : String) : Option α := map.entries.lookup name

def contains (map : NameMap α) (name : String) : Bool := (map.find? name).isSome

/-- Puts an entry at its place among ascending entries, instead of one of the same name. -/
def insertEntry (name : String) (value : α) : List (String × α) → List (String × α)
  | [] => [(name, value)]
  | (other, old) :: rest =>
    if name < other then (name, value) :: (other, old) :: rest
    else if name = other then (name, value) :: rest
    else (other, old) :: insertEntry name value rest

def insert (map : NameMap α) (name : String) (value : α) : NameMap α :=
  ⟨insertEntry name value map.entries⟩

/-- The map of some entries; of two under one name the later one stands. -/
def ofList (entries : List (String × α)) : NameMap α :=
  entries.foldl (fun map (name, value) => map.insert name value) empty

def names (map : NameMap α) : List String := map.entries.map Prod.fst

def values (map : NameMap α) : List α := map.entries.map Prod.snd

def size (map : NameMap α) : Nat := map.entries.length

end NameMap

end TimeSeries
