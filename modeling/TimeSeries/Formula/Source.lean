import TimeSeries.Formula.Context
import TimeSeries.Formula.Provenance
import TimeSeries.Table.Resample

set_option autoImplicit false

/-!
# Sources

A source finds the table of a name, cut and resampled as the context asks. Sources are registered
under identifiers and may have further ones.
-/
namespace TimeSeries

/-- Something that finds tables by name. -/
structure Source where
  id : String
  fetch : String → Context → Except SourceFault (Table × Provenance)

/-- A table as the context asks for it. -/
def Context.conform (context : Context) (table : Table) : Except TableError Table :=
  table.conform context.start context.stop context.frequency

/-- The registered sources under all their identifiers. -/
structure SourceRegistry where
  sources : NameMap Source

namespace SourceRegistry

def empty : SourceRegistry := ⟨.empty⟩

/-- The source of an identifier, in any case and with blanks around it. -/
def get? (registry : SourceRegistry) (id : String) : Option Source :=
  registry.sources.find? (Text.normalName id)

def contains (registry : SourceRegistry) (id : String) : Bool := (registry.get? id).isSome

def ids (registry : SourceRegistry) : List String := registry.sources.names

/-- Whether an identifier can be written behind an at sign. -/
def isId (id : String) : Bool :=
  id != "" && !id.toList.any ['@', '#', '(', ')', '"'].contains

/-- Adds a source, in place, under its identifier, which must be free. -/
def add (source : Source) : Update SourceRegistry Unit := do
  let id := Text.normalName source.id
  if !isId id then throw (.registration (.sourceId source.id))
  if (← get).sources.contains id then throw (.registration (.sourceTaken id))
  modify fun registry => ⟨registry.sources.insert id source⟩

/-- Adds the source of `id`, in place, under one more identifier. -/
def addAlias (newId id : String) : Update SourceRegistry Unit := do
  match (← get).get? id with
  | none => throw (.unknownSource id)
  | some source =>
    let key := Text.normalName newId
    if key = "" || (← get).sources.contains key then
      throw (.registration (.sourceAlias key id))
    modify fun registry => ⟨registry.sources.insert key source⟩

def register (registry : SourceRegistry) (source : Source) : Except FormulaError SourceRegistry :=
  Update.result (add source) registry

def registerAlias (registry : SourceRegistry) (newId id : String) :
    Except FormulaError SourceRegistry :=
  Update.result (addAlias newId id) registry

/-- Fetches a series, under the normal form of its name, from a source. -/
def fetch (registry : SourceRegistry) (id series : String) (context : Context) :
    Except FormulaError (Table × Provenance) :=
  match registry.get? id with
  | none => .error (.unknownSource (Text.normalName id))
  | some source =>
    let name := Text.normalName series
    (source.fetch name context).mapError (.sourceFetch source.id name)

/-- The identifiers as a list of quoted texts. -/
def display (registry : SourceRegistry) : String :=
  let list := String.intercalate ", " (registry.ids.map Text.quoted)
  "SourceRegistry \x7b sources: [" ++ list ++ "] \x7d"

end SourceRegistry

structure MemorySource where
  id : String
  description : Option String
  series : NameMap Table

namespace MemorySource

def of (id : String) (description : Option String) : MemorySource :=
  ⟨Text.normalName id, description, .empty⟩

/-- Adds a table, instead of another one of the same name. -/
def insert (memory : MemorySource) (name : String) (table : Table) : MemorySource :=
  { memory with series := memory.series.insert (Text.normalName name) table }

def fetch (memory : MemorySource) (name : String) (context : Context) :
    Except SourceFault (Table × Provenance) :=
  match memory.series.find? name with
  | none => .error (.notFound name)
  | some table => do
    let result ← (context.conform table).mapError .table
    let attributes := NameMap.empty.insert "rows" (toString result.rowCount)
    return (result, .fetched (name ++ "@" ++ memory.id) ⟨memory.id, memory.description, attributes⟩)

def toSource (memory : MemorySource) : Source := ⟨memory.id, memory.fetch⟩

end MemorySource

end TimeSeries
