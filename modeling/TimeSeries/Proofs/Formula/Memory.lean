import Mathlib.Data.List.Forall2
import Mathlib.Data.Option.Basic
import TimeSeries.Formula.Source
import TimeSeries.Proofs.Agreement

set_option autoImplicit false

/-!
# Sources in memory

Two registries of sources in memory are related when they have the same identifiers and names of
series, and related tables under them. Fetching from them gives related tables when conforming to
the two contexts does.
-/
namespace TimeSeries

def NameMap.Related {α β : Type} (R : α → β → Prop) (map : NameMap α) (map' : NameMap β) : Prop :=
  List.Forall₂ (fun entry entry' => entry.1 = entry'.1 ∧ R entry.2 entry'.2) map.entries map'.entries

theorem NameMap.Related.find? {α β : Type} {R : α → β → Prop} {map : NameMap α} {map' : NameMap β}
    (h : map.Related R map') (name : String) : Option.Rel R (map.find? name) (map'.find? name) := by
  obtain ⟨entries⟩ := map
  obtain ⟨entries'⟩ := map'
  change Option.Rel R (entries.lookup name) (entries'.lookup name)
  change List.Forall₂ _ entries entries' at h
  induction h with
  | nil => exact .none
  | @cons entry entry' rest rest' he _ ih =>
    obtain ⟨key, value⟩ := entry
    obtain ⟨key', value'⟩ := entry'
    obtain ⟨rfl, hvalue⟩ := he
    rw [List.lookup_cons, List.lookup_cons]
    dsimp only
    cases name == key with
    | true => exact .some hvalue
    | false => exact ih

structure MemorySource.Related (R : Table → Table → Prop) (memory memory' : MemorySource) : Prop where
  id : memory.id = memory'.id
  description : memory.description = memory'.description
  series : memory.series.Related R memory'.series

theorem MemorySource.Related.fetch {R S : Table → Table → Prop} {memory memory' : MemorySource}
    (h : memory.Related R memory') {c c' : Context}
    (hconform : ∀ t t', R t t' → Agree S (c.conform t) (c'.conform t')) (name : String) :
    Agree (fun r r' => S r.1 r'.1 ∧ (r.1.rowCount = r'.1.rowCount → r.2 = r'.2))
      (memory.fetch name c) (memory'.fetch name c') := by
  have hfind := h.series.find? name
  unfold MemorySource.fetch
  generalize memory.series.find? name = table, memory'.series.find? name = table' at hfind ⊢
  cases hfind with
  | none => exact .error _
  | some ht =>
    refine ((hconform _ _ ht).mapError _).bind fun result result' hresult => ?_
    refine .ok ⟨hresult, fun hcount => ?_⟩
    dsimp only at hcount ⊢
    rw [h.id, h.description, hcount]

namespace SourceRegistry

variable {registry registry' : SourceRegistry}

/-- All sources keep their tables in memory, and every table satisfies a condition. -/
def Keeps (P : Table → Prop) (registry : SourceRegistry) : Prop :=
  ∀ entry ∈ registry.sources.entries, ∃ memory : MemorySource, entry.2 = memory.toSource ∧
    ∀ series ∈ memory.series.entries, P series.2

def Related (R : Table → Table → Prop) (registry registry' : SourceRegistry) : Prop :=
  registry.sources.Related (fun source source' => ∃ memory memory' : MemorySource,
    source = memory.toSource ∧ source' = memory'.toSource ∧ memory.Related R memory')
    registry'.sources

theorem Keeps.related {P : Table → Prop} (h : registry.Keeps P) :
    registry.Related (fun t t' => P t ∧ t = t') registry := by
  refine List.forall₂_same.2 fun entry hentry => ⟨rfl, ?_⟩
  obtain ⟨memory, heq, htables⟩ := h entry hentry
  refine ⟨memory, memory, heq, heq, rfl, rfl, ?_⟩
  exact List.forall₂_same.2 fun series hseries => ⟨rfl, htables series hseries, rfl⟩

variable {R : Table → Table → Prop}

theorem Related.contains_eq (h : registry.Related R registry') (id : String) :
    registry.contains id = registry'.contains id := by
  have hfind := NameMap.Related.find? h (Text.normalName id)
  unfold contains get?
  generalize registry.sources.find? _ = source, registry'.sources.find? _ = source' at hfind ⊢
  cases hfind <;> rfl

theorem Related.agree_fetch (h : registry.Related R registry') {S : Table → Table → Prop}
    {c c' : Context} (hconform : ∀ t t', R t t' → Agree S (c.conform t) (c'.conform t'))
    (id series : String) :
    Agree (fun r r' => S r.1 r'.1 ∧ (r.1.rowCount = r'.1.rowCount → r.2 = r'.2))
      (registry.fetch id series c) (registry'.fetch id series c') := by
  have hfind := NameMap.Related.find? h (Text.normalName id)
  unfold fetch get?
  generalize registry.sources.find? _ = source, registry'.sources.find? _ = source' at hfind ⊢
  cases hfind with
  | none => exact .error _
  | some hsource =>
    obtain ⟨memory, memory', rfl, rfl, hmemory⟩ := hsource
    dsimp only [MemorySource.toSource]
    rw [← hmemory.id]
    exact (hmemory.fetch hconform _).mapError _

def holding (name : String) (table : Table) : SourceRegistry :=
  ⟨.insert .empty "DEFAULT" ((MemorySource.of "DEFAULT" none).insert name table).toSource⟩

theorem keeps_holding {P : Table → Prop} {table : Table} (h : P table) (name : String) :
    (holding name table).Keeps P := by
  intro entry he
  obtain rfl := List.mem_singleton.1 he
  refine ⟨_, rfl, fun series hs => ?_⟩
  obtain rfl := List.mem_singleton.1 hs
  exact h

theorem related_holding {table table' : Table} (h : R table table') (name : String) :
    (holding name table).Related R (holding name table') :=
  .cons ⟨rfl, _, _, rfl, rfl, rfl, rfl, .cons ⟨rfl, h⟩ .nil⟩ .nil

end SourceRegistry

def monthlyAs (name : String) (first second : Cell) : Table :=
  ⟨[⟨2020, 1, 1, by decide⟩, ⟨2020, 2, 1, by decide⟩], [⟨name, [first, second]⟩]⟩

def monthly (first second : Cell) : Table :=
  monthlyAs "GDP" first second

def fetchedMonths : Provenance :=
  .fetched "GDP@DEFAULT" ⟨"DEFAULT", none, NameMap.empty.insert "rows" "2"⟩

end TimeSeries
