import TimeSeries.Formula.Source
import TimeSeries.Proofs.NameMap
import TimeSeries.Proofs.Outcome
import TimeSeries.Proofs.Text.Case

set_option autoImplicit false

/-!
# Registering sources

A registration that succeeds adds one identifier, which was free, and changes the source of no other
one. Identifiers are in normal form, so that every source is found under its identifiers.
-/
namespace TimeSeries

theorem Text.normalName_normalName (name : String) :
    Text.normalName (Text.normalName name) = Text.normalName name := by
  rw [Text.normalName, Text.trimmed_normalName, Text.uppercase_normalName]

namespace SourceRegistry

theorem add_eq (given : Source) (registry : SourceRegistry) :
    add given registry =
      if isId (Text.normalName given.id) then
        if registry.sources.contains (Text.normalName given.id) then
          .error (.registration (.sourceTaken (Text.normalName given.id))) registry
        else .ok () ⟨registry.sources.insert (Text.normalName given.id) given⟩
      else .error (.registration (.sourceId given.id)) registry := by
  unfold add
  cases isId (Text.normalName given.id) with
  | false => rfl
  | true =>
    simp only [Bool.not_true, Bool.false_eq_true, if_false, if_true, Update.get_bind,
      Update.ite_apply]
    cases registry.sources.contains (Text.normalName given.id) <;> rfl

theorem addAlias_eq (newId id : String) (registry : SourceRegistry) :
    addAlias newId id registry =
      match registry.get? id with
      | none => .error (.unknownSource id) registry
      | some given =>
        if Text.normalName newId = "" || registry.sources.contains (Text.normalName newId) then
          .error (.registration (.sourceAlias (Text.normalName newId) id)) registry
        else .ok () ⟨registry.sources.insert (Text.normalName newId) given⟩ := by
  unfold addAlias
  rw [Update.get_bind]
  cases registry.get? id with
  | none => rfl
  | some given =>
    dsimp only
    rw [Update.get_bind, Update.ite_apply]
    rfl

end SourceRegistry

/-- A request to a registry: to add a source, or to add the source of an identifier under one more
identifier. -/
inductive Registration where
  | source (source : Source)
  | furtherId (newId id : String)

namespace Registration

def key : Registration → String
  | source added => Text.normalName added.id
  | furtherId newId _ => Text.normalName newId

def update : Registration → Update SourceRegistry Unit
  | source added => SourceRegistry.add added
  | furtherId newId id => SourceRegistry.addAlias newId id

def perform (registry : SourceRegistry) (registration : Registration) :
    Except FormulaError SourceRegistry :=
  Update.result registration.update registry

variable {registration : Registration} {registry registry' : SourceRegistry}

/-- Which source a registration adds, and which identifiers it accepts. -/
def Adds (registry : SourceRegistry) (added : Source) : Registration → Prop
  | source given => added = given ∧ SourceRegistry.isId (Text.normalName given.id) = true
  | furtherId newId id => registry.get? id = some added ∧ Text.normalName newId ≠ ""

/-- All that a registration does: it adds a source under an identifier that was free, or it fails and
leaves the registry as it was. -/
theorem update_cases (registration : Registration) (registry : SourceRegistry) :
    (∃ added, registration.Adds registry added ∧
      registry.sources.contains registration.key = false ∧
      registration.update registry = .ok () ⟨registry.sources.insert registration.key added⟩) ∨
    ∃ e, registration.update registry = .error e registry := by
  cases registration with
  | source given =>
    rw [update, SourceRegistry.add_eq]
    split
    · rename_i hid
      split
      · exact .inr ⟨_, rfl⟩
      · rename_i hfree
        exact .inl ⟨given, ⟨rfl, hid⟩, Bool.eq_false_iff.2 hfree, rfl⟩
    · exact .inr ⟨_, rfl⟩
  | furtherId newId id =>
    rw [update, SourceRegistry.addAlias_eq]
    split
    · exact .inr ⟨_, rfl⟩
    · rename_i added hadded
      split
      · exact .inr ⟨_, rfl⟩
      · rename_i hkey
        simp only [Bool.or_eq_true, decide_eq_true_eq, not_or, Bool.not_eq_true] at hkey
        exact .inl ⟨added, ⟨hadded, hkey.1⟩, hkey.2, rfl⟩

theorem perform_eq_ok (h : registration.perform registry = .ok registry') :
    ∃ added, registration.Adds registry added ∧
      registry.sources.contains registration.key = false ∧
      registry' = ⟨registry.sources.insert registration.key added⟩ := by
  rcases registration.update_cases registry with ⟨added, hadds, hfree, hupdate⟩ | ⟨e, hupdate⟩
  · rw [perform, Update.result, hupdate] at h
    cases h
    exact ⟨added, hadds, hfree, rfl⟩
  · rw [perform, Update.result, hupdate] at h
    cases h

theorem key_ne_empty {added : Source} (h : registration.Adds registry added) :
    registration.key ≠ "" := by
  cases registration with
  | source given =>
    have hid := h.2
    simp only [SourceRegistry.isId, Bool.and_eq_true, bne_iff_ne] at hid
    exact hid.1
  | furtherId newId id => exact h.2

theorem normalName_key (registration : Registration) :
    Text.normalName registration.key = registration.key := by
  cases registration with
  | source given => exact Text.normalName_normalName _
  | furtherId newId id => exact Text.normalName_normalName _

theorem get?_of_ne (h : registration.perform registry = .ok registry') {id : String}
    (hne : Text.normalName id ≠ registration.key) : registry'.get? id = registry.get? id := by
  obtain ⟨added, -, -, rfl⟩ := perform_eq_ok h
  exact NameMap.find?_insert_of_ne hne

theorem get?_of_eq (h : registration.perform registry = .ok registry') {id : String}
    (heq : Text.normalName id = registration.key) : registry.get? id = none := by
  obtain ⟨added, -, hfree, -⟩ := perform_eq_ok h
  rw [SourceRegistry.get?, heq]
  simpa [NameMap.contains] using hfree

end Registration

namespace SourceRegistry

def next (registry : SourceRegistry) (registration : Registration) : SourceRegistry :=
  Update.left registration.update registry

def after (registrations : List Registration) : SourceRegistry := registrations.foldl next .empty

/-- Every identifier is in normal form and not empty. -/
structure IsProper (registry : SourceRegistry) : Prop where
  normal : ∀ id ∈ registry.ids, Text.normalName id = id
  ne_empty : ∀ id ∈ registry.ids, id ≠ ""

theorem isProper_empty : empty.IsProper := ⟨nofun, nofun⟩

theorem IsProper.next {registry : SourceRegistry} (h : registry.IsProper)
    (registration : Registration) : (registry.next registration).IsProper := by
  rw [SourceRegistry.next, Update.left]
  rcases registration.update_cases registry with ⟨added, hadds, -, hupdate⟩ | ⟨e, hupdate⟩
  · rw [hupdate]
    constructor
    · intro id hid
      rcases NameMap.mem_names_insert.1 hid with rfl | hid
      · exact registration.normalName_key
      · exact h.normal id hid
    · intro id hid
      rcases NameMap.mem_names_insert.1 hid with rfl | hid
      · exact Registration.key_ne_empty hadds
      · exact h.ne_empty id hid
  · rw [hupdate]
    exact h

theorem isProper_after (registrations : List Registration) : (after registrations).IsProper := by
  have hfold {registry : SourceRegistry} (h : registry.IsProper) :
      (registrations.foldl next registry).IsProper := by
    induction registrations generalizing registry with
    | nil => exact h
    | cons registration rest ih => exact ih (h.next registration)
  exact hfold isProper_empty

theorem IsProper.exists_get? {registry : SourceRegistry} (h : registry.IsProper) {id : String}
    (hid : id ∈ registry.ids) :
    ∃ stored, registry.sources.find? id = some stored ∧ registry.get? id = some stored := by
  obtain ⟨stored, hstored⟩ := NameMap.exists_find? hid
  refine ⟨stored, hstored, ?_⟩
  rw [get?, h.normal id hid, hstored]

end SourceRegistry

end TimeSeries
