import TimeSeries.Formula.Evaluation
import TimeSeries.Proofs.Formula.Changes

set_option autoImplicit false

/-!
# Refusals

Reading a text, its leaves and its options fails in no other way than by refusing the text or a name
in it. Errors about tables and about sources come from evaluation.
-/
namespace TimeSeries

def FormulaError.IsRefusal : FormulaError → Prop
  | tableCount _ _ | sourceFetch _ _ _ | unknownSource _ | registration _ | table _ => False
  | _ => True

section Refusals

variable {text : List Char} {e : FormulaError}

theorem isRefusal_of_scan (h : scan text = .error e) : e.IsRefusal := by
  unfold scan at h
  split at h
  · cases h
    trivial
  · split at h
    · cases h
    · cases h
      trivial

theorem isRefusal_of_countPlaceholders (h : countPlaceholders text = .error e) : e.IsRefusal :=
  isRefusal_of_scan (map_eq_error.1 h)

theorem isRefusal_of_splitTopLevel {delimiter : Char} (h : splitTopLevel delimiter text = .error e) :
    e.IsRefusal := by
  rcases bind_eq_error.1 h with h | ⟨marked, -, h⟩
  · exact isRefusal_of_scan h
  · split at h
    · cases h
    · cases h
      trivial

theorem isRefusal_of_splitCall {marked : MarkedText} (h : splitCall marked = .error e) :
    e.IsRefusal := by
  simp only [splitCall] at h
  split at h
  · cases h
  · split at h
    · cases h
      trivial
    · split at h
      · rw [map_eq_error, splitArguments] at h
        split at h
        · cases h
        · exact isRefusal_of_splitTopLevel h
      · cases h
        trivial

theorem isRefusal_of_layer (h : Layer.of text = .malformed e) : e.IsRefusal := by
  unfold Layer.of at h
  split at h
  · cases h
    trivial
  · split at h
    · rename_i hs
      cases h
      exact isRefusal_of_scan hs
    · split at h
      · cases h
      · split at h
        · cases h
        · split at h
          · rename_i hc
            cases h
            exact isRefusal_of_splitCall hc
          · cases h
          · unfold Layer.ofCall at h
            split at h <;> cases h
            trivial

theorem isRefusal_of_unquote (h : unquote text = .error e) : e.IsRefusal := by
  simp only [unquote] at h
  split at h
  · cases h
  · split at h
    · cases h
    · cases h
      trivial

theorem isRefusal_of_parseSetting (h : parseSetting text = .error e) : e.IsRefusal := by
  simp only [parseSetting] at h
  split at h
  · split at h
    · cases h
      trivial
    · cases h
  · rcases bind_eq_error.1 h with h | ⟨value, -, h⟩
    · simp only [unquoteSetting] at h
      split at h
      · cases h
      · split at h
        · cases h
        · cases h
          trivial
    · split at h
      · cases h
        trivial
      · cases h

theorem isRefusal_of_parseSettings (h : parseSettings text = .error e) : e.IsRefusal := by
  rcases bind_eq_error.1 h with h | ⟨pieces, -, h⟩
  · exact isRefusal_of_splitTopLevel h
  · obtain ⟨piece, -, h⟩ := mapM_eq_error h
    exact isRefusal_of_parseSetting h

theorem isRefusal_of_applySettings {context : Context} {settings : List Setting}
    (h : context.applySettings settings = .error e) : e.IsRefusal := by
  obtain ⟨inner, setting, -, h⟩ := foldlM_eq_error h
  obtain ⟨fault, rfl⟩ := Context.applyOption_eq_error h
  trivial

end Refusals

theorem Expr.ofLeaf_cases (content : List Char) :
    (content = ['%', 'd'] ∧ ofLeaf content = .table) ∨
    (∃ value, ofLeaf content = .number content value) ∨
    (∃ literal, ofLeaf content = .literal literal) ∨
    (∃ e, ofLeaf content = .malformed e ∧ e.IsRefusal) ∨
    ∃ name source, ofLeaf content = .reference content name source := by
  unfold ofLeaf
  split
  · rename_i hc
    exact .inl ⟨hc, rfl⟩
  · split
    · exact .inr (.inl ⟨_, rfl⟩)
    · split
      · exact .inr (.inr (.inl ⟨_, rfl⟩))
      · unfold ofReference
        split
        · exact .inr (.inr (.inr (.inr ⟨_, _, rfl⟩)))
        · exact .inr (.inr (.inr (.inr ⟨_, _, rfl⟩)))
        · exact .inr (.inr (.inr (.inl ⟨_, rfl, trivial⟩)))
      · rename_i hu
        exact .inr (.inr (.inr (.inl ⟨_, rfl, isRefusal_of_unquote hu⟩)))

/-! ## Errors of evaluation -/

section Evaluation

variable {e : FormulaError}

theorem liftTable_eq_error {α : Type} {x : Except TableError α} (h : liftTable x = .error e) :
    ∃ cause, x = .error cause ∧ e = .table cause :=
  (mapError_eq_error.1 h).imp fun _ hcause => ⟨hcause.1, hcause.2.symm⟩

theorem SourceRegistry.fetch_eq_error {registry : SourceRegistry} {id series : String}
    {context : Context} (h : registry.fetch id series context = .error e) :
    e = .unknownSource (Text.normalName id) ∨ ∃ source cause, registry.get? id = some source ∧
      source.fetch (Text.normalName series) context = .error cause ∧
      e = .sourceFetch source.id (Text.normalName series) cause := by
  unfold fetch at h
  cases hg : registry.get? id with
  | none =>
    rw [hg] at h
    cases h
    exact .inl rfl
  | some source =>
    rw [hg] at h
    obtain ⟨cause, hcause, rfl⟩ := mapError_eq_error.1 h
    exact .inr ⟨source, cause, rfl, hcause, rfl⟩

end Evaluation

end TimeSeries
