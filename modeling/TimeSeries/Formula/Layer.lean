import TimeSeries.Formula.Split

set_option autoImplicit false

/-!
# Layers

The outermost layer of a text decides how it is read: an operator comes before options, and options
come before a call. `Layer.of` finds the layer; the texts that it leaves to be read in turn are
shorter.
-/
namespace TimeSeries

/-- What is outermost in a text. -/
inductive Layer where
  /-- no expression -/
  | malformed (error : FormulaError)
  | operation (split : OperatorSplit)
  /-- an expression and the options behind it -/
  | overlay (head settings : List Char)
  /-- parentheses around an expression -/
  | group (inner : List Char)
  | call (application : Call)
  | leaf (text : List Char)

namespace Layer

/-- A call with a name, or parentheses, which hold one expression. -/
def ofCall : Call → Layer
  | ⟨[], [inner]⟩ => .group inner
  | ⟨[], _⟩ => .malformed (.argument .notOneExpression)
  | application => .call application

/-- The outermost layer of a trimmed text. -/
def of (text : List Char) : Layer :=
  if text = [] then .malformed (.argument .emptyExpression)
  else
    match scan text with
    | .error error => .malformed error
    | .ok marked =>
      match splitOperator marked with
      | some split => .operation split
      | none =>
        match marked.cut? '#' with
        | some (head, settings) => .overlay head settings
        | none =>
          match splitCall marked with
          | .error error => .malformed error
          | .ok none => .leaf text
          | .ok (some application) => ofCall application

/-- The texts that a layer leaves to be read as expressions. -/
def parts : Layer → List (List Char)
  | malformed _ => []
  | operation split => [split.left, split.right]
  | overlay head _ => [head]
  | group inner => [inner]
  | call application => application.arguments
  | leaf _ => []

theorem parts_ofCall_subset (application : Call) :
    (ofCall application).parts ⊆ application.arguments := by
  unfold ofCall
  split <;> simp [parts]

theorem length_lt_of_mem_parts {text part : List Char} (h : part ∈ (of text).parts) :
    part.length < text.length := by
  unfold of at h
  split at h
  · cases h
  · split at h
    · cases h
    · rename_i scanned
      rw [← length_of_scan scanned]
      split at h
      · rename_i found
        have := OperatorSplit.last?_length found
        simp only [parts, List.mem_cons, List.not_mem_nil, or_false, List.length_nil] at h this
        rcases h with rfl | rfl <;> omega
      · split at h
        · rename_i cut
          simp only [parts, List.mem_singleton] at h
          exact h ▸ (MarkedText.cut?_length cut).1
        · split at h
          · cases h
          · cases h
          · rename_i called
            exact length_lt_of_mem_arguments called (parts_ofCall_subset _ h)

end Layer

end TimeSeries
