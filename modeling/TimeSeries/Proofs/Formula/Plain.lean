import TimeSeries.Proofs.Formula.Layers
import TimeSeries.Proofs.Formula.Simulation

set_option autoImplicit false

/-!
# Formulas without options and placeholders

All parts of a text consist of its characters. A text without a number sign is read as an expression
without options, and one without the letters of a placeholder asks for no tables.
-/
namespace TimeSeries

namespace MarkedText

variable {marked : MarkedText}

theorem subset_of_mem_splitOnP (delimiter : Char) :
    ∀ part ∈ marked.splitOnP (isTop delimiter), part ⊆ marked := by
  induction marked using induction_on_top delimiter with
  | single m hm =>
    rw [List.splitOnP_eq_singleton hm]
    intro part hp
    rw [List.mem_singleton.1 hp]
    exact List.Subset.refl m
  | cut a b mark hmark ha ih =>
    rw [splitOnP_top hmark ha]
    intro part hp
    rcases List.mem_cons.1 hp with rfl | hp
    · exact List.subset_append_left _ _
    · exact List.Subset.trans (ih part hp)
        (List.subset_append_of_subset_right a (List.subset_cons_self _ b))

theorem text_subset {part : MarkedText} (h : part ⊆ marked) : part.text ⊆ marked.text :=
  List.map_subset Prod.fst h

theorem placeholders_eq_zero (h : ¬ ['%', 'd'] <:+: marked.text) : marked.placeholders = 0 := by
  induction marked with
  | nil => rfl
  | cons entry rest ih =>
    obtain ⟨c, mark⟩ := entry
    have hrest : ¬ ['%', 'd'] <:+: MarkedText.text rest := fun hwithin =>
      h (hwithin.trans (List.suffix_cons c _).isInfix)
    cases rest with
    | nil => rfl
    | cons next rest =>
      obtain ⟨d, mark'⟩ := next
      have hletters : ¬ (c = '%' ∧ d = 'd') := by
        rintro ⟨rfl, rfl⟩
        exact h (List.prefix_append ['%', 'd'] (MarkedText.text rest)).isInfix
      rw [placeholders, if_neg fun hplace => hletters ⟨hplace.1, hplace.2.1⟩, Nat.zero_add, ih hrest]

end MarkedText

theorem countPlaceholders_eq_zero {text : List Char} (h : ¬ ['%', 'd'] <:+: text) {n : Nat}
    (hn : countPlaceholders text = .ok n) : n = 0 := by
  obtain ⟨marked, hs, rfl⟩ := map_eq_ok.1 hn
  rw [← text_of_scan hs] at h
  exact MarkedText.placeholders_eq_zero h

theorem subset_of_mem_splitArguments {interior : List Char} {arguments : List (List Char)}
    (h : splitArguments interior = .ok arguments) :
    ∀ argument ∈ arguments, argument ⊆ interior := by
  rw [splitArguments] at h
  split at h
  · cases h
    simp
  · cases hs : scan interior with
    | error e =>
      rw [splitTopLevel, hs] at h
      cases h
    | ok marked =>
      rw [splitTopLevel, hs] at h
      cases h
      intro argument ha
      obtain ⟨part, hp, rfl⟩ := List.mem_map.1 ha
      rw [← text_of_scan hs]
      exact MarkedText.text_subset (MarkedText.subset_of_mem_splitOnP ',' part hp)

theorem subset_of_mem_arguments {text : List Char} {marked : MarkedText} {call : Call}
    (hs : scan text = .ok marked) (h : splitCall marked = .ok (some call)) :
    ∀ argument ∈ call.arguments, argument ⊆ text := by
  obtain ⟨hmarked, hmarks⟩ := scan_eq_ok_iff.1 hs
  obtain ⟨front, inner, after, rfl, -, -, -, -, -, harguments⟩ := exists_of_splitCall hmarks h
  intro argument ha
  rw [← hmarked, text_callMarks]
  intro c hc
  have hinner : c ∈ inner.text := subset_of_mem_splitArguments harguments argument ha hc
  simp [hinner]

namespace Layer

theorem subset_of_mem_parts (text : List Char) : ∀ part ∈ (of text).parts, part ⊆ text := by
  have hfound := found_of text
  intro part hp
  generalize of text = layer at hfound hp
  cases layer with
  | malformed e => cases hp
  | operation split =>
    obtain ⟨marked, hs, hsplit⟩ := hfound
    obtain ⟨a, b, mark, rfl, -, -, hleft, hright, -, -, -⟩ :=
      OperatorSplit.exists_of_splitOperator hs hsplit
    rw [parts, hleft, hright, List.mem_cons, List.mem_singleton] at hp
    rw [← text_of_scan hs]
    rcases hp with rfl | rfl
    · exact MarkedText.text_subset (List.subset_append_left a _)
    · exact MarkedText.text_subset
        (List.subset_append_of_subset_right a (List.subset_cons_self _ b))
  | overlay head settings =>
    obtain ⟨a, b, mark, hs, -, rfl, -⟩ := hfound
    rw [List.mem_singleton.1 hp, ← text_of_scan hs]
    exact MarkedText.text_subset (List.subset_append_left a _)
  | group inner =>
    obtain ⟨marked, hs, hcall⟩ := hfound
    exact subset_of_mem_arguments hs hcall part hp
  | call application =>
    obtain ⟨marked, hs, hcall⟩ := hfound
    exact subset_of_mem_arguments hs hcall part hp
  | leaf content => cases hp

theorem hash_mem_of_overlay {text head settings : List Char} (h : of text = .overlay head settings) :
    '#' ∈ text := by
  have hfound := found_of text
  rw [h] at hfound
  obtain ⟨a, b, mark, hs, -⟩ := hfound
  rw [← text_of_scan hs]
  simp [MarkedText.text]

end Layer

theorem Text.trim_subset (text : List Char) : Text.trim text ⊆ text := by
  obtain ⟨pre, post, htext, -, -⟩ := Text.exists_eq_trim_between text
  intro c hc
  rw [htext]
  exact List.mem_append_left _ (List.mem_append_right _ hc)

namespace Expr

theorem everySettingOf_iff {P : List Setting → Prop} {arguments : List (Argument Expr)} :
    EverySettingOf P arguments ↔ ∀ argument ∈ arguments, argument.body.EverySetting P := by
  induction arguments with
  | nil => simp [EverySettingOf]
  | cons argument arguments ih =>
    rw [EverySettingOf, ih, List.forall_mem_cons]

theorem everySetting_ofLeaf (P : List Setting → Prop) (text : List Char) :
    (ofLeaf text).EverySetting P := by
  unfold ofLeaf ofReference
  split
  · trivial
  · split
    · trivial
    · split
      · trivial
      · split <;> trivial
      · trivial

theorem everySetting_ofArgument {P : List Setting → Prop} {text : List Char} {body : Expr}
    (h : body.EverySetting P) : (ofArgument text body).body.EverySetting P := by
  unfold ofArgument
  split
  · exact h
  · trivial

theorem everySetting_parse (P : List Setting → Prop) {text : List Char} (h : '#' ∉ text) :
    (parse text).EverySetting P := by
  induction hlength : text.length using Nat.strongRecOn generalizing text with
  | ind length ih =>
    -- A part is shorter, and has no number sign since its characters are those of the text.
    have hpart {part : List Char} (hp : part ∈ (Layer.of (Text.trim text)).parts) :
        (parse part).EverySetting P :=
      ih part.length (hlength ▸ length_lt_of_mem_parts hp)
        (fun hmem => h (Text.trim_subset text (Layer.subset_of_mem_parts _ part hp hmem))) rfl
    cases hlayer : Layer.of (Text.trim text) with
    | malformed e =>
      rw [parse_eq_malformed hlayer]
      trivial
    | operation split =>
      have hfound := Layer.found_of (Text.trim text)
      rw [hlayer] at hpart hfound
      obtain ⟨marked, hs, hsplit⟩ := hfound
      obtain ⟨a, -, -, -, -, -, hleft, -, ha, -⟩ :=
        OperatorSplit.exists_of_splitOperator hs hsplit
      have hcount : countPlaceholders split.left = .ok a.placeholders :=
        countPlaceholders_of_scan (hleft ▸ ha)
      rw [parse_eq_operation hlayer hcount]
      exact ⟨hpart (by simp [Layer.parts]), hpart (by simp [Layer.parts])⟩
    | overlay head settings =>
      exact absurd (Text.trim_subset text (Layer.hash_mem_of_overlay hlayer)) h
    | group inner =>
      rw [hlayer] at hpart
      rw [parse_eq_group hlayer]
      exact hpart (by simp [Layer.parts])
    | call application =>
      rw [hlayer] at hpart
      rw [parse_eq_call hlayer]
      refine everySettingOf_iff.2 fun argument ha => ?_
      obtain ⟨part, hp, rfl⟩ := List.mem_map.1 ha
      exact everySetting_ofArgument (hpart hp)
    | leaf content =>
      rw [parse_eq_leaf hlayer]
      exact everySetting_ofLeaf P content

end Expr

end TimeSeries
