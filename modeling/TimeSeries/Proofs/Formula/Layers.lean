import TimeSeries.Proofs.Formula.Cutting
import TimeSeries.Proofs.Outcome

set_option autoImplicit false

/-!
# Layers of a scanned text

What the marks of a text say when a layer has been found in it, and which layer is found when the
marks are known.
-/
namespace TimeSeries

/-- The marks of a call: what stands before the first parenthesis, what it encloses, and what
stands behind its partner. -/
def callMarks (front inner after : MarkedText) : MarkedText :=
  front ++ ('(', ⟨0, false⟩) :: (inner.raise 1 ++ (')', ⟨0, false⟩) :: after)

section Calls

variable {front inner after marked : MarkedText}

theorem text_callMarks (front inner after : MarkedText) :
    (callMarks front inner after).text = front.text ++ '(' :: (inner.text ++ ')' :: after.text) := by
  simp [callMarks]

theorem marks_callMarks (hfront : Marks 0 false front 0 false) (hinner : Marks 0 false inner 0 false)
    (hafter : Marks 0 false after 0 false) : Marks 0 false (callMarks front inner after) 0 false :=
  hfront.append (.opening ((hinner.raise 1).append (.closing hafter)))

theorem placeholders_callMarks (hafter : Text.Blanks after.text) :
    (callMarks front inner after).placeholders =
      MarkedText.placeholders (front ++ [('(', ⟨0, false⟩)]) + inner.placeholders := by
  have hclose : MarkedText.continuesName ((')', ⟨0, false⟩) :: after) = false := rfl
  rw [callMarks, MarkedText.placeholders_append_cons (by decide) (by decide),
    MarkedText.placeholders_append hclose, MarkedText.placeholders_raise,
    MarkedText.placeholders_cons_of_inert (MarkedText.inert_of_ne (by simp)),
    MarkedText.placeholders_of_inert (MarkedText.inert_of_blanks hafter), Nat.add_zero]

theorem placeholders_opening (hfront : Text.Blanks front.text) :
    MarkedText.placeholders (front ++ [('(', ⟨0, false⟩)]) = 0 := by
  rw [MarkedText.placeholders_append_of_inert (MarkedText.inert_of_blanks hfront)]
  rfl

/-- The parenthesis that closes the first one is found, and only blanks may stand behind it. -/
theorem splitCall_eq (hfront : ∀ entry ∈ front, MarkedText.isTop '(' entry = false) :
    splitCall (callMarks front inner after) =
      if Text.allBlank after.text then
        (splitArguments inner.text).map fun arguments => some ⟨Text.trim front.text, arguments⟩
      else .error (.mismatchedParen (String.ofList (callMarks front inner after).text)) := by
  have hmark : (⟨0, false⟩ : Mark).isTopLevel = true := rfl
  have hinner : ∀ entry ∈ inner.raise 1, MarkedText.isTop ')' entry = false :=
    fun entry he => MarkedText.isTop_raise he
  simp only [splitCall, callMarks]
  rw [MarkedText.dropWhile_top hmark hfront, MarkedText.takeWhile_top hmark hfront]
  simp only [MarkedText.cut?_eq_some hmark hinner, MarkedText.text_raise]

theorem splitCall_callMarks (hfront : ∀ entry ∈ front, MarkedText.isTop '(' entry = false)
    (hafter : Text.Blanks after.text) :
    splitCall (callMarks front inner after) =
      (splitArguments inner.text).map fun arguments =>
        some ⟨Text.trim front.text, arguments⟩ := by
  rw [splitCall_eq hfront, if_pos (Text.allBlank_iff.2 hafter)]

theorem exists_callMarks {rest : MarkedText} {mark : Mark} (htop : mark.isTopLevel = true)
    (hm : Marks 0 false (front ++ ('(', mark) :: rest) 0 false) :
    ∃ inner after : MarkedText, front ++ ('(', mark) :: rest = callMarks front inner after ∧
      Marks 0 false front 0 false ∧ Marks 0 false inner 0 false ∧ Marks 0 false after 0 false := by
  obtain ⟨level, inside, hfront, hrest⟩ := hm.exists_of_append
  cases hrest with
  | quoted => simp [Mark.isTopLevel] at htop
  | plain hc => exact absurd rfl hc.2.1
  | opening hrest =>
    obtain rfl : level = 0 := by simpa [Mark.isTopLevel] using htop
    rcases MarkedText.first_top_cases ')' rest with hnone | ⟨body, after, close, rfl, hclose, hbody⟩
    · exact absurd (hrest.pos_of_open Nat.one_pos hnone) (Nat.lt_irrefl 0)
    obtain ⟨level', inside', hin, hafter⟩ := hrest.exists_of_append
    cases hafter with
    | quoted => simp [Mark.isTopLevel] at hclose
    | plain hc => exact absurd rfl hc.2.2
    | @closing outer _ _ _ hafter =>
      obtain rfl : outer = 0 := by simpa [Mark.isTopLevel] using hclose
      obtain ⟨inner, rfl, hinner⟩ := hin.exists_eq_raise hbody
      exact ⟨inner, after, rfl, hfront, hinner, hafter⟩

theorem exists_of_splitCall {call : Call} (hm : Marks 0 false marked 0 false)
    (h : splitCall marked = .ok (some call)) :
    ∃ front inner after : MarkedText, marked = callMarks front inner after ∧
      (∀ entry ∈ front, MarkedText.isTop '(' entry = false) ∧ Marks 0 false front 0 false ∧
      Marks 0 false inner 0 false ∧ Text.Blanks after.text ∧
      call.name = Text.trim front.text ∧ splitArguments inner.text = .ok call.arguments := by
  rcases MarkedText.first_top_cases '(' marked with hnone | ⟨front, rest, mark, rfl, hmark, hfront⟩
  · have hd : marked.dropWhile (!MarkedText.isTop '(' ·) = [] :=
      List.dropWhile_eq_nil_iff.2 fun e he => by simp [hnone e he]
    simp [splitCall, hd] at h
  obtain ⟨inner, after, heq, hwalk, hinner, -⟩ := exists_callMarks hmark hm
  rw [heq, splitCall_eq hfront] at h
  split at h
  · rename_i hblank
    obtain ⟨arguments, hargs, hcall⟩ := map_eq_ok.1 h
    cases hcall
    exact ⟨front, inner, after, heq, hfront, hwalk, hinner, Text.allBlank_iff.1 hblank, rfl, hargs⟩
  · cases h

theorem exists_of_splitArguments {arguments : List (List Char)}
    (hm : Marks 0 false inner 0 false) (h : splitArguments inner.text = .ok arguments) :
    ∃ parts : List MarkedText, arguments = parts.map MarkedText.text ∧
      (∀ part ∈ parts, Marks 0 false part 0 false) ∧
      (parts.map MarkedText.placeholders).sum = inner.placeholders ∧
      (parts = [] ∧ Text.Blanks inner.text ∨ parts = inner.splitOnP (MarkedText.isTop ',')) := by
  have hscan : scan inner.text = .ok inner := scan_eq_ok_iff.2 ⟨rfl, hm⟩
  rw [splitArguments] at h
  split at h
  · rename_i hblank
    cases h
    have hblanks := Text.allBlank_iff.1 hblank
    have hzero := MarkedText.placeholders_of_inert (MarkedText.inert_of_blanks hblanks)
    exact ⟨[], rfl, by simp, by simp [hzero], .inl ⟨rfl, hblanks⟩⟩
  · rw [splitTopLevel, hscan] at h
    cases h
    exact ⟨_, rfl, MarkedText.marks_of_mem_splitOnP (by simp [IsPlain]) hm,
      MarkedText.sum_placeholders_splitOnP (by decide) (by decide) inner, .inr rfl⟩

end Calls

namespace Layer

variable {text : List Char}

/-- What the scan of a text says about the layer that is found in it. -/
def Found (text : List Char) : Layer → Prop
  | .malformed _ => True
  | .operation split =>
    ∃ marked, scan text = .ok marked ∧ splitOperator marked = some split
  | .overlay head settings =>
    ∃ (a b : MarkedText) (mark : Mark), scan text = .ok (a ++ ('#', mark) :: b) ∧
      mark.isTopLevel = true ∧ head = a.text ∧ settings = b.text
  | .group inner =>
    ∃ marked, scan text = .ok marked ∧ splitCall marked = .ok (some ⟨[], [inner]⟩)
  | .call application =>
    ∃ marked, scan text = .ok marked ∧ splitCall marked = .ok (some application)
  | .leaf content => content = text ∧ ∃ marked, scan text = .ok marked

theorem found_ofCall {marked : MarkedText} (hs : scan text = .ok marked) {application : Call}
    (h : splitCall marked = .ok (some application)) : Found text (ofCall application) := by
  unfold ofCall
  split
  · exact ⟨marked, hs, h⟩
  · trivial
  · exact ⟨marked, hs, h⟩

/-- The layer that is found in a text is there. -/
theorem found_of (text : List Char) : Found text (of text) := by
  by_cases hne : text = []
  · rw [of, if_pos hne]
    trivial
  cases hs : scan text with
  | error e =>
    rw [of, if_neg hne, hs]
    trivial
  | ok marked =>
    cases ho : splitOperator marked with
    | some split =>
      rw [of_eq_operation hs ho]
      exact ⟨marked, hs, ho⟩
    | none =>
      simp only [of, hne, hs, ho, if_false]
      rcases MarkedText.first_top_cases '#' marked with hnone | ⟨a, b, mark, rfl, hmark, ha⟩
      · rw [MarkedText.cut?_eq_none hnone]
        cases hc : splitCall marked with
        | error e => trivial
        | ok found =>
          cases found with
          | none => exact ⟨rfl, marked, hs⟩
          | some application => exact found_ofCall hs hc
      · rw [MarkedText.cut?_eq_some hmark ha]
        exact ⟨a, b, mark, hs, hmark, rfl, rfl⟩

section Finding

variable {marked : MarkedText}

theorem of_eq_overlay {a b : MarkedText} {mark : Mark} (htop : mark.isTopLevel = true)
    (hs : scan text = .ok (a ++ ('#', mark) :: b))
    (hsplit : splitOperator (a ++ ('#', mark) :: b) = none)
    (ha : ∀ entry ∈ a, MarkedText.isTop '#' entry = false) :
    of text = .overlay a.text b.text := by
  have hne : text ≠ [] := by
    rintro rfl
    have hlen := length_of_scan hs
    simp at hlen
  simp only [of, hne, hs, hsplit, MarkedText.cut?_eq_some htop ha, if_false]

theorem of_eq_ofCall {application : Call} (hs : scan text = .ok marked)
    (hsplit : splitOperator marked = none)
    (hhash : ∀ entry ∈ marked, MarkedText.isTop '#' entry = false)
    (hcall : splitCall marked = .ok (some application)) : of text = ofCall application := by
  have hne : text ≠ [] := by
    rintro rfl
    have hlen := length_of_scan hs
    rw [List.length_nil, List.length_eq_zero_iff] at hlen
    subst hlen
    cases hcall
  simp only [of, hne, hs, hsplit, MarkedText.cut?_eq_none hhash, hcall, if_false]

theorem of_eq_leaf (hs : scan text = .ok marked) (hne : text ≠ [])
    (hsplit : splitOperator marked = none)
    (hhash : ∀ entry ∈ marked, MarkedText.isTop '#' entry = false)
    (hopen : ∀ entry ∈ marked, MarkedText.isTop '(' entry = false) : of text = .leaf text := by
  have hcall : splitCall marked = .ok none := by
    have hdrop : marked.dropWhile (!MarkedText.isTop '(' ·) = [] :=
      List.dropWhile_eq_nil_iff.2 fun entry he => by simp [hopen entry he]
    simp [splitCall, hdrop]
  simp only [of, hne, hs, hsplit, MarkedText.cut?_eq_none hhash, hcall, if_false]

theorem exists_of_eq_leaf {content : List Char} (h : of text = .leaf content) :
    content = text ∧ ∃ marked, scan text = .ok marked ∧ splitOperator marked = none ∧
      (∀ entry ∈ marked, MarkedText.isTop '#' entry = false) ∧
      ∀ entry ∈ marked, MarkedText.isTop '(' entry = false := by
  unfold of at h
  split at h
  · cases h
  · split at h
    · cases h
    · rename_i marked hs
      split at h
      · cases h
      · rename_i hsplit
        split at h
        · cases h
        · rename_i hcut
          split at h
          · cases h
          · rename_i hcall
            cases h
            refine ⟨rfl, marked, hs, hsplit, ?_, ?_⟩
            · rcases MarkedText.first_top_cases '#' marked with hnone | ⟨a, b, mark, rfl, hmark, ha⟩
              · exact hnone
              · rw [MarkedText.cut?_eq_some hmark ha] at hcut
                cases hcut
            · rcases MarkedText.first_top_cases '(' marked with hnone | ⟨a, b, mark, rfl, hmark, ha⟩
              · exact hnone
              · obtain ⟨inner, after, heq, -⟩ := exists_callMarks hmark (scan_eq_ok_iff.1 hs).2
                rw [heq, splitCall_eq ha] at hcall
                split at hcall
                · obtain ⟨arguments, -, hnone⟩ := map_eq_ok.1 hcall
                  cases hnone
                · cases hcall
          · unfold ofCall at h
            split at h <;> cases h

theorem ofCall_of_ne {application : Call} (h : application.name ≠ []) :
    ofCall application = .call application := by
  obtain ⟨name, arguments⟩ := application
  unfold ofCall
  split
  · rename_i heq
    exact absurd (congrArg Call.name heq) h
  · rename_i heq
    exact absurd (congrArg Call.name heq) h
  · rfl

end Finding

end Layer

namespace MarkedText

theorem cut?_between {delimiter : Char} (hd : Text.isBlank delimiter = false)
    {pre core post : MarkedText} (hpre : Text.Blanks pre.text) (hpost : Text.Blanks post.text) :
    cut? delimiter (pre ++ core ++ post) = (cut? delimiter core).map fun (before, after) =>
      (pre.text ++ before, after ++ post.text) := by
  have hbefore := isTop_of_not_mem (hpre.not_mem hd)
  have hafter := isTop_of_not_mem (hpost.not_mem hd)
  rcases first_top_cases delimiter core with hnone | ⟨a, b, mark, rfl, hmark, ha⟩
  · have hall : ∀ entry ∈ pre ++ core ++ post, isTop delimiter entry = false := by
      intro entry he
      rcases List.mem_append.1 he with he | he
      · rcases List.mem_append.1 he with he | he
        · exact hbefore entry he
        · exact hnone entry he
      · exact hafter entry he
    rw [cut?_eq_none hnone, cut?_eq_none hall, Option.map_none]
  · have hfront : ∀ entry ∈ pre ++ a, isTop delimiter entry = false := by
      intro entry he
      rcases List.mem_append.1 he with he | he
      · exact hbefore entry he
      · exact ha entry he
    have hm : pre ++ (a ++ (delimiter, mark) :: b) ++ post =
        (pre ++ a) ++ (delimiter, mark) :: (b ++ post) := by simp
    rw [hm, cut?_eq_some hmark ha, cut?_eq_some hmark hfront]
    simp

end MarkedText

end TimeSeries
