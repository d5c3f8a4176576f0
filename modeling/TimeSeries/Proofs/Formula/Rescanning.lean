import TimeSeries.Proofs.Formula.Pieces
import TimeSeries.Proofs.Formula.Supply

set_option autoImplicit false

/-!
# Scanning the parts again

Evaluation keeps no marks: each part of a text is handed on as text and scanned anew. The parts are
cut where the walk of the scanner is on the top level, so a part that is scanned by itself has the
marks that it had in the whole, the interior of a call those of one level lower. After the first
scan no later one fails.
-/
namespace TimeSeries

namespace MarkedText

/-- The text of these marks scans to them, and its trimmed form to those between the blanks. -/
structure ScansAlone (marked : MarkedText) : Prop where
  text_scans : scan marked.text = .ok marked
  trim_scans : ∃ pre core post : MarkedText, marked = pre ++ core ++ post ∧
    Text.Blanks pre.text ∧ Text.Blanks post.text ∧ scan (Text.trim marked.text) = .ok core

variable {delimiter : Char} {a b marked : MarkedText} {mark : Mark}

theorem scansAlone_of_marks (h : Marks 0 false marked 0 false) : marked.ScansAlone :=
  have hs : scan marked.text = .ok marked := scan_eq_ok_iff.2 ⟨rfl, h⟩
  ⟨hs, scan_trim hs⟩

theorem scansAlone_cut (hd : IsPlain delimiter) (htop : mark.isTopLevel = true)
    (h : Marks 0 false (a ++ (delimiter, mark) :: b) 0 false) : a.ScansAlone ∧ b.ScansAlone :=
  have hcut := h.cut_top hd htop
  ⟨scansAlone_of_marks hcut.2.1, scansAlone_of_marks hcut.2.2⟩

theorem eq_of_isTopLevel (h : mark.isTopLevel = true) : mark = ⟨0, false⟩ := by
  obtain ⟨depth, quoted⟩ := mark
  simp only [Mark.isTopLevel, Bool.and_eq_true, beq_iff_eq, Bool.not_eq_true'] at h
  rw [h.1, h.2]

theorem join_splitOnP (delimiter : Char) (marked : MarkedText) :
    join delimiter (marked.splitOnP (isTop delimiter)) = marked := by
  induction marked using induction_on_top delimiter with
  | single m hm => rw [List.splitOnP_eq_singleton hm, join_singleton]
  | cut a b mark hmark ha ih =>
    rw [splitOnP_top hmark ha, eq_of_isTopLevel hmark]
    cases hrest : b.splitOnP (isTop delimiter) with
    | nil => exact absurd hrest (List.splitOnP_ne_nil _ b)
    | cons next others => rw [join_cons_cons, ← hrest, ih]

theorem exists_of_cut? {before after : List Char} (h : marked.cut? delimiter = some (before, after)) :
    ∃ (a b : MarkedText) (mark : Mark), marked = a ++ (delimiter, mark) :: b ∧
      mark.isTopLevel = true ∧ a.text = before ∧ b.text = after := by
  rcases first_top_cases delimiter marked with hnone | ⟨a, b, mark, rfl, hmark, ha⟩
  · rw [cut?_eq_none hnone] at h
    cases h
  · rw [cut?_eq_some hmark ha] at h
    cases h
    exact ⟨a, b, mark, rfl, hmark, rfl, rfl⟩

theorem exists_of_dropWhile {opening : Char × Mark} {rest : MarkedText}
    (h : marked.dropWhile (!isTop delimiter ·) = opening :: rest) :
    ∃ (front : MarkedText) (mark : Mark), mark.isTopLevel = true ∧ opening = (delimiter, mark) ∧
      marked = front ++ (delimiter, mark) :: rest := by
  rcases first_top_cases delimiter marked with hnone | ⟨a, b, mark, rfl, hmark, ha⟩
  · have hnil : marked.dropWhile (!isTop delimiter ·) = [] :=
      List.dropWhile_eq_nil_iff.2 fun entry he => by simp [hnone entry he]
    rw [hnil] at h
    cases h
  · rw [dropWhile_top hmark ha] at h
    cases h
    exact ⟨a, mark, hmark, rfl, rfl⟩

end MarkedText

open MarkedText

section Splits

variable {text : List Char} {whole : MarkedText}

/-- What is cut from a scanned text at its operator, its options, a delimiter or the parentheses of
a call scans by itself, to the marks that it has in the whole. -/
structure PartsAgree (text : List Char) (whole : MarkedText) : Prop where
  operator : ∀ split, splitOperator whole = some split →
    ∃ (left right : MarkedText) (mark : Mark),
      whole = left ++ (split.operator.symbol, mark) :: right ∧ mark.isTopLevel = true ∧
      left.text = split.left ∧ right.text = split.right ∧ left.ScansAlone ∧ right.ScansAlone
  options : ∀ head tail, whole.cut? '#' = some (head, tail) →
    ∃ (before after : MarkedText) (mark : Mark),
      whole = before ++ ('#', mark) :: after ∧ mark.isTopLevel = true ∧
      before.text = head ∧ after.text = tail ∧ before.ScansAlone ∧ after.ScansAlone
  /-- only a delimiter that is not ASCII is refused -/
  splits : ∀ delimiter : Char, delimiter.utf8Size = 1 →
    ∃ parts, splitTopLevel delimiter text = .ok parts
  delimiter : ∀ delimiter parts, IsPlain delimiter → splitTopLevel delimiter text = .ok parts →
    [delimiter].intercalate parts = text ∧
    ∃ pieces : List MarkedText, whole = join delimiter pieces ∧
      parts = pieces.map MarkedText.text ∧ ∀ piece ∈ pieces, piece.ScansAlone
  /-- the parenthesis that a call is searched for is there, and all before it is enclosed -/
  closing : ∀ opening rest, whole.dropWhile (!isTop '(' ·) = opening :: rest →
    ∃ inner after : MarkedText, rest = inner.raise 1 ++ (')', ⟨0, false⟩) :: after ∧
      cut? ')' rest = some (inner.text, after.text) ∧
      (∀ entry ∈ inner.raise 1, 1 ≤ entry.2.depth) ∧ inner.ScansAlone
  arguments : ∀ call, splitCall whole = .ok (some call) →
    ∃ (front inner after : MarkedText) (pieces : List MarkedText),
      whole = callMarks front inner after ∧ call.arguments = pieces.map MarkedText.text ∧
      (pieces = [] ∧ Text.Blanks inner.text ∨ inner = join ',' pieces) ∧
      ∀ piece ∈ pieces, piece.ScansAlone

theorem exists_of_splitTopLevel (hs : scan text = .ok whole) {delimiter : Char}
    (hd : IsPlain delimiter) {parts : List (List Char)}
    (h : splitTopLevel delimiter text = .ok parts) :
    ∃ pieces : List MarkedText, whole = join delimiter pieces ∧
      parts = pieces.map MarkedText.text ∧ ∀ piece ∈ pieces, piece.ScansAlone := by
  simp only [splitTopLevel, hs, Except.bind] at h
  split at h
  · cases h
    have hmarks := marks_of_mem_splitOnP hd (scan_eq_ok_iff.1 hs).2
    exact ⟨_, (join_splitOnP delimiter whole).symm, rfl,
      fun piece hp => scansAlone_of_marks (hmarks piece hp)⟩
  · cases h

theorem exists_splitTopLevel (hs : scan text = .ok whole) {delimiter : Char}
    (hascii : delimiter.utf8Size = 1) : ∃ parts, splitTopLevel delimiter text = .ok parts := by
  simp [splitTopLevel, hs, Except.bind, hascii]

theorem exists_of_splitArguments_eq {inner : MarkedText} (hm : Marks 0 false inner 0 false)
    {arguments : List (List Char)} (h : splitArguments inner.text = .ok arguments) :
    ∃ pieces : List MarkedText, arguments = pieces.map MarkedText.text ∧
      (pieces = [] ∧ Text.Blanks inner.text ∨ inner = join ',' pieces) ∧
      ∀ piece ∈ pieces, piece.ScansAlone := by
  obtain ⟨pieces, htexts, hmarks, -, hpieces⟩ := exists_of_splitArguments hm h
  refine ⟨pieces, htexts, hpieces.imp_right ?_, fun piece hp => scansAlone_of_marks (hmarks piece hp)⟩
  rintro rfl
  exact (join_splitOnP ',' inner).symm

theorem partsAgree_of_scan (hs : scan text = .ok whole) : PartsAgree text whole := by
  have hm := (scan_eq_ok_iff.1 hs).2
  constructor
  case operator =>
    intro split hsplit
    obtain ⟨a, b, mark, rfl, hat, -, hleft, hright, -⟩ :=
      OperatorSplit.exists_of_splitOperator hs hsplit
    have htop : mark.isTopLevel = true := by
      simp only [OperatorSplit.splitsAt, Bool.and_eq_true] at hat
      exact hat.1.2
    exact ⟨a, b, mark, rfl, htop, hleft.symm, hright.symm,
      scansAlone_cut split.operator.isPlain_symbol htop hm⟩
  case options =>
    intro head tail hcut
    obtain ⟨a, b, mark, rfl, htop, hhead, htail⟩ := exists_of_cut? hcut
    exact ⟨a, b, mark, rfl, htop, hhead, htail, scansAlone_cut (by simp [IsPlain]) htop hm⟩
  case splits => exact fun delimiter hascii => exists_splitTopLevel hs hascii
  case delimiter =>
    intro delimiter parts hd hsplit
    obtain ⟨pieces, rfl, rfl, hscan⟩ := exists_of_splitTopLevel hs hd hsplit
    refine ⟨?_, pieces, rfl, rfl, hscan⟩
    rw [← text_join, text_of_scan hs]
  case closing =>
    intro opening rest hdrop
    obtain ⟨front, mark, htop, rfl, rfl⟩ := exists_of_dropWhile hdrop
    obtain ⟨inner, after, heq, -, hinner, -⟩ := exists_callMarks htop hm
    have hrest : rest = inner.raise 1 ++ (')', ⟨0, false⟩) :: after :=
      (List.cons.inj (List.append_cancel_left heq)).2
    refine ⟨inner, after, hrest, ?_, ?_, scansAlone_of_marks hinner⟩
    · rw [hrest, cut?_eq_some rfl fun entry he => isTop_raise he, text_raise]
    · intro entry he
      obtain ⟨⟨c, mark⟩, -, rfl⟩ := List.mem_map.1 he
      exact Nat.le_add_left 1 mark.depth
  case arguments =>
    intro call hcall
    obtain ⟨front, inner, after, rfl, -, -, hinner, -, -, hargs⟩ := exists_of_splitCall hm hcall
    obtain ⟨pieces, htexts, hpieces, hscan⟩ := exists_of_splitArguments_eq hinner hargs
    exact ⟨front, inner, after, pieces, rfl, htexts, hpieces, hscan⟩

end Splits

/-- The texts that are read as expressions when a text is. -/
inductive ReadIn (text : List Char) : List Char → Prop
  | whole : ReadIn text text
  | part {piece part : List Char} : ReadIn text piece →
      part ∈ (Layer.of (Text.trim piece)).parts → ReadIn text part

theorem ReadIn.trans {text inner piece : List Char} (h : ReadIn text inner)
    (h' : ReadIn inner piece) : ReadIn text piece := by
  induction h' with
  | whole => exact h
  | part _ hp ih => exact ih.part hp

/-- Texts among which all their parts are again. -/
theorem ReadIn.mem_of_closed {text piece : List Char} {pieces : List (List Char)}
    (h : ReadIn text piece) (htext : text ∈ pieces)
    (hclosed : ∀ piece ∈ pieces, (Layer.of (Text.trim piece)).parts ⊆ pieces) : piece ∈ pieces := by
  induction h with
  | whole => exact htext
  | part _ hp ih => exact hclosed _ ih hp

/-- Whatever is scanned when a text is read as an expression scans, part by part as in the whole. -/
structure Rescans (text : List Char) : Prop where
  trimmed : ∃ marked, scan (Text.trim text) = .ok marked ∧ PartsAgree (Text.trim text) marked
  /-- operands, what options stand behind and arguments -/
  counts : ∀ part ∈ (Layer.of (Text.trim text)).parts, ∃ n, countPlaceholders part = .ok n
  settings : ∀ head settings, Layer.of (Text.trim text) = .overlay head settings →
    ∃ pieces, splitTopLevel '#' settings = .ok pieces
  arguments : ∀ marked opening rest interior after, scan (Text.trim text) = .ok marked →
    marked.dropWhile (!isTop '(' ·) = opening :: rest → cut? ')' rest = some (interior, after) →
    ∃ arguments, splitArguments interior = .ok arguments

section Rescans

variable {text piece : List Char} {marked whole : MarkedText}

theorem scan_of_readIn (hs : scan text = .ok whole) (h : ReadIn text piece) :
    ∃ marked, scan piece = .ok marked := by
  induction h with
  | whole => exact ⟨whole, hs⟩
  | part _ hp ih =>
    obtain ⟨marked, hs⟩ := ih
    exact (counts_trim hs).exists_scan _ hp

theorem exists_splitArguments {inner : MarkedText} (hm : Marks 0 false inner 0 false) :
    ∃ arguments, splitArguments inner.text = .ok arguments := by
  unfold splitArguments
  split
  · exact ⟨[], rfl⟩
  · exact exists_splitTopLevel (scan_eq_ok_iff.2 ⟨rfl, hm⟩) (by decide)

theorem rescans_of_scan (hs : scan text = .ok whole) : Rescans text := by
  obtain ⟨_, core, _, _, _, _, hcore⟩ := scan_trim hs
  constructor
  case trimmed => exact ⟨core, hcore, partsAgree_of_scan hcore⟩
  case counts =>
    intro part hp
    obtain ⟨marked, hmarked⟩ := (counts_trim hs).exists_scan part hp
    exact ⟨marked.placeholders, countPlaceholders_of_scan hmarked⟩
  case settings =>
    intro head settings hover
    have hcounts := counts_trim hs
    rw [hover] at hcounts
    obtain ⟨_, b, _, hb, _⟩ := hcounts
    exact exists_splitTopLevel hb (by decide)
  case arguments =>
    intro marked opening rest interior after hmarked hdrop hcut
    obtain ⟨inner, _, _, hclose, _, hinner⟩ :=
      (partsAgree_of_scan hmarked).closing opening rest hdrop
    rw [hclose] at hcut
    cases hcut
    exact exists_splitArguments (scan_eq_ok_iff.1 hinner.text_scans).2

/-- Scanning a part anew agrees with the first scan, for every text that scans and every part that
is cut from it; so after the first scan none fails, however deep the text is read. -/
theorem scan_parts (hs : scan text = .ok whole) :
    whole.ScansAlone ∧ PartsAgree text whole ∧ ∀ piece, ReadIn text piece → Rescans piece := by
  refine ⟨?_, partsAgree_of_scan hs, ?_⟩
  · exact scansAlone_of_marks (scan_eq_ok_iff.1 hs).2
  · intro piece h
    obtain ⟨marked, hmarked⟩ := scan_of_readIn hs h
    exact rescans_of_scan hmarked

/-- Quotes hide a parenthesis, a comma and a number sign; an operator splits after a call. -/
theorem scan_parts_call :
    ∃ whole, scan "MAX(A, \"),#(\") - (%d / 2) #nan: \"on\"".toList = .ok whole ∧
      whole.ScansAlone ∧ PartsAgree "MAX(A, \"),#(\") - (%d / 2) #nan: \"on\"".toList whole ∧
      ∀ piece, ReadIn "MAX(A, \"),#(\") - (%d / 2) #nan: \"on\"".toList piece → Rescans piece :=
  ⟨_, rfl, scan_parts rfl⟩

end Rescans

end TimeSeries
