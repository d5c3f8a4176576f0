import TimeSeries.Formula.Error
import TimeSeries.Text.Utf8

set_option autoImplicit false

/-!
# Nesting

Formulas are not cut into tokens. `scan` marks every character of a text with its parenthesis depth
and with whether it stands between quotes; a text is then split at delimiters on the top level,
outside all parentheses and quotes. The marks of a parenthesis and of its partner are those of the
text around them. Offsets are counted in bytes.
-/
namespace TimeSeries

/-- Where a character stands: how many parentheses are open around it, and whether it is quoted. -/
structure Mark where
  depth : Nat
  quoted : Bool
  deriving DecidableEq, Repr

def Mark.isTopLevel (mark : Mark) : Bool := mark.depth == 0 && !mark.quoted

/-- Characters with their marks. -/
abbrev MarkedText := List (Char × Mark)

namespace MarkedText

def text (marked : MarkedText) : List Char := marked.map Prod.fst

/-- The marks of the bytes: each byte has the mark of its character. -/
def bytes (marked : MarkedText) : List (UInt8 × Mark) :=
  marked.flatMap fun (c, mark) => (String.utf8EncodeChar c).map fun byte => (byte, mark)

/-- Marks characters, from a depth and a quote state on; `none` when parentheses do not match. -/
def ofText? (level : Nat) (inside : Bool) : List Char → Option MarkedText
  | [] => if level = 0 then some [] else none
  | c :: rest =>
    if c = '"' then (ofText? level (!inside) rest).map ((c, ⟨level, true⟩) :: ·)
    else if inside then (ofText? level true rest).map ((c, ⟨level, true⟩) :: ·)
    else if c = '(' then (ofText? (level + 1) false rest).map ((c, ⟨level, false⟩) :: ·)
    else if c = ')' then
      match level with
      | 0 => none
      | outer + 1 => (ofText? outer false rest).map ((c, ⟨outer, false⟩) :: ·)
    else (ofText? level false rest).map ((c, ⟨level, false⟩) :: ·)

/-- Whether a marked character is `delimiter` on the top level. -/
def isTop (delimiter : Char) (marked : Char × Mark) : Bool :=
  marked.1 == delimiter && marked.2.isTopLevel

/-- The parts between top-level delimiters, with their blanks. -/
def split (delimiter : Char) (marked : MarkedText) : List (List Char) :=
  (marked.splitOnP (isTop delimiter)).map MarkedText.text

/-- The text before and after the first top-level delimiter. -/
def cut? (delimiter : Char) (marked : MarkedText) : Option (List Char × List Char) :=
  match marked.dropWhile (!isTop delimiter ·) with
  | [] => none
  | _ :: after => some (text (marked.takeWhile (!isTop delimiter ·)), text after)

/-- The offsets of the top-level bytes of this value. -/
def positions (byte : UInt8) (marked : MarkedText) : List Nat :=
  (marked.bytes.zipIdx.filter fun ((b, mark), _) => b == byte && mark.isTopLevel).map Prod.snd

/-- Whether a text goes on as a name or a call, so that what precedes it is no placeholder. -/
def continuesName : MarkedText → Bool
  | (c, _) :: _ => c.isAlphanum || c == '_' || c == '('
  | [] => false

/-- The number of placeholders `%d`: outside quotes and not the beginning of a name. -/
def placeholders : MarkedText → Nat
  | (c, mark) :: (d, mark') :: rest =>
    (if c = '%' ∧ d = 'd' ∧ !mark.quoted ∧ !continuesName rest then 1 else 0) +
      placeholders ((d, mark') :: rest)
  | _ => 0

end MarkedText

/-- Marks a text, whose quotes and parentheses must match. -/
def scan (text : List Char) : Except FormulaError MarkedText :=
  if text.count '"' % 2 = 1 then .error (.mismatchedQuote (String.ofList text))
  else
    match MarkedText.ofText? 0 false text with
    | some marked => .ok marked
    | none => .error (.mismatchedParen (String.ofList text))

/-- Scans a text and splits it at a delimiter, which must be ASCII. -/
def splitTopLevel (delimiter : Char) (text : List Char) : Except FormulaError (List (List Char)) :=
  (scan text).bind fun marked =>
    if delimiter.utf8Size = 1 then .ok (marked.split delimiter)
    else argumentError (.wideDelimiter delimiter)

/-- The number of tables that a text asks for. -/
def countPlaceholders (text : List Char) : Except FormulaError Nat :=
  (scan text).map MarkedText.placeholders

namespace MarkedText

theorem text_of_map_cons {entry : Char × Mark} {rest : List Char} {tail? : Option MarkedText}
    {marked : MarkedText} (h : tail?.map (entry :: ·) = some marked)
    (ih : ∀ tail, tail? = some tail → tail.text = rest) : marked.text = entry.1 :: rest := by
  obtain ⟨tail, ht, rfl⟩ := Option.map_eq_some_iff.1 h
  simpa [MarkedText.text] using ih tail ht

theorem text_of_ofText? {level : Nat} {inside : Bool} {text : List Char} {marked : MarkedText}
    (h : ofText? level inside text = some marked) : marked.text = text := by
  fun_induction ofText? level inside text generalizing marked with
  | case1 => cases h; rfl
  | case2 => cases h
  | case6 => cases h
  | case3 _ _ _ ih => exact text_of_map_cons h fun _ ht => ih ht
  | case4 _ _ _ _ ih => exact text_of_map_cons h fun _ ht => ih ht
  | case5 _ _ _ _ _ ih => exact text_of_map_cons h fun _ ht => ih ht
  | case7 _ _ _ _ _ _ ih => exact text_of_map_cons h fun _ ht => ih ht
  | case8 _ _ _ _ _ _ _ _ ih => exact text_of_map_cons h fun _ ht => ih ht

theorem length_text (marked : MarkedText) : marked.text.length = marked.length := by
  simp [MarkedText.text]

theorem length_le_of_mem_split {delimiter : Char} {marked : MarkedText} {part : List Char}
    (h : part ∈ marked.split delimiter) : part.length ≤ marked.length := by
  simp only [split, List.mem_map] at h
  obtain ⟨piece, hp, rfl⟩ := h
  rw [length_text]
  induction marked generalizing piece with
  | nil => simp_all
  | cons m rest ih =>
    rw [List.splitOnP_cons_eq_if_modifyHead] at hp
    split at hp
    · rcases List.mem_cons.1 hp with rfl | hp
      · simp
      · have := ih piece hp
        simp only [List.length_cons]
        omega
    · match hs : List.splitOnP (isTop delimiter) rest, hp with
      | [], hp => simp at hp
      | first :: others, hp =>
        simp only [List.modifyHead_cons, List.mem_cons] at hp
        rcases hp with rfl | hp
        · have := ih first (by simp [hs])
          simp only [List.length_cons]
          omega
        · have := ih piece (by simp [hs, hp])
          simp only [List.length_cons]
          omega

theorem cut?_length {delimiter : Char} {marked : MarkedText} {before after : List Char}
    (h : marked.cut? delimiter = some (before, after)) :
    before.length < marked.length ∧ after.length < marked.length := by
  simp only [cut?] at h
  split at h
  · simp at h
  · rename_i m rest hd
    simp only [Option.some.injEq, Prod.mk.injEq] at h
    obtain ⟨rfl, rfl⟩ := h
    have hlen := congrArg List.length
      (List.takeWhile_append_dropWhile (p := (!isTop delimiter ·)) (l := marked))
    rw [hd] at hlen
    simp only [List.length_append, List.length_cons] at hlen
    rw [length_text, length_text]
    omega

end MarkedText

theorem text_of_scan {text : List Char} {marked : MarkedText} (h : scan text = .ok marked) :
    marked.text = text := by
  unfold scan at h
  split at h
  · simp at h
  · split at h
    · rename_i found
      cases h
      exact MarkedText.text_of_ofText? found
    · simp at h

theorem length_of_scan {text : List Char} {marked : MarkedText} (h : scan text = .ok marked) :
    marked.length = text.length := by
  rw [← MarkedText.length_text, text_of_scan h]

theorem length_le_of_mem_splitTopLevel {delimiter : Char} {text : List Char}
    {parts : List (List Char)} (h : splitTopLevel delimiter text = .ok parts) {part : List Char}
    (hp : part ∈ parts) : part.length ≤ text.length := by
  simp only [splitTopLevel, Except.bind] at h
  split at h
  · simp at h
  · rename_i marked hm
    split at h
    · simp only [Except.ok.injEq] at h
      subst h
      rw [← length_of_scan hm]
      exact MarkedText.length_le_of_mem_split hp
    · simp [argumentError] at h

end TimeSeries
