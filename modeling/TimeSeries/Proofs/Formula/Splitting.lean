import TimeSeries.Proofs.Formula.Operators

set_option autoImplicit false

/-!
# The outermost operator

`OperatorSplit.last?` finds the last operator that stands on the top level and has a left operand.
The lemmas here say what it does over joined texts, at the operator that it finds, and when it finds
none.
-/
namespace TimeSeries.OperatorSplit

/-- Whether a marked character after the reversed text `before` splits the text. -/
def splitsAt (before : List Char) (entry : Char × Mark) : Bool :=
  (Operator.ofSymbol? entry.1).isSome && entry.2.isTopLevel && isBinary before entry.1

theorem last?_cons_eq_none_iff {before : List Char} {entry : Char × Mark} {rest : MarkedText} :
    last? before (entry :: rest) = none ↔
      splitsAt before entry = false ∧ last? (entry.1 :: before) rest = none := by
  obtain ⟨c, mark⟩ := entry
  rw [last?]
  cases hl : last? (c :: before) rest with
  | some split => simp
  | none =>
    cases ho : Operator.ofSymbol? c with
    | none => simp [splitsAt, ho]
    | some op => cases hm : mark.isTopLevel <;> simp [splitsAt, ho, hm]

theorem last?_append_eq_none_iff {before : List Char} {a b : MarkedText} :
    last? before (a ++ b) = none ↔
      last? before a = none ∧ last? (a.text.reverse ++ before) b = none := by
  induction a generalizing before with
  | nil => simp [last?]
  | cons entry rest ih =>
    rw [List.cons_append, last?_cons_eq_none_iff, last?_cons_eq_none_iff, ih, and_assoc]
    simp

theorem last?_eq_some_of_splitsAt {before : List Char} {a b : MarkedText} {mark : Mark}
    {op : Operator} (hs : splitsAt (a.text.reverse ++ before) (op.symbol, mark) = true)
    (hb : last? (op.symbol :: (a.text.reverse ++ before)) b = none) :
    last? before (a ++ (op.symbol, mark) :: b) =
      some ⟨op, before.reverse ++ a.text, b.text⟩ := by
  induction a generalizing before with
  | nil =>
    simp only [MarkedText.text_nil, List.reverse_nil, List.nil_append] at hs hb
    have htop : mark.isTopLevel = true ∧ isBinary before op.symbol = true := by
      simpa [splitsAt] using hs
    simp [last?, hb, htop.1, htop.2]
  | cons entry rest ih =>
    obtain ⟨c, m⟩ := entry
    simp only [MarkedText.text_cons, List.reverse_cons, List.append_assoc, List.cons_append,
      List.nil_append] at hs hb
    rw [List.cons_append, last?, ih hs hb]
    simp

theorem exists_of_last?_eq_some {before : List Char} {marked : MarkedText} {split : OperatorSplit}
    (h : last? before marked = some split) :
    ∃ (a b : MarkedText) (mark : Mark),
      marked = a ++ (split.operator.symbol, mark) :: b ∧
      split.left = before.reverse ++ a.text ∧ split.right = b.text ∧
      splitsAt (a.text.reverse ++ before) (split.operator.symbol, mark) = true ∧
      last? (split.operator.symbol :: (a.text.reverse ++ before)) b = none := by
  induction marked generalizing before with
  | nil => cases h
  | cons entry rest ih =>
    obtain ⟨c, mark⟩ := entry
    rw [last?] at h
    cases hl : last? (c :: before) rest with
    | some found =>
      rw [hl] at h
      cases h
      obtain ⟨a, b, m, rfl, hleft, hright, hs, hn⟩ := ih hl
      refine ⟨(c, mark) :: a, b, m, rfl, ?_, hright, ?_, ?_⟩
      · simp [hleft]
      · simpa using hs
      · simpa using hn
    | none =>
      rw [hl] at h
      cases ho : Operator.ofSymbol? c with
      | none => simp [ho] at h
      | some op =>
        obtain rfl := Operator.eq_symbol_of_ofSymbol? ho
        simp only [ho] at h
        split at h
        · rename_i hbin
          cases h
          refine ⟨[], rest, mark, rfl, by simp, rfl, ?_, hl⟩
          simpa [splitsAt] using hbin
        · cases h

theorem last?_eq_none_of_forall {before : List Char} {marked : MarkedText}
    (h : ∀ entry ∈ marked, (Operator.ofSymbol? entry.1).isSome = true →
      entry.2.isTopLevel = false) : last? before marked = none := by
  induction marked generalizing before with
  | nil => rfl
  | cons entry rest ih =>
    rw [last?_cons_eq_none_iff]
    refine ⟨?_, ih fun e he => h e (by simp [he])⟩
    have := h entry (by simp)
    cases ho : (Operator.ofSymbol? entry.1).isSome with
    | false => simp [splitsAt, ho]
    | true => simp [splitsAt, this ho]

theorem last?_eq_none_of_imp {before before' : List Char} {marked : MarkedText}
    (himp : ∀ (text : List Char) (c : Char), isBinary (text ++ before) c = false →
      isBinary (text ++ before') c = false)
    (h : last? before marked = none) : last? before' marked = none := by
  induction marked generalizing before before' with
  | nil => rfl
  | cons entry rest ih =>
    rw [last?_cons_eq_none_iff] at h ⊢
    refine ⟨?_, ih ?_ h.2⟩
    · have hs := h.1
      cases hm : (Operator.ofSymbol? entry.1).isSome && entry.2.isTopLevel with
      | false => simp [splitsAt, hm]
      | true =>
        have hbin : isBinary before entry.1 = false := by simpa [splitsAt, hm] using hs
        simpa [splitsAt, hm] using himp [] entry.1 hbin
    · intro text c hbin
      simpa using himp (text ++ [entry.1]) c (by simpa using hbin)

theorem last?_of_blanks {before : List Char} {marked : MarkedText}
    (h : Text.Blanks marked.text) : last? before marked = none := by
  apply last?_eq_none_of_forall
  intro entry he hs
  rw [Operator.ofSymbol?_of_isBlank (h entry.1 (List.mem_map_of_mem he))] at hs
  cases hs

theorem last?_between {pre core post : MarkedText} (hpre : Text.Blanks pre.text)
    (hpost : Text.Blanks post.text) :
    last? [] (pre ++ core ++ post) = (last? [] core).map fun split =>
      ⟨split.operator, pre.text ++ split.left, split.right ++ post.text⟩ := by
  have hquiet (text : List Char) (c : Char) :
      isBinary (text ++ pre.text.reverse) c = isBinary text c :=
    isBinary_append_blanks text hpre.reverse c
  have hpost' (before : List Char) : last? before post = none := last?_of_blanks hpost
  cases hl : last? [] core with
  | none =>
    have hcore : last? pre.text.reverse core = none := by
      refine @last?_eq_none_of_imp [] _ _ ?_ hl
      intro text c h
      rwa [hquiet, ← List.append_nil text]
    rw [Option.map_none, last?_append_eq_none_iff, last?_append_eq_none_iff, List.append_nil]
    exact ⟨⟨last?_of_blanks hpre, hcore⟩, hpost' _⟩
  | some split =>
    obtain ⟨a, b, mark, rfl, hleft, hright, hs, hn⟩ := exists_of_last?_eq_some hl
    simp only [List.append_nil] at hs hn
    have hs' : splitsAt ((pre ++ a).text.reverse ++ []) (split.operator.symbol, mark) = true := by
      rw [List.append_nil, MarkedText.text_append, List.reverse_append, splitsAt, hquiet]
      exact hs
    have hn' : last? (split.operator.symbol :: ((pre ++ a).text.reverse ++ [])) (b ++ post) =
        none := by
      rw [last?_append_eq_none_iff]
      refine ⟨last?_eq_none_of_imp ?_ hn, hpost' _⟩
      intro text c h
      rw [List.append_nil, MarkedText.text_append, List.reverse_append, ← List.cons_append,
        ← List.append_assoc, hquiet]
      exact h
    have hm : pre ++ (a ++ (split.operator.symbol, mark) :: b) ++ post =
        (pre ++ a) ++ (split.operator.symbol, mark) :: (b ++ post) := by simp
    rw [hm, last?_eq_some_of_splitsAt hs' hn']
    simp [hleft, hright]

end TimeSeries.OperatorSplit
