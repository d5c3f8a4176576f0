import TimeSeries.Proofs.Formula.Memory
import TimeSeries.Proofs.Formula.Parsing

set_option autoImplicit false

/-!
# Grouping from left to right

A text is cut at every operator that has a left operand, all decided on the whole text. No piece
splits any further, and the value of the text is the left fold of the operators over the values of
the pieces, where every piece gets the next tables, as many as it has placeholders.
-/
namespace TimeSeries

/-- Whether the character at a position is a top-level operator with a left operand, in a marked
text that follows the reversed text `before`. -/
def OperatorSplit.splitsAtPosition (before : List Char) (marked : MarkedText) (i : Nat) : Bool :=
  marked[i]?.any (splitsAt ((marked.text.take i).reverse ++ before))

theorem OperatorSplit.splitsAtPosition_zero (before : List Char) (entry : Char × Mark)
    (rest : MarkedText) :
    splitsAtPosition before (entry :: rest) 0 = splitsAt before entry := by
  simp [splitsAtPosition]

theorem OperatorSplit.splitsAtPosition_succ (before : List Char) (entry : Char × Mark)
    (rest : MarkedText) (i : Nat) :
    splitsAtPosition before (entry :: rest) (i + 1) =
      splitsAtPosition (entry.1 :: before) rest i := by
  simp [splitsAtPosition]

/-- The positions of the top-level operators with a left operand, counted in characters. -/
def binaryPositions (marked : MarkedText) : List Nat :=
  (List.range marked.length).filter (OperatorSplit.splitsAtPosition [] marked)

/-- A text cut at operators: the piece in front, then every operator with the piece behind it. -/
structure OperatorChain where
  first : List Char
  others : List (Operator × List Char)

namespace OperatorChain

/-- The cuts of a marked text that follows the reversed text `before`. -/
def of (before : List Char) : MarkedText → OperatorChain
  | [] => ⟨[], []⟩
  | (c, mark) :: rest =>
    let chain := of (c :: before) rest
    match Operator.ofSymbol? c with
    | some op =>
      if mark.isTopLevel && OperatorSplit.isBinary before c then
        ⟨[], (op, chain.first) :: chain.others⟩
      else ⟨c :: chain.first, chain.others⟩
    | none => ⟨c :: chain.first, chain.others⟩

def pieces (chain : OperatorChain) : List (List Char) := chain.first :: chain.others.map Prod.snd

/-- The pieces joined by their operators. -/
def text (chain : OperatorChain) : List Char :=
  chain.first ++ chain.others.flatMap fun (op, piece) => op.symbol :: piece

/-- The positions of operators behind a piece that begins at `start`. -/
def positionsFrom (start : Nat) (piece : List Char) : List (Operator × List Char) → List Nat
  | [] => []
  | (_, next) :: rest =>
    (start + piece.length) :: positionsFrom (start + piece.length + 1) next rest

def positions (chain : OperatorChain) : List Nat := positionsFrom 0 chain.first chain.others

def snoc (chain : OperatorChain) (op : Operator) (piece : List Char) : OperatorChain :=
  ⟨chain.first, chain.others ++ [(op, piece)]⟩

theorem pieces_snoc (chain : OperatorChain) (op : Operator) (piece : List Char) :
    (chain.snoc op piece).pieces = chain.pieces ++ [piece] := by
  simp [pieces, snoc]

theorem of_cons_of_splitsAt {before : List Char} {op : Operator} {mark : Mark} {rest : MarkedText}
    (h : OperatorSplit.splitsAt before (op.symbol, mark) = true) :
    of before ((op.symbol, mark) :: rest) =
      ⟨[], (op, (of (op.symbol :: before) rest).first) :: (of (op.symbol :: before) rest).others⟩ := by
  have htop : mark.isTopLevel = true ∧ OperatorSplit.isBinary before op.symbol = true := by
    simpa [OperatorSplit.splitsAt] using h
  simp [of, htop.1, htop.2]

theorem of_cons_of_not_splitsAt {before : List Char} {entry : Char × Mark} {rest : MarkedText}
    (h : OperatorSplit.splitsAt before entry = false) :
    of before (entry :: rest) =
      ⟨entry.1 :: (of (entry.1 :: before) rest).first, (of (entry.1 :: before) rest).others⟩ := by
  obtain ⟨c, mark⟩ := entry
  rw [of]
  cases ho : Operator.ofSymbol? c with
  | none => rfl
  | some op =>
    have hb : (mark.isTopLevel && OperatorSplit.isBinary before c) = false := by
      simpa [OperatorSplit.splitsAt, ho] using h
    simp [hb]

theorem of_cons_cases (before : List Char) (entry : Char × Mark) (rest : MarkedText) :
    (∃ op mark, entry = (op.symbol, mark) ∧
      OperatorSplit.splitsAt before entry = true ∧
      of before (entry :: rest) =
        ⟨[], (op, (of (entry.1 :: before) rest).first) :: (of (entry.1 :: before) rest).others⟩) ∨
    (OperatorSplit.splitsAt before entry = false ∧
      of before (entry :: rest) =
        ⟨entry.1 :: (of (entry.1 :: before) rest).first, (of (entry.1 :: before) rest).others⟩) := by
  cases h : OperatorSplit.splitsAt before entry with
  | false => exact .inr ⟨rfl, of_cons_of_not_splitsAt h⟩
  | true =>
    obtain ⟨c, mark⟩ := entry
    cases ho : Operator.ofSymbol? c with
    | none => simp [OperatorSplit.splitsAt, ho] at h
    | some op =>
      obtain rfl := Operator.eq_symbol_of_ofSymbol? ho
      exact .inl ⟨op, mark, rfl, rfl, of_cons_of_splitsAt h⟩

theorem text_of (before : List Char) (marked : MarkedText) :
    (of before marked).text = marked.text := by
  induction marked generalizing before with
  | nil => rfl
  | cons entry rest ih =>
    have hrest := ih (entry.1 :: before)
    simp only [text] at hrest ⊢
    rcases of_cons_cases before entry rest with ⟨op, mark, rfl, -, hof⟩ | ⟨-, hof⟩
    · rw [hof, MarkedText.text_cons, ← hrest]
      rfl
    · rw [hof, MarkedText.text_cons, ← hrest]
      rfl

theorem positionsFrom_succ (start : Nat) (piece : List Char) (others : List (Operator × List Char)) :
    positionsFrom (start + 1) piece others = (positionsFrom start piece others).map (· + 1) := by
  induction others generalizing start piece with
  | nil => rfl
  | cons part rest ih =>
    obtain ⟨op, next⟩ := part
    have h := ih (start + piece.length + 1) next
    rw [positionsFrom, positionsFrom, List.map_cons, ← h]
    congr 1
    · omega
    · congr 1
      omega

/-- The cuts are at the operators that have a left operand, and nowhere else. -/
theorem positions_of (before : List Char) (marked : MarkedText) :
    (of before marked).positions =
      (List.range marked.length).filter (OperatorSplit.splitsAtPosition before marked) := by
  induction marked generalizing before with
  | nil => rfl
  | cons entry rest ih =>
    have htail : ((List.range rest.length).map Nat.succ).filter
        (OperatorSplit.splitsAtPosition before (entry :: rest)) =
        (of (entry.1 :: before) rest).positions.map (· + 1) := by
      rw [ih, List.filter_map]
      congr 2
      funext i
      exact OperatorSplit.splitsAtPosition_succ before entry rest i
    rw [List.length_cons, List.range_succ_eq_map, List.filter_cons, htail,
      OperatorSplit.splitsAtPosition_zero]
    rcases of_cons_cases before entry rest with ⟨op, mark, rfl, hat, hof⟩ | ⟨hat, hof⟩
    · rw [hof, hat, if_pos rfl]
      simp only [positions, positionsFrom, List.length_nil, Nat.add_zero]
      rw [positionsFrom_succ]
    · rw [hof, hat, if_neg (by simp)]
      simp only [positions]
      rw [← positionsFrom_succ]
      cases (of (entry.1 :: before) rest).others with
      | nil => rfl
      | cons part rest =>
        simp only [positionsFrom, List.length_cons]
        congr 1
        · omega
        · congr 1
          omega

theorem of_eq_single {before : List Char} {marked : MarkedText}
    (h : OperatorSplit.last? before marked = none) : of before marked = ⟨marked.text, []⟩ := by
  induction marked generalizing before with
  | nil => rfl
  | cons entry rest ih =>
    rw [OperatorSplit.last?_cons_eq_none_iff] at h
    rw [of_cons_of_not_splitsAt h.1, ih h.2, MarkedText.text_cons]

/-- The outermost operator is the last one of the chain. -/
theorem of_eq_snoc {before : List Char} {a b : MarkedText} {op : Operator} {mark : Mark}
    (hat : OperatorSplit.splitsAt (a.text.reverse ++ before) (op.symbol, mark) = true)
    (hn : OperatorSplit.last? (op.symbol :: (a.text.reverse ++ before)) b = none) :
    of before (a ++ (op.symbol, mark) :: b) = (of before a).snoc op b.text := by
  induction a generalizing before with
  | nil =>
    simp only [MarkedText.text_nil, List.reverse_nil, List.nil_append] at hat hn
    rw [List.nil_append, of_cons_of_splitsAt hat, of_eq_single hn]
    rfl
  | cons entry rest ih =>
    simp only [MarkedText.text_cons, List.reverse_cons, List.append_assoc, List.cons_append,
      List.nil_append] at hat hn
    have hrest := ih hat hn
    rw [List.cons_append]
    rcases of_cons_cases before entry rest with ⟨op', mark', rfl, h, hof⟩ | ⟨h, hof⟩
    · rw [of_cons_of_splitsAt h, hrest, hof]
      rfl
    · rw [of_cons_of_not_splitsAt h, hrest, hof]
      rfl

end OperatorChain

namespace Supply

theorem take_length (supply : Supply) : supply.take supply.tables.length = supply := by
  simp [take]

theorem take_take_add (supply : Supply) (k n : Nat) :
    (supply.take (k + n)).take k = supply.take k := by
  simp [take, List.take_take]

theorem drop_take_add (supply : Supply) (k n : Nat) :
    (supply.take (k + n)).drop k = (supply.drop k).take n := by
  simp only [take, drop, List.drop_take, List.length_take, Nat.add_sub_cancel_left, mk.injEq,
    true_and]
  omega

theorem drop_drop (supply : Supply) (k n : Nat) :
    (supply.drop k).drop n = supply.drop (k + n) := by
  simp only [drop, List.drop_drop, List.length_drop, mk.injEq, true_and]
  omega

end Supply

namespace Interpreter

/-- One step of the fold: the next piece is evaluated with the next tables, as many as it has
placeholders, and is combined with what was computed so far, on the right of it. -/
def foldPiece (interpreter : Interpreter) (context : Context) (state : Evaluation × Supply)
    (part : Operator × List Char) : Except FormulaError (Evaluation × Supply) := do
  let n ← countPlaceholders part.2
  let right ← interpreter.evalExpr context (state.2.take n) (Expr.parse part.2)
  let value ← combine part.1 context.fillMissing state.1.value right.value
  return (⟨value, .node part.1.name [state.1.provenance, right.provenance]⟩, state.2.drop n)

/-- The left fold over a chain, up to the first error; also the tables that are left over. -/
def foldChain (interpreter : Interpreter) (context : Context) (supply : Supply)
    (chain : OperatorChain) : Except FormulaError (Evaluation × Supply) := do
  let n ← countPlaceholders chain.first
  let first ← interpreter.evalExpr context (supply.take n) (Expr.parse chain.first)
  chain.others.foldlM (interpreter.foldPiece context) (first, supply.drop n)

theorem foldChain_snoc (interpreter : Interpreter) (context : Context) (supply : Supply)
    (chain : OperatorChain) (op : Operator) (piece : List Char) :
    interpreter.foldChain context supply (chain.snoc op piece) =
      interpreter.foldChain context supply chain >>= fun state =>
        interpreter.foldPiece context state (op, piece) := by
  simp only [foldChain, OperatorChain.snoc, List.foldlM_append, List.foldlM_cons, List.foldlM_nil,
    bind_pure, bind_assoc]

/-- The fold computes the value of the text, with the tables that are the text's. -/
theorem foldChain_of (interpreter : Interpreter) (context : Context) (supply : Supply)
    {text : List Char} {marked : MarkedText} (hs : scan text = .ok marked) :
    interpreter.foldChain context supply (.of [] marked) =
      (interpreter.evalExpr context (supply.take marked.placeholders) (Expr.parse text)).map
        fun value => (value, supply.drop marked.placeholders) := by
  induction hlen : marked.length using Nat.strongRecOn generalizing text marked supply with
  | ind length ih =>
    cases hsplit : splitOperator marked with
    | none =>
      rw [OperatorChain.of_eq_single hsplit, text_of_scan hs]
      simp only [foldChain, countPlaceholders_of_scan hs, List.foldlM_nil]
      rfl
    | some split =>
      obtain ⟨a, b, mark, rfl, hat, hn, hleft, hright, ha, hb, hquiet⟩ :=
        OperatorSplit.exists_of_splitOperator hs hsplit
      have hla : scan split.left = .ok a := by rwa [hleft]
      rw [← List.append_nil a.text.reverse] at hat hn
      rw [OperatorChain.of_eq_snoc hat hn, foldChain_snoc,
        ih a.length (by simp at hlen; omega) supply ha rfl,
        Expr.parse_of_splitOperator hs hsplit hla, hleft, hright,
        MarkedText.placeholders_operation, evalExpr, Supply.take_take_add, Supply.drop_take_add]
      cases hl : interpreter.evalExpr context (supply.take a.placeholders) (Expr.parse a.text) with
      | error e => rfl
      | ok left =>
        simp only [Except.map, Except.bind, foldPiece, operate_eq_bind, countPlaceholders_of_scan hb,
          bind, pure, Except.pure]
        cases hr : interpreter.evalExpr context
            ((supply.drop a.placeholders).take b.placeholders) (Expr.parse b.text) with
        | error e => rfl
        | ok right =>
          dsimp only
          cases combine split.operator context.fillMissing left.value right.value with
          | error e => rfl
          | ok value => rw [Supply.drop_drop]

end Interpreter

theorem OperatorChain.pieces_of {text : List Char} {marked : MarkedText}
    (hs : scan text = .ok marked) :
    ∃ counts : List Nat,
      (OperatorChain.of [] marked).pieces.mapM countPlaceholders = .ok counts ∧
      counts.sum = marked.placeholders ∧
      ∀ piece ∈ (OperatorChain.of [] marked).pieces, ∃ core,
        scan (Text.trim piece) = .ok core ∧ splitOperator core = none := by
  induction hlen : marked.length using Nat.strongRecOn generalizing text marked with
  | ind length ih =>
    cases hsplit : splitOperator marked with
    | none =>
      rw [OperatorChain.of_eq_single hsplit, text_of_scan hs]
      refine ⟨[marked.placeholders], ?_, by simp, ?_⟩
      · simp only [OperatorChain.pieces, List.map_nil, List.mapM_cons, List.mapM_nil,
          countPlaceholders_of_scan hs]
        rfl
      · intro piece hp
        obtain rfl : piece = text := by simpa [OperatorChain.pieces] using hp
        exact OperatorSplit.splitOperator_trim hs hsplit
    | some split =>
      obtain ⟨a, b, mark, rfl, hat, hn, hleft, hright, ha, hb, hquiet⟩ :=
        OperatorSplit.exists_of_splitOperator hs hsplit
      obtain ⟨counts, hcounts, hsum, hall⟩ := ih a.length (by simp at hlen; omega) ha rfl
      rw [← List.append_nil a.text.reverse] at hat hn
      rw [OperatorChain.of_eq_snoc hat hn, OperatorChain.pieces_snoc]
      refine ⟨counts ++ [b.placeholders], ?_, ?_, ?_⟩
      · rw [List.mapM_append, hcounts]
        simp only [List.mapM_cons, List.mapM_nil, countPlaceholders_of_scan hb]
        rfl
      · rw [MarkedText.placeholders_operation, List.sum_append, hsum]
        simp
      · intro piece hp
        rcases List.mem_append.1 hp with hp | hp
        · exact hall piece hp
        · obtain rfl := List.mem_singleton.1 hp
          exact OperatorSplit.splitOperator_trim hb hquiet

/-- A text that scans is cut exactly at the top-level operators that have a left operand, no piece
splits any further, and the value of the text is the left fold over the pieces, each with the next
tables, as many as it has placeholders. -/
theorem eval_eq_foldChain (interpreter : Interpreter) (context : Context) (supply : Supply)
    {text : List Char} {whole : MarkedText} (hs : scan text = .ok whole)
    (htables : countPlaceholders text = .ok supply.tables.length) :
    ∃ marked, scan (Text.trim text) = .ok marked ∧
      (OperatorChain.of [] marked).positions = binaryPositions marked ∧
      (OperatorChain.of [] marked).text = Text.trim text ∧
      (∀ piece ∈ (OperatorChain.of [] marked).pieces, ∃ core,
        scan (Text.trim piece) = .ok core ∧ splitOperator core = none) ∧
      (∃ counts : List Nat,
        (OperatorChain.of [] marked).pieces.mapM countPlaceholders = .ok counts ∧
          counts.sum = supply.tables.length) ∧
      interpreter.evalExpr context supply (Expr.parse text) =
        (interpreter.foldChain context supply (.of [] marked)).map Prod.fst := by
  obtain ⟨pre, marked, post, rfl, hpre, hpost, hcore⟩ := scan_trim hs
  rw [countPlaceholders_of_scan hs, MarkedText.placeholders_between hpre hpost,
    Except.ok.injEq] at htables
  obtain ⟨counts, hcounts, hsum, hquiet⟩ := OperatorChain.pieces_of hcore
  refine ⟨marked, hcore, OperatorChain.positions_of [] marked, ?_, hquiet,
    ⟨counts, hcounts, hsum.trans htables⟩, ?_⟩
  · rw [OperatorChain.text_of, text_of_scan hcore]
  · rw [interpreter.foldChain_of context supply hcore, htables, Supply.take_length,
      ← Expr.parse_congr (Text.trim_trim text).symm]
    cases interpreter.evalExpr context supply (Expr.parse text) <;> rfl

/-- Signs of operands and of exponents are no cuts, and the product is taken of the difference. -/
theorem eval_eq_foldChain_signs :
    ∃ whole marked, scan " 2-%d*-3e-1 ".toList = .ok whole ∧
      countPlaceholders " 2-%d*-3e-1 ".toList = .ok 1 ∧
      scan "2-%d*-3e-1".toList = .ok marked ∧ binaryPositions marked = [1, 4] ∧
      (OperatorChain.of [] marked).pieces = ["2".toList, "%d".toList, "-3e-1".toList] ∧
      Interpreter.evalExpr ⟨.standard, .empty⟩ .default ⟨[monthly (some 1) none], 0⟩
          (Expr.parse " 2-%d*-3e-1 ".toList) =
        (Interpreter.foldChain ⟨.standard, .empty⟩ .default ⟨[monthly (some 1) none], 0⟩
          (.of [] marked)).map Prod.fst ∧
      (Interpreter.foldChain ⟨.standard, .empty⟩ .default ⟨[monthly (some 1) none], 0⟩
          (.of [] marked)).map Prod.fst =
        .ok ⟨.series (monthlyAs "VALUE" (some (-0.3)) none),
          .node "multiplication" [.node "subtraction" [.leaf "2" none "number",
            .leaf "input[0]" none "input"], .leaf "-3e-1" none "number"]⟩ := by
  have hwhole : ∃ whole, scan " 2-%d*-3e-1 ".toList = .ok whole := ⟨_, rfl⟩
  obtain ⟨whole, hwhole⟩ := hwhole
  have hcount : countPlaceholders " 2-%d*-3e-1 ".toList =
      .ok (Supply.mk [monthly (some 1) none] 0).tables.length := rfl
  obtain ⟨marked, hmarked, -, -, -, -, hfold⟩ :=
    eval_eq_foldChain ⟨.standard, .empty⟩ .default ⟨[monthly (some 1) none], 0⟩ hwhole hcount
  have hcut : ∃ core, scan "2-%d*-3e-1".toList = .ok core ∧ binaryPositions core = [1, 4] ∧
      (OperatorChain.of [] core).pieces = ["2".toList, "%d".toList, "-3e-1".toList] :=
    ⟨_, rfl, rfl, rfl⟩
  obtain ⟨core, hcore, hpositions, hpieces⟩ := hcut
  obtain rfl : core = marked := Except.ok.inj (hcore.symm.trans hmarked)
  have hvalue : Interpreter.evalExpr ⟨.standard, .empty⟩ .default ⟨[monthly (some 1) none], 0⟩
      (Expr.parse " 2-%d*-3e-1 ".toList) =
        .ok ⟨.series (monthlyAs "VALUE" (some (-0.3)) none),
          .node "multiplication" [.node "subtraction" [.leaf "2" none "number",
            .leaf "input[0]" none "input"], .leaf "-3e-1" none "number"]⟩ :=
    Interpreter.evalExpr_of_parseTo 3 rfl
  exact ⟨whole, core, hwhole, hcount, hcore, hpositions, hpieces, hfold, hfold.symm.trans hvalue⟩

end TimeSeries
