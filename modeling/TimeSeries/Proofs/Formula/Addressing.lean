import TimeSeries.Proofs.Formula.Memory
import TimeSeries.Proofs.Formula.Plain
import TimeSeries.Proofs.Formula.Reading
import TimeSeries.Proofs.Formula.Registering
import TimeSeries.Proofs.Formula.WholeCharacters
import TimeSeries.Proofs.Table.Names

set_option autoImplicit false

/-!
# Sources behind an at sign

A formula that is the name of a series, an at sign and a registered identifier fetches the series
from the source of the identifier, if the identifier is whole: if the syntax of formulas does not cut
it. Registration accepts identifiers that are not whole, among them those with operators. With some
of them the program stops while it looks for operators.
-/
namespace TimeSeries

open MarkedText OperatorSplit

/-- The name of a series and the identifier of a source with an at sign between. -/
def address (name : Word) (id : String) : String := String.ofList (name.text ++ '@' :: id.toList)

/-- Behind an at sign nothing cuts the identifier: its quotes and parentheses match, no sign of it is
looked for inside a character, it has no operator with a left operand, no number sign and no
parenthesis on the top level, it does not end with a quote, and it has no at sign anywhere. -/
structure IsWhole (id : List Char) : Prop where
  exists_marks : ∃ marked, scan id = .ok marked ∧ breaksOff ['@'] marked = false ∧
    last? ['@'] marked = none ∧ (∀ entry ∈ marked, isTop '#' entry = false) ∧
    ∀ entry ∈ marked, isTop '(' entry = false
  not_quote : id.getLast? ≠ some '"'
  not_mem_at : '@' ∉ id

/-! ## Marks behind an at sign -/

theorem isExponentSign_at (text before : List Char) (c : Char) :
    isExponentSign (text ++ '@' :: before) c = isExponentSign (text ++ ['@']) c := by
  cases text with
  | nil => simp [isExponentSign]
  | cons e mantissa =>
    have hfresh (rest : List Char) : Fresh ('@' :: rest) := fresh_cons (by decide) rest
    rw [isExponentSign_append (List.cons_ne_nil e mantissa) (hfresh before),
      isExponentSign_append (List.cons_ne_nil e mantissa) (hfresh [])]

theorem exists_previous (text : List Char) : ∃ previous, ∀ before, ∃ rest,
    (text ++ '@' :: before).dropWhile Text.isBlank = previous :: rest := by
  cases hd : text.dropWhile Text.isBlank with
  | nil =>
    refine ⟨'@', fun before => ⟨before, ?_⟩⟩
    rw [List.dropWhile_append_of_pos (List.dropWhile_eq_nil_iff.1 hd)]
    exact List.dropWhile_cons_of_neg (by decide)
  | cons previous rest =>
    refine ⟨previous, fun before => ⟨rest ++ '@' :: before, ?_⟩⟩
    rw [List.dropWhile_append, hd]
    rfl

theorem isBinary_at (text before : List Char) (c : Char) :
    isBinary (text ++ '@' :: before) c = isBinary (text ++ ['@']) c := by
  obtain ⟨previous, hprevious⟩ := exists_previous text
  obtain ⟨rest, hrest⟩ := hprevious before
  obtain ⟨rest', hrest'⟩ := hprevious []
  rw [isBinary, isBinary, hrest, hrest', isExponentSign_at]

theorem last?_at_iff (before : List Char) (marked : MarkedText) :
    last? ('@' :: before) marked = none ↔ last? ['@'] marked = none := by
  constructor
  · intro h
    refine last?_eq_none_of_imp (fun text c hbinary => ?_) h
    rwa [← isBinary_at text before]
  · intro h
    refine last?_eq_none_of_imp (fun text c hbinary => ?_) h
    rwa [isBinary_at text before]

theorem cutsCharacter_at (text before : List Char) (c : Char) :
    cutsCharacter (text ++ '@' :: before) c = cutsCharacter (text ++ ['@']) c := by
  cases text with
  | nil => simp [cutsCharacter]
  | cons e mantissa =>
    rw [List.cons_append, List.cons_append, cutsCharacter, cutsCharacter, List.dropWhile_append,
      List.dropWhile_append, List.dropWhile_cons_of_neg (by decide),
      List.dropWhile_cons_of_neg (by decide)]
    cases mantissa.dropWhile isMantissa with
    | nil => rfl
    | cons d rest => rfl

theorem breaksOff_at (before : List Char) (marked : MarkedText) :
    breaksOff ('@' :: before) marked = breaksOff ['@'] marked := by
  refine breaksOff_congr fun text c => ?_
  rw [cutsCharacter_at text before]

section Address

variable {name : Word} {id : String} {marked : MarkedText}

theorem toList_address (name : Word) (id : String) :
    (address name id).toList = (name.text ++ ['@']) ++ id.toList := by
  rw [address, String.toList_ofList, List.append_assoc]
  rfl

def addressFront (name : Word) : MarkedText := (name.text ++ ['@']).map (·, ⟨0, false⟩)

theorem quiet_addressFront (name : Word) : Quiet (addressFront name) := by
  refine quiet_plain fun c hc => ?_
  rcases List.mem_append.1 hc with hc | hc
  · exact isQuiet_of_isAlphanum (name.isAlphanum c hc)
  · rw [List.mem_singleton.1 hc]
    simp [IsQuiet]

theorem scan_address {whole : MarkedText} : scan (address name id).toList = .ok whole ↔
    ∃ marked, scan id.toList = .ok marked ∧ whole = addressFront name ++ marked := by
  rw [toList_address]
  refine scan_plain_append fun c hc => ?_
  have hquiet := (quiet_addressFront name).isQuiet (c, ⟨0, false⟩) (List.mem_map_of_mem hc) rfl
  refine ⟨?_, ?_, ?_⟩ <;>
  · rintro rfl
    exact hquiet (by simp)

theorem splitOperator_address : splitOperator (addressFront name ++ marked) = none ↔
    last? ['@'] marked = none := by
  have hfront : (addressFront name).text.reverse ++ [] = '@' :: name.text.reverse := by
    simp [addressFront]
  rw [splitOperator, last?_append_eq_none_iff, hfront, last?_at_iff]
  exact and_iff_right ((quiet_addressFront name).calm.last? [])

theorem breaksOff_address : breaksOff [] (addressFront name ++ marked) = breaksOff ['@'] marked := by
  have hfront : (addressFront name).text.reverse ++ [] = '@' :: name.text.reverse := by
    simp [addressFront]
  have hquiet := quiet_addressFront name
  have hnone : breaksOff [] (addressFront name) = false := by
    refine breaksOff_of_unsigned ⟨?_, ?_⟩ [] <;>
    · intro hmem
      obtain ⟨entry, he, hsign⟩ := List.mem_map.1 hmem
      obtain ⟨c, hc, rfl⟩ := List.mem_map.1 he
      have hnot := hquiet.isQuiet _ he rfl
      rw [hsign] at hnot
      exact absurd hnot (by simp [IsQuiet])
  rw [breaksOff_append, hnone, hfront, breaksOff_at, Bool.false_or]

theorem breaksOff_scan_address {whole : MarkedText} (hs : scan (address name id).toList = .ok whole) :
    ∃ marked, scan id.toList = .ok marked ∧ breaksOff [] whole = breaksOff ['@'] marked := by
  obtain ⟨marked, hmarked, rfl⟩ := scan_address.1 hs
  exact ⟨marked, hmarked, breaksOff_address⟩

theorem isTop_address {delimiter : Char} (h : ∀ entry ∈ addressFront name, isTop delimiter entry = false) :
    (∀ entry ∈ addressFront name ++ marked, isTop delimiter entry = false) ↔
      ∀ entry ∈ marked, isTop delimiter entry = false := by
  constructor
  · intro hall entry he
    exact hall entry (List.mem_append_right _ he)
  · intro hmarked entry he
    rcases List.mem_append.1 he with he | he
    · exact h entry he
    · exact hmarked entry he

/-! ## What an address is read as -/

theorem head?_address (name : Word) (id : String) :
    (address name id).toList = name.first :: (name.others ++ ['@'] ++ id.toList) := by
  rw [toList_address]
  rfl

theorem getLast?_address (hne : id ≠ "") :
    (address name id).toList.getLast? = id.toList.getLast? := by
  have hlist : id.toList ≠ [] := by simpa using hne
  rw [toList_address, List.getLast?_append_of_ne_nil _ hlist]

theorem trim_address (hne : id ≠ "") (hsolid : Text.HasSolidEnds id.toList) :
    Text.trim (address name id).toList = (address name id).toList := by
  apply Text.trim_eq_self
  constructor
  · intro c hc
    rw [head?_address] at hc
    cases hc
    exact name.isBlank_first
  · intro c hc
    rw [getLast?_address hne] at hc
    exact hsolid.2 c hc

theorem unquote_address (hne : id ≠ "") (hsolid : Text.HasSolidEnds id.toList) :
    unquote (address name id).toList =
      if id.toList.getLast? = some '"' then .error (.mismatchedQuote (address name id))
      else .ok none := by
  have hopens : ((address name id).toList.head? == some '"') = false := by
    have hfirst : name.first ≠ '"' :=
      Text.ne_of_isAlphanum (Text.isAlphanum_of_isAlpha name.first_isAlpha) (by decide)
    rw [head?_address, List.head?_cons]
    simpa using hfirst
  unfold unquote
  dsimp only
  rw [trim_address hne hsolid, getLast?_address hne, hopens, String.ofList_toList]
  by_cases hlast : id.toList.getLast? = some '"'
  · simp [hlast]
  · simp [hlast]

theorem splitOnP_address (name : Word) (id : String) :
    (address name id).toList.splitOnP (· == '@') =
      name.text :: id.toList.splitOnP (· == '@') := by
  have hname : ∀ c ∈ name.text, (c == '@') = false := by
    intro c hc
    simpa using Text.ne_of_isAlphanum (name.isAlphanum c hc) (by decide)
  rw [address, String.toList_ofList,
    List.splitOnP_append_cons_of_forall_mem hname _ (by simp)]

theorem ofReference_address (hsolid : Text.HasSolidEnds id.toList) (hat : '@' ∉ id.toList) :
    Expr.ofReference (address name id).toList =
      .reference (address name id).toList name.text (some id.toList) := by
  unfold Expr.ofReference
  rw [splitOnP_address, List.splitOnP_eq_singleton (Expr.at_ne_of_not_mem hat)]
  dsimp only
  rw [name.trim_text, Text.trim_eq_self hsolid]

theorem not_mem_at_of_ofReference {text series : List Char} {source : Option (List Char)}
    (h : Expr.ofReference (address name id).toList = .reference text series source) :
    '@' ∉ id.toList := by
  intro hat
  obtain ⟨front, back, hid, hfront⟩ := List.eq_append_cons_of_mem hat
  unfold Expr.ofReference at h
  rw [splitOnP_address, hid,
    List.splitOnP_append_cons_of_forall_mem (Expr.at_ne_of_not_mem hfront) _ (by simp)] at h
  cases hback : back.splitOnP (· == '@') with
  | nil => exact List.splitOnP_ne_nil _ _ hback
  | cons part parts =>
    rw [hback] at h
    cases h

theorem ofLeaf_address (hne : id ≠ "") (hsolid : Text.HasSolidEnds id.toList)
    {text series : List Char} {source : Option (List Char)} :
    Expr.ofLeaf (address name id).toList = .reference text series source ↔
      id.toList.getLast? ≠ some '"' ∧
        Expr.ofReference (address name id).toList = .reference text series source := by
  have htable : (address name id).toList ≠ ['%', 'd'] := by
    rw [head?_address]
    intro heq
    have halpha := name.first_isAlpha
    rw [(List.cons.inj heq).1] at halpha
    exact absurd halpha (by decide)
  have hnumber : Expr.readNumber? (address name id).toList = none := by
    have halphanum := Text.isAlphanum_of_isAlpha name.first_isAlpha
    rw [head?_address]
    exact Expr.readNumber?_eq_none (Text.isDigit_of_isAlpha name.first_isAlpha)
      (Text.not_mem_of_isAlphanum halphanum (by decide)) _
  unfold Expr.ofLeaf
  rw [if_neg htable, hnumber, unquote_address hne hsolid]
  by_cases hlast : id.toList.getLast? = some '"'
  · simp [hlast]
  · simp [hlast]

theorem layer_address_ne_group (inner : List Char) :
    Layer.of (address name id).toList ≠ .group inner := by
  intro h
  have hfound := Layer.found_of (address name id).toList
  rw [h] at hfound
  obtain ⟨whole, hs, hcall⟩ := hfound
  obtain ⟨front, body, after, rfl, -, -, -, -, hname, -⟩ :=
    exists_of_splitCall (scan_eq_ok_iff.1 hs).2 hcall
  have htext := text_of_scan hs
  rw [text_callMarks, head?_address] at htext
  have hblanks := Text.blanks_of_trim_eq_nil hname.symm
  cases hfront : front.text with
  | nil =>
    rw [hfront] at htext
    have halpha := name.first_isAlpha
    rw [← (List.cons.inj htext).1] at halpha
    exact absurd halpha (by decide)
  | cons c rest =>
    rw [hfront] at htext hblanks
    have hblank := hblanks c List.mem_cons_self
    have hsolid := name.isBlank_first
    rw [← (List.cons.inj htext).1] at hsolid
    rw [hblank] at hsolid
    cases hsolid

theorem layer_of_parse_reference {text series : List Char} {source : Option (List Char)}
    {whole : List Char} (hgroup : ∀ inner, Layer.of (Text.trim whole) ≠ .group inner)
    (h : Expr.parse whole = .reference text series source) :
    ∃ content, Layer.of (Text.trim whole) = .leaf content ∧
      Expr.ofLeaf content = .reference text series source := by
  rw [Expr.parse] at h
  split at h
  · cases h
  · unfold Expr.counting at h
    split at h <;> cases h
  · unfold Expr.withSettings at h
    split at h <;> cases h
  · rename_i inner hl
    exact absurd hl (hgroup inner)
  · cases h
  · rename_i content hl
    exact ⟨content, hl, h⟩

theorem parse_address (hne : id ≠ "") (hsolid : Text.HasSolidEnds id.toList)
    (h : IsWhole id.toList) : Expr.parse (address name id).toList =
      .reference (address name id).toList name.text (some id.toList) := by
  obtain ⟨marked, hs, -, hsplit, hhash, hopen⟩ := h.exists_marks
  have hcalm := (quiet_addressFront name).calm
  have hscan : scan (address name id).toList = .ok (addressFront name ++ marked) :=
    scan_address.2 ⟨marked, hs, rfl⟩
  have hnonempty : (address name id).toList ≠ [] := by
    rw [head?_address]
    exact List.cons_ne_nil _ _
  have hleaf : Layer.of (Text.trim (address name id).toList) = .leaf (address name id).toList := by
    rw [trim_address hne hsolid]
    exact Layer.of_eq_leaf hscan hnonempty (splitOperator_address.2 hsplit)
      ((isTop_address (hcalm.isTop (by simp))).2 hhash)
      ((isTop_address (quiet_addressFront name).isTop_opening).2 hopen)
  rw [Expr.parse_eq_leaf hleaf]
  exact (ofLeaf_address hne hsolid).2 ⟨h.not_quote, ofReference_address hsolid h.not_mem_at⟩

theorem isWhole_of_parse (hne : id ≠ "") (hsolid : Text.HasSolidEnds id.toList)
    (hwhole : ∀ whole, scan (address name id).toList = .ok whole → breaksOff [] whole = false)
    {text series : List Char} {source : Option (List Char)}
    (h : Expr.parse (address name id).toList = .reference text series source) :
    IsWhole id.toList := by
  have htrim := @trim_address name id hne hsolid
  have hgroup : ∀ inner, Layer.of (Text.trim (address name id).toList) ≠ .group inner := by
    rw [htrim]
    exact layer_address_ne_group
  obtain ⟨content, hl, hleaf⟩ := layer_of_parse_reference hgroup h
  rw [htrim] at hl
  obtain ⟨rfl, whole, hs, hsplit, hhash, hopen⟩ := Layer.exists_of_eq_leaf hl
  obtain ⟨marked, hmarked, rfl⟩ := scan_address.1 hs
  obtain ⟨hquote, hreference⟩ := (ofLeaf_address hne hsolid).1 hleaf
  have hcut : breaksOff ['@'] marked = false := breaksOff_address.symm.trans (hwhole _ hs)
  refine ⟨⟨marked, hmarked, hcut, splitOperator_address.1 hsplit, ?_, ?_⟩, hquote,
    not_mem_at_of_ofReference hreference⟩
  · exact fun entry he => hhash entry (List.mem_append_right _ he)
  · exact fun entry he => hopen entry (List.mem_append_right _ he)

theorem isWhole_iff_parse (hne : id ≠ "") (hsolid : Text.HasSolidEnds id.toList) :
    IsWhole id.toList ↔
      (∀ whole, scan (address name id).toList = .ok whole → breaksOff [] whole = false) ∧
      ∃ text series source, Expr.parse (address name id).toList = .reference text series source := by
  constructor
  · intro h
    refine ⟨fun whole hs => ?_, _, _, _, parse_address hne hsolid h⟩
    obtain ⟨marked, hmarked, hcut, -⟩ := h.exists_marks
    obtain ⟨_, hscan, hbreaks⟩ := breaksOff_scan_address hs
    cases hmarked.symm.trans hscan
    rw [hbreaks, hcut]
  · rintro ⟨hwhole, text, series, source, h⟩
    exact isWhole_of_parse hne hsolid hwhole h

/-- What the check of identifiers misses are operators. -/
theorem isWhole_of_isId (hid : SourceRegistry.isId id = true)
    (hoperators : ∀ c ∈ id.toList, (Operator.ofSymbol? c).isNone = true) : IsWhole id.toList := by
  have hsyntax : ∀ c ∈ id.toList, c ∉ ['@', '#', '(', ')', '"'] := by
    intro c hc hmem
    simp only [SourceRegistry.isId, Bool.and_eq_true, Bool.not_eq_true'] at hid
    have hcontains := List.any_eq_false.1 hid.2 c hc
    exact hcontains (List.contains_iff_mem.2 hmem)
  have hplain : ∀ c ∈ id.toList, IsPlain c := by
    intro c hc
    have hnot := hsyntax c hc
    refine ⟨?_, ?_, ?_⟩ <;>
    · rintro rfl
      exact hnot (by simp)
  have htop {delimiter : Char} (hd : delimiter ∈ ['@', '#', '(', ')', '"']) :
      ∀ entry ∈ id.toList.map fun c => (c, (⟨0, false⟩ : Mark)), isTop delimiter entry = false := by
    apply isTop_of_not_mem
    rw [text_map_mark]
    exact fun hc => hsyntax delimiter hc hd
  have hscan : scan id.toList = .ok (id.toList.map (·, ⟨0, false⟩)) :=
    scan_eq_ok_iff.2 ⟨text_map_mark _ _, Marks.of_plain 0 hplain⟩
  have hsplit := last?_plain (fun c hc => Option.isNone_iff_eq_none.1 (hoperators c hc)) ['@']
  have hsign {sign : Char} (hs : (Operator.ofSymbol? sign).isNone = false) :
      sign ∉ MarkedText.text (id.toList.map (·, ⟨0, false⟩)) := by
    rw [text_map_mark]
    intro hmem
    rw [hoperators sign hmem] at hs
    cases hs
  have hcut := breaksOff_of_unsigned ⟨hsign rfl, hsign rfl⟩ ['@']
  refine ⟨⟨_, hscan, hcut, hsplit, htop (by simp), htop (by simp)⟩, ?_, ?_⟩
  · intro hlast
    exact hsyntax '"' (List.mem_of_getLast? hlast) (by simp)
  · intro hat
    exact hsyntax '@' hat (by simp)

/-! ## Evaluation -/

theorem not_mem_of_upper {text : List Char} (h : Text.upper text = text) : 'd' ∉ text := by
  intro hd
  rw [← h] at hd
  obtain ⟨c, -, hc⟩ := List.mem_flatMap.1 hd
  have hfinal := ((Text.upperChar_final c).2 'd' hc).1
  exact absurd hfinal (by decide)

theorem countPlaceholders_address (hupper : Text.upper id.toList = id.toList)
    (h : IsWhole id.toList) : countPlaceholders (address name id).toList = .ok 0 := by
  obtain ⟨marked, hs, -⟩ := h.exists_marks
  have hscan : scan (address name id).toList = .ok (addressFront name ++ marked) :=
    scan_address.2 ⟨marked, hs, rfl⟩
  have hzero : marked.placeholders = 0 := by
    refine placeholders_eq_zero fun hinfix => not_mem_of_upper hupper ?_
    rw [← text_of_scan hs]
    exact hinfix.subset (by simp)
  rw [countPlaceholders_of_scan hscan,
    placeholders_append_of_inert (quiet_addressFront name).inert, hzero]

end Address

/-- What a whole identifier stands for behind an at sign. An identifier that is not whole is cut by
the syntax, or the program stops at a sign in it. -/
theorem Interpreter.evaluate_address (functions : FunctionRegistry)
    (registrations : List Registration) {id : String}
    (hid : id ∈ (SourceRegistry.after registrations).ids) (name : Word) (context : Context) :
    (∃ stored, (SourceRegistry.after registrations).sources.find? id = some stored ∧
      (SourceRegistry.after registrations).fetch id name.name context =
        (stored.fetch (Text.normalName name.name) context).mapError
          (.sourceFetch stored.id (Text.normalName name.name))) ∧
    (IsWhole id.toList →
      evaluate ⟨functions, SourceRegistry.after registrations⟩ (address name id) context [] =
        ((SourceRegistry.after registrations).fetch id name.name context).map
          fun (table, provenance) => ⟨.series table, provenance⟩) ∧
    (IsWhole id.toList ↔
      (∀ whole, scan (address name id).toList = .ok whole → breaksOff [] whole = false) ∧
      ∃ text series source,
        Expr.parse (address name id).toList = .reference text series source) := by
  have hproper := SourceRegistry.isProper_after registrations
  have hne := hproper.ne_empty id hid
  obtain ⟨hsolid, hupper⟩ := normalName_eq_self_iff.1 (hproper.normal id hid)
  obtain ⟨stored, hstored, hfound⟩ := hproper.exists_get? hid
  refine ⟨⟨stored, hstored, ?_⟩, fun hwhole => ?_, isWhole_iff_parse hne hsolid⟩
  · rw [SourceRegistry.fetch, hfound]
  · have hsolidText : Text.allBlank (address name id).toList = false := by
      rw [head?_address, Text.allBlank, List.all_cons, name.isBlank_first, Bool.false_and]
    have hname : name.text ≠ [] := List.cons_ne_nil _ _
    have hsource : String.ofList id.toList ≠ "" := by
      rwa [String.ofList_toList]
    rw [evaluate_eq _ context hsolidText (countPlaceholders_address hupper hwhole),
      parse_address hne hsolid hwhole, evalExpr, resolve]
    dsimp only [Option.map_some, Option.getD_some]
    rw [if_neg hname, if_neg hsource, Term.isSeriesName_of_isName (isName_word name),
      if_neg (by simp), fetch, Word.name, String.ofList_toList]

def gdpSource (id : String) : Source :=
  ((MemorySource.of id none).insert "GDP" (monthly none none)).toSource

/-- A source that was added twice, which failed, and got one more identifier. -/
theorem Interpreter.evaluate_address_further :
    "ST. LOUIS:1" ∈ (SourceRegistry.after [.source (gdpSource "fred"),
      .source (gdpSource "fred"), .furtherId "St. Louis:1" "fred"]).ids ∧
    ∃ result, evaluate ⟨.standard, SourceRegistry.after [.source (gdpSource "fred"),
      .source (gdpSource "fred"), .furtherId "St. Louis:1" "fred"]⟩ "GDP@ST. LOUIS:1" .default [] =
        .ok result := by
  have hid : "ST. LOUIS:1" ∈ (SourceRegistry.after [.source (gdpSource "fred"),
      .source (gdpSource "fred"), .furtherId "St. Louis:1" "fred"]).ids := by
    decide +kernel
  have haddress : address Term.product "ST. LOUIS:1" = "GDP@ST. LOUIS:1" := by
    decide +kernel
  obtain ⟨-, hwhole, -⟩ := evaluate_address .standard _ hid Term.product .default
  have hvalue := hwhole (isWhole_of_isId (by decide +kernel)
    (List.all_eq_true.1 (by decide +kernel)))
  rw [haddress] at hvalue
  refine ⟨hid, ?_⟩
  rw [hvalue]
  exact exists_eq_ok (by decide +kernel)

/-- The hyphen of an accepted identifier is read as a minus sign. -/
theorem Interpreter.evaluate_address_hyphen :
    "A-B" ∈ (SourceRegistry.after [.source (gdpSource "A-B")]).ids ∧
    (∃ result, (SourceRegistry.after [.source (gdpSource "A-B")]).fetch "A-B" "GDP" .default =
      .ok result) ∧
    evaluate ⟨.standard, SourceRegistry.after [.source (gdpSource "A-B")]⟩ "GDP@A-B" .default [] =
      .error (.unknownSource "A") := by
  exact ⟨by decide +kernel, exists_eq_ok (by decide +kernel), evaluate_of_evaluateTo 2 rfl⟩

-- The mantissa before the sign of the identifier is looked for inside its first letter.
example : breaksOff ['@'] ("É1E-3".toList.map (·, ⟨0, false⟩)) = true := by decide

end TimeSeries
