import TimeSeries.Formula.Library
import TimeSeries.Proofs.Formula.Plain
import TimeSeries.Proofs.Formula.Visits
import TimeSeries.Proofs.Text.Separators
import TimeSeries.Store.SeriesStore

set_option autoImplicit false

/-!
# Which files a store opens

A store opens the file that is named like the series. It is a child of the directory as long as the
name has no slash. A name with a slash comes from a formula with one: references can have them only
behind an operator or a colon, so that they lead below the directory, but the argument of a source
that is written like a function is not checked, and may lead anywhere.
-/
namespace TimeSeries

/-- A path to something that is in the directory itself. -/
def Path.IsChild (directory path : String) : Prop :=
  ∃ name : String, '/' ∉ name.toList ∧ name ≠ ".." ∧ path = Path.join directory name

namespace SeriesStore

variable {store : SeriesStore} {files files' : Files} {name series : String}

def fileName (series : String) : String := Text.lowerName (Text.normalName series) ++ ".csv"

theorem pathFor_normalName (store : SeriesStore) (series : String) :
    store.pathFor (Text.normalName series) = Path.join store.root (fileName series) := rfl

theorem toList_fileName (series : String) : (fileName series).toList =
    Text.lower (Text.upper (Text.trim series.toList)) ++ ".csv".toList := by
  rw [fileName, Text.lowerName, Text.trimmed_normalName]
  simp [Text.lowercase, Text.normalName, Text.uppercase, Text.trimmed]

theorem slash_mem_fileName : '/' ∈ (fileName series).toList ↔ '/' ∈ series.toList := by
  rw [toList_fileName, List.mem_append, Text.lower, Text.slash_mem_lowerAfter, Text.slash_mem_upper,
    Text.slash_mem_trim]
  simp

theorem fileName_ne (series : String) : fileName series ≠ ".." := by
  intro h
  have hlist := congrArg String.toList h
  rw [toList_fileName] at hlist
  have hlast := congrArg List.getLast? hlist
  rw [List.getLast?_append_of_ne_nil _ (by decide)] at hlast
  exact absurd hlast (by decide)

theorem isChild_of_not_mem (h : '/' ∉ series.toList) :
    Path.IsChild store.root (store.pathFor (Text.normalName series)) :=
  ⟨fileName series, fun hslash => h (slash_mem_fileName.1 hslash), fileName_ne series, rfl⟩

theorem join_injective {directory : String} {a b : String} (ha : Path.isAbsolute a = false)
    (hb : Path.isAbsolute b = false) (h : Path.join directory a = Path.join directory b) :
    a = b := by
  unfold Path.join at h
  simp only [ha, hb, Bool.false_or, decide_eq_true_eq] at h
  split at h
  · exact h
  · split at h
    · exact String.append_right_inj _ |>.1 h
    · exact String.append_right_inj _ |>.1 h

theorem not_isChild_of_mem (h : '/' ∈ series.toList)
    (hrelative : Path.isAbsolute (fileName series) = false) :
    ¬ Path.IsChild store.root (store.pathFor (Text.normalName series)) := by
  rintro ⟨name, hname, -, hpath⟩
  have habsolute : Path.isAbsolute name = false := by
    rw [Path.isAbsolute, beq_eq_false_iff_ne]
    exact fun hhead => hname (List.mem_of_mem_head? hhead)
  rw [pathFor_normalName] at hpath
  rw [← join_injective hrelative habsolute hpath, slash_mem_fileName] at hname
  exact hname h

theorem fetch_congr (h : files.find (store.pathFor name) = files'.find (store.pathFor name))
    (context : Context) : store.fetch files name context = store.fetch files' name context := by
  have hread : store.read files name = store.read files' name := by
    dsimp only [read]
    rw [h]
  rw [fetch, fetch, hread]

end SeriesStore

/-! ## The names that formulas ask for -/

theorem Expr.exists_of_ofLeaf_eq_reference {content text name : List Char}
    {source : Option (List Char)} (h : ofLeaf content = .reference text name source) :
    ∃ front rest, content = front ++ rest ∧ name = Text.trim front := by
  unfold ofLeaf at h
  split at h
  · cases h
  · split at h
    · cases h
    · split at h
      · cases h
      · rcases ofReference_cases content with
          ⟨-, href⟩ | ⟨left, right, rfl, -, -, href⟩ | ⟨error, href⟩
        · rw [href] at h
          cases h
          exact ⟨content, [], (List.append_nil content).symm, rfl⟩
        · rw [href] at h
          cases h
          exact ⟨left, '@' :: right, rfl, rfl⟩
        · rw [href] at h
          cases h
      · cases h

theorem subset_of_unquote {text : List Char} {literal : Option (List Char)}
    (h : unquote text = .ok literal) : literal.getD text ⊆ text := by
  cases literal with
  | none => exact List.Subset.refl text
  | some content =>
    intro c hc
    apply Text.trim_subset text
    rw [unquote_eq_some_iff.1 h]
    exact List.mem_cons_of_mem _ (List.mem_append_left _ hc)

theorem ReadIn.subset {text piece : List Char} (h : ReadIn text piece) : piece ⊆ text := by
  induction h with
  | whole => exact List.Subset.refl text
  | part _ hp ih =>
    exact fun c hc => ih (Text.trim_subset _ (Layer.subset_of_mem_parts _ _ hp hc))

namespace Visit

variable {interpreter : Interpreter} {visit : Visit} {id series : String}

theorem Asks.subset (h : Asks interpreter visit id series) : series.toList ⊆ visit.text := by
  cases h with
  | reference hl ho =>
    obtain ⟨rfl, -⟩ := found hl
    obtain ⟨front, rest, hcontent, rfl⟩ := Expr.exists_of_ofLeaf_eq_reference ho
    intro c hc
    rw [String.toList_ofList] at hc
    refine Text.trim_subset visit.text ?_
    rw [hcontent]
    exact List.mem_append_left rest (Text.trim_subset front hc)
  | @call application argument literal hl _ _ hargs _ hliteral _ =>
    intro c hc
    rw [String.toList_ofList] at hc
    have hpart : argument ∈ (Layer.of (Text.trim visit.text)).parts := by
      rw [show Layer.of (Text.trim visit.text) = .call application from hl, Layer.parts, hargs]
      exact List.mem_singleton_self argument
    have harg := subset_of_unquote hliteral (Text.trim_subset _ hc)
    exact Text.trim_subset _ (Layer.subset_of_mem_parts _ _ hpart harg)

/-- In the name of a reference no slash stands behind a dot: it would be a division. -/
theorem not_dot_slash_of_reference {content text name : List Char} {source : Option (List Char)}
    (hl : visit.layer = .leaf content) (ho : Expr.ofLeaf content = .reference text name source)
    (hname : isSeriesName name = true) : ¬ ['.', '/'] <:+: name := by
  rintro ⟨a, b, hab⟩
  obtain ⟨rfl, marked, hs⟩ := found hl
  have hsplit : splitOperator marked = none := by
    cases hsome : splitOperator marked with
    | none => rfl
    | some split =>
      have hoperation := Layer.of_eq_operation hs hsome
      rw [show Layer.of (Text.trim visit.text) = .leaf _ from hl] at hoperation
      cases hoperation
  obtain ⟨front, rest, hcontent, rfl⟩ := Expr.exists_of_ofLeaf_eq_reference ho
  obtain ⟨pre, post, hfront, hpre, -⟩ := Text.exists_eq_trim_between front
  have hmarked : marked.text = (pre ++ a ++ ['.']) ++ '/' :: (b ++ post ++ rest) := by
    rw [text_of_scan hs, hcontent, hfront, ← hab]
    simp
  obtain ⟨before, behind, rfl, hbefore, hbehind⟩ := MarkedText.exists_append_of_text hmarked
  obtain ⟨⟨slash, mark⟩, after, rfl, rfl, -⟩ := List.map_eq_cons_iff.1 hbehind
  obtain ⟨level, inside, hwalk, hrest⟩ := Marks.exists_of_append (scan_eq_ok_iff.1 hs).2
  have hplain : ∀ c ∈ before.text, IsPlain c := by
    intro c hc
    rw [hbefore, List.append_assoc, List.mem_append] at hc
    rcases hc with hc | hc
    · exact isPlain_of_isBlank (hpre c hc)
    · refine isPlain_of_isSeriesName hname ?_
      rw [← hab]
      rcases List.mem_append.1 hc with hc | hc
      · simp [hc]
      · simp [List.mem_singleton.1 hc]
  -- Before the slash the walk stays on the top level, so that the slash splits the text.
  obtain ⟨rfl, rfl, -⟩ := hwalk.eq_of_plain hplain
  have hmark : mark.isTopLevel = true := by
    cases hrest
    rfl
  have hsplits := (OperatorSplit.last?_append_eq_none_iff.1 hsplit).2
  rw [OperatorSplit.last?_cons_eq_none_iff, hbefore] at hsplits
  have hbinary : OperatorSplit.isBinary ('.' :: (a.reverse ++ pre.reverse)) '/' = true := rfl
  simp [OperatorSplit.splitsAt, hmark, hbinary, Operator.ofSymbol?] at hsplits

theorem relative_of_isSeriesName {name : List Char} (h : isSeriesName name = true)
    (htrim : Text.trim name = name) :
    Path.isAbsolute (SeriesStore.fileName (String.ofList name)) = false := by
  have hhead : name.head? ≠ some '/' := by
    simp only [isSeriesName, Bool.and_eq_true, Bool.not_eq_true'] at h
    intro hslash
    rw [hslash] at h
    exact absurd h.1 (by decide)
  rw [Path.isAbsolute, SeriesStore.toList_fileName, String.toList_ofList, htrim,
    beq_eq_false_iff_ne]
  have hlower := Text.head?_lower (Text.head?_upper hhead)
  cases hname : Text.lower (Text.upper name) with
  | nil => decide
  | cons c rest =>
    rw [hname] at hlower
    exact hlower

end Visit

/-! ## The files that are opened -/

namespace SeriesStore

variable {store : SeriesStore} {files files' : Files}

/-- Asking a store is reading the file of the name. The file is a child of the directory when the
formula has no slash, and among relative names only for those without. References ask for no other
names than relative ones, and for none that goes up; what does so is the argument of a source that
is written like a function. -/
theorem opens_of_asks {interpreter : Interpreter} {formula : String} {context : Context}
    {tables : List Table} {visit : Visit} {id series : String}
    (hreach : Visit.Reaches interpreter (.ofFormula formula context tables) visit)
    (hasks : Visit.Asks interpreter visit id series)
    (hstore : interpreter.sources.get? id = some (store.toSource files)) :
    interpreter.sources.fetch id series visit.context =
      (store.fetch files (Text.normalName series) visit.context).mapError
        (fun e => .sourceFetch store.id (Text.normalName series) (.csv e)) ∧
    ('/' ∉ formula.toList →
      Path.IsChild store.root (store.pathFor (Text.normalName series))) ∧
    (Path.isAbsolute (fileName series) = false →
      (Path.IsChild store.root (store.pathFor (Text.normalName series)) ↔ '/' ∉ series.toList)) ∧
    ∀ content, visit.layer = .leaf content →
      Path.isAbsolute (fileName series) = false ∧ ¬ ['.', '/'] <:+: series.toList := by
  refine ⟨?_, ?_, ?_, ?_⟩
  · rw [SourceRegistry.fetch, hstore]
    dsimp only [toSource]
    cases store.fetch files (Text.normalName series) visit.context <;> rfl
  · intro hformula
    refine isChild_of_not_mem fun hslash => hformula ?_
    exact (Visit.Reaches.readIn hreach).subset (hasks.subset hslash)
  · intro hrelative
    constructor
    · intro hchild hslash
      exact not_isChild_of_mem hslash hrelative hchild
    · exact isChild_of_not_mem
  · intro content hl
    cases hasks with
    | reference hleaf ho _ hseries =>
      obtain ⟨front, rest, -, rfl⟩ := Expr.exists_of_ofLeaf_eq_reference ho
      refine ⟨Visit.relative_of_isSeriesName hseries (Text.trim_trim front), ?_⟩
      rw [String.toList_ofList]
      exact Visit.not_dot_slash_of_reference hleaf ho hseries
    | call hcall => rw [hl] at hcall; cases hcall

/-- A directory with the series GDP, and a file of the same name beside it. -/
def besides : Files :=
  ⟨.directory [("data", .directory [("gdp.csv", .file [])]), ("gdp.csv", .file [])], []⟩

theorem exists_registry_besides : ∃ sources, (SeriesStore.of "data").registry besides = .ok sources ∧
    sources.get? "LOCAL" = some ((SeriesStore.of "data").toSource besides) :=
  ⟨_, rfl, rfl⟩

theorem contains_local : FunctionRegistry.standard.contains "LOCAL" = false := by decide +kernel

theorem asks_local {sources : SourceRegistry} {source : Source}
    (hget : sources.get? "LOCAL" = some source) {formula series : String} {argument : List Char}
    {literal : Option (List Char)}
    (hl : (Visit.ofFormula formula .default []).layer = .call ⟨"LOCAL".toList, [argument]⟩)
    (hcount : countPlaceholders argument = .ok 0) (hliteral : unquote argument = .ok literal)
    (hname : Text.trim (literal.getD argument) = series.toList) (hne : series.toList ≠ []) :
    Visit.Asks ⟨.standard, sources⟩ (.ofFormula formula .default []) "LOCAL" series := by
  have hid : String.ofList "LOCAL".toList = "LOCAL" := String.ofList_toList
  have hseries : String.ofList (Text.trim (literal.getD argument)) = series := by
    rw [hname, String.ofList_toList]
  rw [← hseries, ← hid]
  refine .call hl ?_ ?_ rfl hcount hliteral (by rwa [hname])
  · rw [hid]
    exact contains_local
  · rw [hid]
    exact congrArg Option.isSome hget

theorem opens_of_asks_gdp : ∃ sources visit id series,
    (SeriesStore.of "data").registry besides = .ok sources ∧
    Visit.Reaches ⟨.standard, sources⟩ (.ofFormula "LOCAL(gdp)" .default []) visit ∧
    Visit.Asks ⟨.standard, sources⟩ visit id series ∧
    sources.get? id = some ((SeriesStore.of "data").toSource besides) ∧
    Path.IsChild "data" ((SeriesStore.of "data").pathFor (Text.normalName series)) := by
  obtain ⟨sources, hregistry, hget⟩ := exists_registry_besides
  have hasks : Visit.Asks ⟨.standard, sources⟩ (.ofFormula "LOCAL(gdp)" .default []) "LOCAL" "gdp" :=
    asks_local hget rfl rfl rfl rfl (by decide)
  exact ⟨sources, _, _, _, hregistry, .refl, hasks, hget,
    (opens_of_asks .refl hasks hget).2.1 (by decide)⟩

/-- A source that is written like a function reads the file beside the directory. -/
theorem exists_not_isChild : ∃ sources visit id series content,
    (SeriesStore.of "data").registry besides = .ok sources ∧
    Visit.Reaches ⟨.standard, sources⟩ (.ofFormula "LOCAL(\"../gdp\")" .default []) visit ∧
    Visit.Asks ⟨.standard, sources⟩ visit id series ∧
    sources.get? id = some ((SeriesStore.of "data").toSource besides) ∧
    besides.find ((SeriesStore.of "data").pathFor (Text.normalName series)) = .ok (.file content) ∧
    ¬ Path.IsChild "data" ((SeriesStore.of "data").pathFor (Text.normalName series)) := by
  obtain ⟨sources, hregistry, hget⟩ := exists_registry_besides
  have hasks : Visit.Asks ⟨.standard, sources⟩ (.ofFormula "LOCAL(\"../gdp\")" .default []) "LOCAL"
      "../gdp" := asks_local hget rfl rfl rfl rfl (by decide)
  have hnot := @not_isChild_of_mem (SeriesStore.of "data") "../gdp" (by decide) (by decide +kernel)
  exact ⟨sources, _, _, _, [], hregistry, .refl, hasks, hget, rfl, hnot⟩

/-- Two directory trees with the same children of the directory give a formula without slashes the
same value. -/
theorem evaluate_congr_of_children {functions : FunctionRegistry} {sources sources' : SourceRegistry}
    (hsources : ∀ id, sources.get? id = none ∧ sources'.get? id = none ∨
      sources.get? id = some (store.toSource files) ∧
      sources'.get? id = some (store.toSource files'))
    (hchildren : ∀ path, Path.IsChild store.root path → files.find path = files'.find path)
    {formula : String} (hformula : '/' ∉ formula.toList) (context : Context) (tables : List Table) :
    Interpreter.evaluate ⟨functions, sources⟩ formula context tables =
      Interpreter.evaluate ⟨functions, sources'⟩ formula context tables := by
  have hcontains : ∀ id, sources.contains id = sources'.contains id := by
    intro id
    rcases hsources id with ⟨h, h'⟩ | ⟨h, h'⟩ <;> simp [SourceRegistry.contains, h, h']
  by_cases hblank : Text.allBlank formula.toList = true
  · simp only [Interpreter.evaluate, hblank, if_true]
  cases hcount : countPlaceholders formula.toList with
  | error e => simp [Interpreter.evaluate, hblank, hcount, bind, Except.bind]
  | ok n =>
    by_cases hn : n = tables.length
    · subst hn
      rw [Interpreter.evaluate_eq _ _ (Bool.eq_false_iff.2 hblank) hcount,
        Interpreter.evaluate_eq _ _ (Bool.eq_false_iff.2 hblank) hcount]
      have hscans : Visit.Scans (.ofFormula formula context tables) :=
        (map_eq_ok.1 hcount).imp fun _ hs => hs.1
      refine hscans.value_congr hcontains fun visit hreach id series hasks => ?_
      have hchild : Path.IsChild store.root (store.pathFor (Text.normalName series)) :=
        isChild_of_not_mem fun hslash =>
          hformula ((Visit.Reaches.readIn hreach).subset (hasks.subset hslash))
      rcases hsources id with ⟨h, h'⟩ | ⟨h, h'⟩
      · rw [SourceRegistry.fetch, SourceRegistry.fetch, h, h']
      · rw [SourceRegistry.fetch, SourceRegistry.fetch, h, h']
        dsimp only [toSource]
        rw [fetch_congr (hchildren _ hchild)]
    · simp [Interpreter.evaluate, hblank, hcount, hn, bind, Except.bind, throw, throwThe,
        MonadExceptOf.throw]

end SeriesStore

end TimeSeries
