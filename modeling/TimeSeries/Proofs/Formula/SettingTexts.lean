import Mathlib.Data.List.Basic
import Mathlib.Data.List.Forall2
import Mathlib.Tactic.MkIffOfInductiveProp
import TimeSeries.Proofs.Formula.Pieces

set_option autoImplicit false

/-!
# Texts of options

An option is written as its key alone, or as its key, a colon and its value between quotes, with
blanks around each of them. Main statement: options with number signs between them are read back as
they were meant, in order and with every value to the letter, since the quotes hide what it holds.
-/
namespace TimeSeries

open MarkedText

/-- What can be written as a key: a trimmed text that is not empty and has none of the characters
that end a key, cut options apart or nest. -/
@[mk_iff]
structure IsKey (key : List Char) : Prop where
  ne_nil : key ≠ []
  trim_eq : Text.trim key = key
  not_mem : ∀ c ∈ [':', '#', '"', '(', ')'], c ∉ key

-- The characters are those of the list, and are not searched for among all there are.
instance : DecidablePred IsKey := fun key =>
  have : Decidable (∀ c ∈ [':', '#', '"', '(', ')'], c ∉ key) := List.decidableBAll _ _
  decidable_of_iff' _ (isKey_iff key)

/-- The texts of an option, with blanks around its key and its value. -/
inductive Spells : Setting → List Char → Prop
  | switch {key before after : List Char} :
      IsKey key → Text.Blanks before → Text.Blanks after →
      Spells (String.ofList key, none) (before ++ key ++ after)
  | value {key before gap gap' after : List Char} (value : Literal) :
      IsKey key → Text.Blanks before → Text.Blanks gap → Text.Blanks gap' → Text.Blanks after →
      Spells (String.ofList key, some (String.ofList value.content))
        (before ++ key ++ gap ++ ':' :: (gap' ++ value.text ++ after))

/-! ## One option -/

section Reading

variable {key before gap after : List Char} {setting : Setting} {text : List Char}

theorem IsKey.hasSolidEnds (h : IsKey key) : Text.HasSolidEnds key :=
  h.trim_eq ▸ Text.hasSolidEnds_trim key

theorem unquoteSetting_literal (key : List Char) (literal : Literal) :
    unquoteSetting key literal.text = .ok literal.content := by
  unfold unquoteSetting
  simp only [literal.getLast?_text]
  simp [Literal.text]

theorem IsKey.before_colon (h : IsKey key) (hgap : Text.Blanks gap) (rest : List Char) :
    (key ++ gap ++ ':' :: rest).takeWhile (· != ':') = key ++ gap ∧
      (key ++ gap ++ ':' :: rest).dropWhile (· != ':') = ':' :: rest := by
  have hcolon : ∀ c ∈ key ++ gap, (c != ':') = true := by
    intro c hc
    rw [bne_iff_ne]
    rintro rfl
    rcases List.mem_append.1 hc with hc | hc
    · exact h.not_mem ':' (by simp) hc
    · exact hgap.not_mem (by decide) hc
  constructor
  · rw [List.takeWhile_append_of_pos hcolon]
    simp
  · rw [List.dropWhile_append_of_pos hcolon]
    simp

theorem parseSetting_switch (h : IsKey key) (hbefore : Text.Blanks before)
    (hafter : Text.Blanks after) :
    parseSetting (before ++ key ++ after) = .ok (String.ofList key, none) := by
  have htrim : Text.trim (before ++ key ++ after) = key := by
    rw [Text.trim_between hbefore hafter, h.trim_eq]
  have hdrop : key.dropWhile (· != ':') = [] := by
    refine List.dropWhile_eq_nil_iff.2 fun c hc => ?_
    rw [bne_iff_ne]
    rintro rfl
    exact h.not_mem ':' (by simp) hc
  unfold parseSetting
  simp only [htrim, hdrop, if_neg h.ne_nil]

theorem parseSetting_value (h : IsKey key) (value : Literal) {gap' : List Char}
    (hbefore : Text.Blanks before) (hgap : Text.Blanks gap) (hgap' : Text.Blanks gap')
    (hafter : Text.Blanks after) :
    parseSetting (before ++ key ++ gap ++ ':' :: (gap' ++ value.text ++ after)) =
      .ok (String.ofList key, some (String.ofList value.content)) := by
  have hsolid : Text.HasSolidEnds (key ++ gap ++ ':' :: (gap' ++ value.text)) := by
    refine ⟨fun c hc => h.hasSolidEnds.1 c ?_, fun c hc => value.hasSolidEnds.2 c ?_⟩
    · rwa [List.append_assoc, List.head?_append_of_ne_nil _ h.ne_nil] at hc
    · have hne : value.text ≠ [] := List.cons_ne_nil _ _
      rwa [List.getLast?_append_of_ne_nil _ (List.cons_ne_nil _ _), ← List.cons_append,
        List.getLast?_append_of_ne_nil _ hne] at hc
  have htrim : Text.trim (before ++ key ++ gap ++ ':' :: (gap' ++ value.text ++ after)) =
      key ++ gap ++ ':' :: (gap' ++ value.text) := by
    have hbetween := @Text.trim_between before (key ++ gap ++ ':' :: (gap' ++ value.text)) after
      hbefore hafter
    rw [Text.trim_eq_self hsolid] at hbetween
    simpa using hbetween
  have hvalue : Text.trim (gap' ++ value.text) = value.text := by
    rw [← List.append_nil (gap' ++ _), Text.trim_between hgap' Text.blanks_nil, value.trim_text]
  have hkey : Text.trim (key ++ gap) = key := by
    rw [← List.nil_append (key ++ gap), ← List.append_assoc,
      Text.trim_between Text.blanks_nil hgap, h.trim_eq]
  obtain ⟨htake, hdrop⟩ := h.before_colon hgap (gap' ++ value.text)
  unfold parseSetting
  simp only [htrim, htake, hdrop, hvalue, unquoteSetting_literal, hkey]
  simp [h.ne_nil, bind, Except.bind]

theorem parseSetting_of_spells (h : Spells setting text) : parseSetting text = .ok setting := by
  cases h with
  | switch hkey hbefore hafter => exact parseSetting_switch hkey hbefore hafter
  | value value hkey hbefore hgap hgap' hafter =>
    exact parseSetting_value hkey value hbefore hgap hgap' hafter

end Reading

/-! ## Options next to each other -/

/-- The marks of a text that scans and that no number sign cuts. -/
structure Uncut (marked : MarkedText) : Prop where
  marks : Marks 0 false marked 0 false
  noHash : ∀ entry ∈ marked, isTop '#' entry = false

section Joining

variable {a b marked : MarkedText} {setting : Setting} {text : List Char}

theorem MarkedText.Quiet.uncut (h : Quiet marked) : Uncut marked := ⟨h.marks, h.calm.isTop (by simp)⟩

theorem Uncut.append (ha : Uncut a) (hb : Uncut b) : Uncut (a ++ b) := by
  refine ⟨ha.marks.append hb.marks, fun entry he => ?_⟩
  rcases List.mem_append.1 he with he | he
  · exact ha.noHash entry he
  · exact hb.noHash entry he

theorem IsKey.uncut {key : List Char} (h : IsKey key) : Uncut (key.map (·, ⟨0, false⟩)) := by
  have hplain : ∀ c ∈ key, IsPlain c := by
    intro c hc
    refine ⟨?_, ?_, ?_⟩ <;>
    · rintro rfl
      exact h.not_mem _ (by simp) hc
  refine ⟨Marks.of_plain 0 hplain, isTop_of_not_mem ?_⟩
  rw [text_map_mark]
  exact h.not_mem '#' (by simp)

/-- Nothing in the text of an option cuts it: the delimiters of a value stand between its quotes. -/
theorem Spells.exists_uncut (h : Spells setting text) :
    ∃ marked : MarkedText, marked.text = text ∧ Uncut marked := by
  have blanks {gap : List Char} (hgap : Text.Blanks gap) := (quiet_blanks hgap).uncut
  cases h with
  | switch hkey hbefore hafter =>
    refine ⟨_, ?_, ((blanks hbefore).append hkey.uncut).append (blanks hafter)⟩
    simp
  | value value hkey hbefore hgap hgap' hafter =>
    have hcolon := (@quiet_char ':' (by simp [IsQuiet])).uncut
    have hfront := ((blanks hbefore).append hkey.uncut).append (blanks hgap)
    have hback := ((blanks hgap').append (quiet_literal value).uncut).append (blanks hafter)
    refine ⟨_, ?_, (hfront.append hcolon).append hback⟩
    simp

theorem parseSettings_of_scan (hs : scan text = .ok marked) :
    parseSettings text = (marked.split '#').mapM parseSetting := by
  rw [parseSettings, splitTopLevel, hs]
  rfl

theorem mapM_of_forall₂ {settings : List Setting} {pieces : List (List Char)}
    (h : List.Forall₂ (fun setting piece => parseSetting piece = .ok setting) settings pieces) :
    pieces.mapM parseSetting = .ok settings := by
  induction h with
  | nil => rfl
  | cons hfirst _ ih =>
    rw [List.mapM_cons, hfirst, ih]
    rfl

theorem parseSettings_join {settings : List Setting} {parts : List MarkedText} (hne : parts ≠ [])
    (huncut : ∀ part ∈ parts, Uncut part)
    (hread : List.Forall₂ (fun setting piece => parseSetting piece = .ok setting) settings
      (parts.map MarkedText.text)) :
    parseSettings (join '#' parts).text = .ok settings := by
  have hmarks : Marks 0 false (join '#' parts) 0 false :=
    marks_join (by simp [IsPlain]) fun part hp => (huncut part hp).marks
  have hscan : scan (join '#' parts).text = .ok (join '#' parts) := scan_eq_ok_iff.2 ⟨rfl, hmarks⟩
  rw [parseSettings_of_scan hscan, MarkedText.split,
    splitOnP_join hne fun part hp => (huncut part hp).noHash, mapM_of_forall₂ hread]

theorem exists_uncut_of_forall₂ {settings : List Setting} {pieces : List (List Char)}
    (h : List.Forall₂ Spells settings pieces) :
    ∃ parts : List MarkedText, parts.map MarkedText.text = pieces ∧ ∀ part ∈ parts, Uncut part := by
  induction h with
  | nil => exact ⟨[], rfl, by simp⟩
  | cons hfirst _ ih =>
    obtain ⟨marked, rfl, hmarked⟩ := hfirst.exists_uncut
    obtain ⟨parts, rfl, hparts⟩ := ih
    exact ⟨marked :: parts, rfl, List.forall_mem_cons.2 ⟨hmarked, hparts⟩⟩

/-- Options that are written with number signs between them are read back. -/
theorem parseSettings_intercalate {settings : List Setting} {pieces : List (List Char)}
    (hne : settings ≠ []) (h : List.Forall₂ Spells settings pieces) :
    parseSettings (['#'].intercalate pieces) = .ok settings := by
  obtain ⟨parts, rfl, hparts⟩ := exists_uncut_of_forall₂ h
  have hparts_ne : parts ≠ [] := by
    rintro rfl
    exact hne (List.forall₂_nil_right_iff.1 h)
  rw [← text_join]
  exact parseSettings_join hparts_ne hparts (h.imp fun _ _ hspells => parseSetting_of_spells hspells)

theorem parseSettings_intercalate_delimiters :
    parseSettings "nan#start:\"2000-01-01\"# a note : \" x#y:(, \" #%d+1:\"\"".toList =
      .ok [("nan", none), ("start", some "2000-01-01"), ("a note", some " x#y:(, "),
        ("%d+1", some "")] := by
  have hnil := Text.blanks_nil
  have hspace := Text.blanks_space
  have hswitch := Spells.switch (by decide : IsKey "nan".toList) hnil hnil
  have hstart := Spells.value ⟨"2000-01-01".toList, by decide⟩ (by decide : IsKey "start".toList)
    hnil hnil hnil hnil
  have hnote := Spells.value ⟨" x#y:(, ".toList, by decide⟩ (by decide : IsKey "a note".toList)
    hspace hspace hspace hspace
  have hempty := Spells.value ⟨[], by decide⟩ (by decide : IsKey "%d+1".toList)
    hnil hnil hnil hnil
  exact parseSettings_intercalate (List.cons_ne_nil _ _)
    (.cons hswitch (.cons hstart (.cons hnote (.cons hempty .nil))))

end Joining

end TimeSeries
