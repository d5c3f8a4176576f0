import TimeSeries.Proofs.Formula.SettingTexts
import TimeSeries.Proofs.Formula.Shapes

set_option autoImplicit false

/-!
# Reading options

The options behind an expression are read as they were written, and blanks at the end of a text
belong to none of them.
-/
namespace TimeSeries

open MarkedText OperatorSplit Term

theorem parseSetting_congr {a b : List Char} (h : Text.trim a = Text.trim b) :
    parseSetting a = parseSetting b := by
  unfold parseSetting
  rw [h]

theorem mapM_parseSetting_append_blanks {marked after : MarkedText}
    (hafter : Text.Blanks after.text) :
    (MarkedText.split '#' (marked ++ after)).mapM parseSetting =
      (marked.split '#').mapM parseSetting := by
  have hblank : ∀ entry ∈ after, isTop '#' entry = false :=
    isTop_of_not_mem (hafter.not_mem (by decide))
  induction marked using induction_on_top '#' with
  | single m hm =>
    have hall : ∀ entry ∈ m ++ after, isTop '#' entry = false := by
      intro entry he
      rcases List.mem_append.1 he with he | he
      · exact hm entry he
      · exact hblank entry he
    have htrim : Text.trim (m ++ after : MarkedText).text = Text.trim m.text := by
      have hbetween := @Text.trim_between [] m.text after.text Text.blanks_nil hafter
      rwa [List.nil_append, ← text_append] at hbetween
    rw [MarkedText.split, MarkedText.split, List.splitOnP_eq_singleton hall,
      List.splitOnP_eq_singleton hm, List.map_singleton, List.map_singleton, List.mapM_cons,
      List.mapM_cons, parseSetting_congr htrim]
  | cut a b mark hmark ha ih =>
    rw [MarkedText.split, MarkedText.split] at ih ⊢
    rw [List.append_assoc, List.cons_append, splitOnP_top hmark ha, splitOnP_top hmark ha,
      List.map_cons, List.map_cons, List.mapM_cons, List.mapM_cons, ih]

theorem parseSettings_append_blanks {text after : List Char} {marked : MarkedText}
    (hs : scan text = .ok marked) (hafter : Text.Blanks after) :
    parseSettings (text ++ after) = parseSettings text := by
  obtain ⟨front, back, hfront, rfl, hscan⟩ := scan_between Text.blanks_nil hafter hs
  obtain rfl : front = [] := List.map_eq_nil_iff.1 hfront
  rw [List.nil_append, List.nil_append] at hscan
  rw [parseSettings_of_scan hscan, parseSettings_of_scan hs, mapM_parseSetting_append_blanks hafter]

namespace Expr

theorem parse_of_cut {text : List Char} {a b : MarkedText}
    (hs : scan text = .ok (a ++ ('#', ⟨0, false⟩) :: b))
    (hsplit : splitOperator (a ++ ('#', ⟨0, false⟩) :: b) = none)
    (ha : ∀ entry ∈ a, isTop '#' entry = false) :
    parse text = withSettings (parseSettings b.text) (.ok a.placeholders) (parse a.text) := by
  have hcut : cut? '#' (a ++ ('#', ⟨0, false⟩) :: b) = some (a.text, b.text) :=
    cut?_eq_some rfl ha
  obtain ⟨hscan, -⟩ := scan_cut (by simp [IsPlain]) rfl hs
  obtain ⟨pre, core, post, heq, hpre, hpost, hcore⟩ := scan_trim hs
  rw [heq] at hcut hsplit
  rw [cut?_between (by decide) hpre hpost, Option.map_eq_some_iff] at hcut
  rw [splitOperator_between hpre hpost] at hsplit
  obtain ⟨⟨before, after⟩, hfound, hparts⟩ := hcut
  obtain ⟨hbefore, hafter⟩ := Prod.mk.inj hparts
  rcases first_top_cases '#' core with hnone | ⟨c, d, mark, rfl, hmark, hc⟩
  · rw [cut?_eq_none hnone] at hfound
    cases hfound
  rw [cut?_eq_some hmark hc] at hfound
  cases hfound
  obtain ⟨hsc, hsd⟩ := scan_cut (by simp [IsPlain]) hmark hcore
  have hcount : countPlaceholders c.text = .ok a.placeholders := by
    have hwhole := countPlaceholders_between hpre Text.blanks_nil hsc
    rw [List.append_nil, hbefore, countPlaceholders_of_scan hscan] at hwhole
    rw [countPlaceholders_of_scan hsc, hwhole]
  have hhead : parse a.text = parse c.text := by
    rw [← hbefore, ← List.append_nil (pre.text ++ c.text)]
    exact parse_between hpre Text.blanks_nil c.text
  rw [parse_eq_overlay (Layer.of_eq_overlay hmark hcore hsplit hc) hcount, hhead, ← hafter,
    parseSettings_append_blanks hsd hpost]

end Expr

namespace Term

def settingOf (setting : Word × Option Literal) : Setting :=
  (setting.1.name, setting.2.map fun value => String.ofList value.content)

theorem isKey_word (word : Word) : IsKey word.text where
  ne_nil := List.cons_ne_nil _ _
  trim_eq := word.trim_text
  not_mem := fun _ hc hmem => Text.not_mem_of_isAlphanum (word.isAlphanum _ hmem) (by decide) hc

theorem WritesSetting.spells {setting : Word × Option Literal} {text : List Char}
    (h : WritesSetting setting text) : Spells (settingOf setting) text := by
  cases h with
  | switch key hbefore hafter => exact .switch (isKey_word key) hbefore.blanks hafter.blanks
  | value key value hbefore hgap hgap' hafter =>
    exact .value value (isKey_word key) hbefore.blanks hgap.blanks hgap'.blanks hafter.blanks

theorem parseSettings_of_writes {settings : List ((Word × Option Literal) × List Char)}
    (hne : settings ≠ []) (h : ∀ setting ∈ settings, WritesSetting setting.1 setting.2) :
    parseSettings (['#'].intercalate (settings.map Prod.snd)) =
      .ok ((settings.map Prod.fst).map settingOf) := by
  obtain ⟨parts, htexts, hparts⟩ := exists_quiet_settings h
  rw [← htexts, ← text_join]
  refine parseSettings_join (ne_nil_of_map_eq htexts hne) (fun part hp => (hparts part hp).1.1.uncut) ?_
  rw [htexts, List.map_map]
  refine List.forall₂_map_left_iff.2 (List.forall₂_map_right_iff.2 (List.forall₂_same.2 ?_))
  exact fun setting hs => parseSetting_of_spells (h setting hs).spells

theorem applySettings_settingOf (context : Context) (settings : List (Word × Option Literal)) :
    context.applySettings (settings.map settingOf) = settings.foldlM applySetting context := by
  rw [Context.applySettings, List.foldlM_map]
  rfl

end Term

end TimeSeries
