import Mathlib.Data.List.Pairwise
import Mathlib.Data.List.Perm.Basic
import TimeSeries.Proofs.Formula.Changes
import TimeSeries.Proofs.Formula.Refusals

set_option autoImplicit false

/-!
# The order of options

Options with different targets commute, and an option makes the earlier ones with its target void. So
a list of options comes down to the last one for each target.
-/
namespace TimeSeries

namespace Context

def offer (context : Context) (setting : Setting) : Context :=
  Update.left (setOption setting.1 setting.2) context

variable {context final : Context} {setting first : Setting} {settings settings' rest : List Setting}

theorem offer_of_ok {change : Change} (h : Change.of setting = .ok change) :
    context.offer setting = change.applyTo context := by
  rw [offer, Update.left, setOption_eq, h]
  rfl

theorem offer_of_error {e : FormulaError} (h : Change.of setting = .error e) :
    context.offer setting = context := by
  rw [offer, Update.left, setOption_eq, h]
  rfl

theorem offer_comm (h : Target.of setting ≠ Target.of first) :
    (context.offer first).offer setting = (context.offer setting).offer first := by
  cases hsetting : Change.of setting with
  | error e => rw [offer_of_error hsetting, offer_of_error hsetting]
  | ok change =>
    cases hfirst : Change.of first with
    | error e => rw [offer_of_error hfirst, offer_of_error hfirst]
    | ok earlier =>
      rw [offer_of_ok hsetting, offer_of_ok hsetting, offer_of_ok hfirst, offer_of_ok hfirst]
      refine Change.applyTo_comm ?_
      rw [Change.target_of_ofKey hfirst, Change.target_of_ofKey hsetting]
      exact h.symm

theorem offer_absorb (hset : ∃ change, Change.of setting = .ok change)
    (h : Target.of setting = Target.of first) :
    (context.offer first).offer setting = context.offer setting := by
  obtain ⟨change, hchange⟩ := hset
  cases hfirst : Change.of first with
  | error e => rw [offer_of_error hfirst]
  | ok earlier =>
    rw [offer_of_ok hchange, offer_of_ok hchange, offer_of_ok hfirst]
    refine Change.applyTo_absorb ?_
    rw [Change.target_of_ofKey hfirst, Change.target_of_ofKey hchange]
    exact h.symm

theorem applySettings_eq_ok : context.applySettings settings = .ok final ↔
    (∀ setting ∈ settings, ∃ change, Change.of setting = .ok change) ∧
      settings.foldl offer context = final := by
  induction settings generalizing context with
  | nil => simp
  | cons first rest ih =>
    rw [applySettings_cons, List.forall_mem_cons, List.foldl_cons]
    cases hfirst : Change.of first with
    | error e => simp [Except.map, bind, Except.bind]
    | ok change =>
      rw [offer_of_ok hfirst]
      dsimp only [Except.map, bind, Except.bind]
      rw [ih]
      simp

end Context

/-! ## The last options -/

def optionsOf (target : Target) (settings : List Setting) : List Setting :=
  settings.filter (Target.of · = target)

/-- The options that no later one makes void. -/
def lastOptions : List Setting → List Setting
  | [] => []
  | setting :: rest =>
    if ∃ later ∈ rest, Target.of later = Target.of setting then lastOptions rest
    else setting :: lastOptions rest

section LastOptions

variable {context final : Context} {setting first : Setting} {settings settings' rest : List Setting}

theorem lastOptions_subset (settings : List Setting) : lastOptions settings ⊆ settings := by
  induction settings with
  | nil => exact List.Subset.refl []
  | cons first rest ih =>
    rw [lastOptions]
    split
    · exact List.subset_cons_of_subset first ih
    · exact List.cons_subset_cons first ih

theorem pairwise_lastOptions (settings : List Setting) :
    (lastOptions settings).Pairwise fun a b => Target.of a ≠ Target.of b := by
  induction settings with
  | nil => exact .nil
  | cons first rest ih =>
    rw [lastOptions]
    split
    · exact ih
    · rename_i hnone
      refine .cons (fun later hlater heq => hnone ⟨later, ?_, heq.symm⟩) ih
      exact lastOptions_subset rest hlater

theorem mem_lastOptions : setting ∈ lastOptions settings ↔
    (optionsOf (Target.of setting) settings).getLast? = some setting := by
  induction settings with
  | nil => simp [lastOptions, optionsOf]
  | cons first rest ih =>
    have hsome : optionsOf (Target.of setting) rest ≠ [] ↔
        ∃ later ∈ rest, Target.of later = Target.of setting := by
      simp [optionsOf, List.filter_eq_nil_iff]
    by_cases htarget : Target.of first = Target.of setting
    · have hcons : optionsOf (Target.of setting) (first :: rest) =
          first :: optionsOf (Target.of setting) rest := by simp [optionsOf, htarget]
      rw [lastOptions, htarget, hcons]
      split
      · rename_i hlater
        rw [ih, List.getLast?_cons_of_ne_nil (hsome.2 hlater)]
      · rename_i hnone
        have hnil : optionsOf (Target.of setting) rest = [] := not_not.1 (mt hsome.1 hnone)
        rw [hnil, List.mem_cons, ih, hnil]
        simp [eq_comm]
    · have hskip : optionsOf (Target.of setting) (first :: rest) =
          optionsOf (Target.of setting) rest := by simp [optionsOf, htarget]
      have hne : setting ≠ first := fun heq => htarget (congrArg Target.of heq.symm)
      rw [lastOptions, hskip]
      split
      · exact ih
      · rw [List.mem_cons, or_iff_right hne, ih]

theorem foldl_offer_absorb (h : ∀ setting ∈ rest, ∃ change, Change.of setting = .ok change)
    (hlater : ∃ later ∈ rest, Target.of later = Target.of first) :
    rest.foldl Context.offer (context.offer first) = rest.foldl Context.offer context := by
  induction rest generalizing context with
  | nil =>
    obtain ⟨later, hmem, -⟩ := hlater
    cases hmem
  | cons next rest ih =>
    obtain ⟨hnext, hrest⟩ := List.forall_mem_cons.1 h
    rw [List.foldl_cons, List.foldl_cons]
    -- The void option trades places with the next one until it meets one with its own target.
    by_cases htarget : Target.of next = Target.of first
    · rw [Context.offer_absorb hnext htarget]
    · rw [Context.offer_comm htarget]
      obtain ⟨later, hmem, heq⟩ := hlater
      rcases List.mem_cons.1 hmem with rfl | hmem
      · exact absurd heq htarget
      · exact ih hrest ⟨later, hmem, heq⟩

theorem foldl_offer_lastOptions (h : ∀ setting ∈ settings, ∃ change, Change.of setting = .ok change) :
    (lastOptions settings).foldl Context.offer context = settings.foldl Context.offer context := by
  induction settings generalizing context with
  | nil => rfl
  | cons first rest ih =>
    have hrest := (List.forall_mem_cons.1 h).2
    rw [lastOptions, List.foldl_cons]
    split
    · rename_i hlater
      rw [ih hrest, foldl_offer_absorb hrest hlater]
    · rw [List.foldl_cons, ih hrest]

/-- The last options for each target decide alone. -/
theorem foldl_offer_congr (h : ∀ setting ∈ settings, ∃ change, Change.of setting = .ok change)
    (h' : ∀ setting ∈ settings', ∃ change, Change.of setting = .ok change)
    (hlast : ∀ target, (optionsOf target settings').getLast? = (optionsOf target settings).getLast?) :
    settings'.foldl Context.offer context = settings.foldl Context.offer context := by
  have hnodup (settings : List Setting) : (lastOptions settings).Nodup :=
    (pairwise_lastOptions settings).imp fun hne heq => hne (congrArg Target.of heq)
  -- The last options are the same but may stand in another order, and any two of them commute.
  have hperm : (lastOptions settings').Perm (lastOptions settings) := by
    refine (List.perm_ext_iff_of_nodup (hnodup _) (hnodup _)).2 fun setting => ?_
    rw [mem_lastOptions, mem_lastOptions, hlast]
  rw [← foldl_offer_lastOptions h, ← foldl_offer_lastOptions h']
  refine hperm.foldl_eq' (fun a ha b hb state => ?_) context
  by_cases hab : a = b
  · rw [hab]
  · have hsymm : Std.Symm fun a b => Target.of a ≠ Target.of b := ⟨fun _ _ hne => hne.symm⟩
    exact Context.offer_comm ((pairwise_lastOptions settings').forall hb ha (Ne.symm hab))

theorem mem_optionsOf {target : Target} :
    setting ∈ optionsOf target settings ↔ setting ∈ settings ∧ Target.of setting = target := by
  simp [optionsOf]

theorem optionsOf_congr {α : Type} (f : List Setting → α) (h : ∀ setting ∈ settings ++ settings',
    f (optionsOf (Target.of setting) settings) = f (optionsOf (Target.of setting) settings'))
    (target : Target) : f (optionsOf target settings) = f (optionsOf target settings') := by
  by_cases hmem : ∃ setting ∈ settings ++ settings', Target.of setting = target
  · obtain ⟨setting, hsetting, rfl⟩ := hmem
    exact h setting hsetting
  · have hnil {part : List Setting} (hpart : part ⊆ settings ++ settings') :
        optionsOf target part = [] := by
      refine List.eq_nil_iff_forall_not_mem.2 fun setting hsetting => hmem ?_
      obtain ⟨hin, heq⟩ := mem_optionsOf.1 hsetting
      exact ⟨setting, hpart hin, heq⟩
    rw [hnil (List.subset_append_left _ _), hnil (List.subset_append_right _ _)]

end LastOptions

/-- An option sets its target to what its value asks for and no other target, or it is refused under
its key and the context stays as it was; an override is found under every spelling of its key. Options
that can be applied have the same result in every order that keeps those with the same target in order,
and also when all but some are left out, provided that the last one for each target stays. -/
theorem Context.options_by_target (context : Context) :
    (∀ (key : String) (value : Option String),
      (∃ change next, Text.lowerName key ≠ "" ∧
        Change.Asked (.ofKey (Text.lowerName key)) (value.map Text.trimmed) change ∧
        setOption key value context = .ok () next ∧ context.applyOption key value = .ok next ∧
        next.Shows change ∧
        ∀ target, target ≠ .ofKey (Text.lowerName key) → next.SameAt context target) ∨
      (Text.lowerName key ≠ "" → ∀ change,
        ¬ Change.Asked (.ofKey (Text.lowerName key)) (value.map Text.trimmed) change) ∧
      ∃ fault,
        setOption key value context = .error (.option (Text.lowerName key) fault) context ∧
        context.applyOption key value = .error (.option (Text.lowerName key) fault)) ∧
    ∀ settings final, context.applySettings settings = .ok final →
      (∀ settings', (∀ target, optionsOf target settings' = optionsOf target settings) →
        context.applySettings settings' = .ok final) ∧
      ∀ settings', settings' ⊆ settings →
        (∀ target, (optionsOf target settings').getLast? = (optionsOf target settings).getLast?) →
        context.applySettings settings' = .ok final := by
  constructor
  · intro key value
    have hset := context.setOption_eq (key, value)
    have happlied := context.applyOption_eq (key, value)
    cases hchange : Change.of (key, value) with
    | ok change =>
      rw [hchange] at hset happlied
      obtain ⟨hne, hasked⟩ := Change.ofKey_eq_ok.1 hchange
      refine .inl ⟨change, _, hne, hasked, hset, happlied, shows_applyTo context change, ?_⟩
      intro target htarget
      exact sameAt_applyTo (hasked.target_eq ▸ htarget)
    | error e =>
      rw [hchange] at hset happlied
      obtain ⟨fault, rfl⟩ := Change.ofKey_eq_error hchange
      refine .inr ⟨fun hne change hasked => ?_, fault, hset, happlied⟩
      have hok := Change.ofKey_eq_ok.2 ⟨hne, hasked⟩
      cases hchange.symm.trans hok
  · intro settings final h
    obtain ⟨hall, rfl⟩ := applySettings_eq_ok.1 h
    have hcongr {settings' : List Setting} (hsubset : settings' ⊆ settings)
        (hlast : ∀ target,
          (optionsOf target settings').getLast? = (optionsOf target settings).getLast?) :
        context.applySettings settings' = .ok (settings.foldl offer context) := by
      have hall' : ∀ setting ∈ settings', ∃ change, Change.of setting = .ok change :=
        fun setting hsetting => hall setting (hsubset hsetting)
      exact applySettings_eq_ok.2 ⟨hall', foldl_offer_congr hall hall' hlast⟩
    refine ⟨fun settings' hsame => hcongr (fun setting hsetting => ?_) fun target => ?_,
      fun settings' => hcongr⟩
    · have hmem : setting ∈ optionsOf (Target.of setting) settings' :=
        mem_optionsOf.2 ⟨hsetting, rfl⟩
      rw [hsame] at hmem
      exact (mem_optionsOf.1 hmem).1
    · rw [hsame]

/-- A source, a switch and an override are set twice, and a day once; then one option sets a further
day and one is refused. -/
theorem Context.options_by_target_memo :
    ∃ final, Context.default.applySettings [("DB", some " feed "), ("Memo", some "a"), ("nan", none),
        ("source", some "local"), ("NaN", some "off"), ("start", some "2020-02-01"),
        (" memo", some " b ")] = .ok final ∧
      final.source = "LOCAL" ∧ final.fillMissing = false ∧ final.override? "MEMO " = some "b" ∧
      Context.default.applySettings [("start", some "2020-02-01"), ("nan", none),
        ("NaN", some "off"), ("Memo", some "a"), ("DB", some " feed "), (" memo", some " b "),
        ("source", some "local")] = .ok final ∧
      Context.default.applySettings [(" memo", some " b "), ("start", some "2020-02-01"),
        ("source", some "local"), ("NaN", some "off")] = .ok final ∧
      (∃ next, setOption "END " (some "2020-03-01") final = .ok () next ∧
        next.stop = some ⟨2020, 3, 1, by decide⟩ ∧ next.SameAt final (.override "memo")) ∧
      ∃ fault, setOption "END " (some "soon") final = .error (.option "end" fault) final := by
  have happlied : (Context.default.applySettings [("DB", some " feed "), ("Memo", some "a"),
      ("nan", none), ("source", some "local"), ("NaN", some "off"), ("start", some "2020-02-01"),
      (" memo", some " b ")]).toOption.map
        (fun final => (final.source, final.fillMissing, final.override? "MEMO ")) =
      some ("LOCAL", false, some "b") := by
    decide +kernel
  obtain ⟨final, hfinal, hfields⟩ := Option.map_eq_some_iff.1 happlied
  obtain ⟨hsource, hrest⟩ := Prod.mk.inj hfields
  obtain ⟨hswitch, hmemo⟩ := Prod.mk.inj hrest
  have hok := eq_ok_of_toOption hfinal
  obtain ⟨hreordered, hselected⟩ := (options_by_target .default).2 _ final hok
  have hkey : Text.lowerName "END " = "end" := by decide +kernel
  have hset : ∃ next, setOption "END " (some "2020-03-01") final = .ok () next ∧
      next.stop = some ⟨2020, 3, 1, by decide⟩ ∧ next.SameAt final (.override "memo") := by
    rcases (options_by_target final).1 "END " (some "2020-03-01") with
      ⟨change, next, -, hasked, hset, -, hshows, hsame⟩ | ⟨-, fault, hrefused, -⟩
    · have hday : Pattern.ymd.read (Text.trimmed "2020-03-01").toList =
          .ok ⟨2020, 3, 1, by decide⟩ := rfl
      rw [hkey] at hasked hsame
      cases hasked with
      | stop _ hread =>
        cases hday.symm.trans hread
        exact ⟨next, hset, hshows, hsame _ nofun⟩
    · cases hrefused
  have hrefused : ∃ fault, setOption "END " (some "soon") final =
      .error (.option "end" fault) final := by
    rcases (options_by_target final).1 "END " (some "soon") with
      ⟨change, next, -, -, hset, -⟩ | ⟨-, fault, hrefused, -⟩
    · cases hset
    · exact ⟨fault, hkey ▸ hrefused⟩
  refine ⟨final, hok, hsource, hswitch, hmemo, ?_, ?_, hset, hrefused⟩
  · exact hreordered _ (optionsOf_congr id (by decide +kernel))
  · exact hselected _ (by decide +kernel) (optionsOf_congr List.getLast? (by decide +kernel))

end TimeSeries
