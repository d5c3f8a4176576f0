import TimeSeries.Formula.Library
import TimeSeries.Proofs.NameMap
import TimeSeries.Proofs.Text.Ascii
import TimeSeries.Proofs.Text.Case

set_option autoImplicit false

/-!
# Registries of functions

A registry only grows: what was added stays and nothing takes its place. Every function is found
under its name, and so is every legacy function that has no blanks at the ends of its name; one that
has them is accepted and never found, since the names that are looked up are trimmed.
-/
namespace TimeSeries

/-- A request to a registry: to add a function, or to add one under its literal spelling. -/
inductive FunctionRequest where
  | function (added : Function)
  | legacy (added : Function)

def FunctionRequest.update : FunctionRequest → Update FunctionRegistry Unit
  | function added => FunctionRegistry.add added
  | legacy added => FunctionRegistry.addLegacy added

def FunctionRequest.perform (registry : FunctionRegistry) (request : FunctionRequest) :
    Except FormulaError FunctionRegistry :=
  Update.result request.update registry

/-! ## Names of functions -/

theorem ascii_functionName : ∀ c : Char, c.toNat < 128 →
    (c.isUpper || c.isDigit || c == '_') = true →
    c.toUpper = c ∧ Text.isBlank c = false ∧ c ≠ '%' :=
  Text.forall_ascii (by decide +kernel)

theorem toNat_lt_of_functionName {c : Char} (h : (c.isUpper || c.isDigit || c == '_') = true) :
    c.toNat < 128 := by
  simp only [Bool.or_eq_true, beq_iff_eq] at h
  rcases h with (h | h) | rfl
  · have halpha : c.isAlpha = true := by
      change (c.isUpper || c.isLower) = true
      rw [h, Bool.true_or]
    have hrange := Text.toNat_of_isAlphanum (Text.isAlphanum_of_isAlpha halpha)
    omega
  · have hrange := Text.toNat_of_isAlphanum (Text.isAlphanum_of_isDigit h)
    omega
  · decide

theorem Function.lookupName_of_isFunctionName {name : String}
    (h : FunctionRegistry.isFunctionName name = true) : lookupName name = name := by
  have hchars : ∀ c ∈ name.toList, Text.upperChar c = [c] ∧ Text.isBlank c = false ∧ c ≠ '%' := by
    intro c hc
    simp only [FunctionRegistry.isFunctionName, Bool.and_eq_true, List.all_eq_true] at h
    have hname := h.2 c hc
    have hlt := toNat_lt_of_functionName hname
    obtain ⟨hupper, hrest⟩ := ascii_functionName c hlt hname
    refine ⟨?_, hrest⟩
    rw [Text.upperChar, if_pos hlt, hupper]
  have htrim : Text.trim name.toList = name.toList :=
    Text.trim_eq_self (Text.hasSolidEnds_of_forall fun c hc => (hchars c hc).2.1)
  have hupper : Text.upper name.toList = name.toList := by
    rw [Text.upper, List.flatMap_congr fun c hc => (hchars c hc).1, List.flatMap_singleton']
  have hspell : (name.toList.flatMap fun c => if c = '%' then ['P', 'C', 'T'] else [c]) =
      name.toList := by
    rw [List.flatMap_congr fun c hc => if_neg (hchars c hc).2.2, List.flatMap_singleton']
  rw [lookupName, Text.normalName, Text.uppercase, Text.trimmed, htrim, String.ofList_toList,
    hupper, String.toList_ofList, hspell, String.ofList_toList]

namespace FunctionRegistry

variable {registry registry' : FunctionRegistry} {request : FunctionRequest} {added : Function}
  {name : String}

/-! ## What a request does -/

theorem add_eq (added : Function) (registry : FunctionRegistry) :
    add added registry =
      if isFunctionName added.name then
        if registry.functions.contains added.name then
          .error (.registration (.functionTaken added.name)) registry
        else .ok () { registry with functions := registry.functions.insert added.name added }
      else .error (.registration (.functionName added.name)) registry := by
  unfold add
  cases isFunctionName added.name with
  | false => rfl
  | true =>
    simp only [Bool.not_true, Bool.false_eq_true, if_false, if_true, Update.get_bind,
      Update.ite_apply]
    cases registry.functions.contains added.name <;> rfl

theorem addLegacy_eq (added : Function) (registry : FunctionRegistry) :
    addLegacy added registry =
      if isLegacyName added.name then
        if registry.legacy.contains added.name then
          .error (.registration (.legacyTaken added.name)) registry
        else .ok () { registry with legacy := registry.legacy.insert added.name added }
      else .error (.registration (.legacyName added.name)) registry := by
  unfold addLegacy
  cases isLegacyName added.name with
  | false => rfl
  | true =>
    simp only [Bool.not_true, Bool.false_eq_true, if_false, if_true, Update.get_bind,
      Update.ite_apply]
    cases registry.legacy.contains added.name <;> rfl

/-- All that a request does: it adds its function to those of its kind under a name that was free, or
it fails and leaves the registry as it was. -/
inductive Effect (registry : FunctionRegistry) :
    FunctionRequest → EStateM.Result FormulaError FunctionRegistry Unit → Prop
  | function {added : Function} : isFunctionName added.name = true →
      added.name ∉ registry.functions.names →
      Effect registry (.function added)
        (.ok () { registry with functions := registry.functions.insert added.name added })
  | legacy {added : Function} : added.name ∉ registry.legacy.names →
      Effect registry (.legacy added)
        (.ok () { registry with legacy := registry.legacy.insert added.name added })
  | failed {request : FunctionRequest} (e : FormulaError) : Effect registry request (.error e registry)

theorem effect_update (registry : FunctionRegistry) (request : FunctionRequest) :
    registry.Effect request (request.update registry) := by
  cases request with
  | function added =>
    rw [FunctionRequest.update, add_eq]
    split
    · rename_i hname
      split
      · exact .failed _
      · rename_i hfree
        exact .function hname (NameMap.contains_eq_false_iff.1 (Bool.eq_false_iff.2 hfree))
    · exact .failed _
  | legacy added =>
    rw [FunctionRequest.update, addLegacy_eq]
    split
    · split
      · exact .failed _
      · rename_i hfree
        exact .legacy (NameMap.contains_eq_false_iff.1 (Bool.eq_false_iff.2 hfree))
    · exact .failed _

/-- Functions stand under their names, each kind apart, and those that are no legacy functions are
looked up under them. -/
structure IsKeyed (registry : FunctionRegistry) : Prop where
  functions : registry.functions.IsKeyedBy Function.name
  legacy : registry.legacy.IsKeyedBy Function.name
  isFunctionName : ∀ name ∈ registry.functions.names, isFunctionName name = true

theorem isKeyed_empty : empty.IsKeyed :=
  ⟨NameMap.isKeyedBy_empty _, NameMap.isKeyedBy_empty _, nofun⟩

theorem isKeyed_standard : standard.IsKeyed := by
  have hfunctions :
      (standard.functions.entries.all fun entry => entry.2.name == entry.1) = true := by
    decide +kernel
  have hlegacy : (standard.legacy.entries.all fun entry => entry.2.name == entry.1) = true := by
    decide +kernel
  have hnames : (standard.functions.names.all FunctionRegistry.isFunctionName) = true := by
    decide +kernel
  refine ⟨⟨fun entry he => ?_, by decide +kernel⟩, ⟨fun entry he => ?_, by decide +kernel⟩,
    List.all_eq_true.1 hnames⟩
  · exact beq_iff_eq.1 (List.all_eq_true.1 hfunctions entry he)
  · exact beq_iff_eq.1 (List.all_eq_true.1 hlegacy entry he)

def next (registry : FunctionRegistry) (request : FunctionRequest) : FunctionRegistry :=
  Update.left request.update registry

def after (registry : FunctionRegistry) (requests : List FunctionRequest) : FunctionRegistry :=
  requests.foldl next registry

theorem next_of_ok (h : request.perform registry = .ok registry') :
    registry.next request = registry' := by
  rw [FunctionRequest.perform, Update.result] at h
  rw [next, Update.left]
  split at h <;> cases h
  rfl

theorem next_of_error {e : FormulaError} (h : request.perform registry = .error e) :
    registry.next request = registry := by
  have heffect := registry.effect_update request
  rw [FunctionRequest.perform, Update.result] at h
  rw [next, Update.left]
  cases hupdate : request.update registry with
  | ok _ registry' =>
    rw [hupdate] at h
    cases h
  | error e left =>
    rw [hupdate] at heffect
    cases heffect
    rfl

theorem after_append (registry : FunctionRegistry) (earlier later : List FunctionRequest) :
    registry.after (earlier ++ later) = (registry.after earlier).after later :=
  List.foldl_append

/-! ## What every request keeps -/

theorem IsKeyed.next (h : registry.IsKeyed) (request : FunctionRequest) :
    (registry.next request).IsKeyed := by
  have heffect := registry.effect_update request
  rw [FunctionRegistry.next, Update.left]
  generalize request.update registry = result at heffect
  cases heffect with
  | function hname hfree =>
    refine ⟨h.functions.insert rfl hfree, h.legacy, fun name hmem => ?_⟩
    rcases NameMap.mem_names_insert.1 hmem with rfl | hmem
    · exact hname
    · exact h.isFunctionName name hmem
  | legacy hfree => exact ⟨h.functions, h.legacy.insert rfl hfree, h.isFunctionName⟩
  | failed e => exact h

theorem IsKeyed.after (h : registry.IsKeyed) (requests : List FunctionRequest) :
    (registry.after requests).IsKeyed := by
  induction requests generalizing registry with
  | nil => exact h
  | cons request rest ih => exact ih (h.next request)

def Lists (registry : FunctionRegistry) : FunctionRequest → Prop
  | .function added => added ∈ registry.functions.values
  | .legacy added => added ∈ registry.legacy.values

theorem Lists.next (h : registry.Lists request) (other : FunctionRequest) :
    (registry.next other).Lists request := by
  have heffect := registry.effect_update other
  rw [FunctionRegistry.next, Update.left]
  generalize other.update registry = result at heffect
  cases heffect with
  | function hname hfree =>
    cases request with
    | function _ => exact (NameMap.mem_values_insert_iff hfree).2 (.inr h)
    | legacy _ => exact h
  | legacy hfree =>
    cases request with
    | function _ => exact h
    | legacy _ => exact (NameMap.mem_values_insert_iff hfree).2 (.inr h)
  | failed e => exact h

theorem Lists.after (h : registry.Lists request) (requests : List FunctionRequest) :
    (registry.after requests).Lists request := by
  induction requests generalizing registry with
  | nil => exact h
  | cons other rest ih => exact ih (h.next other)

theorem lists_of_perform (h : request.perform registry = .ok registry') :
    registry'.Lists request := by
  have heffect := registry.effect_update request
  rw [FunctionRequest.perform, Update.result] at h
  generalize request.update registry = result at heffect h
  cases heffect with
  | function hname hfree =>
    cases h
    exact (NameMap.mem_values_insert_iff hfree).2 (.inl rfl)
  | legacy hfree =>
    cases h
    exact (NameMap.mem_values_insert_iff hfree).2 (.inl rfl)
  | failed e => cases h

/-! ## What is found -/

/-- No two functions of a kind have the same name, and each answers to the spellings of its name and
to no other text. -/
structure IsUnambiguous (registry : FunctionRegistry) : Prop where
  functions : (registry.functions.values.map Function.name).Nodup
  legacy : (registry.legacy.values.map Function.name).Nodup
  get? : ∀ name function, registry.get? name = some function ↔
    function ∈ registry.functions.values ∧ function.name = Function.lookupName name
  getLegacy? : ∀ name function, registry.getLegacy? name = some function ↔
    function ∈ registry.legacy.values ∧ function.name = Text.trimmed name

theorem IsKeyed.isUnambiguous (h : registry.IsKeyed) : registry.IsUnambiguous where
  functions := by
    rw [h.functions.map_values]
    exact h.functions.nodup
  legacy := by
    rw [h.legacy.map_values]
    exact h.legacy.nodup
  get? _ _ := h.functions.find?_eq_some_iff
  getLegacy? _ _ := h.legacy.find?_eq_some_iff

/-- The function of the request is listed and found under its name, except that a legacy function
with blanks at the ends of its name is never found. -/
def Answers (registry : FunctionRegistry) : FunctionRequest → Prop
  | .function added => added ∈ registry.definitions ∧ registry.get? added.name = some added
  | .legacy added => added ∈ registry.definitions ∧
      if Text.trimmed added.name = added.name then registry.getLegacy? added.name = some added
      else ∀ name, registry.getLegacy? name ≠ some added

theorem IsKeyed.answers (h : registry.IsKeyed) (hlists : registry.Lists request) :
    registry.Answers request := by
  cases request with
  | function added =>
    refine ⟨List.mem_append_left _ hlists, (h.isUnambiguous.get? _ _).2 ⟨hlists, ?_⟩⟩
    have hmem : added.name ∈ registry.functions.names := by
      rw [← h.functions.map_values]
      exact List.mem_map_of_mem hlists
    exact (Function.lookupName_of_isFunctionName (h.isFunctionName _ hmem)).symm
  | legacy added =>
    refine ⟨List.mem_append_right _ hlists, ?_⟩
    split
    · rename_i htrimmed
      exact (h.isUnambiguous.getLegacy? _ _).2 ⟨hlists, htrimmed.symm⟩
    · rename_i hblanks
      intro name hfound
      have hname := ((h.isUnambiguous.getLegacy? _ _).1 hfound).2
      rw [hname, Text.trimmed_trimmed] at hblanks
      exact hblanks rfl

/-- Whatever was registered before and is registered later, the functions of each kind have names of
their own and answer to these, a function that was added is found, and a request that failed makes
no difference. -/
theorem answers_after {start : FunctionRegistry} (hstart : start = empty ∨ start = standard)
    (earlier : List FunctionRequest) :
    (start.after earlier).IsUnambiguous ∧
    ∀ request later,
      (∀ registry, request.perform (start.after earlier) = .ok registry →
        (registry.after later).Answers request) ∧
      ∀ e, request.perform (start.after earlier) = .error e →
        start.after (earlier ++ request :: later) = start.after (earlier ++ later) := by
  have hkeyed : start.IsKeyed := by
    rcases hstart with rfl | rfl
    · exact isKeyed_empty
    · exact isKeyed_standard
  have hearlier := hkeyed.after earlier
  refine ⟨hearlier.isUnambiguous, fun request later => ⟨fun registry h => ?_, fun e h => ?_⟩⟩
  · have hnext := hearlier.next request
    rw [next_of_ok h] at hnext
    exact (hnext.after later).answers ((lists_of_perform h).after later)
  · rw [after_append, after_append]
    exact congrArg (FunctionRegistry.after · later) (next_of_error h)

def unchanged (name : String) : Function := ⟨name, "", .series fun table _ => .ok (.series table)⟩

/-- A function of a new name is found after a request for the same name, which fails. -/
theorem answers_after_twice : ∃ registry,
    standard.register (unchanged "SAME") = .ok registry ∧
    (registry.after [.function (unchanged "SAME"), .legacy (unchanged "SAME%")]).get? "SAME" =
      some (unchanged "SAME") := by
  have hname : isFunctionName "SAME" = true := by decide +kernel
  have hfree : standard.functions.contains "SAME" = false := by decide +kernel
  have hregister : standard.register (unchanged "SAME") =
      .ok ⟨standard.functions.insert "SAME" (unchanged "SAME"), standard.legacy⟩ := by
    rw [register, Update.result, add_eq]
    simp [unchanged, hname, hfree]
  exact ⟨_, hregister,
    (((answers_after (.inr rfl) []).2 (.function (unchanged "SAME")) _).1 _ hregister).2⟩

/-- A legacy function with a blank before its name is accepted and not found. -/
theorem exists_legacy_not_found : ∃ registry,
    empty.registerLegacy (unchanged " SAME") = .ok registry ∧ registry.getLegacy? " SAME" = none :=
  ⟨_, rfl, rfl⟩

end FunctionRegistry

end TimeSeries
