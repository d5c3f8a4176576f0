import TimeSeries.Formula.Context
import TimeSeries.Proofs.NameMap
import TimeSeries.Proofs.Outcome

set_option autoImplicit false

/-!
# What an option changes

An option sets a single target: a field of the context, or the override of its key. What it sets the
target to, and whether it can be applied at all, does not depend on the context.
-/
namespace TimeSeries

/-- What an option sets: a field of the context, or the override of a key. -/
inductive Target where
  | source
  | start
  | stop
  | frequency
  | fillMissing
  | override (key : String)
deriving DecidableEq

def Target.ofKey (key : String) : Target :=
  match key with
  | "source" | "db" => .source
  | "start" => .start
  | "end" => .stop
  | "freq" | "frequency" => .frequency
  | "nan" => .fillMissing
  | key => .override key

def Target.of (setting : Setting) : Target := ofKey (Text.lowerName setting.1)

/-- What an option makes of its target. -/
inductive Change where
  | source (id : String)
  | start (day : Date)
  | stop (day : Date)
  | frequency (code : Frequency)
  | fillMissing (on : Bool)
  | override (key value : String)

namespace Change

def target : Change → Target
  | source _ => .source
  | start _ => .start
  | stop _ => .stop
  | frequency _ => .frequency
  | fillMissing _ => .fillMissing
  | override key _ => .override key

def applyTo (context : Context) : Change → Context
  | source id => { context with source := id }
  | start day => { context with start := some day }
  | stop day => { context with stop := some day }
  | frequency code => { context with frequency := some code }
  | fillMissing on => { context with fillMissing := on }
  | override key value => { context with overrides := context.overrides.insert key value }

/-- The change of a target that a value, without blanks around it, asks for. -/
inductive Asked : Target → Option String → Change → Prop
  | source {text : String} : text ≠ "" →
      Asked .source (some text) (.source (Text.uppercase text))
  | start {text : String} {day : Date} : text ≠ "" → Pattern.ymd.read text.toList = .ok day →
      Asked .start (some text) (.start day)
  | stop {text : String} {day : Date} : text ≠ "" → Pattern.ymd.read text.toList = .ok day →
      Asked .stop (some text) (.stop day)
  | frequency {text : String} {code : Frequency} : text ≠ "" → parseFrequency text = .ok code →
      Asked .frequency (some text) (.frequency code)
  | switchedOn {value : Option String} :
      (∀ word, value = some word → Text.lowercase word ∈ ["true", "1", "yes", "on"]) →
      Asked .fillMissing value (.fillMissing true)
  | switchedOff {word : String} : Text.lowercase word ∈ ["false", "0", "no", "off"] →
      Asked .fillMissing (some word) (.fillMissing false)
  | override {key : String} {value : Option String} :
      Asked (.override key) value (.override key (value.getD "true"))

/-- The change that a value asks for, if it asks for one; `key` is for the error. -/
def read (key : String) (value : Option String) : Target → Except FormulaError Change
  | .source => (Context.required key value).map fun id => source (Text.uppercase id)
  | .start => ((Context.required key value).bind (Context.parseDay key)).map start
  | .stop => ((Context.required key value).bind (Context.parseDay key)).map stop
  | .frequency =>
    (Context.required key value).bind fun text =>
      match parseFrequency text with
      | .ok code => .ok (frequency code)
      | .error error => .error (.option key (.notAFrequency error))
  | .fillMissing => (Context.parseSwitch key value).map fillMissing
  | .override name => .ok (override name (value.getD "true"))

/-- The change that a key in its usual form asks for, whatever the context. -/
def ofKey (key : String) (value : Option String) : Except FormulaError Change :=
  if key = "" then .error (.option "" .emptyName) else read key value (.ofKey key)

def of (setting : Setting) : Except FormulaError Change :=
  ofKey (Text.lowerName setting.1) (setting.2.map Text.trimmed)

section Reading

variable {change : Change} {target : Target} {e : FormulaError} {key text : String}
  {value : Option String} {day : Date} {on : Bool}

theorem required_eq_ok : Context.required key value = .ok text ↔ value = some text ∧ text ≠ "" := by
  cases value with
  | none => simp [Context.required]
  | some given =>
    by_cases hempty : given = ""
    · simp only [Context.required, hempty, if_true, reduceCtorEq, Option.some.injEq, false_iff]
      rintro ⟨rfl, hne⟩
      exact hne rfl
    · simp only [Context.required, hempty, if_false, Except.ok.injEq, Option.some.injEq]
      exact ⟨fun h => ⟨h, h ▸ hempty⟩, And.left⟩

theorem requiredDay_eq_ok : (Context.required key value).bind (Context.parseDay key) = .ok day ↔
    ∃ text, value = some text ∧ text ≠ "" ∧ Pattern.ymd.read text.toList = .ok day := by
  constructor
  · intro h
    obtain ⟨text, htext, hday⟩ := bind_eq_ok.1 h
    obtain ⟨rfl, hne⟩ := required_eq_ok.1 htext
    exact ⟨text, rfl, hne, mapError_eq_ok.1 hday⟩
  · rintro ⟨text, rfl, hne, hday⟩
    exact bind_eq_ok.2 ⟨text, required_eq_ok.2 ⟨rfl, hne⟩, mapError_eq_ok.2 hday⟩

theorem parseSwitch_eq_ok :
    Context.parseSwitch key value = .ok on ↔ Asked .fillMissing value (.fillMissing on) := by
  constructor
  · intro h
    cases value with
    | none =>
      cases h
      exact .switchedOn nofun
    | some word =>
      have hon (hword : Text.lowercase word ∈ ["true", "1", "yes", "on"]) :
          Asked .fillMissing (some word) (.fillMissing true) :=
        .switchedOn fun _ heq => Option.some.inj heq ▸ hword
      unfold Context.parseSwitch at h
      split at h <;> rename_i hword <;> cases h
      · cases hword
      all_goals
        have hlower := Option.some.inj hword
        first
        | exact hon (by simp [hlower])
        | exact .switchedOff (by simp [hlower])
  · rintro (_ | _ | _ | _ | hon | hoff | _)
    · cases value with
      | none => rfl
      | some word =>
        have hword := hon word rfl
        simp only [List.mem_cons, List.not_mem_nil, or_false] at hword
        rcases hword with hword | hword | hword | hword <;> simp [Context.parseSwitch, hword]
    · simp only [List.mem_cons, List.not_mem_nil, or_false] at hoff
      rcases hoff with hword | hword | hword | hword <;> simp [Context.parseSwitch, hword]

theorem read_eq_ok : read key value target = .ok change ↔ Asked target value change := by
  constructor
  · intro h
    cases target with
    | source =>
      obtain ⟨text, htext, rfl⟩ := map_eq_ok.1 h
      obtain ⟨rfl, hne⟩ := required_eq_ok.1 htext
      exact .source hne
    | start =>
      obtain ⟨day, hday, rfl⟩ := map_eq_ok.1 h
      obtain ⟨text, rfl, hne, hday⟩ := requiredDay_eq_ok.1 hday
      exact .start hne hday
    | stop =>
      obtain ⟨day, hday, rfl⟩ := map_eq_ok.1 h
      obtain ⟨text, rfl, hne, hday⟩ := requiredDay_eq_ok.1 hday
      exact .stop hne hday
    | frequency =>
      obtain ⟨text, htext, hcode⟩ := bind_eq_ok.1 h
      obtain ⟨rfl, hne⟩ := required_eq_ok.1 htext
      split at hcode
      · rename_i hparse
        cases hcode
        exact .frequency hne hparse
      · cases hcode
    | fillMissing =>
      obtain ⟨on, hon, rfl⟩ := map_eq_ok.1 h
      exact parseSwitch_eq_ok.1 hon
    | override key =>
      cases h
      exact .override
  · intro h
    cases h with
    | source hne => exact map_eq_ok.2 ⟨_, required_eq_ok.2 ⟨rfl, hne⟩, rfl⟩
    | start hne hday => exact map_eq_ok.2 ⟨_, requiredDay_eq_ok.2 ⟨_, rfl, hne, hday⟩, rfl⟩
    | stop hne hday => exact map_eq_ok.2 ⟨_, requiredDay_eq_ok.2 ⟨_, rfl, hne, hday⟩, rfl⟩
    | frequency hne hcode =>
      refine bind_eq_ok.2 ⟨_, required_eq_ok.2 ⟨rfl, hne⟩, ?_⟩
      rw [hcode]
    | switchedOn hon => exact map_eq_ok.2 ⟨_, parseSwitch_eq_ok.2 (.switchedOn hon), rfl⟩
    | switchedOff hoff => exact map_eq_ok.2 ⟨_, parseSwitch_eq_ok.2 (.switchedOff hoff), rfl⟩
    | override => rfl

theorem Asked.target_eq (h : Asked target value change) : change.target = target := by
  cases h <;> rfl

theorem ofKey_eq_ok :
    ofKey key value = .ok change ↔ key ≠ "" ∧ Asked (.ofKey key) value change := by
  rw [ofKey]
  split
  · rename_i hempty
    simp [hempty]
  · rename_i hne
    simp [hne, read_eq_ok]

theorem target_of_ofKey (h : ofKey key value = .ok change) : change.target = .ofKey key :=
  (ofKey_eq_ok.1 h).2.target_eq

theorem required_eq_error (h : Context.required key value = .error e) :
    ∃ fault, e = .option key fault := by
  unfold Context.required at h
  split at h
  · split at h
    · cases h
      exact ⟨_, rfl⟩
    · cases h
  · cases h
    exact ⟨_, rfl⟩

theorem requiredDay_eq_error
    (h : (Context.required key value).bind (Context.parseDay key) = .error e) :
    ∃ fault, e = .option key fault := by
  rcases bind_eq_error.1 h with h | ⟨day, -, h⟩
  · exact required_eq_error h
  · obtain ⟨fault, -, rfl⟩ := mapError_eq_error.1 h
    exact ⟨_, rfl⟩

theorem read_eq_error (h : read key value target = .error e) : ∃ fault, e = .option key fault := by
  cases target with
  | source => exact required_eq_error (map_eq_error.1 h)
  | start => exact requiredDay_eq_error (map_eq_error.1 h)
  | stop => exact requiredDay_eq_error (map_eq_error.1 h)
  | frequency =>
    rcases bind_eq_error.1 h with h | ⟨text, -, h⟩
    · exact required_eq_error h
    · split at h <;> cases h
      exact ⟨_, rfl⟩
  | fillMissing =>
    rw [read, map_eq_error] at h
    unfold Context.parseSwitch at h
    split at h <;> cases h
    exact ⟨_, rfl⟩
  | override key => cases h

theorem ofKey_eq_error (h : ofKey key value = .error e) : ∃ fault, e = .option key fault := by
  rw [ofKey] at h
  split at h
  · rename_i hempty
    subst hempty
    cases h
    exact ⟨_, rfl⟩
  · exact read_eq_error h

end Reading

section Applying

variable {change other : Change} {context : Context}

theorem applyTo_comm (h : change.target ≠ other.target) :
    other.applyTo (change.applyTo context) = change.applyTo (other.applyTo context) := by
  cases change <;> cases other <;> first | exact absurd rfl h | rfl | skip
  rename_i key value key' value'
  have hne : key ≠ key' := fun heq => h (congrArg Target.override heq)
  simp only [applyTo, NameMap.insert_comm hne]

theorem applyTo_absorb (h : change.target = other.target) :
    other.applyTo (change.applyTo context) = other.applyTo context := by
  cases change <;> cases other <;> first | contradiction | rfl | skip
  rename_i key value key' value'
  obtain rfl : key = key' := Target.override.inj h
  simp only [applyTo, NameMap.insert_insert_self]

end Applying

end Change

namespace Context

def SameAt (a b : Context) : Target → Prop
  | .source => a.source = b.source
  | .start => a.start = b.start
  | .stop => a.stop = b.stop
  | .frequency => a.frequency = b.frequency
  | .fillMissing => a.fillMissing = b.fillMissing
  | .override key => a.overrides.find? key = b.overrides.find? key

/-- The context has what a change makes of its target; an override is found under every spelling of
its key. -/
def Shows (context : Context) : Change → Prop
  | .source id => context.source = id
  | .start day => context.start = some day
  | .stop day => context.stop = some day
  | .frequency code => context.frequency = some code
  | .fillMissing on => context.fillMissing = on
  | .override key value => ∀ spelling, Text.lowerName spelling = key →
      context.override? spelling = some value

variable {context : Context} {change : Change} {target : Target}

theorem sameAt_applyTo (h : target ≠ change.target) :
    (change.applyTo context).SameAt context target := by
  cases change <;> cases target <;> first | exact absurd rfl h | rfl | skip
  rename_i key value key'
  exact NameMap.find?_insert_of_ne fun heq => h (congrArg Target.override heq)

theorem shows_applyTo (context : Context) (change : Change) :
    (change.applyTo context).Shows change := by
  cases change with
  | override key value =>
    rintro spelling rfl
    exact NameMap.find?_insert_self
  | _ => rfl

/-- What is left of a context by an option that asks for a change, or is refused. -/
def outcome (context : Context) :
    Except FormulaError Change → EStateM.Result FormulaError Context Unit
  | .ok change => .ok () (change.applyTo context)
  | .error e => .error e context

/-- Setting an option makes the change that it asks for, and leaves the context as it was when the
option is refused. -/
theorem setKey_eq (context : Context) (key : String) (value : Option String) :
    setKey key value context = context.outcome (Change.ofKey key value) := by
  unfold setKey
  split
  case h_1 => rfl
  case h_2 | h_3 =>
    change _ = context.outcome ((required _ value).map _)
    cases required _ value with
    | error e => rw [Update.ofExcept_error_bind]; rfl
    | ok id => rw [Update.ofExcept_ok_bind]; rfl
  case h_4 | h_5 =>
    change _ = context.outcome (((required _ value).bind _).map _)
    cases required _ value with
    | error e => rw [Update.ofExcept_error_bind]; rfl
    | ok text =>
      rw [Update.ofExcept_ok_bind, Except.bind]
      cases parseDay _ text with
      | error e => rw [Update.ofExcept_error_bind]; rfl
      | ok day => rw [Update.ofExcept_ok_bind]; rfl
  case h_6 | h_7 =>
    change _ = context.outcome ((required _ value).bind _)
    cases required _ value with
    | error e => rw [Update.ofExcept_error_bind]; rfl
    | ok text =>
      rw [Update.ofExcept_ok_bind, Except.bind]
      cases parseFrequency text <;> rfl
  case h_8 =>
    change _ = context.outcome ((parseSwitch _ value).map _)
    cases parseSwitch _ value with
    | error e => rw [Update.ofExcept_error_bind]; rfl
    | ok on => rw [Update.ofExcept_ok_bind]; rfl
  case h_9 hempty _ _ _ _ _ _ _ =>
    have htarget : Target.ofKey key = .override key := by
      unfold Target.ofKey
      split <;> first | contradiction | rfl
    rw [Change.ofKey, if_neg hempty, htarget]
    rfl

theorem setOption_eq (context : Context) (setting : Setting) :
    setOption setting.1 setting.2 context = context.outcome (Change.of setting) :=
  context.setKey_eq _ _

/-- What an option does, and whether it is refused, does not depend on the context. -/
theorem applyOption_eq (context : Context) (setting : Setting) :
    context.applyOption setting.1 setting.2 =
      (Change.of setting).map fun change => change.applyTo context := by
  rw [applyOption, Update.result, setOption_eq]
  cases Change.of setting <;> rfl

theorem applyOption_eq_error {key : String} {value : Option String} {e : FormulaError}
    (h : context.applyOption key value = .error e) :
    ∃ fault, e = .option (Text.lowerName key) fault := by
  rw [context.applyOption_eq (key, value)] at h
  exact Change.ofKey_eq_error (map_eq_error.1 h)

@[simp] theorem applySettings_nil (context : Context) : context.applySettings [] = .ok context := by
  rfl

theorem applySettings_cons (context : Context) (setting : Setting) (rest : List Setting) :
    context.applySettings (setting :: rest) =
      ((Change.of setting).map fun change => change.applyTo context) >>=
        fun next => next.applySettings rest := by
  rw [← applyOption_eq, applySettings, List.foldlM_cons]
  rfl

end Context

end TimeSeries
