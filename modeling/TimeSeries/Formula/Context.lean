import TimeSeries.Formula.Split
import TimeSeries.NameMap

set_option autoImplicit false

/-!
# Contexts

The settings under which an expression is evaluated: where names without a source are looked up,
the bounds and the frequency that sources are asked for, and how missing operands count. Options
change a copy of the context, so that they do not reach beyond the expression they stand at.
-/
namespace TimeSeries

/-- The settings that hold at a point of the evaluation; `overrides` keeps those without a field. -/
structure Context where
  source : String
  start : Option Date
  stop : Option Date
  frequency : Option Frequency
  fillMissing : Bool
  overrides : NameMap String

namespace Context

/-- The context that looks names up in `source` and has no other settings. -/
def ofSource (source : String) : Context :=
  ⟨Text.normalName source, none, none, none, false, .empty⟩

def default : Context := ofSource "DEFAULT"

/-- The value of a setting that the context has no field for. -/
def override? (context : Context) (key : String) : Option String :=
  context.overrides.find? (Text.lowerName key)

def required (key : String) (value : Option String) : Except FormulaError String :=
  match value with
  | some value => if value = "" then .error (.option key .valueRequired) else .ok value
  | none => .error (.option key .valueRequired)

/-- A day as year, month and day with hyphens between. -/
def parseDay (key value : String) : Except FormulaError Date :=
  (Pattern.ymd.read value.toList).mapError fun fault => .option key (.notADate value fault)

/-- A word for true or false in any case; no word is true. -/
def parseSwitch (key : String) (value : Option String) : Except FormulaError Bool :=
  match value.map Text.lowercase with
  | none | some "true" | some "1" | some "yes" | some "on" => .ok true
  | some "false" | some "0" | some "no" | some "off" => .ok false
  | some other => .error (.option key (.notABoolean other))

/-- Sets what a key in its usual form stands for. -/
def setKey (key : String) (value : Option String) : Update Context Unit :=
  match key with
  | "" => throw (.option "" .emptyName)
  | "source" | "db" => do
    let source ← ofExcept (required key value)
    modify fun context => { context with source := Text.uppercase source }
  | "start" => do
    let text ← ofExcept (required key value)
    let day ← ofExcept (parseDay key text)
    modify fun context => { context with start := some day }
  | "end" => do
    let text ← ofExcept (required key value)
    let day ← ofExcept (parseDay key text)
    modify fun context => { context with stop := some day }
  | "freq" | "frequency" => do
    let code ← ofExcept (required key value)
    match parseFrequency code with
    | .ok frequency => modify fun context => { context with frequency := some frequency }
    | .error error => throw (.option key (.notAFrequency error))
  | "nan" => do
    let on ← ofExcept (parseSwitch key value)
    modify fun context => { context with fillMissing := on }
  | _ => modify fun context =>
    { context with overrides := context.overrides.insert key (value.getD "true") }

def setOption (key : String) (value : Option String) : Update Context Unit :=
  setKey (Text.lowerName key) (value.map Text.trimmed)

def applyOption (context : Context) (key : String) (value : Option String) :
    Except FormulaError Context :=
  Update.result (setOption key value) context

def applySettings (context : Context) (settings : List Setting) : Except FormulaError Context :=
  settings.foldlM (fun context (key, value) => context.applyOption key value) context

end Context

end TimeSeries
