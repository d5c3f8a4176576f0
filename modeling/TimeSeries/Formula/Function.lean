import TimeSeries.Formula.Context

set_option autoImplicit false

/-!
# Functions

A function takes series, and maybe a number of periods; its transformation says which. Functions
are registered under names in normal form. Beside them there are legacy functions under their
literal spelling, which are consulted when the normal form leads nowhere.
-/
namespace TimeSeries

/-- What a function does with its arguments, once they have been checked. -/
inductive Transformation where
  /-- of exactly one series -/
  | series (run : Table → Context → Except FormulaError Value)
  /-- of one series and maybe a whole number of periods -/
  | seriesWithPeriods (run : Table → Option Nat → Context → Except FormulaError Value)
  /-- of one series or more -/
  | seriesList (run : List Table → Context → Except FormulaError Value)

/-- The least and the greatest number of arguments; `none` where there is no greatest. -/
def Transformation.arity : Transformation → Nat × Option Nat
  | series _ => (1, some 1)
  | seriesWithPeriods _ => (1, some 2)
  | seriesList _ => (1, none)

structure Function where
  name : String
  description : String
  transformation : Transformation

namespace Function

def seriesAt (function : String) (position : Nat) : Value → Except FormulaError Table
  | .series table => .ok table
  | other => argumentError (.notASeries function position other.kind)

def allSeries (function : String) (position : Nat) : List Value → Except FormulaError (List Table)
  | [] => .ok []
  | value :: rest => do
    let table ← seriesAt function position value
    let tables ← allSeries function (position + 1) rest
    return table :: tables

/-- Row counts beyond this one are no numbers of periods. -/
def largestPeriods : Nat := 9223372036854775807

/-- The value of a number that is whole and not negative. -/
def wholeNumber? (x : Float) : Option Nat :=
  if x.isFinite && x >= 0 then (Decimal.Exact.ofFloat x).toNat? else none

def periodsOf (function : String) (value : Value) : Except FormulaError Nat :=
  match value with
  | .number x =>
    match wholeNumber? x with
    | some n =>
      if n ≤ largestPeriods then .ok n else argumentError (.periodsOutOfRange function x)
    | none => argumentError (.notPeriods function value.display)
  | _ => argumentError (.notPeriods function value.display)

def checkCount (function : Function) (count : Nat) : Except FormulaError Unit :=
  let (least, greatest) := function.transformation.arity
  if count < least then .error (.argumentCount function.name (.atLeast least) count)
  else
    match greatest with
    | some greatest =>
      if greatest < count then .error (.argumentCount function.name (.atMost greatest) count)
      else .ok ()
    | none => .ok ()

/-- Checks the arguments and runs the transformation. -/
def invoke (function : Function) (arguments : List Value) (context : Context) :
    Except FormulaError Value := do
  checkCount function arguments.length
  match function.transformation, arguments with
  | .series run, value :: _ =>
    let table ← seriesAt function.name 1 value
    run table context
  | .seriesWithPeriods run, value :: rest =>
    let table ← seriesAt function.name 1 value
    let periods ← rest.head?.mapM (periodsOf function.name)
    run table periods context
  | .seriesList run, values =>
    let tables ← allSeries function.name 1 values
    run tables context
  | _, [] => throw (.argumentCount function.name (.atLeast 1) 0)

/-- The form of a name for looking it up: normal, with `PCT` for percent signs. -/
def lookupName (name : String) : String :=
  String.ofList ((Text.normalName name).toList.flatMap fun c =>
    if c = '%' then ['P', 'C', 'T'] else [c])

end Function

structure FunctionRegistry where
  functions : NameMap Function
  legacy : NameMap Function

namespace FunctionRegistry

def empty : FunctionRegistry := ⟨.empty, .empty⟩

/-- Whether a name consists of upper-case ASCII letters, digits and underscores. -/
def isFunctionName (name : String) : Bool :=
  name != "" && name.toList.all fun c => c.isUpper || c.isDigit || c == '_'

/-- Whether a legacy name can be written as the name of a call. -/
def isLegacyName (name : String) : Bool :=
  !Text.allBlank name.toList && !name.toList.any ['(', ')', ',', '"', '#'].contains

/-- Adds a function, in place, under its name, which must be in normal form and free. -/
def add (function : Function) : Update FunctionRegistry Unit := do
  if !isFunctionName function.name then throw (.registration (.functionName function.name))
  if (← get).functions.contains function.name then
    throw (.registration (.functionTaken function.name))
  modify fun registry =>
    { registry with functions := registry.functions.insert function.name function }

/-- Adds a legacy function, in place, under its literal name, which must be free. -/
def addLegacy (function : Function) : Update FunctionRegistry Unit := do
  if !isLegacyName function.name then throw (.registration (.legacyName function.name))
  if (← get).legacy.contains function.name then
    throw (.registration (.legacyTaken function.name))
  modify fun registry => { registry with legacy := registry.legacy.insert function.name function }

def register (registry : FunctionRegistry) (function : Function) :
    Except FormulaError FunctionRegistry :=
  Update.result (add function) registry

def registerLegacy (registry : FunctionRegistry) (function : Function) :
    Except FormulaError FunctionRegistry :=
  Update.result (addLegacy function) registry

def get? (registry : FunctionRegistry) (name : String) : Option Function :=
  registry.functions.find? (Function.lookupName name)

def getLegacy? (registry : FunctionRegistry) (name : String) : Option Function :=
  registry.legacy.find? (Text.trimmed name)

/-- The function of a name, or else the legacy function of its spelling. -/
def resolve? (registry : FunctionRegistry) (name : String) : Option Function :=
  (registry.get? name).or (registry.getLegacy? name)

def contains (registry : FunctionRegistry) (name : String) : Bool :=
  (registry.resolve? name).isSome

def definitions (registry : FunctionRegistry) : List Function :=
  registry.functions.values ++ registry.legacy.values

/-- Calls the function of a name. Where there is none, or where it fails, the legacy function of
the same spelling is called; when both fail the first error stands. -/
def call (registry : FunctionRegistry) (name : String) (arguments : List Value)
    (context : Context) : Except FormulaError Value :=
  match registry.get? name, registry.getLegacy? name with
  | some function, none => function.invoke arguments context
  | none, some legacy => legacy.invoke arguments context
  | none, none => .error (.unknownFunction (Text.trimmed name))
  | some function, some legacy =>
    match function.invoke arguments context with
    | .ok value => .ok value
    | .error error => (legacy.invoke arguments context).mapError fun _ => error

end FunctionRegistry

end TimeSeries
