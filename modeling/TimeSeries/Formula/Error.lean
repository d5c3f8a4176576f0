import TimeSeries.Csv.Error
import TimeSeries.Formula.Operator
import TimeSeries.Formula.Value
import TimeSeries.Text.Json

set_option autoImplicit false

/-!
# Why a formula has no value

Every cause has its constructor; `FormulaError.message` puts it into words. Each is final for the
evaluation that meets it.
-/
namespace TimeSeries

inductive OptionFault where
  | emptyName
  | missingName
  | unbalancedQuotes
  | valueRequired
  | notADate (value : String) (fault : DateFault)
  | notAFrequency (error : TableError)
  | notABoolean (value : String)

def OptionFault.message : OptionFault → String
  | emptyName => "empty option name"
  | missingName => "missing option name"
  | unbalancedQuotes => "unbalanced quotes in value"
  | valueRequired => "a value is required"
  | notADate value fault => s!"'{value}' is not a date: {fault.message}"
  | notAFrequency error => error.message
  | notABoolean value => s!"'{value}' is not a boolean"

inductive ArgumentFault where
  | emptyFormula
  | emptyExpression
  | notOneExpression
  | tableAsSeriesName (source : String)
  | noSeriesNameIn (source : String)
  | noSeriesName (reference : String)
  | noSource (reference : String)
  | notAReference (text : String)
  | wideDelimiter (delimiter : Char)
  | operands (op : Operator) (left right : Kind)
  | notASeries (function : String) (position : Nat) (found : Kind)
  | notPeriods (function found : String)
  | periodsOutOfRange (function : String) (periods : Float)
  | other (text : String)

def ArgumentFault.message : ArgumentFault → String
  | emptyFormula => "empty formula"
  | emptyExpression => "empty expression"
  | notOneExpression => "parentheses must enclose exactly one expression"
  | tableAsSeriesName source => s!"{source}() takes a series name, not an input table"
  | noSeriesNameIn source => s!"missing series name in {source}()"
  | noSeriesName reference => s!"missing series name in '{reference}'"
  | noSource reference => s!"missing source after '@' in '{reference}'"
  | notAReference text => s!"'{text}' is not a series reference"
  | wideDelimiter delimiter =>
    s!"delimiter must be ASCII, got {Text.quoted (String.ofList [delimiter])}"
  | operands op left right => s!"cannot apply {op.name} to {left.name} and {right.name}"
  | notASeries function position found =>
    s!"{function} expects a series as argument {position}, got {found.name}"
  | notPeriods function found =>
    s!"{function} expects a non-negative whole number of periods, got {found}"
  | periodsOutOfRange function periods =>
    s!"{function}: period count {Decimal.write periods} is out of range"
  | other text => text

inductive Arity where
  | exactly (count : Nat)
  | atLeast (count : Nat)
  | atMost (count : Nat)
  deriving DecidableEq, Repr

def Arity.message : Arity → String
  | exactly count => s!"{count}"
  | atLeast count => s!"at least {count}"
  | atMost count => s!"at most {count}"

inductive RegistrationFault where
  | functionName (name : String)
  | functionTaken (name : String)
  | legacyName (name : String)
  | legacyTaken (name : String)
  | sourceId (id : String)
  | sourceTaken (id : String)
  | sourceAlias (newId : String) (id : String)
  deriving DecidableEq, Repr

def RegistrationFault.message : RegistrationFault → String
  | functionName name => s!"function name '{name}' must be upper-case letters, digits or '_'"
  | functionTaken name => s!"function {name} is already registered"
  | legacyName name => s!"invalid legacy function name '{name}'"
  | legacyTaken name => s!"legacy function {name} is already registered"
  | sourceId id => s!"invalid source identifier '{id}'"
  | sourceTaken id => s!"source {id} is already registered"
  | sourceAlias newId id => s!"cannot alias '{newId}' to {id}"

inductive SourceFault where
  | notFound (name : String)
  | table (error : TableError)
  | csv (error : CsvError)
  deriving DecidableEq

def SourceFault.message : SourceFault → String
  | notFound name => s!"series {name} not found"
  | table error => error.message
  | csv error => error.message

/-- Why a formula has no value; a text in an error is the one that was read when it was met. -/
inductive FormulaError where
  | mismatchedParen (text : String)
  | mismatchedQuote (text : String)
  | multipleAtSigns (reference : String)
  | unknownFunction (name : String)
  | option (key : String) (fault : OptionFault)
  | tableCount (expected found : Nat)
  | sourceFetch (source series : String) (cause : SourceFault)
  | unknownSource (id : String)
  | argument (fault : ArgumentFault)
  | argumentCount (function : String) (expected : Arity) (found : Nat)
  | registration (fault : RegistrationFault)
  | table (error : TableError)

def FormulaError.message : FormulaError → String
  | mismatchedParen text => s!"Mismatched parenthesis in '{text}'"
  | mismatchedQuote text => s!"Mismatched quote in '{text}'"
  | multipleAtSigns reference => s!"Multiple '@' signs in series reference '{reference}'"
  | unknownFunction name => s!"Unknown function: {name}"
  | option key fault => s!"Invalid option '{key}': {fault.message}"
  | tableCount expected found => s!"Formula expects {expected} table(s) but {found} were supplied"
  | sourceFetch source series _ => s!"Failed to fetch '{series}' from source {source}"
  | unknownSource id => s!"Unknown source: {id}"
  | argument fault => s!"Invalid argument: {fault.message}"
  | argumentCount function expected found =>
    s!"Wrong number of arguments for {function}: expected {expected.message}, got {found}"
  | registration fault => s!"Invalid registration: {fault.message}"
  | table error => error.message

def argumentError {α : Type} (fault : ArgumentFault) : Except FormulaError α :=
  .error (.argument fault)

/-- A result on tables as a result of a formula. -/
def liftTable {α : Type} (result : Except TableError α) : Except FormulaError α :=
  result.mapError .table

/-- A change of a state in place. Where it fails, what has been changed by then stays. -/
abbrev Update (σ : Type) := EStateM FormulaError σ

namespace Update

variable {σ : Type}

/-- The state that an update leaves, whether it fails or not. -/
def left (update : Update σ Unit) (state : σ) : σ :=
  match update state with
  | .ok _ after => after
  | .error _ after => after

/-- The state after an update that does not fail. -/
def result (update : Update σ Unit) (state : σ) : Except FormulaError σ :=
  match update state with
  | .ok _ after => .ok after
  | .error error _ => .error error

variable {α : Type}

theorem ofExcept_ok_bind (a : α) (next : α → Update σ Unit) (state : σ) :
    (ofExcept (.ok a) >>= next) state = next a state :=
  rfl

theorem ofExcept_error_bind (error : FormulaError) (next : α → Update σ Unit) (state : σ) :
    (ofExcept (.error error) >>= next) state = .error error state :=
  rfl

theorem get_bind (next : σ → Update σ α) (state : σ) : (get >>= next) state = next state state :=
  rfl

theorem ite_apply (p : Prop) [Decidable p] (x y : Update σ α) (state : σ) :
    (if p then x else y) state = if p then x state else y state := by
  split <;> rfl

end Update

end TimeSeries
