import TimeSeries.Formula.Arithmetic
import TimeSeries.Formula.Expr
import TimeSeries.Formula.Library
import TimeSeries.Formula.Source

set_option autoImplicit false

/-!
# Evaluation

An interpreter evaluates expressions to a value together with its provenance. Parts are evaluated
in order and the first error ends the evaluation. Supplied tables are dealt out from left to right,
to every part as many as its text has placeholders.
-/
namespace TimeSeries

structure Evaluation where
  value : Value
  provenance : Provenance

/-- The supplied tables that an expression sees; the first of them has number `offset`. -/
structure Supply where
  tables : List Table
  offset : Nat

namespace Supply

/-- The first `n` tables, or all when there are fewer. -/
def take (supply : Supply) (n : Nat) : Supply := ⟨supply.tables.take n, supply.offset⟩

def drop (supply : Supply) (n : Nat) : Supply :=
  ⟨supply.tables.drop n, supply.offset + min n supply.tables.length⟩

end Supply

/-- What names in formulas stand for. -/
structure Interpreter where
  functions : FunctionRegistry
  sources : SourceRegistry

def isSeriesName (name : List Char) : Bool :=
  !(name.head?.any ['+', '-', '*', '/'].contains) &&
    !name.any fun c => Text.isBlank c || [',', '"', '(', ')', '#'].contains c

namespace Interpreter

/-- A fetched table as the value of an expression. -/
def fetch (interpreter : Interpreter) (source series : String) (context : Context) :
    Except FormulaError Evaluation :=
  (interpreter.sources.fetch source series context).map fun (table, provenance) =>
    ⟨.series table, provenance⟩

def supplied (supply : Supply) : Except FormulaError Evaluation :=
  match supply.tables with
  | table :: _ => .ok ⟨.series table, .leaf s!"input[{supply.offset}]" none "input"⟩
  | [] => .error (.tableCount 1 0)

/-- The series of a name, from the given source or from that of the context. -/
def resolve (interpreter : Interpreter) (context : Context) (text name : List Char)
    (source : Option (List Char)) : Except FormulaError Evaluation :=
  let source := (source.map String.ofList).getD context.source
  let shown := String.ofList text
  if name = [] then argumentError (.noSeriesName shown)
  else if source = "" then argumentError (.noSource shown)
  else if !isSeriesName name then argumentError (.notAReference shown)
  else interpreter.fetch source (String.ofList name) context

/-- A source written like a function: its only argument is the name of a series, quoted or not. -/
def fetchByCall (interpreter : Interpreter) (context : Context) (source : String)
    (arguments : List (Argument Expr)) : Except FormulaError Evaluation :=
  match arguments with
  | [argument] => do
    let count ← countPlaceholders argument.text
    if 0 < count then argumentError (.tableAsSeriesName source)
    else
      let literal ← unquote argument.text
      let name := Text.trim (literal.getD argument.text)
      if name = [] then argumentError (.noSeriesNameIn source)
      else interpreter.fetch source (String.ofList name) context
  | _ => .error (.argumentCount (Text.uppercase source) (.exactly 1) arguments.length)

def operate (op : Operator) (context : Context) (left right : Evaluation) :
    Except FormulaError Evaluation :=
  (combine op context.fillMissing left.value right.value).map fun value =>
    ⟨value, .node op.name [left.provenance, right.provenance]⟩

def apply (interpreter : Interpreter) (context : Context) (name : String)
    (arguments : List Evaluation) : Except FormulaError Evaluation :=
  (interpreter.functions.call name (arguments.map Evaluation.value) context).map fun value =>
    ⟨value, .node (Text.uppercase name) (arguments.map Evaluation.provenance)⟩

mutual

def evalExpr (interpreter : Interpreter) (context : Context) (supply : Supply) :
    Expr → Except FormulaError Evaluation
  | .malformed error => .error error
  | .table => supplied supply
  | .number text value => .ok ⟨.number value, .leaf (String.ofList text) none "number"⟩
  | .literal content =>
    .ok ⟨.text (String.ofList content), .leaf (String.ofList content) none "string"⟩
  | .reference text name source => interpreter.resolve context text name source
  | .operation op leftTables left right => do
    let l ← interpreter.evalExpr context (supply.take leftTables) left
    let r ← interpreter.evalExpr context (supply.drop leftTables) right
    operate op context l r
  | .overlay settings tables body => do
    let inner ← context.applySettings settings
    interpreter.evalExpr inner (supply.take tables) body
  | .call name arguments =>
    let name := String.ofList name
    if interpreter.functions.contains name then do
      let evaluations ← interpreter.evalArguments context supply arguments
      interpreter.apply context name evaluations
    else if interpreter.sources.contains name then
      interpreter.fetchByCall context name arguments
    else .error (.unknownFunction name)

def evalArguments (interpreter : Interpreter) (context : Context) (supply : Supply) :
    List (Argument Expr) → Except FormulaError (List Evaluation)
  | [] => .ok []
  | ⟨_, tables, body⟩ :: rest => do
    let first ← interpreter.evalExpr context (supply.take tables) body
    let others ← interpreter.evalArguments context (supply.drop tables) rest
    return first :: others

end

/-- The value of a formula with its supplied tables, one for each placeholder. -/
def evaluate (interpreter : Interpreter) (formula : String) (context : Context)
    (tables : List Table) : Except FormulaError Evaluation :=
  let text := formula.toList
  if Text.allBlank text then argumentError .emptyFormula
  else do
    let expected ← countPlaceholders text
    if expected ≠ tables.length then throw (.tableCount expected tables.length)
    interpreter.evalExpr context ⟨tables, 0⟩ (Expr.parse text)

end Interpreter

end TimeSeries
