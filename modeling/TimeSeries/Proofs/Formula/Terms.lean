import TimeSeries.Formula.Evaluation
import TimeSeries.Proofs.Formula.Tokens
import TimeSeries.Proofs.Text.Trimming

set_option autoImplicit false

/-!
# Terms

The formulas that are meant: how they are written, and what they are worth when they are evaluated
directly along their structure. The texts of a term differ in their spaces only.
-/
namespace TimeSeries

inductive Term where
  | number (numeral : Numeral)
  | table
  | literal (quoted : Literal)
  | reference (name : Word) (source : Option Word)
  | call (name : Word) (arguments : List Term)
  | group (inner : Term)
  | operation (op : Operator) (left right : Term)
  | overlay (head : Term) (settings : List (Word × Option Literal))

namespace Term

def isOperation : Term → Bool
  | operation _ _ _ => true
  | _ => false

def isOverlay : Term → Bool
  | overlay _ _ => true
  | _ => false

/-- The texts of a setting, with spaces around its key and its value. -/
inductive WritesSetting : Word × Option Literal → List Char → Prop
  | switch (key : Word) {before after : List Char} :
      Text.Spaces before → Text.Spaces after →
      WritesSetting (key, none) (before ++ key.text ++ after)
  | value (key : Word) (value : Literal) {before gap gap' after : List Char} :
      Text.Spaces before → Text.Spaces gap → Text.Spaces gap' → Text.Spaces after →
      WritesSetting (key, some value)
        (before ++ key.text ++ gap ++ ':' :: (gap' ++ value.text ++ after))

/-- The texts of a term. Only parentheses make an operation a right operand, and options stand
behind neither an operation nor other options. -/
inductive Writes : Term → List Char → Prop
  | number (numeral : Numeral) : Writes (.number numeral) numeral.text
  | table : Writes .table ['%', 'd']
  | literal (quoted : Literal) : Writes (.literal quoted) quoted.text
  | reference (name : Word) : Writes (.reference name none) name.text
  | sourced (name source : Word) {before after : List Char} :
      Text.Spaces before → Text.Spaces after →
      Writes (.reference name (some source)) (name.text ++ before ++ '@' :: (after ++ source.text))
  | call (name : Word) {gap : List Char} (arguments : List (Term × List Char)) :
      Text.Spaces gap → arguments ≠ [] → (∀ argument ∈ arguments, Writes argument.1 argument.2) →
      Writes (.call name (arguments.map Prod.fst))
        (name.text ++ gap ++ '(' :: ([','].intercalate (arguments.map Prod.snd) ++ [')']))
  | group {inner : Term} {text : List Char} :
      Writes inner text → Writes (.group inner) ('(' :: (text ++ [')']))
  | operation (op : Operator) {left right : Term} {leftText rightText : List Char} :
      Writes left leftText → Writes right rightText → right.isOperation = false →
      Writes (.operation op left right) (leftText ++ op.symbol :: rightText)
  | overlay {head : Term} {text : List Char}
      (settings : List ((Word × Option Literal) × List Char)) :
      Writes head text → head.isOperation = false → head.isOverlay = false → settings ≠ [] →
      (∀ setting ∈ settings, WritesSetting setting.1 setting.2) →
      Writes (.overlay head (settings.map Prod.fst))
        (text ++ '#' :: ['#'].intercalate (settings.map Prod.snd))
  | spaced {term : Term} {text before after : List Char} :
      Writes term text → Text.Spaces before → Text.Spaces after →
      Writes term (before ++ text ++ after)

mutual

def tableCount : Term → Nat
  | number _ => 0
  | table => 1
  | literal _ => 0
  | reference _ _ => 0
  | call _ arguments => tableCounts arguments
  | group inner => inner.tableCount
  | operation _ left right => left.tableCount + right.tableCount
  | overlay head _ => head.tableCount

def tableCounts : List Term → Nat
  | [] => 0
  | term :: rest => term.tableCount + tableCounts rest

end

mutual

def Registered (functions : FunctionRegistry) : Term → Prop
  | number _ => True
  | table => True
  | literal _ => True
  | reference _ _ => True
  | call name arguments =>
    functions.contains name.name = true ∧ RegisteredAll functions arguments
  | group inner => inner.Registered functions
  | operation _ left right => left.Registered functions ∧ right.Registered functions
  | overlay head _ => head.Registered functions

def RegisteredAll (functions : FunctionRegistry) : List Term → Prop
  | [] => True
  | term :: rest => term.Registered functions ∧ RegisteredAll functions rest

end

def applySetting (context : Context) (setting : Word × Option Literal) :
    Except FormulaError Context :=
  context.applyOption setting.1.name (setting.2.map fun value => String.ofList value.content)

mutual

/-- The value of a term whose first table is number `start` of the supplied ones. -/
def denote (interpreter : Interpreter) (tables : List Table) (context : Context) (start : Nat) :
    Term → Except FormulaError Evaluation
  | number numeral =>
    .ok ⟨.number numeral.value, .leaf (String.ofList numeral.text) none "number"⟩
  | table =>
    match tables[start]? with
    | some supplied => .ok ⟨.series supplied, .leaf s!"input[{start}]" none "input"⟩
    | none => .error (.tableCount 1 0)
  | literal quoted =>
    .ok ⟨.text (String.ofList quoted.content),
      .leaf (String.ofList quoted.content) none "string"⟩
  | reference name (some source) => do
    let (fetched, provenance) ← interpreter.sources.fetch source.name name.name context
    return ⟨.series fetched, provenance⟩
  | reference name none =>
    if context.source = "" then argumentError (.noSource name.name)
    else do
      let (fetched, provenance) ← interpreter.sources.fetch context.source name.name context
      return ⟨.series fetched, provenance⟩
  | call name arguments => do
    let evaluations ← denoteAll interpreter tables context start arguments
    let value ← interpreter.functions.call name.name (evaluations.map Evaluation.value) context
    return ⟨value, .node (Text.uppercase name.name) (evaluations.map Evaluation.provenance)⟩
  | group inner => inner.denote interpreter tables context start
  | operation op left right => do
    let l ← left.denote interpreter tables context start
    let r ← right.denote interpreter tables context (start + left.tableCount)
    let value ← combine op context.fillMissing l.value r.value
    return ⟨value, .node op.name [l.provenance, r.provenance]⟩
  | overlay head settings => do
    let inner ← settings.foldlM applySetting context
    head.denote interpreter tables inner start

def denoteAll (interpreter : Interpreter) (tables : List Table) (context : Context) (start : Nat) :
    List Term → Except FormulaError (List Evaluation)
  | [] => .ok []
  | term :: rest => do
    let first ← term.denote interpreter tables context start
    let others ← denoteAll interpreter tables context (start + term.tableCount) rest
    return first :: others

end

end Term

end TimeSeries
