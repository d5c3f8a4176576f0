import TimeSeries.Decimal.Numeral
import TimeSeries.Formula.Layer

set_option autoImplicit false

/-!
# Expressions

`parse` reads a text as an expression tree, layer by layer. Every text has a tree: where the text is
at fault the tree has a `malformed` node, whose error is met when evaluation comes there and not
before. Nodes with several parts also hold the number of placeholders in the text of each part,
which decides how the supplied tables are dealt out.
-/
namespace TimeSeries

/-- An argument of a call: its text, the placeholders in the text, and what it was read as. -/
structure Argument (α : Type) where
  text : List Char
  tables : Nat
  body : α

/-- What a text was read as. -/
inductive Expr where
  /-- no expression -/
  | malformed (error : FormulaError)
  /-- a placeholder, for the next supplied table -/
  | table
  | number (text : List Char) (value : Float)
  | literal (content : List Char)
  /-- a series name, with a source where one is given -/
  | reference (text name : List Char) (source : Option (List Char))
  | operation (operator : Operator) (leftTables : Nat) (left right : Expr)
  /-- an expression under options -/
  | overlay (settings : List Setting) (tables : Nat) (body : Expr)
  /-- a function, or a source with the name of a series -/
  | call (name : List Char) (arguments : List (Argument Expr))

namespace Expr

/-- A number as formulas write it: it begins like one and has no other characters than numerals
have, so that it is no word. -/
def readNumber? (text : List Char) : Option Float :=
  let isNumeral (c : Char) := c.isDigit || ['.', '+', '-', 'e', 'E'].contains c
  match text with
  | c :: _ =>
    if (c.isDigit || ['.', '+', '-'].contains c) && text.all isNumeral then Decimal.read text
    else none
  | [] => none

/-- A series name, or a name and a source with an at sign between. -/
def ofReference (text : List Char) : Expr :=
  match text.splitOnP (· == '@') with
  | [name] => .reference text (Text.trim name) none
  | [name, source] => .reference text (Text.trim name) (some (Text.trim source))
  | _ => .malformed (.multipleAtSigns (String.ofList text))

/-- The leaf that a trimmed text is. -/
def ofLeaf (text : List Char) : Expr :=
  if text = ['%', 'd'] then .table
  else
    match readNumber? text with
    | some value => .number text value
    | none =>
      match unquote text with
      | .ok (some content) => .literal content
      | .ok none => ofReference text
      | .error error => .malformed error

/-- A node for a text with this many placeholders, unless they cannot be counted. -/
def counting (count : Except FormulaError Nat) (node : Nat → Expr) : Expr :=
  match count with
  | .ok n => node n
  | .error error => .malformed error

/-- The options of a text over the expression before them. -/
def withSettings (settings : Except FormulaError (List Setting)) (count : Except FormulaError Nat)
    (body : Expr) : Expr :=
  match settings, count with
  | .ok settings, .ok n => .overlay settings n body
  | .ok settings, .error error => .overlay settings 0 (.malformed error)
  | .error error, _ => .malformed error

/-- An argument of a call, unless its placeholders cannot be counted. -/
def ofArgument (text : List Char) (body : Expr) : Argument Expr :=
  match countPlaceholders text with
  | .ok n => ⟨text, n, body⟩
  | .error error => ⟨text, 0, .malformed error⟩

theorem length_lt_of_mem_parts {text part : List Char}
    (h : part ∈ (Layer.of (Text.trim text)).parts) : part.length < text.length :=
  Nat.lt_of_lt_of_le (Layer.length_lt_of_mem_parts h) (Text.length_trim_le text)

def parse (text : List Char) : Expr :=
  match _ : Layer.of (Text.trim text) with
  | .malformed error => .malformed error
  | .operation ⟨op, left, right⟩ =>
    counting (countPlaceholders left) fun n => .operation op n (parse left) (parse right)
  | .overlay head settings =>
    withSettings (parseSettings settings) (countPlaceholders head) (parse head)
  | .group inner => parse inner
  | .call ⟨name, arguments⟩ =>
    .call name (arguments.attach.map fun ⟨text, _⟩ => ofArgument text (parse text))
  | .leaf text => ofLeaf text
termination_by text.length
decreasing_by
  all_goals exact length_lt_of_mem_parts (by simp_all [Layer.parts])

end Expr

end TimeSeries
