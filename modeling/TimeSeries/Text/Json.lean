import TimeSeries.Text.ShapeData

set_option autoImplicit false

/-!
# Texts between quotes and JSON texts

A quoted text shows what it holds unambiguously: quotes, backslashes and line ends are escaped, and
so is every character that has no shape of its own or that would extend the character before it.
Values without numbers are written as JSON, one member or element on a line, each level indented by
two blanks.
-/
namespace TimeSeries.Text

def hexDigits (n : Nat) : List Char := Nat.toDigits 16 n

/-- Whether a character stands for itself in a quoted text. -/
def showsItself (c : Char) : Bool :=
  0x20 ≤ c.toNat && !extenderRanges.holds c && !shapelessRanges.holds c

def escaped (c : Char) : List Char :=
  if c = Char.ofNat 0 then ['\\', '0']
  else if c = '\t' then ['\\', 't']
  else if c = '\r' then ['\\', 'r']
  else if c = '\n' then ['\\', 'n']
  else if c = '"' || c = '\\' then ['\\', c]
  else if showsItself c then [c]
  else ['\\', 'u', Char.ofNat 0x7b] ++ hexDigits c.toNat ++ [Char.ofNat 0x7d]

/-- A string between double quotes, with escapes. -/
def quoted (s : String) : String :=
  String.ofList ('"' :: s.toList.flatMap escaped ++ ['"'])

/-- The values that occur here; members keep their order. -/
inductive Json where
  | null
  | string (content : String)
  | array (elements : List Json)
  | object (members : List (String × Json))

namespace Json

/-- A character of a JSON string; quotes, backslashes and control characters are escaped. -/
def escapedChar (c : Char) : List Char :=
  match c.toNat with
  | 0x22 => ['\\', '"']
  | 0x5c => ['\\', '\\']
  | 0x08 => ['\\', 'b']
  | 0x09 => ['\\', 't']
  | 0x0a => ['\\', 'n']
  | 0x0c => ['\\', 'f']
  | 0x0d => ['\\', 'r']
  | n =>
    if n < 0x20 then
      ['\\', 'u', '0', '0', if n < 16 then '0' else '1'] ++ hexDigits (n % 16)
    else [c]

def stringText (content : String) : List Char :=
  '"' :: content.toList.flatMap escapedChar ++ ['"']

def newLine (level : Nat) : List Char := '\n' :: List.replicate (2 * level) ' '

def openBrace : Char := Char.ofNat 0x7b

def closeBrace : Char := Char.ofNat 0x7d

mutual

/-- A value whose inner lines are one level below its own. -/
def pretty (level : Nat) : Json → List Char
  | null => ['n', 'u', 'l', 'l']
  | string content => stringText content
  | array [] => ['[', ']']
  | array (first :: rest) =>
    '[' :: newLine (level + 1) ++ pretty (level + 1) first ++ elementsText (level + 1) rest ++
      newLine level ++ [']']
  | object [] => [openBrace, closeBrace]
  | object ((name, value) :: rest) =>
    openBrace :: newLine (level + 1) ++ stringText name ++ [':', ' '] ++ pretty (level + 1) value ++
      membersText (level + 1) rest ++ newLine level ++ [closeBrace]

/-- Further elements of an array, each after a comma. -/
def elementsText (level : Nat) : List Json → List Char
  | [] => []
  | value :: rest => ',' :: newLine level ++ pretty level value ++ elementsText level rest

/-- Further members of an object, each after a comma. -/
def membersText (level : Nat) : List (String × Json) → List Char
  | [] => []
  | (name, value) :: rest =>
    ',' :: newLine level ++ stringText name ++ [':', ' '] ++ pretty level value ++
      membersText level rest

end

def ofString? : Option String → Json
  | some content => string content
  | none => null

end Json

end TimeSeries.Text
