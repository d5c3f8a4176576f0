import TimeSeries.Text.Blank
import TimeSeries.Text.CaseData

set_option autoImplicit false

/-!
# Upper and lower case

Case mapping of whole texts. A character may become several (`ß` becomes `SS`), and a capital sigma
becomes a final sigma at the end of a word. Names of columns, sources and functions are compared in
their normal form: trimmed, in upper case.
-/
namespace TimeSeries.Text

/-- The character at `shift` code points from `c`. -/
def shifted (c : Char) (shift : Int) : Char := Char.ofNat (c.toNat + shift).toNat

/-- The image of a character that is not ASCII: the special cases first, then the runs. -/
def mapped (special : List (Nat × List Nat)) (runs : List CaseRun) (c : Char) : List Char :=
  match special.lookup c.toNat with
  | some codes => codes.map Char.ofNat
  | none =>
    match runs.find? (·.holds c.toNat) with
    | some run => [shifted c run.shift]
    | none => [c]

def upperChar (c : Char) : List Char :=
  if c.toNat < 128 then [c.toUpper] else mapped upperSpecial upperRuns c

def lowerChar (c : Char) : List Char :=
  if c.toNat < 128 then [c.toLower] else mapped lowerSpecial lowerRuns c

def upper (text : List Char) : List Char := text.flatMap upperChar

/-- Whether the first character that case does not ignore has a case. -/
def startsCased (text : List Char) : Bool :=
  match text.dropWhile caseIgnorableRanges.holds with
  | c :: _ => casedRanges.holds c
  | [] => false

/-- A capital sigma between the reversed text before it and the text after it. -/
def lowerSigma (before after : List Char) : Char :=
  if startsCased before && !startsCased after then 'ς' else 'σ'

/-- The lower case of `text`, which follows the reversed text `before`. -/
def lowerAfter (before : List Char) : List Char → List Char
  | [] => []
  | c :: rest =>
    (if c = 'Σ' then [lowerSigma before rest] else lowerChar c) ++ lowerAfter (c :: before) rest

def lower (text : List Char) : List Char := lowerAfter [] text

/-- Whether two texts differ at most in the case of ASCII letters. -/
def sameIgnoringAsciiCase (a b : List Char) : Bool := a.map Char.toLower == b.map Char.toLower

def trimmed (s : String) : String := String.ofList (trim s.toList)

def uppercase (s : String) : String := String.ofList (upper s.toList)

def lowercase (s : String) : String := String.ofList (lower s.toList)

/-- The form under which names are kept and looked up: trimmed and in upper case. -/
def normalName (s : String) : String := uppercase (trimmed s)

/-- The form of keys and of file names: trimmed and in lower case. -/
def lowerName (s : String) : String := lowercase (trimmed s)

end TimeSeries.Text
