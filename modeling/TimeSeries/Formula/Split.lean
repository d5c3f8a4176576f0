import TimeSeries.Formula.Nesting

set_option autoImplicit false

/-!
# Outermost splits

The operator, the call and the options that form the outermost layer of a text. Operators have no
precedence and group from left to right, so the last one on the top level is the outermost.
-/
namespace TimeSeries

/-- A text split at an operator. -/
structure OperatorSplit where
  operator : Operator
  left : List Char
  right : List Char

namespace OperatorSplit

def offset (split : OperatorSplit) : Nat := Text.byteLength split.left

/-- The characters that a number has before its exponent. -/
def isMantissa (c : Char) : Bool := c.isDigit || c == '.'

/-- Whether a sign after the reversed text `before` belongs to the exponent of a number: an `e`
stands directly before it, and before that a mantissa with a digit that no name runs into. -/
def isExponentSign (before : List Char) (c : Char) : Bool :=
  match before with
  | e :: mantissa =>
    (c == '+' || c == '-') && (e == 'e' || e == 'E') &&
      (mantissa.takeWhile isMantissa).any Char.isDigit &&
      !((mantissa.dropWhile isMantissa).head?.any Char.isAlphanum)
  | [] => false

/-- Whether the search for the mantissa before a sign ends inside a character. It goes on one byte
behind the first byte of the last character that belongs to no mantissa, and the program stops when
that character has more bytes. So it gives no value to texts with such a sign on the top level. -/
def cutsCharacter (before : List Char) (c : Char) : Bool :=
  match before with
  | e :: mantissa =>
    (c == '+' || c == '-') && (e == 'e' || e == 'E') &&
      (mantissa.dropWhile isMantissa).head?.any (1 < ·.utf8Size)
  | [] => false

/-- Whether a sign on the top level of a marked text that follows the reversed text `before` makes
the program stop. -/
def breaksOff (before : List Char) : MarkedText → Bool
  | [] => false
  | (c, mark) :: rest =>
    mark.isTopLevel && cutsCharacter before c || breaksOff (c :: before) rest

/-- Whether an operator after the reversed text `before` has a left operand. -/
def isBinary (before : List Char) (c : Char) : Bool :=
  match before.dropWhile Text.isBlank with
  | [] => false
  | previous :: _ =>
    !(['+', '-', '*', '/', '(', ',', '#', ':'].contains previous) && !isExponentSign before c

/-- The last split of a marked text that follows the reversed text `before`. -/
def last? (before : List Char) : MarkedText → Option OperatorSplit
  | [] => none
  | (c, mark) :: rest =>
    match last? (c :: before) rest with
    | some split => some split
    | none =>
      match Operator.ofSymbol? c with
      | some operator =>
        if mark.isTopLevel && isBinary before c then
          some ⟨operator, before.reverse, MarkedText.text rest⟩
        else none
      | none => none

theorem last?_length {before : List Char} {marked : MarkedText} {split : OperatorSplit}
    (h : last? before marked = some split) :
    split.left.length + split.right.length + 1 = before.length + marked.length := by
  induction marked generalizing before with
  | nil => cases h
  | cons m rest ih =>
    simp only [last?] at h
    split at h
    · rename_i found
      cases h
      have := ih found
      simp only [List.length_cons] at this ⊢
      omega
    · split at h
      · split at h
        · cases h
          simp only [List.length_reverse, MarkedText.length_text, List.length_cons]
          omega
        · cases h
      · cases h

end OperatorSplit

/-- The outermost operator of a marked text, for the texts that do not break off. -/
def splitOperator (marked : MarkedText) : Option OperatorSplit := OperatorSplit.last? [] marked

/-- A name with arguments in parentheses; without a name the parentheses only group. -/
structure Call where
  name : List Char
  arguments : List (List Char)

/-- The arguments between the parentheses of a call. -/
def splitArguments (interior : List Char) : Except FormulaError (List (List Char)) :=
  if Text.allBlank interior then .ok [] else splitTopLevel ',' interior

/-- The call that a marked text is, if it has a top-level parenthesis. It must end with the
parenthesis that closes the first one. -/
def splitCall (marked : MarkedText) : Except FormulaError (Option Call) :=
  let mismatched : FormulaError := .mismatchedParen (String.ofList marked.text)
  match marked.dropWhile (!MarkedText.isTop '(' ·) with
  | [] => .ok none
  | _ :: inner =>
    match MarkedText.cut? ')' inner with
    | none => .error mismatched
    | some (interior, after) =>
      if Text.allBlank after then
        (splitArguments interior).map fun arguments =>
          some ⟨Text.trim (MarkedText.text (marked.takeWhile (!MarkedText.isTop '(' ·))), arguments⟩
      else .error mismatched

theorem length_lt_of_mem_arguments {marked : MarkedText} {call : Call}
    (h : splitCall marked = .ok (some call)) {argument : List Char}
    (ha : argument ∈ call.arguments) : argument.length < marked.length := by
  simp only [splitCall] at h
  split at h
  · cases h
  · rename_i opening inner hd
    have hlen := (List.dropWhile_suffix (!MarkedText.isTop '(' ·) (l := marked)).length_le
    rw [hd, List.length_cons] at hlen
    split at h
    · cases h
    · rename_i interior after hc
      have hcut := MarkedText.cut?_length hc
      split at h
      · match hs : splitArguments interior with
        | .error e => simp [hs, Except.map] at h
        | .ok arguments =>
          simp only [hs, Except.map, Except.ok.injEq, Option.some.injEq] at h
          subst h
          simp only [splitArguments] at hs
          split at hs
          · cases hs
            cases ha
          · have := length_le_of_mem_splitTopLevel hs ha
            omega
      · cases h

/-- An option: a name, with a value where it has one. -/
abbrev Setting := String × Option String

/-- The value of an option without the quotes around it. -/
def unquoteSetting (key value : List Char) : Except FormulaError (List Char) :=
  let opens := value.head? == some '"'
  let closes := value.getLast? == some '"' && 1 < value.length
  if opens && closes then .ok (value.drop 1).dropLast
  else if !opens && !closes then .ok value
  else .error (.option (String.ofList (Text.trim key)) .unbalancedQuotes)

/-- One option: a key, or a key and a value with a colon between. -/
def parseSetting (piece : List Char) : Except FormulaError Setting :=
  let piece := Text.trim piece
  match piece.dropWhile (· != ':') with
  | [] =>
    if piece = [] then .error (.option "" .missingName) else .ok (String.ofList piece, none)
  | _ :: value => do
    let key := piece.takeWhile (· != ':')
    let value ← unquoteSetting key (Text.trim value)
    if Text.trim key = [] then .error (.option (String.ofList piece) .missingName)
    else .ok (String.ofList (Text.trim key), some (String.ofList value))

/-- The options of a text, with number signs between. -/
def parseSettings (text : List Char) : Except FormulaError (List Setting) := do
  (← splitTopLevel '#' text).mapM parseSetting

/-- The content of a string literal; `none` when the text is none, and an error when only one side
has a quote. -/
def unquote (text : List Char) : Except FormulaError (Option (List Char)) :=
  let text := Text.trim text
  let opens := text.head? == some '"'
  let ends := text.getLast? == some '"'
  if opens && ends && 1 < text.length then .ok (some (text.drop 1).dropLast)
  else if !opens && !ends then .ok none
  else .error (.mismatchedQuote (String.ofList text))

end TimeSeries
