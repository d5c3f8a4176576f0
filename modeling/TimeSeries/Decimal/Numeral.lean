import TimeSeries.Decimal.Exact

set_option autoImplicit false

/-!
# Numerals

How doubles are written and read as decimal text. Writing takes the fewest digits that name the
double and never uses an exponent; reading takes the usual decimal forms, with an exponent if there
is one, and rounds correctly.
-/
namespace TimeSeries.Decimal

def infinity : Float := Float.ofBits 0x7ff0000000000000

def notANumber : Float := Float.ofBits 0x7ff8000000000000

/-- The digits behind the point: `places` of them, without the zeros at the end. -/
def fractionDigits (n places : Nat) : List Char :=
  let digits := Nat.toDigits 10 n
  let padded := List.replicate (places - digits.length) '0' ++ digits
  (padded.reverse.dropWhile (· == '0')).reverse

/-- The positional text of `units * 10^-places`. -/
def positional (units places : Nat) : List Char :=
  let whole := Nat.toDigits 10 (units / Nat.pow 10 places)
  if units % Nat.pow 10 places = 0 then whole
  else whole ++ '.' :: fractionDigits (units % Nat.pow 10 places) places

/-- The text of a number: the fewest digits that read back, never with an exponent. -/
def write (x : Float) : String :=
  if x.isNaN then "NaN"
  else
    let magnitude :=
      if x.isFinite then
        let exact := Exact.ofFloat x
        positional exact.shortest exact.places
      else "inf".toList
    String.ofList (if isNegative x then '-' :: magnitude else magnitude)

/-- The double nearest to `m * 10^e`; magnitudes beyond the range are zero or infinite. -/
def nearest (m : Nat) (e : Int) : Float :=
  let top : Int := digitCount m + e
  if m = 0 ∨ top < -330 then 0
  else if 310 < top then infinity
  else Float.ofScientific m (e < 0) e.natAbs

/-- An exponent: nothing, or `e` with an optional sign and at least one digit. -/
def readExponent : List Char → Option Int
  | [] => some 0
  | c :: rest =>
    let (negative, digits) : Bool × List Char :=
      match rest with
      | '-' :: tail => (true, tail)
      | '+' :: tail => (false, tail)
      | _ => (false, rest)
    if (c = 'e' ∨ c = 'E') ∧ digits ≠ [] ∧ digits.all Char.isDigit then
      let n : Int := digitsValue digits
      some (if negative then -n else n)
    else none

/-- A numeral without a sign: digits with at most one point among them, then an exponent. -/
def readUnsigned (text : List Char) : Option Float :=
  let whole := text.takeWhile Char.isDigit
  let (fraction, rest) : List Char × List Char :=
    match text.dropWhile Char.isDigit with
    | '.' :: tail => (tail.takeWhile Char.isDigit, tail.dropWhile Char.isDigit)
    | tail => ([], tail)
  if whole = [] ∧ fraction = [] then none
  else
    (readExponent rest).map fun e => nearest (digitsValue (whole ++ fraction)) (e - fraction.length)

/-- A word for a value that has no digits, in any letter case. -/
def readWord (text : List Char) : Option Float :=
  match String.ofList (text.map Char.toLower) with
  | "inf" | "infinity" => some infinity
  | "nan" => some notANumber
  | _ => none

/-- A number as text: an optional sign, then a word or a numeral. -/
def read (text : List Char) : Option Float :=
  let magnitude (body : List Char) := (readWord body).or (readUnsigned body)
  match text with
  | '-' :: body => (magnitude body).map (- ·)
  | '+' :: body => magnitude body
  | body => magnitude body

end TimeSeries.Decimal
