import EmailOwnership.Json
import EmailOwnership.Numeral
import EmailOwnership.Text.Range
import EmailOwnership.Validation

/-! Reading settings leniently.

A setting comes as text from the environment or as any value from an argument. Integers
may have blanks around them, a sign, leading zeros, single underscores between digits and
a fraction of zeros; numbers have blanks or underscores, exponents, infinities and the name
of what is no number. -/
namespace EmailOwnership.Settings

/-! ### Text -/

/-- The blanks of numbers: all but the information separators. -/
def isNumberBlank (c : Char) : Bool := Text.isBlank c && !(0x1c ≤ c.toNat && c.toNat ≤ 0x1f)

def trim (cs : List Char) : List Char :=
  Text.dropEndWhile isNumberBlank (cs.dropWhile isNumberBlank)

/-- Whether underscores stand singly, with something on either side. -/
def underscoresFit : List Char → Bool
  | [] => true
  | cs => cs.head? != some '_' && cs.getLast? != some '_' &&
      !(cs.zip (cs.drop 1)).any (fun p => p.1 == '_' && p.2 == '_')

def dropUnderscores? (cs : List Char) : Option (List Char) :=
  if underscoresFit cs then some (cs.filter (· != '_')) else none

/-- What counts behind zeros and underscores: the rest from a digit or a minus on. Before a
point, or where nothing follows, the last of the zeros and underscores counts. -/
def afterZeros? (last : Char) : List Char → Option (List Char)
  | [] => some [last]
  | c :: rest =>
    if c = '0' ∨ c = '_' then afterZeros? c rest
    else if c = '.' then some (last :: c :: rest)
    else if c.isDigit ∨ c = '-' then some (c :: rest)
    else none

/-- A text that begins with a digit, without the zeros before another digit. -/
def dropLeadingZeros? : List Char → Option (List Char)
  | '0' :: rest => afterZeros? '0' rest
  | c :: rest => if c.isDigit then some (c :: rest) else none
  | [] => none

/-- The same behind a sign; a plus is dropped. -/
def dropZeros? : List Char → Option (List Char)
  | '+' :: rest => dropLeadingZeros? rest
  | '-' :: rest => (dropLeadingZeros? rest).map ('-' :: ·)
  | cs => dropLeadingZeros? cs

/-- What stands before the point, if zeros follow it and nothing else. -/
def dropZeroFraction (cs : List Char) : List Char :=
  match cs.dropWhile (· != '.') with
  | '.' :: c :: rest => if (c :: rest).all (· == '0') then cs.takeWhile (· != '.') else cs
  | _ => cs

/-- Digits without leading zeros, perhaps behind a minus. Too many of them are a problem of
their own, whatever follows. -/
def strictInteger (cs : List Char) : Except Problem Int :=
  let (sign, body) : List Char × List Char := match cs with
    | '-' :: rest => (['-'], rest)
    | cs => ([], cs)
  let digits := body.takeWhile Char.isDigit
  if digits.isEmpty ∨ digits.head? = some '0' ∧ digits ≠ ['0'] then .error .intParsing
  else if maxIntegerDigits < sign.length + digits.length then .error .intParsingSize
  else if digits.length < body.length then .error .intParsing
  else
    let n : Int := Decimal.digitsValue digits
    .ok (if sign.isEmpty then n else -n)

/-- An integer as people write it, in the strict form if it has one. -/
def tidied? (cs : List Char) : Option (List Char) :=
  (dropZeros? cs).map fun cs =>
    let cs := dropZeroFraction cs
    (dropUnderscores? cs).getD cs

def integerOfText (s : String) : Except Problem Int :=
  let cs := trim s.toList
  match strictInteger cs with
  | .error .intParsing =>
    match tidied? cs with
    | some cs => strictInteger cs
    | none => .error .intParsing
  | outcome => outcome

def lowerAscii (cs : List Char) : String := String.ofList (cs.map Char.toLower)

/-- A number without blanks and underscores. -/
def plainFloat? (cs : List Char) : Option Float :=
  let (negative, cs) := match cs with
    | '-' :: rest => (true, rest)
    | '+' :: rest => (false, rest)
    | cs => (false, cs)
  let signed (x : Float) : Float := if negative then -x else x
  if lowerAscii cs = "inf" ∨ lowerAscii cs = "infinity" then some (signed (1 / 0))
  else if lowerAscii cs = "nan" then some (0 / 0)
  else
    let whole := cs.takeWhile Char.isDigit
    let (tenths, rest) : List Char × List Char := match cs.dropWhile Char.isDigit with
      | '.' :: rest => (rest.takeWhile Char.isDigit, rest.dropWhile Char.isDigit)
      | rest => ([], rest)
    if whole.isEmpty ∧ tenths.isEmpty then none
    else
      let (exponent, rest) := Json.exponent? (rest.map some)
      if rest.isEmpty then
        some (Decimal.toFloat ⟨negative, Decimal.digitsValue (whole ++ tenths),
          exponent.getD 0 - tenths.length⟩)
      else none

def floatOfText (s : String) : Except Problem Float :=
  match plainFloat? (trim s.toList) with
  | some x => .ok x
  | none =>
    match (dropUnderscores? s.toList).bind plainFloat? with
    | some x => .ok x
    | none => .error .floatParsing

/-! ### Values -/

def string : Json → Except Problem String
  | .string s => .ok s
  | .unpaired _ => .error .stringUnicode
  | _ => .error .stringType

/-- Beyond this, a number with a fraction is not taken for an integer. -/
def integerBound : Float := 9223372036854775808

def integerOfFloat (x : Float) : Except Problem Int :=
  if !x.isFinite then .error .finiteNumber
  else
    let size := x.abs
    let whole := wholePart size
    if Float.ofNat whole != size then .error .intFromFloat
    else if !(size < integerBound) then .error .intParsingSize
    else .ok (if x < 0 then -(whole : Int) else whole)

def integer : Json → Except Problem Int
  | .integer n => .ok n
  | .bool b => .ok (if b then 1 else 0)
  | .decimal d => integerOfFloat d.toFloat
  | .nonFinite x => integerOfFloat x
  | .string s => integerOfText s
  | .unpaired _ => .error .stringUnicode
  | _ => .error .intType

def float : Json → Except Problem Float
  | .integer n =>
    let x := Decimal.toFloat ⟨decide (n < 0), n.natAbs, 0⟩
    if x.isFinite then .ok x else .error .floatType
  | .bool b => .ok (if b then 1 else 0)
  | .decimal d => .ok d.toFloat
  | .nonFinite x => .ok x
  | .string s => floatOfText s
  | .unpaired _ => .error .stringUnicode
  | _ => .error .floatType

end EmailOwnership.Settings
