import EmailOwnership.Numeral
import EmailOwnership.Text.Encoding

/-! JSON texts.

`parse` reads one value between blanks. Beside the grammar of JSON it accepts `NaN`,
`Infinity` and `-Infinity`; controls inside strings are refused, and so are integers of
more digits than `maxIntegerDigits`, with an error of their own. `parseWithin` also refuses
arrays and objects nested beyond a depth. Of equal keys in one object the last counts.

A string may write half of a surrogate pair alone. It is read, but it is no text of
characters: it is told apart from those that are, and as a key it is none that is looked up. -/
namespace EmailOwnership
open Text

inductive Json
  | null
  | bool (b : Bool)
  | integer (n : Int)
  | decimal (d : Decimal)
  /-- Not a number, or an infinity. -/
  | nonFinite (x : Float)
  | string (s : String)
  /-- A string with half of a pair in it. -/
  | unpaired (s : LooseText)
  | array (items : List Json)
  /-- The key of a field is `none` if half of a pair is in it. -/
  | object (fields : List (Option String × Json))

namespace Json

inductive Error
  | malformed
  | tooManyDigits
  | tooDeep
  deriving DecidableEq

/-! ### Access -/

def field? (key : String) : Json → Option Json
  | object fields => (fields.reverse.find? (fun f => f.1 == some key)).map Prod.snd
  | _ => none

mutual

/-- Whether the value can be written in strict JSON: every number is finite, and every string
is a text of characters. Of equal keys only the last is in the value. -/
def isStrict : Json → Bool
  | nonFinite _ => false
  | unpaired _ => false
  | decimal d => d.toFloat.isFinite
  | array items => areStrict items
  | object fields => fieldsStrict fields
  | _ => true

def areStrict : List Json → Bool
  | [] => true
  | item :: rest => item.isStrict && areStrict rest

def fieldsStrict : List (Option String × Json) → Bool
  | [] => true
  | (key, item) :: rest =>
    key.isSome && (item.isStrict || rest.any (fun f => f.1 == key)) && fieldsStrict rest

end

/-! ### Reading -/

def isSpace (c : Char) : Bool := c == ' ' || c == '\t' || c == '\n' || c == '\r'

def skipSpaces (cs : LooseText) : LooseText := cs.dropWhile (Option.any isSpace)

/-- The digits that the text begins with, and the rest. -/
def takeDigits (cs : LooseText) : List Char × LooseText :=
  let isDigit := Option.any Char.isDigit
  ((cs.takeWhile isDigit).filterMap id, cs.dropWhile isDigit)

/-- What is left after `word`, if the text begins with it. -/
def afterWord? (word : String) (cs : LooseText) : Option LooseText :=
  let word := word.toList.map some
  if word.isPrefixOf cs then some (cs.drop word.length) else none

/-- The unit of four hexadecimal digits, and the rest. -/
def unit? : LooseText → Option (Nat × LooseText)
  | some a :: some b :: some c :: some d :: rest => do
    let a ← Text.Hexadecimal.digitValue? a
    let b ← Text.Hexadecimal.digitValue? b
    let c ← Text.Hexadecimal.digitValue? c
    let d ← Text.Hexadecimal.digitValue? d
    pure (((a * 16 + b) * 16 + c) * 16 + d, rest)
  | _ => none

/-- The character of an escaped unit, with the second half of a pair if it follows. -/
def escapedUnit? (cs : LooseText) : Option (Option Char × LooseText) := do
  let (n, rest) ← unit? cs
  let single := (Surrogate.char? n, rest)
  if Surrogate.isHigh n then
    match rest with
    | some '\\' :: some 'u' :: more =>
      match unit? more with
      | some (low, behind) =>
        if Surrogate.isLow low then pure (some (Surrogate.pair n low), behind) else pure single
      | none => pure single
    | _ => pure single
  else pure single

def simpleEscape? : Char → Option Char
  | '"' => some '"'
  | '\\' => some '\\'
  | '/' => some '/'
  | 'b' => some '\x08'
  | 'f' => some '\x0c'
  | 'n' => some '\n'
  | 'r' => some '\r'
  | 't' => some '\t'
  | _ => none

/-- The rest of a string behind its opening quote; `acc` holds what was read, last first. -/
def stringBody (fuel : Nat) (acc : LooseText) (cs : LooseText) : Option (LooseText × LooseText) :=
  match fuel, cs with
  | _, some '"' :: rest => some (acc.reverse, rest)
  | fuel + 1, some '\\' :: some 'u' :: rest => do
    let (c, rest) ← escapedUnit? rest
    stringBody fuel (c :: acc) rest
  | fuel + 1, some '\\' :: some c :: rest => do
    let c ← simpleEscape? c
    stringBody fuel (some c :: acc) rest
  | fuel + 1, c :: rest =>
    if c.any (fun c => c.toNat < 0x20 || c == '\\') then none else stringBody fuel (c :: acc) rest
  | _, _ => none

def ofString (s : LooseText) : Json :=
  match s.text? with
  | some text => string text
  | none => unpaired s

/-- Digits behind a point, if there are any. -/
def fraction (cs : LooseText) : List Char × LooseText :=
  match cs with
  | some '.' :: rest =>
    let (digits, rest) := takeDigits rest
    if digits.isEmpty then ([], cs) else (digits, rest)
  | _ => ([], cs)

/-- An exponent with its sign, if there is one. -/
def exponent? (cs : LooseText) : Option Int × LooseText :=
  match cs with
  | some e :: rest =>
    if e = 'e' ∨ e = 'E' then
      let (negative, body) := match rest with
        | some '-' :: body => (true, body)
        | some '+' :: body => (false, body)
        | body => (false, body)
      let (digits, rest) := takeDigits body
      if digits.isEmpty then (none, cs)
      else
        let n : Int := Decimal.digitsValue digits
        (some (if negative then -n else n), rest)
    else (none, cs)
  | _ => (none, cs)

/-- A number: no leading zeros, and an integer only without fraction and exponent. -/
def number (cs : LooseText) : Except Error (Json × LooseText) :=
  let (negative, body) := match cs with
    | some '-' :: body => (true, body)
    | body => (false, body)
  let (whole, rest) := match body with
    | some '0' :: rest => (['0'], rest)
    | body => takeDigits body
  if whole.isEmpty then .error .malformed
  else
    let (tenths, rest) := fraction rest
    let (exponent, rest) := exponent? rest
    if tenths.isEmpty ∧ exponent.isNone then
      if maxIntegerDigits < whole.length then .error .tooManyDigits
      else
        let n : Int := Decimal.digitsValue whole
        .ok (integer (if negative then -n else n), rest)
    else
      .ok (decimal ⟨negative, Decimal.digitsValue (whole ++ tenths),
        exponent.getD 0 - tenths.length⟩, rest)

/-- Words that stand for a value. -/
def word? (cs : LooseText) : Option (Json × LooseText) :=
  let words : List (String × Json) := [("null", null), ("true", bool true), ("false", bool false),
    ("NaN", nonFinite (0 / 0)), ("Infinity", nonFinite (1 / 0)),
    ("-Infinity", nonFinite (-1 / 0))]
  words.findSome? (fun w => (afterWord? w.1 cs).map fun rest => (w.2, rest))

mutual

/-- One value at the head of the text, and the rest; `depth` arrays and objects may still be
opened within each other. -/
def value (fuel depth : Nat) (cs : LooseText) : Except Error (Json × LooseText) :=
  match fuel, depth, cs with
  | 0, _, _ => .error .malformed
  | _ + 1, _, some '"' :: rest =>
    match stringBody rest.length [] rest with
    | some (s, rest) => .ok (ofString s, rest)
    | none => .error .malformed
  | _ + 1, 0, some '[' :: _ => .error .tooDeep
  | _ + 1, 0, some '\x7b' :: _ => .error .tooDeep
  | fuel + 1, depth + 1, some '[' :: rest =>
    match skipSpaces rest with
    | some ']' :: rest => .ok (array [], rest)
    | rest => elements fuel depth [] rest
  | fuel + 1, depth + 1, some '\x7b' :: rest =>
    match skipSpaces rest with
    | some '\x7d' :: rest => .ok (object [], rest)
    | rest => members fuel depth [] rest
  | _ + 1, _, cs =>
    match word? cs with
    | some found => .ok found
    | none => number cs

/-- The elements of an array from the next one on; `acc` holds those before, last first. -/
def elements (fuel depth : Nat) (acc : List Json) (cs : LooseText) :
    Except Error (Json × LooseText) :=
  match fuel with
  | 0 => .error .malformed
  | fuel + 1 =>
    match value fuel depth cs with
    | .error e => .error e
    | .ok (item, rest) =>
      match skipSpaces rest with
      | some ',' :: rest => elements fuel depth (item :: acc) (skipSpaces rest)
      | some ']' :: rest => .ok (array (item :: acc).reverse, rest)
      | _ => .error .malformed

/-- The fields of an object from the next one on; `acc` holds those before, last first. -/
def members (fuel depth : Nat) (acc : List (Option String × Json)) (cs : LooseText) :
    Except Error (Json × LooseText) :=
  match fuel, cs with
  | fuel + 1, some '"' :: rest =>
    match stringBody rest.length [] rest with
    | none => .error .malformed
    | some (key, rest) =>
      match skipSpaces rest with
      | some ':' :: rest =>
        match value fuel depth (skipSpaces rest) with
        | .error e => .error e
        | .ok (item, rest) =>
          match skipSpaces rest with
          | some ',' :: rest => members fuel depth ((key.text?, item) :: acc) (skipSpaces rest)
          | some '\x7d' :: rest => .ok (object ((key.text?, item) :: acc).reverse, rest)
          | _ => .error .malformed
      | _ => .error .malformed
  | _, _ => .error .malformed

end

/-- A whole text with so many arrays and objects within each other at most. Every step takes
a character, so the length bounds their number. -/
def parseWithin (depth : Nat) (cs : LooseText) : Except Error Json :=
  match value (cs.length + 1) depth (skipSpaces cs) with
  | .error e => .error e
  | .ok (item, rest) => if (skipSpaces rest).isEmpty then .ok item else .error .malformed

/-- A whole text, however deep. -/
def parse (cs : List Char) : Except Error Json := parseWithin cs.length (cs.map some)

end Json
end EmailOwnership
