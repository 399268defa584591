import EmailOwnership.Mailbox.Label.Permitted
import EmailOwnership.Text.Category
import EmailOwnership.Text.Composition
import EmailOwnership.Text.Direction
import EmailOwnership.Text.Pieces
import EmailOwnership.Text.Punycode

/-! The labels of a host name.

A plain label has small letters, digits and inner hyphens. An international label has permitted
characters, composed and clear in direction, and is sent in an encoded form of ASCII
characters behind a marker. No label has hyphens in third and fourth place but that form. -/
namespace EmailOwnership.Mailbox
open Text

/-- A label as people read it, and as it is sent. -/
structure Label where
  shown : List Char
  sent : List Char

/-! ### Plain labels -/

def maxLabelLength : Nat := 63

def isHostChar (c : Char) : Bool := c.isLower || c.isDigit || c == '-'

/-- No hyphen at either end, nor in third and fourth place. -/
def hyphensFit (label : List Char) : Bool :=
  label.head? != some '-' && label.getLast? != some '-' &&
    !(label[2]? == some '-' && label[3]? == some '-')

def isPlainLabel (label : List Char) : Bool :=
  !label.isEmpty && label.all isHostChar && hyphensFit label

/-! ### International labels -/

def greekRanges : List CodeRange :=
  [(0x371, 0x3e1), (0x3f3, 0x3fc), (0x1d26, 0x1d2a), (0x1f00, 0x1ff6), (0xab65, 0xab65)]

def hebrewRanges : List CodeRange := [(0x591, 0x5f4), (0xfb1e, 0xfb1e)]

/-- Han and both kinds of kana, without the dot between words. -/
def kanaAndHanRanges : List CodeRange := [
  (0x3005, 0x3005), (0x3007, 0x3007), (0x3041, 0x3096), (0x309d, 0x30fa), (0x30fd, 0x30fe),
  (0x31f0, 0x9fff), (0xfa0e, 0xfa29), (0x16fe3, 0x16fe3), (0x16ff0, 0x16ff1), (0x1aff0, 0x1b167),
  (0x20000, 0x3134a)]

def arabicDigitRange : CodeRange := (0x660, 0x669)

def extendedDigitRange : CodeRange := (0x6f0, 0x6f9)

def inRange (ranges : List CodeRange) (c : Char) : Bool := inRanges ranges c.toNat

/-- Whether a character may stand in a label between its neighbours. Some marks may only be
where a language needs them, and two rows of digits do not mix. -/
def fitsBetween (label : List Char) (before : Option Char) (c : Char) (behind : Option Char) :
    Bool :=
  if c = '\u00b7' then before == some 'l' && behind == some 'l'
  else if c = '\u0375' then behind.any (inRange greekRanges)
  else if c = '\u05f3' ∨ c = '\u05f4' then before.any (inRange hebrewRanges)
  else if c = '\u30fb' then label.any (inRange kanaAndHanRanges)
  else if inRange [arabicDigitRange] c then !label.any (inRange [extendedDigitRange])
  else if inRange [extendedDigitRange] c then !label.any (inRange [arabicDigitRange])
  else isPermitted c

/-- Whether every character of the rest fits, given the one before it. -/
def allFit (label : List Char) (before : Option Char) : List Char → Bool
  | [] => true
  | c :: rest => fitsBetween label before c rest.head? && allFit label (some c) rest

def isInternationalLabel (label : List Char) : Bool :=
  compose label == label && hyphensFit label && !label.head?.any isMark && allFit label none label &&
    isDirectionClear label

/-! ### Both forms -/

/-- What an encoded label begins with. -/
def encodingMarker : List Char := ['x', 'n', '-', '-']

/-- The label that an encoded form stands for. -/
def decoded? (sent : List Char) : Option Label :=
  let code := sent.drop encodingMarker.length
  if code.isEmpty || code.getLast? == some '-' || !code.all isHostChar then none
  else match Punycode.decode? code with
    | none => none
    | some shown => if isInternationalLabel shown then some ⟨shown, sent⟩ else none

/-- A label in lower case in either form. -/
def label? (cs : List Char) : Option Label :=
  let label :=
    if !cs.all isAscii then
      if isInternationalLabel cs then some ⟨cs, encodingMarker ++ Punycode.encode cs⟩ else none
    else if encodingMarker.isPrefixOf cs then decoded? cs
    else if isPlainLabel cs then some ⟨cs, cs⟩
    else none
  label.filter fun l => decide (l.sent.length ≤ maxLabelLength)

end EmailOwnership.Mailbox
