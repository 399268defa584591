import EmailOwnership.Text.Range
import EmailOwnership.Text.Word

/-! Addresses in angle brackets, with or without a name before them.

A name is either words of letters, digits, dots and the marks that may stand in an address,
or anything between double quotes. What is between the first bracket behind the name and
the closing bracket at the end counts, whatever it is. -/
namespace EmailOwnership.Mailbox
open Text

/-- The marks of a word, beside letters, digits and the underscore. -/
def nameMarks : List Char :=
  ['!', '#', '$', '%', '&', '\'', '*', '+', '-', '.', '/', '=', '?', '^', '\x60', '\x7b', '|', '\x7d',
    '~']

def isNameChar (c : Char) : Bool := isBlank c || isWord c || nameMarks.contains c

/-- What the brackets enclose, if there are only blanks around them. -/
def enclosed? (cs : List Char) : Option (List Char) :=
  match cs.dropWhile isBlank with
  | '<' :: rest =>
    match (dropEndWhile isBlank rest).reverse with
    | '>' :: c :: inner => some (c :: inner).reverse
    | _ => none
  | _ => none

/-- What is enclosed behind the last quote that only brackets follow. -/
def behindQuote? : List Char → Option (List Char)
  | [] => none
  | c :: rest =>
    match behindQuote? rest with
    | some inner => some inner
    | none => if c = '"' then enclosed? rest else none

/-- The bracketed part of a text that is a name, or nothing, and brackets. -/
def bracketed? (cs : List Char) : Option (List Char) :=
  match enclosed? (cs.dropWhile isNameChar) with
  | some inner => some inner
  | none =>
    match cs.dropWhile isBlank with
    | '"' :: _ :: more => behindQuote? more
    | _ => none

end EmailOwnership.Mailbox
