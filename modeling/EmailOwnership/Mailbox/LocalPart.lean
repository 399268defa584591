import EmailOwnership.Text.Category
import EmailOwnership.Text.Composition
import EmailOwnership.Text.Pieces

/-! The part of an address before the at sign.

Atoms of letters, digits and marks, joined by single dots. Beyond ASCII every character
must show by itself, or be a mark on one before it, and the text is brought into its
composed form, which must obey the same rules. Case is kept, save in names that every
domain shares. -/
namespace EmailOwnership.Mailbox
open Text

def atomMarks : List Char :=
  ['_', '!', '#', '$', '%', '&', '\'', '*', '+', '-', '/', '=', '?', '^', '\x60', '\x7b', '|', '\x7d',
    '~']

def isAtomChar (c : Char) : Bool := c.isAlphanum || atomMarks.contains c || !isAscii c

def isAtom (cs : List Char) : Bool := !cs.isEmpty && cs.all isAtomChar

/-- No mark at the head, and otherwise only marks and characters that show. -/
def isShown : List Char → Bool
  | [] => true
  | c :: rest => isGraphic c && rest.all (fun d => isGraphic d || isMark d)

def isLocalPart (cs : List Char) : Bool := (pieces '.' cs).all isAtom && isShown cs

/-- Names whose case never matters. -/
def sharedNames : List String :=
  ["info", "marketing", "sales", "support", "abuse", "noc", "security", "postmaster", "hostmaster",
    "usenet", "news", "webmaster", "www", "uucp", "ftp"]

def foldShared (cs : List Char) : List Char :=
  let folded := cs.map Char.toLower
  if sharedNames.contains (String.ofList folded) then folded else cs

/-- The part in the form that is kept, if it is well formed. -/
def localPart? (cs : List Char) : Option (List Char) :=
  if !isLocalPart cs then none
  else if cs.all isAscii then some (foldShared cs)
  else if isLocalPart (compose cs) then some (compose cs)
  else none

end EmailOwnership.Mailbox
