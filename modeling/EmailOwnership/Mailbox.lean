import EmailOwnership.Mailbox.Bracketed
import EmailOwnership.Mailbox.Domain
import EmailOwnership.Mailbox.LocalPart

/-! Mail addresses as people write them.

`read?` accepts an address, alone or in brackets behind a name, with blanks around it, and
returns the address itself: the local part as it was written, the domain in lower case and
with international labels decoded. It does not ask whether anybody receives mail there. -/
namespace EmailOwnership.Mailbox
open Text

/-- The longest text that is read at all, in characters. -/
def maxTextLength : Nat := 2048

/-- The longest address, in bytes. -/
def maxAddressBytes : Nat := 254

def isLineEnd (c : Char) : Bool := c == '\n' || c == '\r'

def fits (cs : List Char) : Bool := decide (byteLength cs ≤ maxAddressBytes)

/-- An address without anything around it. -/
def address? (cs : List Char) : Option (List Char) :=
  match cut '@' cs with
  | (_, none) => none
  | (before, some behind) =>
    match localPart? before, domain? behind with
    | some localPart, some domain =>
      let shown := localPart ++ '@' :: domain.shown
      if fits cs && fits shown && fits (localPart ++ '@' :: domain.sent) then some shown else none
    | _, _ => none

def read? (s : String) : Option String :=
  let cs := s.toList
  if decide (maxTextLength < cs.length) || cs.any isLineEnd then none
  else (address? (strip ((bracketed? cs).getD cs))).map String.ofList

end EmailOwnership.Mailbox
