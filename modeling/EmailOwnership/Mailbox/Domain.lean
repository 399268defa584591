import EmailOwnership.Mailbox.Label

/-! The part of an address behind the at sign: a host name with a dot, in lower case.

Top labels end in a letter, in the form that is sent; some are set aside for uses other than
mail. -/
namespace EmailOwnership.Mailbox
open Text

def maxDomainLength : Nat := 253

/-- Top labels that receive no mail. -/
def reservedLabels : List String := ["arpa", "invalid", "local", "localhost", "onion", "test"]

def isTopLabel (label : List Char) : Bool :=
  label.getLast?.any Char.isAlpha && !reservedLabels.contains (String.ofList label)

/-- A domain as people read it, and as it is sent. -/
structure Domain where
  shown : List Char
  sent : List Char

def joinLabels (labels : List (List Char)) : List Char := ['.'].intercalate labels

/-- The domain of two or more labels. -/
def Domain.ofLabels? (labels : List Label) : Option Domain :=
  let sent := joinLabels (labels.map Label.sent)
  if 2 ≤ labels.length ∧ sent.length ≤ maxDomainLength ∧
      labels.getLast?.any (fun top => isTopLabel top.sent) then
    some ⟨joinLabels (labels.map Label.shown), sent⟩
  else none

/-- ASCII letters become small, and anything beyond ASCII is composed. -/
def canonical (cs : List Char) : List Char :=
  let lowered := cs.map Char.toLower
  if lowered.all isAscii then lowered else compose lowered

/-- The domain in lower case, if it is well formed. -/
def domain? (cs : List Char) : Option Domain :=
  ((pieces '.' (canonical cs)).mapM label?).bind Domain.ofLabels?

end EmailOwnership.Mailbox
