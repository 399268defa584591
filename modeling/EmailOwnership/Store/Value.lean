import EmailOwnership.Uuid

/-! Cells: what a column holds, and what a statement is given for a parameter. -/
namespace EmailOwnership.Store

inductive Value
  | null
  | bool (b : Bool)
  | int (n : Int)
  /-- A number with a fraction, by its binary form. -/
  | real (bits : UInt64)
  | text (s : String)
  | uuid (u : Uuid)
  deriving DecidableEq, Inhabited

namespace Value

/-- Whether the cell counts as true: all do but null, false, zero and the empty text. -/
def isTrue : Value → Bool
  | null => false
  | bool b => b
  | int n => n != 0
  | real bits => bits != 0 && bits != 0x8000000000000000
  | text s => !s.isEmpty
  | uuid _ => true

/-- The text of a cell, as it is handed to a sender. -/
def render : Value → String
  | null => "None"
  | bool true => "True"
  | bool false => "False"
  | int n => toString n
  | real bits => String.ofList (Text.Hexadecimal.digits 16 bits.toNat)
  | text s => s
  | uuid u => u.text

def ofOwner : Option Uuid → Value
  | some u => uuid u
  | none => null

def text? : Value → Option String
  | text s => some s
  | _ => none

/-- The word for the kind of a cell in messages. -/
def kind : Value → String
  | null => "NoneType"
  | bool _ => "bool"
  | int _ => "int"
  | real _ => "float"
  | text _ => "str"
  | uuid _ => "UUID"

end Value
end EmailOwnership.Store
