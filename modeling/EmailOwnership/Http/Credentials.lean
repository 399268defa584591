import EmailOwnership.Http.Request

/-! Credentials of the scheme that sends handle and password with every request.

They come in base 64, of which characters outside of the alphabet are passed over, and a
padding that completes a group ends the text. -/
namespace EmailOwnership.Http
open Text

/-! ### Base 64 -/

def sixBits? (c : Char) : Option Nat :=
  if 'A' ≤ c ∧ c ≤ 'Z' then some (c.toNat - 'A'.toNat)
  else if 'a' ≤ c ∧ c ≤ 'z' then some (c.toNat - 'a'.toNat + 26)
  else if '0' ≤ c ∧ c ≤ '9' then some (c.toNat - '0'.toNat + 52)
  else if c = '+' then some 62
  else if c = '/' then some 63
  else none

/-- A group of four characters under way: how many came, the bits left over from them, and
the signs of padding since. -/
structure Group where
  position : Nat
  bits : Nat
  padding : Nat

def Group.fresh : Group := ⟨0, 0, 0⟩

/-- The group after six more bits, and the byte that they complete. -/
def Group.accept (g : Group) (v : Nat) : Option Nat × Group :=
  match g.position with
  | 0 => (none, ⟨1, v, 0⟩)
  | 1 => (some (g.bits * 4 + v / 16), ⟨2, v % 16, 0⟩)
  | 2 => (some (g.bits * 16 + v / 4), ⟨3, v % 4, 0⟩)
  | _ => (some (g.bits * 64 + v), .fresh)

/-- The bytes of the rest of the text, `none` if it ends within a group. -/
def decodeGroups (g : Group) : List Char → Option (List Nat)
  | [] => if g.position = 0 then some [] else none
  | '=' :: rest =>
    if g.position < 2 then decodeGroups g rest
    else if 4 ≤ g.position + g.padding + 1 then some []
    else decodeGroups {g with padding := g.padding + 1} rest
  | c :: rest =>
    match sixBits? c with
    | none => decodeGroups g rest
    | some v =>
      match g.accept v with
      | (none, g) => decodeGroups g rest
      | (some byte, g) => (decodeGroups g rest).map (byte :: ·)

def decodeBase64? (cs : List Char) : Option (List Nat) := decodeGroups .fresh cs

/-! ### Credentials -/

structure Credentials where
  handle : String
  password : String
  deriving DecidableEq

namespace Credentials

def scheme : String := "Basic"

/-- ASCII text with a colon, in base 64; the password may have further colons. -/
def decode? (parameter : List Char) : Option Credentials :=
  if !parameter.all isAscii then none
  else match decodeBase64? parameter with
    | none => none
    | some bytes =>
      let text := bytes.map Char.ofNat
      if !text.all isAscii then none
      else match cut ':' text with
        | (_, none) => none
        | (handle, some password) => some ⟨String.ofList handle, String.ofList password⟩

/-- The credentials of a request, `none` if it has none of this scheme. -/
def read? (r : Request) : Option Credentials :=
  match r.header? "authorization" with
  | none => none
  | some value =>
    match cut ' ' value.toList with
    | (name, parameter) =>
      if foldAscii (String.ofList name) = foldAscii scheme then decode? (parameter.getD [])
      else none

end Credentials
end EmailOwnership.Http
