import EmailOwnership.Table
import EmailOwnership.Text.Range
import EmailOwnership.Text.Encoding
import EmailOwnership.Text.Pieces

/-! Files of environment variables.

A line binds a name to a value, `name=value`, perhaps after `export`. A value in quotes may
span lines and has escapes; any other ends with its line or before a comment. A line that
is not a binding is skipped. Values may refer to names bound before, or to the
environment, as `$\x7bname\x7d` or `$\x7bname:-default\x7d`. -/
namespace EmailOwnership.Settings.EnvironmentFile

/-! ### Reading with a position

Each reader gives its value and the rest, or, if it finds nothing of its kind, the text
at which it stopped. -/

abbrev Reader (α : Type) := List Char → Except (List Char) (α × List Char)

def isLineBlank (c : Char) : Bool := Text.isBlank c && c != '\n'

def dropLine (cs : List Char) : List Char := cs.dropWhile (· != '\n')

def skipLineBlanks (cs : List Char) : List Char := cs.dropWhile isLineBlank

/-- Behind `export` and blanks, if the line begins so. -/
def skipExport (cs : List Char) : List Char :=
  let word := "export".toList
  let rest := cs.drop word.length
  if word.isPrefixOf cs && rest.head?.any isLineBlank then skipLineBlanks rest else cs

/-- The text up to the closing quote, and what follows it. A backslash takes the next
character with it. `acc` is what was passed, last first. -/
def quotedBody? (quote : Char) (acc : List Char) : List Char → Option (List Char × List Char)
  | '\\' :: c :: rest => quotedBody? quote (c :: '\\' :: acc) rest
  | c :: rest => if c = quote then some (acc.reverse, rest) else quotedBody? quote (c :: acc) rest
  | [] => none

/-- The escapes of double quotes. -/
def doubleEscape? : Char → Option Char
  | '\\' => some '\\'
  | '\'' => some '\''
  | '"' => some '"'
  | 'a' => some '\x07'
  | 'b' => some '\x08'
  | 'f' => some '\x0c'
  | 'n' => some '\n'
  | 'r' => some '\r'
  | 't' => some '\t'
  | 'v' => some '\x0b'
  | _ => none

def singleEscape? : Char → Option Char
  | '\\' => some '\\'
  | '\'' => some '\''
  | _ => none

def unescape (escape? : Char → Option Char) : List Char → List Char
  | '\\' :: c :: rest =>
    match escape? c with
    | some plain => plain :: unescape escape? rest
    | none => '\\' :: unescape escape? (c :: rest)
  | c :: rest => c :: unescape escape? rest
  | [] => []

/-- The name at the head of a line; none at a comment. -/
def key : Reader (Option String)
  | '#' :: rest => .ok (none, '#' :: rest)
  | '\'' :: rest =>
    match rest.takeWhile (· != '\''), rest.dropWhile (· != '\'') with
    | c :: name, _ :: after => .ok (some (String.ofList (c :: name)), after)
    | _, _ => .error ('\'' :: rest)
  | cs =>
    let inName (c : Char) : Bool := c != '=' && c != '#' && !Text.isBlank c
    let name := cs.takeWhile inName
    if name.isEmpty then .error cs else .ok (some (String.ofList name), cs.dropWhile inName)

/-- Cuts at the first blanks that a `#` follows. -/
def cutComment : List Char → List Char
  | [] => []
  | c :: rest =>
    if Text.isBlank c && (rest.dropWhile Text.isBlank).head? == some '#' then []
    else c :: cutComment rest

/-- The value behind the equals sign, with or without quotes behind blanks. -/
def value : Reader String := fun cs =>
  let quoted (quote : Char) (escape? : Char → Option Char) (rest : List Char) :
      Except (List Char) (String × List Char) :=
    match quotedBody? quote [] rest with
    | some (body, after) => .ok (String.ofList (unescape escape? body), after)
    | none => .error (quote :: rest)
  match skipLineBlanks cs with
  | '\'' :: rest => quoted '\'' singleEscape? rest
  | '"' :: rest => quoted '"' doubleEscape? rest
  | _ => .ok (String.ofList (Text.strip (cutComment (cs.takeWhile (· != '\n')))), dropLine cs)

/-- A comment, if one follows, and the end of the line. -/
def lineEnd : Reader Unit := fun cs =>
  let cs := match skipLineBlanks cs with
    | '#' :: rest => dropLine rest
    | _ => cs
  match skipLineBlanks cs with
  | [] => .ok ((), [])
  | '\n' :: rest => .ok ((), rest)
  | _ => .error cs

/-- What a line binds: a name, if it has one, and a value, if it has an equals sign. -/
structure Binding where
  name : Option String
  value : Option String

def binding : Reader Binding := fun cs => do
  let (name, cs) ← key (skipExport cs)
  match skipLineBlanks cs with
  | '=' :: rest =>
    let (v, cs) ← value rest
    let ((), cs) ← lineEnd cs
    pure (⟨name, some v⟩, cs)
  | cs =>
    let ((), cs) ← lineEnd cs
    pure (⟨name, none⟩, cs)

/-- What is left behind a line that is not a binding. -/
def skipLine (cs : List Char) : List Char := (dropLine cs).drop 1

/-- The bindings of a text; every round takes a character at least. -/
def bindingsWithin : (fuel : Nat) → List Char → List (String × Option String)
  | 0, _ => []
  | fuel + 1, cs =>
    match cs.dropWhile Text.isBlank with
    | [] => []
    | cs =>
      match binding cs with
      | .ok (⟨some name, v⟩, rest) => (name, v) :: bindingsWithin fuel rest
      | .ok (⟨none, _⟩, rest) => bindingsWithin fuel rest
      | .error stopped => bindingsWithin fuel (skipLine stopped)

def bindings (cs : List Char) : List (String × Option String) := bindingsWithin (cs.length + 1) cs

/-! ### References -/

/-- A reference behind its opening `$\x7b`: name, default and rest. -/
def reference? (cs : List Char) : Option (String × String × List Char) :=
  let inName (c : Char) : Bool := c != '\x7d' && c != ':'
  let name := String.ofList (cs.takeWhile inName)
  match cs.dropWhile inName with
  | '\x7d' :: rest => some (name, "", rest)
  | ':' :: '-' :: rest =>
    match rest.dropWhile (· != '\x7d') with
    | _ :: after => some (name, String.ofList (rest.takeWhile (· != '\x7d')), after)
    | [] => none
  | _ => none

/-- Replaces the references of a value; every step takes a character at least. -/
def resolveWithin (lookup : String → Option String) : (fuel : Nat) → List Char → List Char
  | 0, cs => cs
  | fuel + 1, '$' :: '\x7b' :: rest =>
    match reference? rest with
    | some (name, default, rest) =>
      ((lookup name).getD default).toList ++ resolveWithin lookup fuel rest
    | none => '$' :: '\x7b' :: resolveWithin lookup fuel rest
  | fuel + 1, c :: rest => c :: resolveWithin lookup fuel rest
  | _ + 1, [] => []

/-- Binds in turn, each value resolved by the bindings before it and then the environment. -/
def resolveAll (environment : Table String String) (bindings : List (String × Option String)) :
    Table String (Option String) :=
  bindings.foldl (fun bound b =>
    let lookup (name : String) : Option String :=
      match bound.get? name with
      | some v => some (v.getD "")
      | none => environment.get? name
    bound.put b.1 (b.2.map fun v =>
      String.ofList (resolveWithin lookup (v.toList.length + 1) v.toList))) .empty

/-- The names and values that a text binds, in an environment. -/
def read (environment : Table String String) (text : String) : Table String (Option String) :=
  resolveAll environment (bindings (Text.unifyLineEnds (Text.withoutByteOrderMark text.toList)))

end EmailOwnership.Settings.EnvironmentFile
