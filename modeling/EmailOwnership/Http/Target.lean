import EmailOwnership.Numeral
import EmailOwnership.Text.Encoding
import EmailOwnership.Text.Pieces

/-! The targets of requests.

A target is a path with a query. A scheme and the name of a host may stand before it and do
not count, nor does what follows a number sign. Segments of one or two dots are taken out
of the path as it is written, `..` with the segment before it. Then the path is decoded,
twice, since an encoded percent sign may begin another encoding. -/
namespace EmailOwnership.Http
open Text

/-! ### Percent signs -/

/-- The bytes that the text stands for: a percent sign with two hexadecimal digits is one
byte, every other character its own bytes. -/
def targetBytes : List Char → List UInt8
  | '%' :: high :: low :: rest =>
    match Hexadecimal.digitValue? high, Hexadecimal.digitValue? low with
    | some h, some l => UInt8.ofNat (16 * h + l) :: targetBytes rest
    | _, _ => String.utf8EncodeChar '%' ++ targetBytes (high :: low :: rest)
  | c :: rest => String.utf8EncodeChar c ++ targetBytes rest
  | [] => []

def decodePercent (cs : List Char) : List Char := decodeUtf8 (targetBytes cs)

/-- A name or a value in a query, where a plus sign stands for a space. -/
def decodeQueryText (cs : List Char) : String :=
  String.ofList (decodePercent (cs.map fun c => if c = '+' then ' ' else c))

/-- The names and values of a query, in order; a name without a value has an empty one. -/
def queryPairs (query : List Char) : List (String × String) :=
  ((pieces '&' query).filter (!·.isEmpty)).map fun part =>
    let (name, value) := cut '=' part
    (decodeQueryText name, decodeQueryText (value.getD []))

structure Target where
  /-- The decoded path. -/
  path : String
  query : List (String × String)

/-! ### Paths -/

def isSlash (c : Char) : Bool := c == '/'

/-- The segments that are kept, last first; the empty one before the first slash stays. -/
def keepSegment (kept : List (List Char)) (segment : List Char) : List (List Char) :=
  if segment = ['.'] then kept
  else if segment = ['.', '.'] then (if kept = [[]] then kept else kept.drop 1)
  else segment :: kept

def removeDots (path : List Char) : List Char :=
  ['/'].intercalate ((pieces '/' path).foldl keepSegment []).reverse

/-- The path that a text writes. -/
def readPath (written : List Char) : List Char :=
  let path := removeDots written
  decodePercent (decodePercent (if path.isEmpty then ['/'] else path))

/-! ### Whole targets -/

/-- The text before the query and the query itself. -/
def cutQuery (target : List Char) : List Char × Option (List Char) := cut '?' (cut '#' target).1

/-- The first character is a letter, if there is one at all. -/
def isScheme (cs : List Char) : Bool :=
  (cs.take 1).all Char.isAlpha && cs.all fun c => c.isAlphanum || c == '+' || c == '.' || c == '-'

def cutScheme (cs : List Char) : Option (List Char) × List Char :=
  match cut ':' cs with
  | (scheme, some rest) => if isScheme scheme then (some scheme, rest) else (none, cs)
  | (_, none) => (none, cs)

def cutHost : List Char → Option (List Char) × List Char
  | '/' :: '/' :: rest => (some (rest.takeWhile (!isSlash ·)), rest.dropWhile (!isSlash ·))
  | cs => (none, cs)

/-- The path in a text with scheme and host, as it is written; without both it begins with
one slash, however many there are. -/
def writtenPath (cs : List Char) : List Char :=
  let (scheme, cs) := cutScheme cs
  let (host, cs) := cutHost cs
  let named := scheme.any (!·.isEmpty)
  let path := if named || host.isSome then removeDots cs else cs
  if named && host.any (!·.isEmpty) then path else '/' :: path.dropWhile isSlash

def Target.read (target : String) : Target :=
  let (before, query) := cutQuery target.toList
  ⟨String.ofList (readPath (writtenPath before)), queryPairs (query.getD [])⟩

end EmailOwnership.Http
