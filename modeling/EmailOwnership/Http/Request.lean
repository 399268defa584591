import EmailOwnership.Http.Target
import EmailOwnership.Json
import EmailOwnership.Text.Range

/-! Requests: how their headers and their query are looked up, and what their body says.

Only a body that is said to be JSON is read. Its first bytes tell whether its characters
take one, two or four bytes: a text of JSON begins with ASCII characters, so zeros show
where the rest of a unit is. -/
namespace EmailOwnership.Http
open Text

structure Request where
  method : String
  /-- The decoded path. -/
  path : String
  query : List (String × String)
  headers : List (String × String)
  body : String

def foldAscii (s : String) : String := String.ofList (s.toList.map Char.toLower)

namespace Request

/-- The first value of a header, whose name has no case. -/
def header? (r : Request) (name : String) : Option String :=
  (r.headers.find? (fun h => foldAscii h.1 == foldAscii name)).map Prod.snd

/-- The last value of a name in the query. -/
def query? (r : Request) (name : String) : Option String :=
  (r.query.reverse.find? (fun q => q.1 == name)).map Prod.snd

end Request

/-! ### Bodies -/

/-- Whether a content type is JSON, or a kind of application data that is written in it. -/
def isJsonType (contentType : String) : Bool :=
  let mediaType := (strip (cut ';' contentType.toList).1).map Char.toLower
  match (pieces '/' mediaType).map String.ofList with
  | [main, sub] => main == "application" && (sub == "json" || sub.endsWith "+json")
  | _ => false

inductive Encoding
  | utf8
  | utf16 (order : ByteOrder)
  | utf32 (order : ByteOrder)
  deriving DecidableEq

def encodingOf : List UInt8 → Encoding
  | [a, b] =>
    if a = 0 then .utf16 .highFirst
    else if b = 0 then .utf16 .lowFirst
    else .utf8
  | a :: b :: c :: d :: _ =>
    if a = 0 then (if b = 0 then .utf32 .highFirst else .utf16 .highFirst)
    else if b = 0 then (if c = 0 ∧ d = 0 then .utf32 .lowFirst else .utf16 .lowFirst)
    else .utf8
  | _ => .utf8

inductive Payload
  | absent
  | json (j : Json)
  /-- A body that is not said to be JSON. -/
  | other

/-- Why a body that is said to be JSON is not. -/
inductive BodyError
  | undecodable
  | json (e : Json.Error)
  deriving DecidableEq

/-- How many arrays and objects a body may open within each other. -/
def maxBodyDepth : Nat := 960

/-- The characters of a text of JSON. -/
def jsonText? (body : List Char) : Option LooseText :=
  let bytes := encodeUtf8 body
  match encodingOf bytes with
  | .utf8 => some ((withoutByteOrderMark body).map some)
  | .utf16 order => decodeUtf16? order bytes
  | .utf32 order => decodeUtf32? order bytes

def Request.payload (r : Request) : Except BodyError Payload :=
  if r.body.isEmpty then .ok .absent
  else if (r.header? "content-type").any isJsonType then
    match jsonText? r.body.toList with
    | none => .error .undecodable
    | some cs => ((Json.parseWithin maxBodyDepth cs).map .json).mapError .json
  else .ok .other

end EmailOwnership.Http
