import EmailOwnership.Failure

/-! Errors of the registry as they are raised and shown.

The details of an error are passed in a dictionary that its owner may go on changing; the
error keeps a copy in a dictionary of its own. To be shown it sorts its details as pairs:
by name, and under equal names by value. Not all values can be compared, so in a sort any
comparison may fail. Then it writes them out one by one, and a number may be too long. -/
namespace EmailOwnership

/-! ### Comparing details -/

/-- Why details are not shown. -/
inductive Unshown
  /-- Two values that have no order. -/
  | incomparable (left right : Detail)
  | tooManyDigits
  deriving DecidableEq

namespace Detail

/-- The word for the kind of a value in messages. -/
def kind : Detail → String
  | text _ => "str"
  | number _ => "int"
  | flag _ => "bool"
  | id _ => "UUID"
  | absent => "NoneType"

/-- A flag counts as a number. -/
def number? : Detail → Option Int
  | number n => some n
  | flag b => some (if b then 1 else 0)
  | _ => none

def same (a b : Detail) : Bool :=
  match a.number?, b.number? with
  | some m, some n => decide (m = n)
  | _, _ => decide (a = b)

def below (a b : Detail) : Except Unshown Bool :=
  match a, b with
  | text s, text t => .ok (decide (s < t))
  | id u, id v => .ok (decide (u.number < v.number))
  | _, _ =>
    match a.number?, b.number? with
    | some m, some n => .ok (decide (m < n))
    | _, _ => .error (.incomparable a b)

end Detail

def Unshown.message : Unshown → String
  | .incomparable left right =>
    "'<' not supported between instances of '" ++ left.kind ++ "' and '" ++ right.kind ++ "'"
  | .tooManyDigits =>
    "Exceeds the limit (" ++ toString maxIntegerDigits ++ " digits) for integer string " ++
      "conversion; use sys.set_int_max_str_digits() to increase the limit"

/-- Pairs are in the order of the first parts that differ. -/
def Details.below (a b : String × Detail) : Except Unshown Bool :=
  if a.1 ≠ b.1 then .ok (decide (a.1 < b.1))
  else if a.2.same b.2 then .ok false
  else a.2.below b.2

/-! ### Sorting -/

namespace Sorting
variable {ε α : Type} (below : α → α → Except ε Bool)

/-- Puts `a` before the first of the sorted items that it is below. -/
def insert (a : α) : List α → Except ε (List α)
  | [] => return [a]
  | b :: rest => do
    if ← below a b then return a :: b :: rest
    else return b :: (← insert a rest)

variable {below}

variable (below)

/-- Sorts by a comparison that may fail; items that are alike keep their order. -/
def sort (items : List α) : Except ε (List α) :=
  items.foldlM (fun sorted a => insert below a sorted) []

end Sorting

/-! ### Raising and showing -/

/-- Dictionaries by their places; a new one takes the next place. -/
abbrev Heap := List Details

/-- The details that are passed, none being as good as empty ones. -/
def Heap.passed (heap : Heap) : Option (Fin heap.length) → Details
  | none => .empty
  | some place => heap.get place

/-- An error, with the place of its details. -/
structure Raised where
  kind : ErrorKind
  message : String
  own : Nat

/-- Raises an error that keeps a copy of the details that are passed. -/
def raise (kind : ErrorKind) (message : String) (heap : Heap) (given : Option (Fin heap.length)) :
    Raised × Heap :=
  (⟨kind, message, heap.length⟩, heap ++ [heap.passed given])

namespace Raised

def details (e : Raised) (heap : Heap) : Details := heap[e.own]?.getD .empty

/-- The error, as it stands. -/
def error (e : Raised) (heap : Heap) (cause : Option Store.Fault) : RegistryError :=
  ⟨e.kind, e.message, e.details heap, cause⟩

def text (e : Raised) (heap : Heap) : Except Unshown String := do
  let head := e.kind.name ++ ": " ++ e.message
  let details := (e.details heap).rows
  if details.isEmpty then return head
  let items ← Sorting.sort Details.below details
  match Details.listing? items with
  | some listing => return head ++ " (" ++ listing ++ ")"
  | none => throw .tooManyDigits

end Raised
end EmailOwnership
