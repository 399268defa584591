import EmailOwnership.Store.Database.Transaction

/-! The table of email records, and what statements do to it.

A row has a value in every column. Parameters fill the operands of a statement from left
to right. A comparison with null holds of no row. `EmailTable.server` executes statements
on a copy of the table, which takes its place when the transaction is committed. -/
namespace EmailOwnership.Store
open Database

namespace EmailRow

def blank : EmailRow := ⟨.null, .null, .null, .null, .null⟩

def get (row : EmailRow) : Column → Value
  | .id => row.id
  | .account => row.owner
  | .address => row.address
  | .code => row.code
  | .verified => row.verified

def set (row : EmailRow) : Column → Value → EmailRow
  | .id, v => {row with id := v}
  | .account, v => {row with owner := v}
  | .address, v => {row with address := v}
  | .code, v => {row with code := v}
  | .verified, v => {row with verified := v}

def assign (cells : List (Column × Value)) (row : EmailRow) : EmailRow :=
  cells.foldl (fun row cell => row.set cell.1 cell.2) row

theorem get_set (row : EmailRow) (c c' : Column) (v : Value) :
    (row.set c v).get c' = if c = c' then v else row.get c' := by
  cases c <;> cases c' <;> rfl

def project (columns : List Column) (row : EmailRow) : Row := columns.map row.get

/-- A row is read back from its columns. -/
theorem emailOfRow_project (row : EmailRow) :
    Database.emailOfRow (row.project recordColumns) = .ok row := rfl

end EmailRow

namespace Database

/-! ### Filling operands -/

/-- An operand with the parameters that are left, `none` if it lacks one. -/
def Operand.fill? : Operand → List Value → Option (Value × List Value)
  | .literal b, parameters => some (.bool b, parameters)
  | .parameter, v :: parameters => some (v, parameters)
  | .parameter, [] => none

def fillCells? : List (Column × Operand) → List Value → Option (List (Column × Value) × List Value)
  | [], parameters => some ([], parameters)
  | (column, operand) :: rest, parameters => do
    let (v, parameters) ← operand.fill? parameters
    let (cells, parameters) ← fillCells? rest parameters
    pure ((column, v) :: cells, parameters)

/-- A condition on a row. -/
inductive RowTest
  | equals (column : Column) (v : Value)
  | isNull (column : Column)
  deriving DecidableEq

def RowTest.holds (row : EmailRow) : RowTest → Bool
  | .equals column v => decide (row.get column ≠ .null) && decide (row.get column = v)
  | .isNull column => decide (row.get column = .null)

def fillConditions? : List Condition → List Value → Option (List RowTest × List Value)
  | [], parameters => some ([], parameters)
  | .equals column operand :: rest, parameters => do
    let (v, parameters) ← operand.fill? parameters
    let (tests, parameters) ← fillConditions? rest parameters
    pure (.equals column v :: tests, parameters)
  | .isNull column :: rest, parameters => do
    let (tests, parameters) ← fillConditions? rest parameters
    pure (.isNull column :: tests, parameters)

def allHold (tests : List RowTest) (row : EmailRow) : Bool := tests.all (RowTest.holds row)

/-! ### Statements on rows -/

/-- What a statement returns of the rows that it affected. -/
def returned (columns : List Column) (affected : List EmailRow) : ResultSet :=
  ⟨if columns.isEmpty then [] else affected.map (EmailRow.project columns), affected.length⟩

/-- Whether a row has the same value in a column that must not repeat. -/
def taken (column : Column) (row : EmailRow) (rows : List EmailRow) : Bool :=
  rows.any (RowTest.holds · (.equals column (row.get column)))

/-- A statement with all its operands filled, on the rows of the table. A new row with the
identifier of another is refused. -/
def EmailStatement.applyTo? (statement : EmailStatement) (parameters : List Value)
    (rows : List EmailRow) : Option (ResultSet × List EmailRow) :=
  match statement with
  | .select columns conditions => do
    let (tests, []) ← fillConditions? conditions parameters | none
    pure (returned columns (rows.filter (allHold tests)), rows)
  | .insert cells key returning => do
    let (cells, []) ← fillCells? cells parameters | none
    let row := EmailRow.assign cells .blank
    if taken key row rows then pure (returned returning [], rows)
    else if taken .id row rows then none
    else pure (returned returning [row], rows ++ [row])
  | .update cells conditions returning => do
    let (cells, parameters) ← fillCells? cells parameters
    let (tests, []) ← fillConditions? conditions parameters | none
    pure (returned returning ((rows.filter (allHold tests)).map (EmailRow.assign cells)),
      rows.map fun row => if allHold tests row then EmailRow.assign cells row else row)
  | .delete conditions => do
    let (tests, []) ← fillConditions? conditions parameters | none
    pure (returned [] (rows.filter (allHold tests)), rows.filter fun row => !allHold tests row)

/-! ### The server -/

/-- The committed rows, and those that the transaction under way sees. -/
structure EmailTable where
  rows : List EmailRow
  working : List EmailRow

namespace EmailTable

def ofRecords (records : List EmailRecord) : EmailTable :=
  let rows := records.map EmailRow.ofRecord
  ⟨rows, rows⟩

def refusal : Trouble := .database "IntegrityError" "statement refused"

/-- Answers statements on email records; other queries find nothing. -/
def server : Server EmailTable where
  connect t := (.none, {t with working := t.rows})
  execute query parameters t :=
    match query with
    | .emails statement =>
      match statement.applyTo? (parameters.getD []) t.working with
      | some (result, rows) => (.none, result, {t with working := rows})
      | none => (⟨none, false, some refusal⟩, ⟨[], 0⟩, t)
    | _ => (.none, ⟨[], 0⟩, t)
  commit t := (.none, {t with rows := t.working})
  rollback t := (.none, {t with working := t.rows})

end EmailTable
end Database
end EmailOwnership.Store
