import EmailOwnership.Store.Reply

/-! The statements of the database store.

Statements on the table of email records are built from parts (`EmailStatement`), so that
their text and their meaning come from one value; a `%s` takes the next parameter, from
left to right. Look-ups that join other tables are known by name (`Query`). -/
namespace EmailOwnership.Store.Database

abbrev Row := List Value

/-- The rows of a statement, and the number of rows that it affected. -/
structure ResultSet where
  rows : List Row
  count : Int

/-! ### Statements on email records -/

inductive Column
  | id
  | account
  | address
  | code
  | verified
  deriving DecidableEq

def Column.name : Column → String
  | .id => "id"
  | .account => "account_id"
  | .address => "email_address"
  | .code => "verification_code"
  | .verified => "verified"

/-- The columns of a record, in the order in which records are read. -/
def recordColumns : List Column := [.id, .address, .account, .code, .verified]

inductive Operand
  | parameter
  | literal (b : Bool)
  deriving DecidableEq

inductive Condition
  | equals (column : Column) (operand : Operand)
  | isNull (column : Column)
  deriving DecidableEq

inductive EmailStatement
  | select (columns : List Column) (conditions : List Condition)
  /-- Inserts nothing where the key is taken. -/
  | insert (cells : List (Column × Operand)) (key : Column) (returning : List Column)
  | update (cells : List (Column × Operand)) (conditions : List Condition)
      (returning : List Column)
  | delete (conditions : List Condition)
  deriving DecidableEq

/-! ### Text of statements -/

def commaSeparated (parts : List String) : String := ", ".intercalate parts

def columnList (columns : List Column) : String := commaSeparated (columns.map Column.name)

def Operand.text : Operand → String
  | .parameter => "%s"
  | .literal true => "TRUE"
  | .literal false => "FALSE"

def Condition.text : Condition → String
  | .equals column operand => column.name ++ " = " ++ operand.text
  | .isNull column => column.name ++ " IS NULL"

def whereClause (conditions : List Condition) : String :=
  " WHERE " ++ " AND ".intercalate (conditions.map Condition.text)

def returningClause (columns : List Column) : String :=
  if columns.isEmpty then "" else " RETURNING " ++ columnList columns

def EmailStatement.text : EmailStatement → String
  | .select columns conditions =>
    "SELECT " ++ columnList columns ++ " FROM emails" ++ whereClause conditions
  | .insert cells key returning =>
    "INSERT INTO emails (" ++ columnList (cells.map Prod.fst) ++ ") VALUES (" ++
      commaSeparated (cells.map fun c => c.2.text) ++ ") ON CONFLICT (" ++ key.name ++
      ") DO NOTHING" ++ returningClause returning
  | .update cells conditions returning =>
    "UPDATE emails SET " ++ commaSeparated (cells.map fun c => c.1.name ++ " = " ++ c.2.text) ++
      whereClause conditions ++ returningClause returning
  | .delete conditions => "DELETE FROM emails" ++ whereClause conditions

/-! ### Queries -/

inductive Query
  | emails (statement : EmailStatement)
  | setTimeout
  | ping
  | ownerByCode
  | ownerByAddress
  | passwordByHandle
  | emailsOf
  | authenticationOf
  | rolesOf
  | tagsOf
  deriving DecidableEq

def ownerClause : String :=
  "SELECT a.id, a.handle, a.name FROM accounts a JOIN emails e ON e.account_id = a.id " ++
    "WHERE e.email_address = %s"

def Query.text : Query → String
  | .emails statement => statement.text
  | .setTimeout => "SELECT set_config('statement_timeout', %s, true)"
  | .ping => "SELECT 1"
  | .ownerByCode => ownerClause ++ " AND e.verification_code = %s"
  | .ownerByAddress => ownerClause
  | .passwordByHandle =>
    "SELECT a.id, au.token FROM accounts a JOIN authentications au ON au.account_id = a.id " ++
      "WHERE a.handle = %s AND au.service = 'password'"
  | .emailsOf =>
    "SELECT " ++ columnList recordColumns ++
      " FROM emails WHERE account_id = %s ORDER BY created_at, id"
  | .authenticationOf =>
    "SELECT id, service, identifier FROM authentications " ++
      "WHERE account_id = %s ORDER BY created_at, id"
  | .rolesOf =>
    "SELECT r.id, r.name FROM roles r JOIN account_roles ar ON ar.role_id = r.id " ++
      "WHERE ar.account_id = %s ORDER BY r.name"
  | .tagsOf =>
    "SELECT t.name FROM tags t JOIN account_tags act ON act.tag_id = t.id " ++
      "WHERE act.account_id = %s ORDER BY t.name"

end EmailOwnership.Store.Database
