import SqlTemplate.Dialect.Reserved
import SqlTemplate.Text.Shown

/-
  The SQL dialects that statements are written for, and what
  sets them apart.

  Key definitions include:
    * `Dialect`
    * `Dialect.all`
    * `Dialect.name`
    * `Dialect.ofName?`
    * `Dialect.reserved`
    * `Dialect.maxNameLength?`
    * `Dialect.nameQuote`
    * `Dialect.escapesBackslash`
    * `Dialect.limitLine`
    * `Dialect.unknownMessage`
-/

------------------------------------------------------------
-- Dialects
------------------------------------------------------------

namespace SqlTemplate

/- The supported dialects of SQL. -/
inductive Dialect where
| mysql
| postgresql
| sqlite
| duckdb
deriving DecidableEq, Repr, Inhabited

namespace Dialect

/- The name of a dialect. -/
def name : Dialect → String
| .mysql => "mysql"
| .postgresql => "postgresql"
| .sqlite => "sqlite"
| .duckdb => "duckdb"

/- Every dialect once, in the alphabetical order of the names. -/
def all : List Dialect :=
  [.duckdb, .mysql, .postgresql, .sqlite]

/- The dialect of a name. -/
def ofName? (name : String) : Option Dialect :=
  all.find? fun d => d.name == name

/- What is said about a name that no dialect has. -/
def unknownMessage (name : String) : String :=
  "unknown dialect: " ++ Text.shown name ++ ". Available: " ++
    ", ".intercalate (all.map Dialect.name)

------------------------------------------------------------
-- Differences between Dialects
------------------------------------------------------------

/- The words that cannot be written as bare names. -/
def reserved : Dialect → List String
| .mysql => Reserved.mysql
| .postgresql => Reserved.postgresql
| .sqlite => Reserved.sqlite
| .duckdb => Reserved.duckdb

/- The greatest number of characters in a name, if there is one. -/
def maxNameLength? : Dialect → Option Nat
| .mysql => some 64
| .postgresql => some 63
| .sqlite => none
| .duckdb => none

/- The quote around names. -/
def nameQuote : Dialect → Char
| .mysql => '\x60'
| _ => '"'

/-
  A backslash in a string literal escapes the character after
  it, so a backslash of the content is written twice.
-/
def escapesBackslash : Dialect → Bool
| .mysql => true
| _ => false

/- The literals for true and false; SQLite has only numbers. -/
def boolLiteral : Dialect → Bool → String
| .sqlite, true => "1"
| .sqlite, false => "0"
| _, true => "TRUE"
| _, false => "FALSE"

/- The line that limits the rows of a result. -/
def limitLine
    (d : Dialect)
    (limit : String)
    (offset : Option String) : String :=
  match d, offset with
  | _, none => "LIMIT " ++ limit
  | .mysql, some offset => "LIMIT " ++ offset ++ ", " ++ limit
  | .sqlite, some offset => "LIMIT " ++ offset ++ ", " ++ limit
  | .postgresql, some offset =>
      "LIMIT " ++ limit ++ " OFFSET " ++ offset
  | .duckdb, some offset =>
      "LIMIT " ++ limit ++ " OFFSET " ++ offset

end Dialect

end SqlTemplate
