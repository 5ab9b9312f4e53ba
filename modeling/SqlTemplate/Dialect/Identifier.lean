import SqlTemplate.Dialect
import SqlTemplate.Text.Quoted

/-
  Names of columns, tables, databases and aliases as a dialect
  writes them: bare where that is safe, quoted otherwise.

  Key definitions include:
    * `IdentifierError`
    * `isPlainName`
    * `Dialect.checkName`
    * `Dialect.needsQuotes`
    * `Dialect.identifier`
-/

------------------------------------------------------------
-- Names without a Written Form
------------------------------------------------------------

namespace SqlTemplate

/- Why a name cannot be written. -/
inductive IdentifierError where
| empty
| holdsNul (name : String)
| tooLong (name : String) (limit : Nat)
deriving DecidableEq, Repr, Inhabited

namespace Dialect

/-
  A name has at least one character, no NUL, and at most as
  many characters as the dialect allows.
-/
def checkName
    (d : Dialect)
    (name : String) : Except IdentifierError Unit :=
  if name.toList.isEmpty then
    .error .empty
  else if name.toList.contains '\x00' then
    .error (.holdsNul name)
  else
    match d.maxNameLength? with
    | none => .ok ()
    | some limit =>
        if limit < name.toList.length then
          .error (.tooLong name limit)
        else
          .ok ()

------------------------------------------------------------
-- Bare and Quoted Names
------------------------------------------------------------

/- A text without the line break that ends it, if one does. -/
def dropFinalBreak (cs : List Char) : List Char :=
  if cs.getLast? = some '\n' then cs.dropLast else cs

/-
  A plain name is a word of ASCII letters, digits and
  underscores that starts with no digit.  A line break at its
  very end is not looked at.
-/
def isPlainName (cs : List Char) : Bool :=
  match dropFinalBreak cs with
  | [] => false
  | c :: rest =>
      Text.isNameStart c &&
        rest.all fun c => c.isAlphanum || c == '_'

/- A name is quoted unless it is plain and not reserved. -/
def needsQuotes
    (d : Dialect)
    (name : String) : Bool :=
  !isPlainName name.toList ||
    d.reserved.contains (String.ofList (name.toList.map Char.toLower))

/- A name between the quotes of the dialect. -/
def quotedName
    (d : Dialect)
    (name : String) : String :=
  String.ofList (Text.quoted d.nameQuote name.toList)

/-
  The written form of a name.  The star that stands for every
  column is no name and stays as it is.
-/
def identifier
    (d : Dialect)
    (name : String) : Except IdentifierError String :=
  if name = "*" then
    .ok name
  else
    match d.checkName name with
    | .error e => .error e
    | .ok _ =>
        .ok (if d.needsQuotes name then d.quotedName name else name)

end Dialect

end SqlTemplate
