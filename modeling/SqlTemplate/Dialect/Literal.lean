import SqlTemplate.Dialect
import SqlTemplate.Text.Quoted
import SqlTemplate.Value

/-
  Values as the literals of a dialect.

  Key definitions include:
    * `LiteralError`
    * `Dialect.textLiteral`
    * `Dialect.bytesLiteral`
    * `Dialect.literal`
-/

------------------------------------------------------------
-- Values without a Literal
------------------------------------------------------------

namespace SqlTemplate

/- Why a value has no literal. -/
inductive LiteralError where
| notFinite (x : Binary64)
| holdsNul (s : String)
| noLiteral (typeName : String)
deriving DecidableEq, Repr, Inhabited

namespace Dialect

------------------------------------------------------------
-- String and Binary Literals
------------------------------------------------------------

/- The content of a string literal before its quotes are doubled. -/
def escapeText
    (d : Dialect)
    (cs : List Char) : List Char :=
  if d.escapesBackslash then Text.double '\\' cs else cs

/- A string literal: single quotes around the escaped content. -/
def textLiteral
    (d : Dialect)
    (cs : List Char) : List Char :=
  Text.quoted '\'' (d.escapeText cs)

/- A binary literal, in hexadecimal. -/
def bytesLiteral
    (d : Dialect)
    (bs : List UInt8) : List Char :=
  let pairs := bs.map fun b => Digits.hexUpper 2 b.toNat
  match d with
  | .mysql => 'X' :: '\'' :: (pairs.flatten ++ ['\''])
  | .sqlite => 'X' :: '\'' :: (pairs.flatten ++ ['\''])
  | .postgresql =>
      '\'' :: '\\' :: 'x' :: (pairs.flatten ++ ['\''])
  | .duckdb =>
      '\'' :: ((pairs.flatMap fun pair => '\\' :: 'x' :: pair) ++
        "'::BLOB".toList)

------------------------------------------------------------
-- Literals
------------------------------------------------------------

/-
  The literal of a value.  Members of enumerations are written
  as the value they stand for; collections and mappings have
  no literal of their own.
-/
def literal
    (d : Dialect) : Value → Except LiteralError String
| .null => .ok "NULL"
| .bool b => .ok (d.boolLiteral b)
| .int n => .ok (Digits.textInt n)
| .float x =>
    if x.isFinite then
      .ok (String.ofList x.toChars)
    else
      .error (.notFinite x)
| .decimal x => .ok (String.ofList x.toChars)
| .text s => literalText s
| .bytes bs => .ok (String.ofList (d.bytesLiteral bs))
| .buffer bs => .ok (String.ofList (d.bytesLiteral bs))
| .date x => .ok (String.ofList (d.textLiteral x.iso))
| .time x => .ok (String.ofList (d.textLiteral x.iso))
| .moment x => .ok (String.ofList (d.textLiteral x.iso))
| .member _ _ v => literal d v
| .intMember _ _ n => .ok (Digits.textInt n)
| .textMember _ _ s => literalText s
| .collection kind items =>
    .error (.noLiteral (Value.collection kind items).typeName)
| .mapping entries =>
    .error (.noLiteral (Value.mapping entries).typeName)
| .other typeName _ => .error (.noLiteral typeName)
where
  literalText (s : String) : Except LiteralError String :=
    if s.toList.contains '\x00' then
      .error (.holdsNul s)
    else
      .ok (String.ofList (d.textLiteral s.toList))

end Dialect

end SqlTemplate
