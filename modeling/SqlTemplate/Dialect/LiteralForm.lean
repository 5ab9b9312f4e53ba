import SqlTemplate.Dialect
import SqlTemplate.Value

/-
  What counts as one literal of a dialect, said without a
  writer: how a reader takes the content out of a string
  literal, and the forms of numerals and binary literals.

  Key definitions include:
    * `Dialect.readContent`
    * `Dialect.readText`
    * `IsNumeral`
    * `Dialect.IsBinary`
    * `Dialect.IsLiteral`
    * `Value.plain`
    * `Value.isBounded`
-/

------------------------------------------------------------
-- Reading String Literals
------------------------------------------------------------

namespace SqlTemplate

namespace Dialect

/-
  Read a string literal behind its opening quote: its content,
  and the text behind the closing quote.  Two quotes in a row
  are one quote of the content, and where backslashes escape,
  a backslash stands for the character after it.
-/
def readContent
    (d : Dialect) : List Char → Option (List Char × List Char)
| [] => none
| [c] => if c = '\'' then some ([], []) else none
| c :: e :: cs =>
    if c = '\'' then
      if e = '\'' then
        (readContent d cs).map (Prod.map (List.cons '\'') id)
      else
        some ([], e :: cs)
    else if c = '\\' ∧ d.escapesBackslash = true then
      (readContent d cs).map (Prod.map (List.cons e) id)
    else
      (readContent d (e :: cs)).map (Prod.map (List.cons c) id)

/- Read the string literal that a text starts with. -/
def readText
    (d : Dialect) : List Char → Option (List Char × List Char)
| '\'' :: cs => d.readContent cs
| _ => none

end Dialect

------------------------------------------------------------
-- Numerals
------------------------------------------------------------

/- At least one digit, and nothing else. -/
def IsDigits (cs : List Char) : Prop :=
  cs ≠ [] ∧ ∀ c ∈ cs, c.isDigit = true

/- A sign, or none. -/
inductive IsSign : List Char → Prop where
| absent : IsSign []
| plus : IsSign ['+']
| minus : IsSign ['-']

/- A point with digits behind it, or none. -/
inductive IsFraction : List Char → Prop where
| absent : IsFraction []
| digits
    {cs : List Char}
    (hDigits : IsDigits cs) :
    IsFraction ('.' :: cs)

/- An exponent of ten, or none. -/
inductive IsExponent : List Char → Prop where
| absent : IsExponent []
| digits
    {letter : Char}
    {sign cs : List Char}
    (hLetter : letter = 'e' ∨ letter = 'E')
    (hSign : IsSign sign)
    (hDigits : IsDigits cs) :
    IsExponent (letter :: (sign ++ cs))

/- A finite number: digits, around them what a number may have. -/
inductive IsNumeral : List Char → Prop where
| parts
    {sign whole fraction exponent : List Char}
    (hSign : IsSign sign)
    (hWhole : IsDigits whole)
    (hFraction : IsFraction fraction)
    (hExponent : IsExponent exponent) :
    IsNumeral (sign ++ (whole ++ (fraction ++ exponent)))

------------------------------------------------------------
-- Binary Literals
------------------------------------------------------------

/- A hexadecimal digit. -/
def isHexDigit (c : Char) : Bool :=
  c.isDigit || ('A' ≤ c && c ≤ 'F') || ('a' ≤ c && c ≤ 'f')

/- Two hexadecimal digits for each byte, a mark before each pair. -/
inductive IsHex (mark : List Char) : List Char → Prop where
| empty : IsHex mark []
| byte
    {high low : Char}
    {cs : List Char}
    (hHigh : isHexDigit high = true)
    (hLow : isHexDigit low = true)
    (hRest : IsHex mark cs) :
    IsHex mark (mark ++ high :: low :: cs)

namespace Dialect

/- What stands in front of, in and behind a binary literal. -/
def binaryFrame : Dialect → List Char × List Char × List Char
| .mysql => ("X'".toList, [], "'".toList)
| .sqlite => ("X'".toList, [], "'".toList)
| .postgresql => ("'\\x".toList, [], "'".toList)
| .duckdb => ("'".toList, "\\x".toList, "'::BLOB".toList)

/- A closed binary literal. -/
def IsBinary
    (d : Dialect)
    (cs : List Char) : Prop :=
  ∃ hex, IsHex d.binaryFrame.2.1 hex ∧
    cs = d.binaryFrame.1 ++ (hex ++ d.binaryFrame.2.2)

------------------------------------------------------------
-- Literals
------------------------------------------------------------

/-
  One literal and nothing else.  The words for true and false
  are no literals of SQLite, which has only numbers for them.
-/
inductive IsLiteral (d : Dialect) : List Char → Prop where
| null : IsLiteral d "NULL".toList
| truth
    {word : List Char}
    (hWord : word = "TRUE".toList ∨ word = "FALSE".toList)
    (hDialect : d ≠ .sqlite) :
    IsLiteral d word
| numeral
    {cs : List Char}
    (hNumeral : IsNumeral cs) :
    IsLiteral d cs
| string
    {cs content : List Char}
    (hRead : d.readText cs = some (content, [])) :
    IsLiteral d cs
| binary
    {cs : List Char}
    (hBinary : d.IsBinary cs) :
    IsLiteral d cs

end Dialect

------------------------------------------------------------
-- Finite Values
------------------------------------------------------------

/- A decimal number is neither infinite nor undefined. -/
def Decimal.isFinite : Decimal → Bool
| .finite .. => true
| _ => false

namespace Value

/- The value that a member of enumerations stands for in the end. -/
def plain : Value → Value
| .member _ _ v => plain v
| .intMember _ _ n => .int n
| .textMember _ _ s => .text s
| v => v

/- A value is no infinite or undefined decimal number. -/
def isBounded (v : Value) : Bool :=
  match v.plain with
  | .decimal x => x.isFinite
  | _ => true

end Value

end SqlTemplate
