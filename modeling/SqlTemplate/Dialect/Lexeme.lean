import SqlTemplate.Bindings
import SqlTemplate.Dialect.Literal
import SqlTemplate.Text.CharClass

/-
  The tokens that a dialect reads a statement as, whatever their
  meaning: words, numbers, string literals, quoted names,
  placeholders, marks and comments.  A reader takes the text
  character by character and ends a token where the next
  character cannot belong to it.

  Key definitions include:
    * `Lexeme`
    * `Dialect.Reading`
    * `Dialect.Reading.extended`
    * `Dialect.lexemes`
    * `Dialect.valueLexemes`
    * `Lexeme.bound`
-/

------------------------------------------------------------
-- Lexemes
------------------------------------------------------------

namespace SqlTemplate

/- A token of a statement, with the characters it is made of. -/
inductive Lexeme where
| word (cs : List Char)
| number (cs : List Char)
| string (cs : List Char)
| quotedName (cs : List Char)
| placeholder (name : List Char)
| mark (cs : List Char)
| comment (cs : List Char)
deriving DecidableEq, Repr, Inhabited

/- A token is a comment. -/
def Lexeme.isComment : Lexeme → Bool
| .comment _ => true
| _ => false

/- A token stands for itself: no placeholder, and no comment. -/
def Lexeme.isLasting : Lexeme → Bool
| .placeholder _ => false
| .comment _ => false
| _ => true

/- Marks that are made of several characters. -/
def compoundMarks : List (List Char) :=
  [['<', '='], ['<', '>'], ['<', '=', '>'], ['>', '='], ['!', '='],
    ['|', '|'], [':', ':']]

namespace Dialect

------------------------------------------------------------
-- Readings
------------------------------------------------------------

/-
  The token that a reader is in.  After a quote a quoted run is
  over, unless another quote follows at once.
-/
inductive Reading where
| between
| word (cs : List Char)
| number (cs : List Char)
| inside (quote : Char) (cs : List Char)
| escaped (quote : Char) (cs : List Char)
| closed (quote : Char) (cs : List Char)
| placeholder (name : List Char)
| mark (cs : List Char)
| comment (cs : List Char)
deriving DecidableEq, Repr, Inhabited

/- The quotes around string literals. -/
def isStringQuote
    (d : Dialect)
    (q : Char) : Bool :=
  q == '\'' || (q != d.nameQuote && q == '"')

/- Characters that separate tokens and belong to none. -/
def isSpacing (c : Char) : Bool :=
  c == ' ' || c == '\t' || c == '\n' || c == '\r' || c == '\x0c'

/- A number goes on: digits, a point, and a signed exponent. -/
def extendsNumber
    (cs : List Char)
    (c : Char) : Bool :=
  c.isDigit || c == '.' || c == 'e' || c == 'E' ||
    ((c == '+' || c == '-') &&
      (cs.getLast? == some 'e' || cs.getLast? == some 'E'))

namespace Reading

/- The token that a character starts. -/
def starting (c : Char) : Reading :=
  if isSpacing c then
    .between
  else if c == '\'' || c == '"' || c == '\x60' then
    .inside c [c]
  else if c.isDigit then
    .number [c]
  else if Text.isWord c then
    .word [c]
  else
    .mark [c]

/- The token with one more character, if that can belong to it. -/
def extended
    (d : Dialect) : Reading → Char → Option Reading
| .between, _ => none
| .word cs, c =>
    if Text.isWord c then some (.word (cs ++ [c])) else none
| .number cs, c =>
    if extendsNumber cs c then some (.number (cs ++ [c])) else none
| .inside q cs, c =>
    if c = q then
      some (.closed q (cs ++ [c]))
    else if d.escapesBackslash && d.isStringQuote q && c == '\\' then
      some (.escaped q (cs ++ [c]))
    else
      some (.inside q (cs ++ [c]))
| .escaped q cs, c => some (.inside q (cs ++ [c]))
| .closed q cs, c =>
    if c = q then some (.inside q (cs ++ [c])) else none
| .placeholder name, c =>
    if Text.isWord c then some (.placeholder (name ++ [c])) else none
| .mark cs, c =>
    if cs = ['-'] ∧ c = '-' then
      some (.comment (cs ++ [c]))
    else if cs = [':'] ∧ Text.isNameStart c then
      some (.placeholder [c])
    else if cs ++ [c] ∈ compoundMarks then
      some (.mark (cs ++ [c]))
    else
      none
| .comment cs, c =>
    if c = '\n' then none else some (.comment (cs ++ [c]))

/- The token that a reader is in when it ends there. -/
def ended (d : Dialect) : Reading → List Lexeme
| .between => []
| .word cs => [.word cs]
| .number cs => [.number cs]
| .inside q cs => [quotedLexeme q cs]
| .escaped q cs => [quotedLexeme q cs]
| .closed q cs => [quotedLexeme q cs]
| .placeholder name => [.placeholder name]
| .mark cs => [.mark cs]
| .comment cs => [.comment cs]
where
  quotedLexeme
      (q : Char)
      (cs : List Char) : Lexeme :=
    if d.isStringQuote q then .string cs else .quotedName cs

/- The tokens of a text, the first one continuing a reading. -/
def lexemes
    (d : Dialect)
    (r : Reading) : List Char → List Lexeme
| [] => r.ended d
| c :: cs =>
    match r.extended d c with
    | some r => lexemes d r cs
    | none => r.ended d ++ lexemes d (starting c) cs

end Reading

------------------------------------------------------------
-- Tokens of Statements and Values
------------------------------------------------------------

/- The tokens of a text. -/
def lexemes
    (d : Dialect)
    (s : String) : List Lexeme :=
  Reading.between.lexemes d s.toList

/- The tokens of the literal of a value; none if it has none. -/
def literalLexemes
    (d : Dialect)
    (v : Value) : List Lexeme :=
  match d.literal v with
  | .ok s => d.lexemes s
  | .error _ => []

/-
  The tokens of a value: those of its literal, or of the
  literals of its items with commas between them.
-/
def valueLexemes
    (d : Dialect)
    (v : Value) : List Lexeme :=
  match v.items? with
  | some items =>
      [Lexeme.mark [',']].intercalate (items.map d.literalLexemes)
  | none => d.literalLexemes v

end Dialect

/- A token, or those of the value that a placeholder stands for. -/
def Lexeme.bound
    (d : Dialect)
    (b : Bindings) : Lexeme → List Lexeme
| .placeholder name => d.valueLexemes (b (String.ofList name))
| lexeme => [lexeme]

end SqlTemplate
