import SqlTemplate.Grammar.Symbol
import SqlTemplate.Text.CharClass

/-
  Tokens, and how they are found at the start of a text.

  Which token a text starts with depends on the kinds that can
  come next: a word is a keyword where that keyword can stand,
  and a name elsewhere.  Blanks and comments between tokens
  carry no meaning.

  Key definitions include:
    * `Token`
    * `skipLayout`
    * `Token.keywords`
    * `Token.quotedRun`
    * `Token.candidates`
    * `Token.scan`
-/

------------------------------------------------------------
-- Tokens
------------------------------------------------------------

namespace SqlTemplate

/- A token: its kind and the characters it is made of. -/
structure Token where
  kind : Terminal
  text : List Char
deriving DecidableEq, Repr, Inhabited

------------------------------------------------------------
-- Layout
------------------------------------------------------------

/- The characters between tokens. -/
def isLayout (c : Char) : Bool :=
  c == ' ' || c == '\t' || c == '\x0c' || c == '\r' || c == '\n'

mutual

/-
  A text without the blanks and comments it starts with.  A
  comment begins with two minus signs and ends with the line.
-/
def skipLayout : List Char → List Char
| [] => []
| [c] => if isLayout c then [] else [c]
| c :: d :: cs =>
    if isLayout c then
      skipLayout (d :: cs)
    else if c == '-' && d == '-' then
      skipComment cs
    else
      c :: d :: cs

/- A text that starts inside a comment, from the next token on. -/
def skipComment : List Char → List Char
| [] => []
| c :: cs =>
    if c == '\n' then skipLayout cs else skipComment cs

end

namespace Token

------------------------------------------------------------
-- Words
------------------------------------------------------------

/- The spellings of the keywords in lower case. -/
def keywords : List (String × Terminal) := [
  ("select", .SELECT), ("distinct", .DISTINCT), ("from", .FROM),
  ("where", .WHERE), ("group", .GROUP), ("by", .BY),
  ("having", .HAVING), ("order", .ORDER), ("limit", .LIMIT),
  ("offset", .OFFSET), ("as", .AS), ("join", .JOIN),
  ("inner", .INNER), ("left", .LEFT), ("right", .RIGHT),
  ("outer", .OUTER), ("cross", .CROSS), ("on", .ON), ("or", .OR),
  ("xor", .XOR), ("and", .AND), ("not", .NOT), ("is", .IS),
  ("in", .IN), ("between", .BETWEEN), ("like", .LIKE),
  ("true", .TRUE), ("false", .FALSE), ("null", .NULL),
  ("asc", .direction), ("desc", .direction)]

/-
  The lower case of a letter as far as keywords go.  The long
  s, the Kelvin sign and the two further letters i stand for
  the ASCII letters they are variants of.
-/
def foldLetter (c : Char) : Char :=
  if c == 'ſ' then
    's'
  else if c == '\u212a' then
    'k'
  else if c == 'ı' || c == 'İ' then
    'i'
  else
    c.toLower

/- The kind of keyword that a word is, in any case of letters. -/
def keyword? (word : List Char) : Option Terminal :=
  keywords.lookup (String.ofList (word.map foldLetter))

/-
  What a word can be read as: a keyword first of all, then a
  name if it starts like one.
-/
def wordCandidates (word : List Char) : List Token :=
  ((keyword? word).map fun kind => ⟨kind, word⟩).toList ++
    match word with
    | [] => []
    | c :: _ => if Text.isNameStart c then [⟨.name, word⟩] else []

------------------------------------------------------------
-- Quoted Tokens
------------------------------------------------------------

/-
  The rest of a quoted token after its first quote: up to the
  closing quote, where two quotes in a row belong to the
  content.  If the text ends before the token is closed, the
  first one of the last two quotes in a row closes it.
-/
def quotedRun (q : Char) : List Char → Option (List Char)
| [] => none
| [c] => if c = q then some [q] else none
| c :: d :: cs =>
    if c ≠ q then
      (quotedRun q (d :: cs)).map (c :: ·)
    else if d = q then
      match quotedRun q cs with
      | some run => some (q :: q :: run)
      | none => some [q]
    else
      some [q]

/- A quoted name; it has at least one character. -/
def quotedName
    (q : Char)
    (cs : List Char) : List Token :=
  match quotedRun q cs with
  | none => []
  | some run =>
      if run.length = 1 then [] else [⟨.name, q :: run⟩]

/- A string in single quotes, which may be empty. -/
def quotedString (cs : List Char) : List Token :=
  ((quotedRun '\'' cs).map fun run =>
    ⟨.string, '\'' :: run⟩).toList

------------------------------------------------------------
-- Numbers, Parameters and Comparisons
------------------------------------------------------------

/- Digits, with a point and more digits if those follow. -/
def numberRun (cs : List Char) : List Char :=
  let whole := cs.takeWhile Text.isDigit
  match cs.dropWhile Text.isDigit with
  | '.' :: rest =>
      let fraction := rest.takeWhile Text.isDigit
      if fraction.isEmpty then whole else whole ++ '.' :: fraction
  | _ => whole

/- A parameter: a colon and a name. -/
def parameterToken (cs : List Char) : List Token :=
  match cs with
  | c :: _ =>
      if Text.isNameStart c then
        [⟨.parameter, ':' :: cs.takeWhile Text.isWord⟩]
      else
        []
  | [] => []

/- The longest comparison operator at the start of a text. -/
def comparisonToken (cs : List Char) : List Token :=
  let run : List Char :=
    match cs with
    | '<' :: '=' :: '>' :: _ => ['<', '=', '>']
    | '<' :: '=' :: _ => ['<', '=']
    | '<' :: '>' :: _ => ['<', '>']
    | '<' :: _ => ['<']
    | '>' :: '=' :: _ => ['>', '=']
    | '>' :: _ => ['>']
    | '!' :: '=' :: _ => ['!', '=']
    | '=' :: _ => ['=']
    | _ => []
  if run.isEmpty then [] else [⟨.comparison, run⟩]

/- The kind of a punctuation mark. -/
def punctuation? : Char → Option Terminal
| ';' => some .semicolon
| ',' => some .comma
| '*' => some .star
| '.' => some .point
| '(' => some .leftBracket
| ')' => some .rightBracket
| '|' => some .bar
| '^' => some .caret
| '&' => some .ampersand
| '+' => some .plus
| '-' => some .minus
| '/' => some .slash
| '%' => some .percent
| _ => none

------------------------------------------------------------
-- Scanning
------------------------------------------------------------

/-
  The tokens that a text without layout at its start can begin
  with, the preferred one first.
-/
def candidates : List Char → List Token
| [] => []
| c :: cs =>
    match punctuation? c with
    | some kind => [⟨kind, [c]⟩]
    | none =>
        if c == '\'' then
          quotedString cs
        else if c == '\x60' || c == '"' then
          quotedName c cs
        else if c == ':' then
          parameterToken cs
        else if c == '<' || c == '>' || c == '=' || c == '!' then
          comparisonToken (c :: cs)
        else if Text.isDigit c then
          [⟨.number, numberRun (c :: cs)⟩]
        else
          wordCandidates ((c :: cs).takeWhile Text.isWord)

/- The first candidate of a kind that can come next. -/
def scan
    (accepts : Terminal → Bool)
    (cs : List Char) : Option Token :=
  (candidates cs).find? fun t => accepts t.kind

end Token

end SqlTemplate
