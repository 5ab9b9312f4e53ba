import SqlTemplate.Grammar.Meaning
import SqlTemplate.Grammar.Recognition
import SqlTemplate.Node.Parameters
import SqlTemplate.Rendering.Settled

/-
  Templates of SELECT statements: texts with named parameters.
  A template is parsed once, and then built for the parameters
  that are bound: with their values in the text, or as a
  prepared statement that leaves placeholders for them.

  Key definitions include:
    * `ParseError`
    * `ParseError.report`
    * `parse`
    * `BuildError`
    * `build`
    * `Prepared`
    * `mentions`
    * `prepare`
-/

------------------------------------------------------------
-- Parsing
------------------------------------------------------------

namespace SqlTemplate

/- Why a text is no template. -/
inductive ParseError where
| syntaxAt (p : Position)
| numeral (e : NumeralError)
deriving DecidableEq, Repr, Inhabited

/- What is reported about a text that is no template. -/
def ParseError.report : ParseError → Report
| .syntaxAt _ => .of .invalidSyntax "invalid SQL syntax" ""
| .numeral e => .of .invalidSyntax "invalid SQL syntax" e.details

/- The tree of a template, given as its characters. -/
def parseChars (cs : List Char) : Except ParseError Node :=
  match Recognition.derive cs with
  | .error part => .error (.syntaxAt (Recognition.position cs part))
  | .ok d =>
      match d.numeralError? with
      | some e => .error (.numeral e)
      | none => .ok (.select d.meaning)

/- The tree of a template. -/
def parse (sql : String) : Except ParseError Node :=
  parseChars sql.toList

------------------------------------------------------------
-- Building
------------------------------------------------------------

/- Why a template cannot be built. -/
inductive BuildError where
| parse (e : ParseError)
| render (e : RenderError)
deriving Inhabited

/- The text of a tree in a context, or why it has none. -/
def renderTree
    (ctx : RenderContext)
    (n : Node) : Except BuildError String :=
  (ctx.render n).mapError .render

/- The text of a template in a context. -/
def renderTemplate
    (ctx : RenderContext)
    (sql : String) : Except BuildError String :=
  match parse sql with
  | .error e => .error (.parse e)
  | .ok n => renderTree ctx n

/- A template with the values of its parameters in its text. -/
def build
    (dialect : Dialect)
    (bindings : Bindings)
    (maxDepth : Int)
    (sql : String) : Except BuildError String :=
  renderTemplate ⟨dialect, bindings, true, maxDepth⟩ sql

------------------------------------------------------------
-- Prepared Statements
------------------------------------------------------------

/- A text with placeholders, and the values to bind to them. -/
structure Prepared where
  text : String
  parameters : List (String × Value)
deriving Inhabited

/- A text starts with a whole word. -/
def startsWithWord
    (word cs : List Char) : Bool :=
  word.isPrefixOf cs &&
    match cs.drop word.length with
    | [] => true
    | c :: _ => !Text.isWord c

/- A text has a colon before a whole word somewhere. -/
def mentions (word : List Char) : List Char → Bool
| [] => false
| c :: cs => (c == ':' && startsWithWord word cs) || mentions word cs

/- The bound parameters whose placeholders a text mentions. -/
def mentioned
    (bindings : Bindings)
    (text : String)
    (names : List String) : List (String × Value) :=
  let cs := text.toList
  names.filterMap fun name =>
    match bindings.value? name with
    | none => none
    | some v =>
        if mentions name.toList cs then
          some (name, v)
        else
          none

/- A template as a prepared statement. -/
def prepare
    (dialect : Dialect)
    (bindings : Bindings)
    (maxDepth : Int)
    (sql : String) : Except BuildError Prepared :=
  match parse sql with
  | .error e => .error (.parse e)
  | .ok n =>
      (renderTree ⟨dialect, bindings, false, maxDepth⟩ n).map fun text =>
        ⟨text, mentioned bindings text n.parameterNames⟩

end SqlTemplate
