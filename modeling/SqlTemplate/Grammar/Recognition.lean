import SqlTemplate.Grammar.Automaton
import SqlTemplate.Grammar.Derivation
import SqlTemplate.Position

/-
  Reading a text as a statement.  The automaton goes through
  the tokens from left to right and keeps the derivations of
  the phrases found so far on a stack; when a rule has been
  read to its end, its parts on the stack become one phrase.
  The kinds of tokens that its state accepts decide what the
  next token is.

  Key definitions include:
    * `Frame`
    * `Frame.top`
    * `Frame.pop`
    * `Frame.reduce`
    * `Frame.reduceAll`
    * `Recognition.run`
    * `Recognition.derive`
    * `Recognition.position`
-/

------------------------------------------------------------
-- Stacks
------------------------------------------------------------

namespace SqlTemplate

/-
  A symbol on the stack: its derivation, and the state of the
  automaton after it.
-/
structure Frame where
  state : Nat
  symbol : Symbol
  derivation : Derivation symbol

namespace Frame

/- The state on top of a stack; the first state if it is empty. -/
def top : List Frame → Nat
| [] => 0
| frame :: _ => frame.state

/-
  Take the derivations of a sequence of symbols off a stack,
  the last one from the top.
-/
def pop :
    (ss : List Symbol) →
      List Frame → Option (Derivations ss × List Frame)
| [], stack => some (.nil, stack)
| s :: ss, stack =>
    match pop ss stack with
    | some (parts, frame :: stack) =>
        if h : frame.symbol = s then
          some (.cons (h ▸ frame.derivation) parts, stack)
        else
          none
    | _ => none

/- Apply a rule to the top of a stack. -/
def reduce
    (r : Rule)
    (stack : List Frame) : Option (List Frame) :=
  match pop r.rhs stack with
  | none => none
  | some (parts, stack) =>
      match (Automaton.row (top stack)).gotos.lookup r.lhs with
      | none => none
      | some state =>
          some (⟨state, .phrase r.lhs, .node r parts⟩ :: stack)

/-
  Apply rules for as long as the state on top asks for it before
  the given next token, at most `fuel` times.
-/
def reduceAll
    (next : Option Terminal) :
    Nat → List Frame → List Frame
| 0, stack => stack
| fuel + 1, stack =>
    match (Automaton.row (top stack)).reductionOn? next with
    | none => stack
    | some r =>
        match reduce r stack with
        | none => stack
        | some stack => reduceAll next fuel stack

/-
  Apply all rules that the next token asks for.  Every rule
  takes symbols off the stack except those for phrases that are
  left out and those that rename a phrase, and only few of these
  can follow one another.
-/
def settle
    (next : Option Terminal)
    (stack : List Frame) : List Frame :=
  reduceAll next (64 * (stack.length + 1)) stack

/- Put a token on a stack, if its top has a state for it. -/
def shift
    (t : Token)
    (stack : List Frame) : Option (List Frame) :=
  ((Automaton.row (top stack)).shifts.lookup t.kind).map fun state =>
    ⟨state, .token t.kind, .leaf t⟩ :: stack

/- The derivation of a statement that is alone on a stack. -/
def statement? :
    List Frame → Option (Derivation (.phrase .statement))
| [⟨_, .phrase .statement, d⟩] => some d
| _ => none

end Frame

------------------------------------------------------------
-- Recognition
------------------------------------------------------------

namespace Recognition

/-
  Read the rest of a text, with the part of the text that starts
  at the last token.  A failure gives the part that starts at
  the place of the error: a token or character that cannot
  stand there, or the last token if the text ends too early.
  Every step but the last reads a token, so the fuel need only
  exceed the length of the text.
-/
def run :
    Nat → List Frame → List Char → List Char →
      Except (List Char) (Derivation (.phrase .statement))
| 0, _, last, _ => .error last
| fuel + 1, stack, last, cs =>
    match skipLayout cs with
    | [] =>
        match Frame.statement? (Frame.settle none stack) with
        | some d => .ok d
        | none => .error last
    | c :: rest =>
        match Token.scan
            (Automaton.row (Frame.top stack)).accepts (c :: rest) with
        | none => .error (c :: rest)
        | some t =>
            match Frame.shift t (Frame.settle (some t.kind) stack) with
            | none => .error (c :: rest)
            | some stack =>
                run fuel stack (c :: rest)
                  ((c :: rest).drop t.text.length)

/- The derivation of a text, or the part from the error on. -/
def derive
    (cs : List Char) :
    Except (List Char) (Derivation (.phrase .statement)) :=
  run (cs.length + 1) [] cs cs

/- The place in a text at which a part of its end starts. -/
def position
    (cs part : List Char) : Position :=
  .after (cs.take (cs.length - part.length))

end Recognition

end SqlTemplate
