/-
  Places in a text.

  Key definitions include:
    * `Position`
    * `Position.after`
-/

------------------------------------------------------------
-- Positions
------------------------------------------------------------

namespace SqlTemplate

/- A place in a text: its line and column, counted from one. -/
structure Position where
  line : Nat
  column : Nat
deriving DecidableEq, Repr, Inhabited

namespace Position

/- The first place of a text. -/
def start : Position :=
  ⟨1, 1⟩

/- The place after one more character. -/
def next
    (p : Position)
    (c : Char) : Position :=
  if c = '\n' then
    ⟨p.line + 1, 1⟩
  else
    ⟨p.line, p.column + 1⟩

/- The place after the given characters of a text. -/
def after (cs : List Char) : Position :=
  cs.foldl next start

end Position

end SqlTemplate
