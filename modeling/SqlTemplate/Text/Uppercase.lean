import SqlTemplate.Text.UpperTable

/-
  Upper case of whole texts.  A letter may have an upper case
  of several letters, so the result can be longer.

  Key definitions include:
    * `upperChar`
    * `upper`
-/

------------------------------------------------------------
-- Upper Case
------------------------------------------------------------

namespace SqlTemplate

namespace Text

/- The code point a run maps a code point to, if it holds it. -/
def upperInRun?
    (n : Nat)
    (run : Nat × Nat × Nat × Nat) : Option Nat :=
  match run with
  | (first, last, distance, target) =>
      if first ≤ n && n ≤ last && (n - first) % distance == 0 then
        some (target + (n - first))
      else
        none

/- The upper case of one letter. -/
def upperChar (c : Char) : List Char :=
  if c.toNat < 128 then
    [c.toUpper]
  else
    match upperExpansions.find? fun entry => entry.1 == c.toNat with
    | some entry => entry.2.map Char.ofNat
    | none =>
        match upperRuns.findSome? (upperInRun? c.toNat) with
        | some n => [Char.ofNat n]
        | none => [c]

/- The upper case of a text, letter by letter. -/
def upper (s : String) : String :=
  String.ofList (s.toList.flatMap upperChar)

end Text

end SqlTemplate
