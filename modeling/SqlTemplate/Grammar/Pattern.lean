import SqlTemplate.Text.CharClass

/-
  Patterns of tokens.  A pattern is tried at the start of a
  text, from left to right.  Where there is a choice, the first
  alternative comes first, and a repetition goes on for as long
  as it can.  A choice is taken back if what follows in the
  pattern does not match after it.

  Key definitions include:
    * `Pattern`
    * `Pattern.rounds`
    * `Pattern.matched`
    * `Pattern.first?`
    * `Pattern.closing`
    * `Pattern.name`
    * `Pattern.string`
-/

------------------------------------------------------------
-- Patterns
------------------------------------------------------------

namespace SqlTemplate

/-
  A character of a class, two patterns one after the other, one
  of two patterns, or any number of times the same pattern.
-/
inductive Pattern where
| char (P : Char → Bool)
| seq (p p' : Pattern)
| alt (p p' : Pattern)
| star (p : Pattern)

namespace Pattern

/-
  What a number of rounds can match, more rounds before fewer.
  Every round takes a character.
-/
def rounds
    (round : List Char → List (List Char))
    (cs : List Char) : List (List Char) :=
  (round cs).flatMap (fun text =>
    if hLess : (cs.drop text.length).length < cs.length then
      (rounds round (cs.drop text.length)).map (text ++ ·)
    else
      []) ++ [[]]
termination_by cs.length
decreasing_by exact hLess

/-
  The texts that a pattern matches at the start of a text, in
  the order in which they are tried.
-/
def matched : Pattern → List Char → List (List Char)
| .char P, cs =>
    match cs with
    | [] => []
    | c :: _ => if P c then [[c]] else []
| .seq p p', cs =>
    (p.matched cs).flatMap fun text =>
      (p'.matched (cs.drop text.length)).map (text ++ ·)
| .alt p p', cs => p.matched cs ++ p'.matched cs
| .star p, cs => rounds p.matched cs

/- The text that a pattern takes off the start of a text. -/
def first?
    (p : Pattern)
    (cs : List Char) : Option (List Char) :=
  (p.matched cs).head?

/- A pattern at least once. -/
def plus (p : Pattern) : Pattern :=
  .seq p (.star p)

------------------------------------------------------------
-- Patterns of Names and Strings
------------------------------------------------------------

/- One quote. -/
def quote (q : Char) : Pattern :=
  .char (· == q)

/- One piece of a quoted content: another character, or two quotes. -/
def piece (q : Char) : Pattern :=
  .alt (.char (· != q)) (.seq (quote q) (quote q))

/- A quoted content and the quote that closes it. -/
def closing (q : Char) : Pattern :=
  .seq (.star (piece q)) (quote q)

/- A name in quotes. -/
def quotedName (q : Char) : Pattern :=
  .seq (quote q) (.seq (plus (piece q)) (quote q))

/- A name: bare, in backticks or in double quotes. -/
def name : Pattern :=
  .alt (.seq (.char Text.isNameStart) (.star (.char Text.isWord)))
    (.alt (quotedName '\x60') (quotedName '"'))

/- A string in single quotes. -/
def string : Pattern :=
  .seq (quote '\'') (closing '\'')

------------------------------------------------------------
-- Parts of Patterns
------------------------------------------------------------

/- A character in front of another pattern. -/
theorem matched_seq_char
    (P : Char → Bool)
    (p : Pattern)
    (c : Char)
    (cs : List Char) :
    (seq (char P) p).matched (c :: cs) =
      if P c then (p.matched cs).map (c :: ·) else [] := by
  rw [matched, matched]
  split <;> simp

theorem matched_alt
    (p p' : Pattern)
    (cs : List Char) :
    (alt p p').matched cs = p.matched cs ++ p'.matched cs := by
  rw [matched]

/- It makes no difference how patterns in a row are grouped. -/
theorem matched_seq_seq
    (p₁ p₂ p₃ : Pattern)
    (cs : List Char) :
    (seq (seq p₁ p₂) p₃).matched cs = (seq p₁ (seq p₂ p₃)).matched cs := by
  simp only [matched, List.flatMap_assoc, List.flatMap_map,
    List.map_flatMap, List.map_map, List.length_append, List.drop_drop,
    List.append_assoc, Function.comp_def]

/-
  A repetition before something else has one more round, or it
  is over.
-/
theorem matched_seq_star
    (p p' : Pattern)
    (cs : List Char) :
    (seq (star p) p').matched cs =
      (p.matched cs).flatMap (fun text =>
        if (cs.drop text.length).length < cs.length then
          ((seq (star p) p').matched (cs.drop text.length)).map (text ++ ·)
        else
          []) ++ p'.matched cs := by
  rw [matched, matched, rounds, List.flatMap_append, List.flatMap_assoc]
  congr 1
  · congr 1
    funext text
    split
    next =>
      simp only [matched, List.flatMap_map, List.map_flatMap, List.map_map,
        List.length_append, List.drop_drop, List.append_assoc,
        Function.comp_def]
    next => rfl
  · simp

end Pattern

end SqlTemplate
