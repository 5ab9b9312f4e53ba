import SqlTemplate.Text.CharClass
import SqlTemplate.Number.Digits

/-
  The form in which messages show texts and byte strings: in
  quotes, with everything escaped that has no visible form.
  Double quotes are used only for a text that holds a single
  quote and no double quote.

  Key definitions include:
    * `quoteFor`
    * `shownChar`
    * `shown`
    * `shownBytes`
    * `shownBuffer`
-/

------------------------------------------------------------
-- Shown Text
------------------------------------------------------------

namespace SqlTemplate

namespace Text

/- The quote around a shown text. -/
def quoteFor (cs : List Char) : Char :=
  if cs.contains '\'' && !cs.contains '"' then '"' else '\''

/- The escape of a character that is not shown as it is. -/
def escape? (c : Char) : Option (List Char) :=
  if c == '\\' then
    some ['\\', '\\']
  else if c == '\t' then
    some ['\\', 't']
  else if c == '\n' then
    some ['\\', 'n']
  else if c == '\r' then
    some ['\\', 'r']
  else
    none

/- One character of a shown text. -/
def shownChar
    (q c : Char) : List Char :=
  match escape? c with
  | some cs => cs
  | none =>
      if c == q then
        ['\\', c]
      else if isHidden c then
        if c.toNat < 0x100 then
          '\\' :: 'x' :: Digits.hex 2 c.toNat
        else if c.toNat < 0x10000 then
          '\\' :: 'u' :: Digits.hex 4 c.toNat
        else
          '\\' :: 'U' :: Digits.hex 8 c.toNat
      else
        [c]

/- A text between quotes, with its hidden characters escaped. -/
def shown (s : String) : String :=
  let q := quoteFor s.toList
  String.ofList (q :: (s.toList.flatMap (shownChar q) ++ [q]))

------------------------------------------------------------
-- Shown Bytes
------------------------------------------------------------

/- One byte between quotes, of which `q` is escaped. -/
def shownByte
    (q : Char)
    (b : UInt8) : List Char :=
  let c := Char.ofNat b.toNat
  match escape? c with
  | some cs => cs
  | none =>
      if c == q then
        ['\\', c]
      else if b.toNat < 32 || 127 ≤ b.toNat then
        '\\' :: 'x' :: Digits.hex 2 b.toNat
      else
        [c]

/- The quote around shown bytes, which are read as ASCII. -/
def quoteForBytes (bs : List UInt8) : Char :=
  quoteFor (bs.map fun b => Char.ofNat b.toNat)

/- A byte string: a marked text, its bytes read as ASCII. -/
def shownBytes (bs : List UInt8) : String :=
  let q := quoteForBytes bs
  String.ofList ('b' :: q :: (bs.flatMap (shownByte q) ++ [q]))

/-
  A byte buffer: a byte string in brackets.  Single quotes are
  escaped in it whatever the quotes around it are.
-/
def shownBuffer (bs : List UInt8) : String :=
  let q := quoteForBytes bs
  "bytearray(b" ++
    String.ofList (q :: (bs.flatMap (shownByte '\'') ++ [q])) ++ ")"

end Text

end SqlTemplate
