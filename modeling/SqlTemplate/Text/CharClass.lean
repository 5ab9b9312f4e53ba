import SqlTemplate.Text.WordRanges
import SqlTemplate.Text.HiddenRanges

/-
  Character classes of SQL text and of shown text.  Names and
  keywords are made of word characters, numbers of decimal
  digits of any script, and texts shown in messages hide the
  characters that have no visible form.

  Key definitions include:
    * `inRanges`
    * `isWord`
    * `isNameStart`
    * `digitZeros`
    * `digit?`
    * `isHidden`
    * `isBlank`
    * `trimStart`
-/

------------------------------------------------------------
-- Ranges of Code Points
------------------------------------------------------------

namespace SqlTemplate

namespace Text

/- A code point lies in one of the closed ranges. -/
def inRanges
    (ranges : List (Nat × Nat))
    (n : Nat) : Bool :=
  ranges.any fun range => range.1 ≤ n && n ≤ range.2

end Text

end SqlTemplate

------------------------------------------------------------
-- Word Characters
------------------------------------------------------------

namespace SqlTemplate

namespace Text

/-
  Letters and numbers of any script, and the underscore, are
  the characters of words.
-/
def isWord (c : Char) : Bool :=
  c.isAlphanum || c == '_' ||
    (127 < c.toNat && inRanges wordRanges c.toNat)

/- A bare name starts with an ASCII letter or underscore. -/
def isNameStart (c : Char) : Bool :=
  c.isAlpha || c == '_'

------------------------------------------------------------
-- Decimal Digits
------------------------------------------------------------

/-
  The digit zero of each script; its nine successors are the
  digits one to nine of that script.
-/
def digitZeros : List Nat := [
  0x30, 0x660, 0x6f0, 0x7c0, 0x966, 0x9e6, 0xa66, 0xae6, 0xb66, 0xbe6,
  0xc66, 0xce6, 0xd66, 0xde6, 0xe50, 0xed0, 0xf20, 0x1040, 0x1090,
  0x17e0, 0x1810, 0x1946, 0x19d0, 0x1a80, 0x1a90, 0x1b50, 0x1bb0, 0x1c40,
  0x1c50, 0xa620, 0xa8d0, 0xa900, 0xa9d0, 0xa9f0, 0xaa50, 0xabf0, 0xff10,
  0x104a0, 0x10d30, 0x11066, 0x110f0, 0x11136, 0x111d0, 0x112f0, 0x11450,
  0x114d0, 0x11650, 0x116c0, 0x11730, 0x118e0, 0x11950, 0x11c50, 0x11d50,
  0x11da0, 0x16a60, 0x16ac0, 0x16b50, 0x1d7ce, 0x1d7d8, 0x1d7e2, 0x1d7ec,
  0x1d7f6, 0x1e140, 0x1e2f0, 0x1e950, 0x1fbf0]

/- The value of a decimal digit of any script. -/
def digit? (c : Char) : Option Nat :=
  digitZeros.findSome? fun base =>
    if base ≤ c.toNat && c.toNat ≤ base + 9 then
      some (c.toNat - base)
    else
      none

/- A character is a decimal digit of some script. -/
def isDigit (c : Char) : Bool :=
  (digit? c).isSome

------------------------------------------------------------
-- Hidden and Blank Characters
------------------------------------------------------------

/-
  Controls, separators other than the plain space, and
  unassigned code points have no visible form.
-/
def isHidden (c : Char) : Bool :=
  c.toNat < 32 || c.toNat == 127 ||
    (127 < c.toNat && inRanges hiddenRanges c.toNat)

/- The characters that count as white space at the ends of a text. -/
def isBlank (c : Char) : Bool :=
  inRanges
    [(0x9, 0xd), (0x1c, 0x20), (0x85, 0x85), (0xa0, 0xa0),
      (0x1680, 0x1680), (0x2000, 0x200a), (0x2028, 0x2029),
      (0x202f, 0x202f), (0x205f, 0x205f), (0x3000, 0x3000)]
    c.toNat

/- A text without the white space it starts with. -/
def trimStart (cs : List Char) : List Char :=
  cs.dropWhile isBlank

end Text

end SqlTemplate
