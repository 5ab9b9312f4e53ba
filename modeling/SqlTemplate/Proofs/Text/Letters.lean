import SqlTemplate.Grammar.Token
import SqlTemplate.Text.Uppercase

/-
  Letters and their cases.  What holds of every ASCII character
  is checked one by one; a word is a keyword if its letters are
  those of the keyword in either case, or one of the few letters
  beyond ASCII that stand for them.

  Correctness is proven by:
    * `forall_ascii`
    * `upperChar_of_foldLetter`
    * `upper_of_fold`
-/

------------------------------------------------------------
-- ASCII Characters
------------------------------------------------------------

namespace SqlTemplate

/-
  What is said of the members of a list of characters is decided
  by going through the list, not through all characters.
-/
instance (priority := 2000) decidableForallMemChars
    {P : Char → Prop}
    [DecidablePred P]
    (cs : List Char) : Decidable (∀ c ∈ cs, P c) :=
  List.decidableBAll P cs

/- What holds of the first 128 characters holds of ASCII. -/
theorem forall_ascii
    {P : Char → Prop}
    (hAll : ∀ n < 128, P (Char.ofNat n))
    {c : Char}
    (hAscii : c.toNat < 128) :
    P c := by
  have hChar := hAll c.toNat hAscii
  rw [Char.ofNat_toNat] at hChar
  exact hChar

theorem ascii_of_isAlphanum
    {c : Char}
    (hLetter : c.isAlphanum = true) :
    c.toNat < 128 := by
  delta Char.isAlphanum Char.isAlpha Char.isUpper Char.isLower Char.isDigit
    at hLetter
  simp only [Bool.or_eq_true, decide_eq_true_eq, Bool.and_eq_true,
    ge_iff_le, UInt32.le_iff_toNat_le] at hLetter
  have hVal : c.toNat = c.val.toNat := rfl
  have hUpper : 'Z'.val.toNat = 90 := rfl
  have hLower : 'z'.val.toNat = 122 := rfl
  have hDigit : '9'.val.toNat = 57 := rfl
  omega

theorem ascii_of_isNameStart
    {c : Char}
    (hStart : Text.isNameStart c = true) :
    c.toNat < 128 := by
  unfold Text.isNameStart at hStart
  rcases Bool.or_eq_true _ _ ▸ hStart with hLetter | hUnderscore
  · apply ascii_of_isAlphanum
    rw [Char.isAlphanum, hLetter]
    rfl
  · rw [beq_iff_eq.mp hUnderscore]
    decide

theorem isWord_of_isNameStart
    {c : Char}
    (hStart : Text.isNameStart c = true) :
    Text.isWord c = true := by
  unfold Text.isNameStart at hStart
  unfold Text.isWord Char.isAlphanum
  rw [Bool.or_eq_true] at hStart
  rcases hStart with hLetter | hUnderscore
  · rw [hLetter]
    rfl
  · rw [hUnderscore, Bool.or_true]
    rfl

theorem toLower_of_not_ascii
    {c : Char}
    (hLarge : 128 ≤ c.toNat) :
    c.toLower = c := by
  unfold Char.toLower
  apply dif_neg
  intro hUpper
  have hSmall : c.val.toNat ≤ 90 := hUpper.2
  have hVal : c.toNat = c.val.toNat := rfl
  omega

------------------------------------------------------------
-- Letters of Keywords
------------------------------------------------------------

/- The letters beyond ASCII that keywords can be spelled with. -/
def foldedLetters : List Char :=
  ['ſ', '\u212a', 'ı', 'İ']

theorem foldLetter_of_not_ascii
    {c : Char}
    (hLarge : 128 ≤ c.toNat)
    (hFolded : c ∉ foldedLetters) :
    Token.foldLetter c = c := by
  simp only [foldedLetters, List.mem_cons, List.not_mem_nil, or_false,
    not_or] at hFolded
  simp [Token.foldLetter, hFolded, toLower_of_not_ascii hLarge]

/-
  The upper case of a letter of a keyword does not depend on how
  it is spelled, but for the letters i and k.
-/
theorem upperChar_of_foldLetter
    {c : Char}
    (hKeyword : (Token.foldLetter c).toNat < 128)
    (hOther : Token.foldLetter c ≠ 'i' ∧ Token.foldLetter c ≠ 'k') :
    Text.upperChar c = [(Token.foldLetter c).toUpper] := by
  by_cases hAscii : c.toNat < 128
  · have hAll :
        ∀ n < 128,
          Text.upperChar (Char.ofNat n) =
            [(Token.foldLetter (Char.ofNat n)).toUpper] := by
      decide
    exact forall_ascii
      (P := fun c => Text.upperChar c = [(Token.foldLetter c).toUpper])
      hAll hAscii
  · have hLarge : 128 ≤ c.toNat := Nat.le_of_not_lt hAscii
    by_cases hFolded : c ∈ foldedLetters
    · simp only [foldedLetters, List.mem_cons, List.not_mem_nil,
        or_false] at hFolded
      rcases hFolded with rfl | rfl | rfl | rfl
      · decide
      · exact absurd rfl hOther.2
      · exact absurd rfl hOther.1
      · exact absurd rfl hOther.1
    · rw [foldLetter_of_not_ascii hLarge hFolded] at hKeyword
      exact absurd hKeyword hAscii

/-
  A word that is read as a keyword has the upper case of that
  keyword.
-/
theorem upper_of_fold
    (word : List Char)
    (hLetters :
      ∀ c ∈ word.map Token.foldLetter,
        c.toNat < 128 ∧ c ≠ 'i' ∧ c ≠ 'k') :
    Text.upper (String.ofList word) =
      String.ofList ((word.map Token.foldLetter).map Char.toUpper) := by
  unfold Text.upper
  rw [String.toList_ofList]
  congr 1
  induction word with
  | nil => rfl
  | cons c word ih =>
      have hLetter := hLetters _ (List.mem_cons_self ..)
      have hRest := ih fun d hMember =>
        hLetters d (List.mem_cons_of_mem _ hMember)
      rw [List.flatMap_cons, hRest,
        upperChar_of_foldLetter hLetter.1 hLetter.2]
      rfl

end SqlTemplate
