import SqlTemplate.Proofs.Grammar.Layout

/-
  Tokens that are found again.  A token in other cases of
  letters is found where the text goes on like it did after the
  token before, and with the same kinds accepted.

  Key definitions include:
    * `Continues`
    * `GoesOn`
    * `IsWholeWord`
    * `Token.Stands`
  Correctness is proven by:
    * `Relaid.goesOn`
    * `Token.opens_again`
    * `Token.Recased.stands`
-/

------------------------------------------------------------
-- Letters of Keywords
------------------------------------------------------------

namespace SqlTemplate

/- A character is its own lower case, or both are letters. -/
theorem toLower_cases (c : Char) :
    c.toLower = c ∨ c.isAlpha = true ∧ c.toLower.isAlpha = true := by
  by_cases hAscii : c.toNat < 128
  · apply forall_ascii (c := c) _ hAscii
    decide
  · exact .inl (toLower_of_not_ascii (Nat.le_of_not_lt hAscii))

/- Characters with the same lower case are the same, or both letters. -/
theorem eq_or_isAlpha_of_toLower
    {c d : Char}
    (hLower : c.toLower = d.toLower) :
    c = d ∨ c.isAlpha = true ∧ d.isAlpha = true := by
  rcases toLower_cases c with hFirst | ⟨hFirst, hFirstLower⟩
  · rcases toLower_cases d with hSecond | ⟨hSecond, hSecondLower⟩
    · exact .inl (by rw [← hFirst, hLower, hSecond])
    · rw [← hLower, hFirst] at hSecondLower
      exact .inr ⟨hSecondLower, hSecond⟩
  · rcases toLower_cases d with hSecond | ⟨hSecond, _⟩
    · rw [hLower, hSecond] at hFirstLower
      exact .inr ⟨hFirst, hFirstLower⟩
    · exact .inr ⟨hFirst, hSecond⟩

namespace Token

theorem foldLetter_toLower (c : Char) :
    foldLetter c.toLower = foldLetter c := by
  by_cases hAscii : c.toNat < 128
  · apply forall_ascii (c := c) _ hAscii
    decide
  · rw [toLower_of_not_ascii (Nat.le_of_not_lt hAscii)]

theorem map_foldLetter_eq
    {word word' : List Char}
    (hLetters : word'.map Char.toLower = word.map Char.toLower) :
    word'.map foldLetter = word.map foldLetter := by
  have hFold :
      ∀ cs : List Char,
        cs.map foldLetter = (cs.map Char.toLower).map foldLetter := by
    intro cs
    rw [List.map_map]
    exact List.map_congr_left fun c _ => (foldLetter_toLower c).symm
  rw [hFold word', hFold word, hLetters]

/- Which keyword a word is does not depend on the cases of its letters. -/
theorem keyword?_eq
    {word word' : List Char}
    (hLetters : word'.map Char.toLower = word.map Char.toLower) :
    keyword? word' = keyword? word := by
  rw [keyword?, keyword?, map_foldLetter_eq hLetters]

theorem isWord_of_isAlpha
    {c : Char}
    (hLetter : c.isAlpha = true) :
    Text.isWord c = true := by
  simp [Text.isWord, Char.isAlphanum, hLetter]

theorem isWord_toLower (c : Char) :
    Text.isWord c.toLower = Text.isWord c := by
  rcases toLower_cases c with hSame | ⟨hLetter, hLower⟩
  · rw [hSame]
  · rw [isWord_of_isAlpha hLetter, isWord_of_isAlpha hLower]

/- Recased tokens have words in the same letters. -/
theorem Recased.toLower_eq
    {t t' : Token}
    (hToken : t.Recased t') :
    t'.kind = t.kind ∧ t'.text.map Char.toLower = t.text.map Char.toLower := by
  cases hToken with
  | same => exact ⟨rfl, rfl⟩
  | keyword _ hLetters => exact ⟨rfl, hLetters⟩

end Token

------------------------------------------------------------
-- Continuations
------------------------------------------------------------

/-
  A text begins like another one: with a blank, or with the same
  character, but for the case of a letter.
-/
def Continues (rest rest' : List Char) : Prop :=
  ∀ c' ∈ rest'.head?, isLayout c' = true ∨
    ∃ c ∈ rest.head?, c'.toLower = c.toLower

/-
  A text goes on like another one after a token.  If that is by
  a point, what follows the point decides whether a number goes
  on there.
-/
structure GoesOn (rest rest' : List Char) : Prop where
  head : Continues rest rest'
  point : ∀ tail', rest' = '.' :: tail' →
    ∃ tail, rest = '.' :: tail ∧ Continues tail tail'

/-
  What holds of the first character of a text holds of that of a
  continuation, if it holds of blanks and of all letters or none.
-/
theorem Continues.head
    {rest rest' : List Char}
    {P : Char → Prop}
    (hText : Continues rest rest')
    (hBlank : ∀ c, isLayout c = true → P c)
    (hLetter : ∀ c c', c.isAlpha = true → c'.isAlpha = true → P c → P c')
    (hHead : ∀ c ∈ rest.head?, P c) :
    ∀ c' ∈ rest'.head?, P c' := by
  intro c' hMember
  rcases hText c' hMember with hLayout | ⟨c, hFirst, hLower⟩
  · exact hBlank c' hLayout
  · rcases eq_or_isAlpha_of_toLower hLower with rfl | ⟨hSecond, hLetterFirst⟩
    · exact hHead c' hFirst
    · exact hLetter c c' hLetterFirst hSecond (hHead c hFirst)

theorem continues_of_map
    {text text' rest rest' : List Char}
    (hLetters : text'.map Char.toLower = text.map Char.toLower)
    (hRest : Continues rest rest') :
    Continues (text ++ rest) (text' ++ rest') := by
  cases text' with
  | nil =>
      cases List.map_eq_nil_iff.mp hLetters.symm
      exact hRest
  | cons c' text' =>
      cases text with
      | nil => cases hLetters
      | cons c text =>
          intro d hHead
          cases hHead
          exact .inr ⟨c, rfl, (List.cons.inj hLetters).1⟩

theorem Spacing.head
    {run : List Char}
    (hRun : Spacing run)
    (rest : List Char) :
    ∀ c ∈ (run ++ rest).head?, isLayout c = true := by
  intro c hHead
  cases hRun with
  | intro hBlank _ =>
      cases hHead
      exact hBlank

/- A text goes on with a blank after layout that is respaced, or as before. -/
theorem Respaced.continues
    {gap gap' rest rest' : List Char}
    (hGap : Respaced gap gap')
    (hRest : Continues rest rest') :
    Continues (gap ++ rest) (gap' ++ rest') := by
  intro c' hHead
  cases hGap with
  | replaced hRun => exact .inl (hRun.head _ c' hHead)
  | @widened before _ after hBefore hAfter =>
      rcases hBefore with rfl | hBefore
      · cases gap with
        | nil =>
            rcases hAfter with rfl | hAfter
            · exact hRest c' hHead
            · exact .inl (hAfter.head _ c' hHead)
        | cons c gap =>
            cases hHead
            exact .inr ⟨c', rfl, rfl⟩
      · rw [List.append_assoc, List.append_assoc] at hHead
        exact .inl (hBefore.head _ c' hHead)

/- What layout begins with is a blank or a minus sign. -/
theorem head_of_skipLayout
    {gap cs rest : List Char}
    (hSkip : skipLayout (gap ++ cs) = rest)
    (hShorter : gap ≠ [] → rest.length < (gap ++ cs).length) :
    ∀ c ∈ gap.head?, isLayout c = true ∨ c = '-' := by
  intro c hHead
  cases gap with
  | nil => cases hHead
  | cons d gap =>
      cases hHead
      cases hLayout : isLayout c with
      | true => exact .inl rfl
      | false =>
          right
          by_cases hMinus : c = '-'
          · exact hMinus
          · have hSame : skipLayout (c :: (gap ++ cs)) = c :: (gap ++ cs) :=
              Token.skipLayout_cons hLayout
                fun hFirst => absurd hFirst hMinus
            have hLess := hShorter (List.cons_ne_nil c gap)
            rw [← hSkip, List.cons_append, hSame] at hLess
            exact absurd hLess (Nat.lt_irrefl _)

/- A point after a gap that is respaced stands there without the gap. -/
theorem Respaced.eq_nil_of_point
    {gap gap' rest' tail' : List Char}
    (hGap : Respaced gap gap')
    (hHead : ∀ c ∈ gap.head?, isLayout c = true ∨ c = '-')
    (hPoint : gap' ++ rest' = '.' :: tail') :
    gap = [] ∧ gap' = [] := by
  have hFirst : '.' ∈ (gap' ++ rest').head? := by
    rw [hPoint]
    rfl
  cases hGap with
  | replaced hRun => exact absurd (hRun.head _ _ hFirst) (by decide)
  | @widened before _ after hBefore hAfter =>
      rcases hBefore with rfl | hBefore
      · cases gap with
        | nil =>
            rcases hAfter with rfl | hAfter
            · exact ⟨rfl, rfl⟩
            · exact absurd (hAfter.head _ _ hFirst) (by decide)
        | cons c gap =>
            cases hFirst
            exact absurd (hHead '.' rfl) (by decide)
      · rw [List.append_assoc, List.append_assoc] at hFirst
        exact absurd (hBefore.head _ _ hFirst) (by decide)

/- A text that is laid out anew begins as before, or with a blank. -/
theorem Relaid.continues
    {ts ts' : List Token}
    {rest rest' : List Char}
    (hText : Relaid ts ts' rest rest') :
    Continues rest rest' := by
  induction hText with
  | done _ hGap =>
      have hNone : Continues [] [] := fun _ hHead => nomatch hHead
      have hSame := hGap.continues hNone
      rwa [List.append_nil, List.append_nil] at hSame
  | next _ hGap hToken _ ih =>
      exact hGap.continues (continues_of_map hToken.toLower_eq.2 ih)

/- What is laid out anew after a token goes on as it did before. -/
theorem Relaid.goesOn
    {ts ts' : List Token}
    {rest rest' : List Char}
    (hText : Relaid ts ts' rest rest') :
    GoesOn rest rest' := by
  refine ⟨hText.continues, ?_⟩
  induction hText with
  | @done gap gap' hEnd hGap =>
      intro tail' hPoint
      rw [← List.append_nil gap] at hEnd
      rw [← List.append_nil gap'] at hPoint
      have hHead := head_of_skipLayout hEnd fun hGiven => by
        simpa using List.length_pos_iff.mpr hGiven
      rcases hGap.eq_nil_of_point hHead hPoint with ⟨_, rfl⟩
      cases hPoint
  | @next gap gap' rest rest' t t' _ _ hSkip hGap hToken hRest ih =>
      intro tail' hPoint
      have hHead := head_of_skipLayout hSkip fun hGiven => by
        have hLength := List.length_pos_iff.mpr hGiven
        simp only [List.length_append]
        omega
      rcases hGap.eq_nil_of_point hHead hPoint with ⟨rfl, rfl⟩
      rw [List.nil_append] at hPoint ⊢
      have hLetters := hToken.toLower_eq.2
      cases hSecond : t'.text with
      | nil =>
          rw [hSecond] at hLetters hPoint
          rw [List.map_eq_nil_iff.mp hLetters.symm]
          exact ih tail' hPoint
      | cons d text' =>
          cases hFirst : t.text with
          | nil =>
              rw [hFirst, hSecond] at hLetters
              cases hLetters
          | cons c text =>
              rw [hFirst, hSecond] at hLetters
              rcases List.cons.inj hLetters with ⟨hLower, hMore⟩
              rw [hSecond] at hPoint
              cases hPoint
              refine ⟨text ++ rest, ?_,
                continues_of_map hMore hRest.continues⟩
              rcases eq_or_isAlpha_of_toLower hLower with rfl | ⟨hNone, _⟩
              · rfl
              · exact absurd hNone (by decide)

------------------------------------------------------------
-- Ends of Tokens
------------------------------------------------------------

namespace Token

/- A quote after a quoted token opens nothing that is closed. -/
theorem quotedRun_none
    {q : Char}
    {run cs : List Char}
    (hRun : quotedRun q (run ++ q :: cs) = some run) :
    quotedRun q cs = none := by
  generalize hText : run ++ q :: cs = text at hRun
  fun_induction quotedRun q text generalizing run with
  | case1 => cases hRun
  | case2 =>
      cases hRun
      simp at hText
  | case3 => cases hRun
  | case4 c d text hQuote ih =>
      rw [Option.map_eq_some_iff] at hRun
      rcases hRun with ⟨tail, hTail, rfl⟩
      exact ih (List.cons.inj hText).2 hTail
  | case5 text _ _ tail hTail ih =>
      cases hRun
      exact ih (List.cons.inj (List.cons.inj hText).2).2 hTail
  | case6 text _ _ hNone =>
      cases hRun
      cases hText
      exact hNone
  | case7 d text _ _ hOther =>
      cases hRun
      cases hText
      exact absurd rfl hOther

/- Before a text that has tokens a quoted token is not followed by its quote. -/
theorem head_ne_quote
    {q : Char}
    {run rest : List Char}
    (hQuote : q ∈ '\'' :: nameQuotes)
    (hRun : quotedRun q (run ++ rest) = some run)
    (hRest : ∃ ts, Tokenizes rest ts) :
    rest.head? ≠ some q := by
  intro hHead
  cases rest with
  | nil => cases hHead
  | cons c cs =>
      cases hHead
      have hNone := quotedRun_none hRun
      have hSkip : skipLayout (q :: cs) = q :: cs := by
        have hOther : ∀ q ∈ '\'' :: nameQuotes,
            isLayout q = false ∧ q ≠ '-' := by
          decide
        exact skipLayout_cons (hOther q hQuote).1 fun hSame =>
          absurd hSame (hOther q hQuote).2
      have hTokens : candidates (q :: cs) = [] := by
        rw [List.mem_cons, mem_nameQuotes] at hQuote
        rcases hQuote with rfl | rfl | rfl <;>
          simp [candidates, punctuation?, quotedString, quotedName, hNone]
      rcases hRest with ⟨ts, hText⟩
      cases hText with
      | done hEnd =>
          rw [hSkip] at hEnd
          cases hEnd
      | next hToken _ =>
          rw [hSkip, hTokens] at hToken
          cases hToken

/- No keyword begins with a sign. -/
theorem not_sign_of_keyword
    {c : Char}
    {cs : List Char}
    {kind : Terminal}
    (hKeyword : keyword? (c :: cs) = some kind) :
    c ∉ signs := by
  intro hSign
  have hAll : ∀ c ∈ signs, (foldLetter c).isLower = false := by decide
  have hLower := isLower_of_keyword hKeyword
  rw [hAll c hSign] at hLower
  cases hLower

theorem text_of_mem_wordCandidates
    {word : List Char}
    {t : Token}
    (hToken : t ∈ wordCandidates word) :
    t.text = word := by
  unfold wordCandidates at hToken
  rcases List.mem_append.mp hToken with hKeyword | hName
  · rw [Option.mem_toList, Option.map_eq_some_iff] at hKeyword
    rcases hKeyword with ⟨kind, _, rfl⟩
    rfl
  · split at hName
    next => cases hName
    next =>
      split at hName
      next =>
        cases List.mem_singleton.mp hName
        rfl
      next => cases hName

/- A text that begins with a keyword begins with a word. -/
theorem candidates_of_keyword
    {word : List Char}
    {kind : Terminal}
    (hKeyword : keyword? word = some kind)
    (rest : List Char) :
    candidates (word ++ rest) =
      wordCandidates ((word ++ rest).takeWhile Text.isWord) := by
  cases word with
  | nil => cases hKeyword
  | cons c cs =>
      rw [List.cons_append, candidates_of_not_sign _
        (not_sign_of_keyword hKeyword), isDigit_of_keyword hKeyword]
      rfl

------------------------------------------------------------
-- Tokens Found Again
------------------------------------------------------------

/- A word begins no other tokens than words and ends before a text. -/
structure IsWholeWord (word rest : List Char) : Prop where
  isWord : word.all Text.isWord = true
  ends : ∀ c ∈ rest.head?, Text.isWord c = false
  begins : ∀ cs : List Char,
    candidates (word ++ cs) =
      wordCandidates ((word ++ cs).takeWhile Text.isWord)

theorem isWholeWord_of_takeWhile
    {word rest : List Char}
    (hWord : (word ++ rest).takeWhile Text.isWord = word)
    (hBegins : ∀ cs, candidates (word ++ cs) =
      wordCandidates ((word ++ cs).takeWhile Text.isWord)) :
    IsWholeWord word rest := by
  have hAll : word.all Text.isWord = true := by
    rw [← hWord]
    exact List.all_takeWhile
  exact ⟨hAll, (takeWhile_append_iff hAll).mp hWord, hBegins⟩

/- No word goes on in a continuation of a text where it does not. -/
theorem isWord_of_continues
    {rest rest' : List Char}
    (hText : Continues rest rest')
    (hHead : ∀ c ∈ rest.head?, Text.isWord c = false) :
    ∀ c ∈ rest'.head?, Text.isWord c = false := by
  refine hText.head ?_ ?_ hHead
  · intro c hLayout
    cases hWord : Text.isWord c with
    | false => rfl
    | true =>
        rw [isLayout_of_isWord hWord] at hLayout
        cases hLayout
  · intro c c' hLetter _ hOther
    rw [isWord_of_isAlpha hLetter] at hOther
    cases hOther

/- No number goes on in a continuation of a text where it does not. -/
theorem isDigit_of_continues
    {rest rest' : List Char}
    (hText : Continues rest rest')
    (hHead : ∀ c ∈ rest.head?, Text.isDigit c = false) :
    ∀ c ∈ rest'.head?, Text.isDigit c = false := by
  refine hText.head ?_ ?_ hHead
  · intro c hLayout
    cases hDigit : Text.isDigit c with
    | false => rfl
    | true =>
        rw [isLayout_of_isDigit hDigit] at hLayout
        cases hLayout
  · intro _ c' _ hLetter _
    apply isDigit_of_isNameStart
    rw [Text.isNameStart, hLetter, Bool.true_or]

/- A sign that does not follow a token does not follow it later. -/
theorem head_ne_of_continues
    {rest rest' : List Char}
    {q : Char}
    (hText : Continues rest rest')
    (hSign : isLayout q = false ∧ q.isAlpha = false)
    (hHead : rest.head? ≠ some q) :
    rest'.head? ≠ some q := by
  intro hSame
  refine hText.head (P := fun c => c ≠ q) ?_ ?_ ?_ q hSame rfl
  · rintro c hLayout rfl
    rw [hSign.1] at hLayout
    cases hLayout
  · rintro _ c' _ hLetter _ rfl
    rw [hSign.2] at hLetter
    cases hLetter
  · rintro c hFirst rfl
    exact hHead hFirst

/- A minus sign that opens no comment is followed by no other one. -/
theorem head_ne_minus
    {rest : List Char}
    (hSkip : skipLayout ('-' :: rest) = '-' :: rest) :
    rest.head? ≠ some '-' := by
  intro hHead
  cases rest with
  | nil => cases hHead
  | cons c cs =>
      cases hHead
      have hLength := length_skipComment_le cs
      rw [← skipLayout_comment, hSkip, List.length_cons,
        List.length_cons] at hLength
      omega

/- A number is found again where its digits are over as before. -/
theorem opens_number_again
    {c : Char}
    {cs rest rest' : List Char}
    (hDigit : Text.isDigit c = true)
    (hText : numberRun (c :: cs) ++ rest = c :: cs)
    (hGoes : GoesOn rest rest') :
    Opens ⟨.number, numberRun (c :: cs)⟩ rest' := by
  rcases numberRun_cases cs hDigit with
    ⟨digits, hDigits, hWhole | ⟨d, decimals, hDecimals, hFraction⟩⟩
  · rw [hWhole] at hText ⊢
    rw [← hText, numberRun_iff hDigits] at hWhole
    refine opens_of_numberRun hDigit ((numberRun_iff hDigits).mpr ⟨?_, ?_⟩)
    · exact isDigit_of_continues hGoes.head hWhole.1
    · intro tail' hPoint
      rcases hGoes.point tail' hPoint with ⟨tail, hTail, hLater⟩
      exact isDigit_of_continues hLater (hWhole.2 tail hTail)
  · rw [hFraction] at hText ⊢
    rw [← hText, numberRun_fraction_iff hDigits hDecimals] at hFraction
    exact opens_of_numberRun hDigit
      ((numberRun_fraction_iff hDigits hDecimals).mpr
        (isDigit_of_continues hGoes.head hFraction))

/- A comparison is found again where it does not go on as before. -/
theorem opens_comparison_again
    {run rest rest' : List Char}
    (hRun : comparisonToken (run ++ rest) = [⟨.comparison, run⟩])
    (hText : Continues rest rest') :
    Opens ⟨.comparison, run⟩ rest' := by
  have hMember := mem_comparisons hRun
  rw [comparisonToken_iff hMember] at hRun
  apply opens_of_comparisonToken hMember
  rw [comparisonToken_iff hMember]
  refine hText.head ?_ ?_ hRun
  · intro c hLayout hLonger
    rcases eq_of_extended hMember hLonger with rfl | rfl <;>
      exact absurd hLayout (by decide)
  · intro _ c' _ hLetter _ hLonger
    rcases eq_of_extended hMember hLonger with rfl | rfl <;>
      exact absurd hLetter (by decide)

/-
  A token that is no word is found again wherever the text goes
  on as it did.
-/
theorem opens_again
    {t : Token}
    {rest rest' : List Char}
    (hForm : Form (t.text ++ rest) t)
    (hSkip : skipLayout (t.text ++ rest) = t.text ++ rest)
    (hRest : ∃ ts, Tokenizes rest ts)
    (hGoes : GoesOn rest rest') :
    t.Opens rest' ∨ IsWholeWord t.text rest := by
  generalize hText : t.text ++ rest = cs at hForm hSkip
  cases hForm with
  | mark hMark =>
      left
      refine opens_mark hMark ?_
      rintro rfl
      apply head_ne_of_continues hGoes.head (by decide)
      rw [← hText] at hSkip
      exact head_ne_minus hSkip
  | string hRun =>
      left
      rw [← (List.cons.inj hText).2] at hRun
      rcases content_of_quotedRun hRun with ⟨content, rfl⟩
      exact opens_string (head_ne_of_continues hGoes.head (by decide)
        (head_ne_quote (by decide) hRun hRest))
  | @quoted q cs run hQuote hRun hContent =>
      left
      rw [← (List.cons.inj hText).2] at hRun
      have hQuotes : q ∈ nameQuotes := mem_nameQuotes.mpr hQuote
      have hSign : ∀ q ∈ nameQuotes,
          isLayout q = false ∧ q.isAlpha = false := by
        decide
      have hHead := head_ne_of_continues hGoes.head (hSign q hQuotes)
        (head_ne_quote (List.mem_cons_of_mem _ hQuotes) hRun hRest)
      rcases content_of_quotedRun hRun with ⟨content, rfl⟩
      refine opens_quotedName hQuotes ?_ hHead
      rintro rfl
      exact hContent rfl
  | @parameter c cs hStart =>
      left
      have hTake := List.takeWhile_cons_of_pos (l := cs)
        (isWord_of_isNameStart hStart)
      rw [hTake] at hText ⊢
      have hTail : cs.takeWhile Text.isWord ++ rest = cs :=
        (List.cons.inj (List.cons.inj hText).2).2
      refine opens_parameter hStart List.all_takeWhile
        (isWord_of_continues hGoes.head ?_)
      rw [← takeWhile_append_iff List.all_takeWhile, hTail]
  | comparison hRun =>
      left
      rw [← hText] at hRun
      exact opens_comparison_again hRun hGoes.head
  | number hDigit => exact .inl (opens_number_again hDigit hText hGoes)
  | keyword hWord =>
      right
      dsimp only at hText ⊢
      apply isWholeWord_of_takeWhile
      · rw [hText]
      · exact candidates_of_keyword hWord
  | bare hWord hStart =>
      right
      dsimp only at hText ⊢
      apply isWholeWord_of_takeWhile
      · rw [hText, hWord]
      · intro cs
        rw [List.cons_append, candidates_of_not_sign _
          (not_sign_of_isWord (isWord_of_isNameStart hStart)),
          isDigit_of_isNameStart hStart]
        rfl

/- A token stands at the start of a text, where its kind is accepted. -/
def Stands
    (accepts : Terminal → Bool)
    (t : Token)
    (rest : List Char) : Prop :=
  skipLayout (t.text ++ rest) = t.text ++ rest ∧
    scan accepts (t.text ++ rest) = some t

theorem Opens.stands
    {accepts : Terminal → Bool}
    {t : Token}
    {rest : List Char}
    (hOpens : t.Opens rest)
    (hAccepts : accepts t.kind = true) :
    t.Stands accepts rest :=
  ⟨hOpens.1, scan_of_head? hOpens.2 hAccepts⟩

/- A whole word is found in every text that does not go on with it. -/
theorem IsWholeWord.stands
    {accepts : Terminal → Bool}
    {t : Token}
    {rest rest' : List Char}
    (hWord : IsWholeWord t.text rest)
    (hStands : t.Stands accepts rest)
    (hText : Continues rest rest') :
    t.Stands accepts rest' := by
  have hEnds := isWord_of_continues hText hWord.ends
  have hNotEmpty := ne_nil_of_mem (List.mem_of_find?_eq_some hStands.2)
  constructor
  · cases hFirst : t.text with
    | nil => exact absurd hFirst hNotEmpty
    | cons c cs =>
        have hStart : Text.isWord c = true := by
          apply List.all_eq_true.mp hWord.isWord
          rw [hFirst]
          exact List.mem_cons_self
        apply skipLayout_cons (isLayout_of_isWord hStart)
        rintro rfl
        exact absurd hStart (by decide)
  · have hScan := hStands.2
    unfold scan at hScan ⊢
    rw [hWord.begins, takeWhile_append_of_head hWord.isWord hWord.ends]
      at hScan
    rw [hWord.begins, takeWhile_append_of_head hWord.isWord hEnds]
    exact hScan

theorem all_isWord_eq
    {word word' : List Char}
    (hLetters : word'.map Char.toLower = word.map Char.toLower) :
    word'.all Text.isWord = word.all Text.isWord := by
  have hLower :
      ∀ cs : List Char,
        cs.all Text.isWord = (cs.map Char.toLower).all Text.isWord := by
    intro cs
    rw [List.all_map]
    congr 1
    exact funext fun c => (isWord_toLower c).symm
  rw [hLower word', hLower word, hLetters]

/-
  A token in other cases of letters is found where the same
  kinds are accepted and the text goes on as it did.
-/
theorem Recased.stands
    {accepts : Terminal → Bool}
    {t t' : Token}
    {rest rest' : List Char}
    (hToken : t.Recased t')
    (hStands : t.Stands accepts rest)
    (hRest : ∃ ts, Tokenizes rest ts)
    (hGoes : GoesOn rest rest') :
    t'.Stands accepts rest' := by
  have hMember := List.mem_of_find?_eq_some hStands.2
  have hAccepts : accepts t.kind = true :=
    List.find?_some (p := fun t : Token => accepts t.kind) hStands.2
  cases hToken with
  | same =>
      rcases opens_again (form_of_mem hMember) hStands.1 hRest hGoes with
        hOpens | hWord
      · exact hOpens.stands hAccepts
      · exact hWord.stands hStands hGoes.head
  | @keyword kind word word' hKeyword hLetters =>
      rw [candidates_of_keyword hKeyword] at hMember
      have hWord : IsWholeWord word rest :=
        isWholeWord_of_takeWhile (text_of_mem_wordCandidates hMember).symm
          (candidates_of_keyword hKeyword)
      rw [← keyword?_eq hLetters] at hKeyword
      refine (opens_keyword hKeyword ?_ ?_).stands hAccepts
      · rw [all_isWord_eq hLetters]
        exact hWord.isWord
      · exact isWord_of_continues hGoes.head hWord.ends

end Token

end SqlTemplate
