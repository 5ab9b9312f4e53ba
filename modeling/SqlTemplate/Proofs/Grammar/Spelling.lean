import SqlTemplate.Proofs.Grammar.Scanning
import SqlTemplate.Text.Quoted

/-
  The spellings of tokens.  Each kind of token has its own
  spellings, and a token that is spelled so is found again at
  the start of every text in which nothing after it could belong
  to it.

  Key definitions include:
    * `Token.Spelling`
    * `startsApart`
    * `Token.Opens`
  Correctness is proven by:
    * `Token.spelling_of_form`
    * `Token.opens_of_spelling`
-/

------------------------------------------------------------
-- Spellings
------------------------------------------------------------

namespace SqlTemplate

namespace Token

/- The comparison operators. -/
def comparisons : List (List Char) := [
  ['<', '=', '>'], ['<', '='], ['<', '>'], ['<'], ['>', '='], ['>'],
  ['!', '='], ['=']]

/- The quotes around names. -/
def nameQuotes : List Char :=
  ['\x60', '"']

theorem mem_nameQuotes
    {q : Char} : q ∈ nameQuotes ↔ q = '\x60' ∨ q = '"' := by
  simp [nameQuotes]

/-
  The texts that the tokens of each kind can have: marks,
  keywords in any case, names bare or in quotes, parameters,
  comparisons, numbers with or without a fraction, and strings.
-/
inductive Spelling : Terminal → List Char → Prop where
| mark {c : Char} {kind : Terminal}
    (hMark : punctuation? c = some kind) :
    Spelling kind [c]
| keyword {word : List Char} {kind : Terminal}
    (hKeyword : keyword? word = some kind)
    (hWord : word.all Text.isWord = true) :
    Spelling kind word
| bareName {c : Char} {rest : List Char}
    (hStart : Text.isNameStart c = true)
    (hWord : rest.all Text.isWord = true) :
    Spelling .name (c :: rest)
| quotedName {q : Char} {content : List Char}
    (hQuote : q ∈ nameQuotes)
    (hContent : content ≠ []) :
    Spelling .name (Text.quoted q content)
| parameter {c : Char} {rest : List Char}
    (hStart : Text.isNameStart c = true)
    (hWord : rest.all Text.isWord = true) :
    Spelling .parameter (':' :: c :: rest)
| comparison {run : List Char}
    (hRun : run ∈ comparisons) :
    Spelling .comparison run
| whole {c : Char} {digits : List Char}
    (hDigits : (c :: digits).all Text.isDigit = true) :
    Spelling .number (c :: digits)
| fraction {c d : Char} {digits decimals : List Char}
    (hDigits : (c :: digits).all Text.isDigit = true)
    (hDecimals : (d :: decimals).all Text.isDigit = true) :
    Spelling .number (c :: digits ++ '.' :: d :: decimals)
| string {content : List Char} :
    Spelling .string (Text.quoted '\'' content)

/- A name is a bare word, or it has a content in quotes. -/
theorem Spelling.name_cases
    {text : List Char}
    (hName : Spelling .name text) :
    (∃ c rest, text = c :: rest ∧ Text.isNameStart c = true ∧
      rest.all Text.isWord = true) ∨
    ∃ q content, text = Text.quoted q content ∧ q ∈ nameQuotes ∧
      content ≠ [] := by
  cases hName with
  | mark hMark => exact absurd rfl (punctuation?_ne hMark).2.2.1
  | keyword hKeyword _ => exact absurd rfl (keyword?_ne hKeyword).2.1
  | bareName hStart hWord => exact .inl ⟨_, _, rfl, hStart, hWord⟩
  | quotedName hQuote hContent => exact .inr ⟨_, _, rfl, hQuote, hContent⟩

/- A number has digits, and possibly a point between them. -/
theorem Spelling.number_cases
    {text : List Char}
    (hNumber : Spelling .number text) :
    (∃ c cs, text = c :: cs ∧ (c :: cs).all Text.isDigit = true) ∨
    ∃ c cs d ds, text = c :: cs ++ '.' :: d :: ds ∧
      (c :: cs).all Text.isDigit = true ∧
        (d :: ds).all Text.isDigit = true := by
  cases hNumber with
  | mark hMark => exact absurd rfl (punctuation?_ne hMark).2.2.2.1
  | keyword hKeyword _ => exact absurd rfl (keyword?_ne hKeyword).2.2
  | whole hDigits => exact .inl ⟨_, _, rfl, hDigits⟩
  | fraction hDigits hDecimals =>
      exact .inr ⟨_, _, _, _, rfl, hDigits, hDecimals⟩

------------------------------------------------------------
-- Tokens of Texts
------------------------------------------------------------

/- A quoted run is a content with its quotes doubled. -/
theorem content_of_quotedRun
    {q : Char}
    {cs run : List Char}
    (hRun : quotedRun q cs = some run) :
    ∃ content, run = Text.double q content ++ [q] := by
  fun_induction quotedRun q cs generalizing run with
  | case1 => cases hRun
  | case2 =>
      cases hRun
      exact ⟨[], rfl⟩
  | case3 => cases hRun
  | case4 c d cs hQuote ih =>
      rw [Option.map_eq_some_iff] at hRun
      rcases hRun with ⟨tail, hTail, rfl⟩
      rcases ih hTail with ⟨content, rfl⟩
      exact ⟨c :: content, by simp [Text.double, hQuote]⟩
  | case5 cs hFirst hSecond tail hTail ih =>
      cases hRun
      rcases ih hTail with ⟨content, rfl⟩
      exact ⟨q :: content, by simp [Text.double]⟩
  | case6 =>
      cases hRun
      exact ⟨[], rfl⟩
  | case7 =>
      cases hRun
      exact ⟨[], rfl⟩

theorem mem_comparisons
    {cs run : List Char}
    (hRun : comparisonToken cs = [⟨.comparison, run⟩]) :
    run ∈ comparisons := by
  unfold comparisonToken at hRun
  dsimp only at hRun
  split at hRun <;>
    · cases hRun
      try decide

/- A number is a run of digits, or two of them with a point between. -/
theorem numberRun_cases
    {c : Char}
    (cs : List Char)
    (hDigit : Text.isDigit c = true) :
    ∃ digits, (c :: digits).all Text.isDigit = true ∧
      (numberRun (c :: cs) = c :: digits ∨
        ∃ d decimals, (d :: decimals).all Text.isDigit = true ∧
          numberRun (c :: cs) = c :: digits ++ '.' :: d :: decimals) := by
  have hTake :
      (c :: cs).takeWhile Text.isDigit =
        c :: cs.takeWhile Text.isDigit :=
    List.takeWhile_cons_of_pos hDigit
  have hDigits : ((c :: cs).takeWhile Text.isDigit).all Text.isDigit = true :=
    List.all_takeWhile
  rw [hTake] at hDigits
  refine ⟨cs.takeWhile Text.isDigit, hDigits, ?_⟩
  unfold numberRun
  dsimp only
  rw [hTake]
  split
  next rest _ =>
    have hDecimals : (rest.takeWhile Text.isDigit).all Text.isDigit = true :=
      List.all_takeWhile
    cases hFraction : rest.takeWhile Text.isDigit with
    | nil => exact .inl rfl
    | cons d decimals =>
        rw [hFraction] at hDecimals
        exact .inr ⟨d, decimals, hDecimals, rfl⟩
  next => exact .inl rfl

/- The digits at the start of a text are a number. -/
theorem spelling_numberRun
    {c : Char}
    {cs : List Char}
    (hDigit : Text.isDigit c = true) :
    Spelling .number (numberRun (c :: cs)) := by
  rcases numberRun_cases cs hDigit with
    ⟨digits, hDigits, hWhole | ⟨d, decimals, hDecimals, hFraction⟩⟩
  · rw [hWhole]
    exact .whole hDigits
  · rw [hFraction]
    exact .fraction hDigits hDecimals

/- What is found in a text is spelled like a token of its kind. -/
theorem spelling_of_form
    {cs : List Char}
    {t : Token}
    (hForm : Form cs t) :
    Spelling t.kind t.text := by
  cases hForm with
  | mark hMark => exact .mark hMark
  | string hRun =>
      rcases content_of_quotedRun hRun with ⟨content, rfl⟩
      exact .string
  | quoted hQuote hRun hLength =>
      rcases content_of_quotedRun hRun with ⟨content, rfl⟩
      have hContent : content ≠ [] := by
        rintro rfl
        exact hLength rfl
      exact .quotedName (mem_nameQuotes.mpr hQuote) hContent
  | @parameter c rest hStart =>
      rw [List.takeWhile_cons_of_pos (isWord_of_isNameStart hStart)]
      exact .parameter hStart List.all_takeWhile
  | comparison hRun => exact .comparison (mem_comparisons hRun)
  | number hDigit => exact spelling_numberRun hDigit
  | keyword hWord => exact .keyword hWord List.all_takeWhile
  | @bare c cs rest hWord hStart =>
      have hAll : (cs.takeWhile Text.isWord).all Text.isWord = true :=
        List.all_takeWhile
      rw [hWord, List.all_cons, Bool.and_eq_true] at hAll
      exact .bareName hStart hAll.2

------------------------------------------------------------
-- Characters that Tokens Begin With
------------------------------------------------------------

/- The punctuation marks. -/
def marks : List Char :=
  [';', ',', '*', '.', '(', ')', '|', '^', '&', '+', '-', '/', '%']

theorem mem_marks
    {c : Char}
    {kind : Terminal}
    (hMark : punctuation? c = some kind) :
    c ∈ marks := by
  unfold punctuation? at hMark
  split at hMark <;> first | decide | cases hMark

/- The characters that begin a token which is no word or number. -/
def signs : List Char :=
  marks ++ ['\'', '\x60', '"', ':', '<', '>', '=', '!']

/-
  Every character that begins no token of signs begins a number
  or a word.
-/
theorem candidates_of_not_sign
    {c : Char}
    (cs : List Char)
    (hSign : c ∉ signs) :
    candidates (c :: cs) =
      if Text.isDigit c then
        [⟨.number, numberRun (c :: cs)⟩]
      else
        wordCandidates ((c :: cs).takeWhile Text.isWord) := by
  have hMark : punctuation? c = none := by
    cases hKind : punctuation? c with
    | none => rfl
    | some kind =>
        exact absurd (List.mem_append_left _ (mem_marks hKind)) hSign
  simp only [signs, List.mem_append, List.mem_cons, List.not_mem_nil,
    or_false, not_or] at hSign
  rcases hSign with
    ⟨_, hString, hBacktick, hDouble, hColon, hLess, hGreater, hEqual, hBang⟩
  simp only [candidates, hMark, beq_iff_eq, Bool.or_eq_true, hString,
    hBacktick, hDouble, hColon, hLess, hGreater, hEqual, hBang, or_self,
    if_false]

theorem not_sign_of_isDigit
    {c : Char}
    (hDigit : Text.isDigit c = true) :
    c ∉ signs := by
  intro hSign
  have hAll : ∀ c ∈ signs, Text.isDigit c = false := by decide
  rw [hAll c hSign] at hDigit
  cases hDigit

theorem not_sign_of_isWord
    {c : Char}
    (hWord : Text.isWord c = true) :
    c ∉ signs := by
  intro hSign
  have hAll : ∀ c ∈ signs, Text.isWord c = false := by decide
  rw [hAll c hSign] at hWord
  cases hWord

/- A character of a word or a sign stands in no layout. -/
theorem skipLayout_cons
    {c : Char}
    {cs : List Char}
    (hLayout : isLayout c = false)
    (hComment : c = '-' → cs.head? ≠ some '-') :
    skipLayout (c :: cs) = c :: cs := by
  cases cs with
  | nil => simp [skipLayout, hLayout]
  | cons d cs =>
      have hDashes : (c == '-' && d == '-') = false := by
        rw [Bool.and_eq_false_iff]
        by_cases hFirst : c = '-'
        · right
          have hSecond : d ≠ '-' := by
            intro hSecond
            exact hComment hFirst (by rw [hSecond]; rfl)
          exact beq_false_of_ne hSecond
        · exact .inl (beq_false_of_ne hFirst)
      simp [skipLayout, hLayout, hDashes]

theorem skipLayout_blank
    {c : Char}
    (cs : List Char)
    (hLayout : isLayout c = true) :
    skipLayout (c :: cs) = skipLayout cs := by
  cases cs with
  | nil => simp [skipLayout, hLayout]
  | cons d cs => simp [skipLayout, hLayout]

------------------------------------------------------------
-- Tokens at the Start of a Text
------------------------------------------------------------

end Token

/- The characters after which every token is over. -/
def separators : List Char :=
  [' ', '\n', ')', ',']

/- A text starts with no character that a token could go on with. -/
def startsApart : List Char → Bool
| [] => true
| c :: _ => separators.contains c

/- The text after a token does not go on with a character. -/
theorem ne_of_startsApart
    {rest : List Char}
    (hRest : startsApart rest = true)
    {P : Char → Bool}
    (hOther : ∀ c ∈ separators, P c = false) :
    ∀ c ∈ rest.head?, P c = false := by
  intro c hHead
  cases rest with
  | nil => cases hHead
  | cons d rest =>
      cases hHead
      exact hOther c (List.contains_iff_mem.mp hRest)

/- A run of characters ends where the next one is another one. -/
theorem takeWhile_append_of_head
    {P : Char → Bool}
    {run rest : List Char}
    (hRun : run.all P = true)
    (hRest : ∀ c ∈ rest.head?, P c = false) :
    (run ++ rest).takeWhile P = run := by
  rw [List.takeWhile_append_of_pos (List.all_eq_true.mp hRun)]
  cases rest with
  | nil => simp
  | cons c rest =>
      rw [List.takeWhile_cons_of_neg (by simp [hRest c rfl]),
        List.append_nil]

/- A run of characters is the longest one if another one follows. -/
theorem takeWhile_append_iff
    {P : Char → Bool}
    {run rest : List Char}
    (hRun : run.all P = true) :
    (run ++ rest).takeWhile P = run ↔ ∀ c ∈ rest.head?, P c = false := by
  refine ⟨fun hTake => ?_, takeWhile_append_of_head hRun⟩
  rw [List.takeWhile_append_of_pos (List.all_eq_true.mp hRun),
    List.append_right_eq_self] at hTake
  intro c hHead
  cases rest with
  | nil => cases hHead
  | cons d rest =>
      cases hHead
      cases hOther : P c with
      | false => rfl
      | true =>
          rw [List.takeWhile_cons_of_pos hOther] at hTake
          cases hTake

theorem dropWhile_append_of_head
    {P : Char → Bool}
    {run rest : List Char}
    (hRun : run.all P = true)
    (hRest : ∀ c ∈ rest.head?, P c = false) :
    (run ++ rest).dropWhile P = rest := by
  rw [List.dropWhile_append_of_pos (List.all_eq_true.mp hRun)]
  cases rest with
  | nil => rfl
  | cons c rest => rw [List.dropWhile_cons_of_neg (by simp [hRest c rfl])]

namespace Token

/-
  A token is found first of all where it stands before the rest
  of a text.
-/
def Opens
    (t : Token)
    (rest : List Char) : Prop :=
  skipLayout (t.text ++ rest) = t.text ++ rest ∧
    (candidates (t.text ++ rest)).head? = some t

/- A mark is found before anything that makes it no comment. -/
theorem opens_mark
    {c : Char}
    {kind : Terminal}
    {rest : List Char}
    (hMark : punctuation? c = some kind)
    (hComment : c = '-' → rest.head? ≠ some '-') :
    Opens ⟨kind, [c]⟩ rest := by
  have hLayout : isLayout c = false := by
    have hAll : ∀ c ∈ marks, isLayout c = false := by decide
    exact hAll c (mem_marks hMark)
  refine ⟨skipLayout_cons hLayout hComment, ?_⟩
  simp [candidates, hMark]

theorem isLayout_of_isWord
    {c : Char}
    (hWord : Text.isWord c = true) :
    isLayout c = false := by
  cases hLayout : isLayout c with
  | false => rfl
  | true =>
      simp only [isLayout, Bool.or_eq_true, beq_iff_eq] at hLayout
      rcases hLayout with (((rfl | rfl) | rfl) | rfl) | rfl <;>
        · revert hWord
          decide

theorem isLayout_of_isDigit
    {c : Char}
    (hDigit : Text.isDigit c = true) :
    isLayout c = false := by
  cases hLayout : isLayout c with
  | false => rfl
  | true =>
      simp only [isLayout, Bool.or_eq_true, beq_iff_eq] at hLayout
      rcases hLayout with (((rfl | rfl) | rfl) | rfl) | rfl <;>
        · revert hDigit
          decide

/- A word is found before anything that is no part of it. -/
theorem opens_word
    {kind : Terminal}
    {c : Char}
    {cs rest : List Char}
    (hWord : (c :: cs).all Text.isWord = true)
    (hDigit : Text.isDigit c = false)
    (hRest : ∀ d ∈ rest.head?, Text.isWord d = false)
    (hFirst :
      (wordCandidates (c :: cs)).head? = some ⟨kind, c :: cs⟩) :
    Opens ⟨kind, c :: cs⟩ rest := by
  have hStart : Text.isWord c = true :=
    List.all_eq_true.mp hWord c (List.mem_cons_self ..)
  have hSign := not_sign_of_isWord hStart
  have hTake := takeWhile_append_of_head hWord hRest
  rw [List.cons_append] at hTake
  refine ⟨skipLayout_cons (isLayout_of_isWord hStart) ?_, ?_⟩
  · rintro rfl
    exact absurd (by decide) hSign
  · rw [List.cons_append, candidates_of_not_sign _ hSign, hDigit, hTake]
    exact hFirst

/- A keyword is made of letters. -/
theorem isLower_of_keyword
    {c : Char}
    {cs : List Char}
    {kind : Terminal}
    (hKeyword : keyword? (c :: cs) = some kind) :
    (foldLetter c).isLower = true := by
  have hMember := mem_keywords hKeyword
  have hAll :
      ∀ entry ∈ keywords,
        entry.1.toList.head?.all Char.isLower = true := by
    decide
  have hFirst := hAll _ hMember
  rw [String.toList_ofList] at hFirst
  exact hFirst

theorem isDigit_of_keyword
    {c : Char}
    {cs : List Char}
    {kind : Terminal}
    (hKeyword : keyword? (c :: cs) = some kind) :
    Text.isDigit c = false := by
  have hLower := isLower_of_keyword hKeyword
  by_cases hAscii : c.toNat < 128
  · revert hLower
    apply forall_ascii (c := c) _ hAscii
    decide
  · by_cases hFolded : c ∈ foldedLetters
    · have hLetters : ∀ c ∈ foldedLetters, Text.isDigit c = false := by
        decide
      exact hLetters c hFolded
    · rw [foldLetter_of_not_ascii (Nat.le_of_not_lt hAscii) hFolded]
        at hLower
      have hLetter : ((c.isUpper || c.isLower) || c.isDigit) = true := by
        rw [hLower, Bool.or_true, Bool.true_or]
      have hSmall := ascii_of_isAlphanum hLetter
      exact absurd hSmall hAscii

/- Nothing in quotes is a keyword. -/
theorem keyword?_quoted
    {q : Char}
    (hQuote : q ∈ nameQuotes)
    (content : List Char) :
    keyword? (Text.quoted q content) = none := by
  cases hKeyword : keyword? (Text.quoted q content) with
  | none => rfl
  | some kind =>
      have hLower := isLower_of_keyword hKeyword
      have hAll : ∀ q ∈ nameQuotes, (foldLetter q).isLower = false := by
        decide
      rw [hAll q hQuote] at hLower
      cases hLower

theorem opens_keyword
    {word rest : List Char}
    {kind : Terminal}
    (hKeyword : keyword? word = some kind)
    (hWord : word.all Text.isWord = true)
    (hRest : ∀ d ∈ rest.head?, Text.isWord d = false) :
    Opens ⟨kind, word⟩ rest := by
  cases word with
  | nil => cases hKeyword
  | cons c cs =>
      apply opens_word hWord (isDigit_of_keyword hKeyword) hRest
      rw [wordCandidates, hKeyword]
      rfl

theorem isDigit_of_isNameStart
    {c : Char}
    (hStart : Text.isNameStart c = true) :
    Text.isDigit c = false := by
  have hAscii := ascii_of_isNameStart hStart
  revert hStart
  apply forall_ascii (c := c) _ hAscii
  decide

/- A bare name that is no keyword is found as a name. -/
theorem opens_bareName
    {c : Char}
    {cs rest : List Char}
    (hStart : Text.isNameStart c = true)
    (hWord : cs.all Text.isWord = true)
    (hKeyword : keyword? (c :: cs) = none)
    (hRest : ∀ d ∈ rest.head?, Text.isWord d = false) :
    Opens ⟨.name, c :: cs⟩ rest := by
  apply opens_word _ (isDigit_of_isNameStart hStart) hRest
  · simp [wordCandidates, hKeyword, hStart]
  · rw [List.all_cons, isWord_of_isNameStart hStart, hWord]
    rfl

/- A parameter is found before anything that is no part of it. -/
theorem opens_parameter
    {c : Char}
    {cs rest : List Char}
    (hStart : Text.isNameStart c = true)
    (hWord : cs.all Text.isWord = true)
    (hRest : ∀ d ∈ rest.head?, Text.isWord d = false) :
    Opens ⟨.parameter, ':' :: c :: cs⟩ rest := by
  have hAll : (c :: cs).all Text.isWord = true := by
    rw [List.all_cons, isWord_of_isNameStart hStart, hWord]
    rfl
  have hTake := takeWhile_append_of_head hAll hRest
  rw [List.cons_append] at hTake
  refine ⟨skipLayout_cons (by decide) nofun, ?_⟩
  simp [candidates, punctuation?, parameterToken, hStart, hTake]

/- No character makes a longer comparison of this one. -/
theorem comparisonToken_iff
    {run rest : List Char}
    (hRun : run ∈ comparisons) :
    comparisonToken (run ++ rest) = [⟨.comparison, run⟩] ↔
      ∀ d ∈ rest.head?, run ++ [d] ∉ comparisons := by
  simp only [comparisons, List.mem_cons, List.not_mem_nil, or_false] at hRun
  cases rest with
  | nil =>
      rcases hRun with rfl | rfl | rfl | rfl | rfl | rfl | rfl | rfl <;>
        simp [comparisonToken]
  | cons d rest =>
      rcases hRun with rfl | rfl | rfl | rfl | rfl | rfl | rfl | rfl <;>
        · unfold comparisonToken
          dsimp only [List.cons_append, List.nil_append]
          split <;> rename_i hText <;> try cases hText
          all_goals simp_all [comparisons]

/- A comparison is found if no longer one stands there. -/
theorem opens_of_comparisonToken
    {run rest : List Char}
    (hRun : run ∈ comparisons)
    (hToken : comparisonToken (run ++ rest) = [⟨.comparison, run⟩]) :
    Opens ⟨.comparison, run⟩ rest := by
  have hFirst :
      ∃ c cs, run = c :: cs ∧ c ∈ ['<', '>', '=', '!'] := by
    simp only [comparisons, List.mem_cons, List.not_mem_nil,
      or_false] at hRun
    rcases hRun with rfl | rfl | rfl | rfl | rfl | rfl | rfl | rfl <;>
      exact ⟨_, _, rfl, by decide⟩
  rcases hFirst with ⟨c, cs, rfl, hStart⟩
  simp only [List.mem_cons, List.not_mem_nil, or_false] at hStart
  constructor
  · rcases hStart with rfl | rfl | rfl | rfl <;>
      exact skipLayout_cons (by decide) nofun
  · change (candidates (c :: (cs ++ rest))).head? = _
    rw [List.cons_append] at hToken
    rcases hStart with rfl | rfl | rfl | rfl <;>
      simp [candidates, punctuation?, hToken]

theorem eq_of_extended
    {run : List Char}
    {d : Char}
    (hRun : run ∈ comparisons)
    (hLonger : run ++ [d] ∈ comparisons) :
    d = '=' ∨ d = '>' := by
  simp only [comparisons, List.mem_cons, List.not_mem_nil, or_false] at hRun
  rcases hRun with rfl | rfl | rfl | rfl | rfl | rfl | rfl | rfl <;>
    simp_all [comparisons]

/- A comparison is found before anything that is no part of it. -/
theorem opens_comparison
    {run rest : List Char}
    (hRun : run ∈ comparisons)
    (hRest : ∀ d ∈ rest.head?, d ≠ '=' ∧ d ≠ '>') :
    Opens ⟨.comparison, run⟩ rest := by
  apply opens_of_comparisonToken hRun
  rw [comparisonToken_iff hRun]
  intro d hHead hLonger
  rcases eq_of_extended hRun hLonger with hEqual | hGreater
  · exact (hRest d hHead).1 hEqual
  · exact (hRest d hHead).2 hGreater

------------------------------------------------------------
-- Numbers
------------------------------------------------------------

theorem numberRun_eq_append
    (cs : List Char) :
    ∃ more, numberRun cs = cs.takeWhile Text.isDigit ++ more := by
  unfold numberRun
  dsimp only
  split
  · split
    · exact ⟨[], (List.append_nil _).symm⟩
    · exact ⟨_, rfl⟩
  · exact ⟨[], (List.append_nil _).symm⟩

/-
  The digits of a whole number are over if no digit follows, and
  no point with a digit after it.
-/
theorem numberRun_iff
    {digits rest : List Char}
    (hDigits : digits.all Text.isDigit = true) :
    numberRun (digits ++ rest) = digits ↔
      (∀ c ∈ rest.head?, Text.isDigit c = false) ∧
        ∀ tail, rest = '.' :: tail →
          ∀ c ∈ tail.head?, Text.isDigit c = false := by
  have hEnd : numberRun (digits ++ rest) = digits →
      ∀ c ∈ rest.head?, Text.isDigit c = false := by
    intro hRun
    rcases numberRun_eq_append (digits ++ rest) with ⟨more, hMore⟩
    rw [hRun, List.takeWhile_append_of_pos (List.all_eq_true.mp hDigits),
      List.append_assoc, List.self_eq_append_right,
      List.append_eq_nil_iff] at hMore
    rw [← takeWhile_append_iff hDigits,
      List.takeWhile_append_of_pos (List.all_eq_true.mp hDigits), hMore.1,
      List.append_nil]
  by_cases hRest : ∀ c ∈ rest.head?, Text.isDigit c = false
  · rw [and_iff_right hRest]
    unfold numberRun
    rw [takeWhile_append_of_head hDigits hRest,
      dropWhile_append_of_head hDigits hRest]
    dsimp only
    split
    next tail =>
      cases tail with
      | nil => simp
      | cons d tail => cases hDigit : Text.isDigit d <;> simp [hDigit]
    next hPoint =>
      exact iff_of_true rfl fun tail hTail => absurd hTail (hPoint tail)
  · exact ⟨fun hRun => absurd (hEnd hRun) hRest, fun h => absurd h.1 hRest⟩

/- A number is found if its digits are over. -/
theorem opens_of_numberRun
    {c : Char}
    {cs rest : List Char}
    (hDigit : Text.isDigit c = true)
    (hRun : numberRun (c :: cs ++ rest) = c :: cs) :
    Opens ⟨.number, c :: cs⟩ rest := by
  have hSign := not_sign_of_isDigit hDigit
  refine ⟨skipLayout_cons (isLayout_of_isDigit hDigit) ?_, ?_⟩
  · rintro rfl
    exact absurd (by decide) hSign
  · rw [List.cons_append] at hRun
    rw [List.cons_append, candidates_of_not_sign _ hSign, hDigit, hRun]
    rfl

/- A whole number is found before anything that is no part of it. -/
theorem opens_whole
    {c : Char}
    {digits rest : List Char}
    (hDigits : (c :: digits).all Text.isDigit = true)
    (hRest : ∀ d ∈ rest.head?, Text.isDigit d = false ∧ d ≠ '.') :
    Opens ⟨.number, c :: digits⟩ rest := by
  have hDigit : Text.isDigit c = true :=
    List.all_eq_true.mp hDigits c (List.mem_cons_self ..)
  refine opens_of_numberRun hDigit ((numberRun_iff hDigits).mpr ⟨?_, ?_⟩)
  · exact fun d hHead => (hRest d hHead).1
  · rintro tail rfl
    exact absurd rfl (hRest '.' rfl).2

/- The digits of a fraction are over if no digit follows. -/
theorem numberRun_fraction_iff
    {d : Char}
    {digits decimals rest : List Char}
    (hDigits : digits.all Text.isDigit = true)
    (hDecimals : (d :: decimals).all Text.isDigit = true) :
    numberRun (digits ++ '.' :: d :: decimals ++ rest) =
        digits ++ '.' :: d :: decimals ↔
      ∀ c ∈ rest.head?, Text.isDigit c = false := by
  have hPoint :
      ∀ e ∈ ('.' :: d :: decimals ++ rest).head?, Text.isDigit e = false := by
    intro e hHead
    cases hHead
    decide
  have hNotEmpty :
      ((d :: decimals ++ rest).takeWhile Text.isDigit).isEmpty = false := by
    rw [List.takeWhile_append_of_pos (List.all_eq_true.mp hDecimals)]
    rfl
  unfold numberRun
  rw [List.append_assoc, takeWhile_append_of_head hDigits hPoint,
    dropWhile_append_of_head hDigits hPoint]
  change (if ((d :: decimals ++ rest).takeWhile Text.isDigit).isEmpty then
      digits
    else
      digits ++ '.' :: (d :: decimals ++ rest).takeWhile Text.isDigit) = _ ↔ _
  rw [hNotEmpty, ← takeWhile_append_iff hDecimals]
  simp

/- A number with a fraction is found like a whole one. -/
theorem opens_fraction
    {c d : Char}
    {digits decimals rest : List Char}
    (hDigits : (c :: digits).all Text.isDigit = true)
    (hDecimals : (d :: decimals).all Text.isDigit = true)
    (hRest : ∀ d ∈ rest.head?, Text.isDigit d = false) :
    Opens ⟨.number, c :: digits ++ '.' :: d :: decimals⟩ rest := by
  have hDigit : Text.isDigit c = true :=
    List.all_eq_true.mp hDigits c (List.mem_cons_self ..)
  exact opens_of_numberRun hDigit
    ((numberRun_fraction_iff hDigits hDecimals).mpr hRest)

------------------------------------------------------------
-- Quoted Tokens
------------------------------------------------------------

/- A quoted run ends at the quote after which no quote follows. -/
theorem quotedRun_append
    {q : Char}
    {rest : List Char}
    (content : List Char)
    (hRest : rest.head? ≠ some q) :
    quotedRun q (Text.double q content ++ q :: rest) =
      some (Text.double q content ++ [q]) := by
  induction content with
  | nil =>
      cases rest with
      | nil => simp [Text.double, quotedRun]
      | cons d rest =>
          have hOther : d ≠ q := by
            intro hSame
            exact hRest (by rw [hSame]; rfl)
          simp [Text.double, quotedRun, hOther]
  | cons c content ih =>
      by_cases hQuote : c = q
      · simp [Text.double, quotedRun, hQuote, ih]
      · have hNext :
            ∃ d cs, Text.double q content ++ q :: rest = d :: cs := by
          cases Text.double q content with
          | nil => exact ⟨q, rest, rfl⟩
          | cons d ds => exact ⟨d, ds ++ q :: rest, rfl⟩
        rcases hNext with ⟨d, cs, hNext⟩
        rw [hNext] at ih
        simp [Text.double, quotedRun, hQuote, hNext, ih]

theorem opens_string
    {content rest : List Char}
    (hRest : rest.head? ≠ some '\'') :
    Opens ⟨.string, Text.quoted '\'' content⟩ rest := by
  have hRun := quotedRun_append content hRest
  refine ⟨skipLayout_cons (by decide) nofun, ?_⟩
  simp [Text.quoted, candidates, punctuation?, quotedString, hRun]

theorem double_ne_nil
    {content : List Char}
    (q : Char)
    (hContent : content ≠ []) :
    Text.double q content ≠ [] := by
  cases content with
  | nil => exact absurd rfl hContent
  | cons c content =>
      unfold Text.double
      split <;> exact List.cons_ne_nil _ _

theorem opens_quotedName
    {q : Char}
    {content rest : List Char}
    (hQuote : q ∈ nameQuotes)
    (hContent : content ≠ [])
    (hRest : rest.head? ≠ some q) :
    Opens ⟨.name, Text.quoted q content⟩ rest := by
  have hRun := quotedRun_append content hRest
  have hNotEmpty : Text.double q content ≠ [] :=
    double_ne_nil q hContent
  rcases mem_nameQuotes.mp hQuote with rfl | rfl <;>
    · refine ⟨skipLayout_cons (by decide) nofun, ?_⟩
      simp [Text.quoted, candidates, punctuation?, quotedName, hRun,
        hNotEmpty]

------------------------------------------------------------
-- All Tokens
------------------------------------------------------------

/- Characters that are no part of words but go on some token. -/
def goingOn : List Char :=
  ['-', '.', '=', '>', '\'', '\x60', '"']

/- No token goes on with a character that sets tokens apart. -/
theorem opens_of_spelling
    {t : Token}
    {rest : List Char}
    (hSpelling : Spelling t.kind t.text)
    (hName : t.kind = .name → keyword? t.text = none)
    (hRest : startsApart rest = true) :
    t.Opens rest := by
  have hWord : ∀ d ∈ rest.head?, Text.isWord d = false :=
    ne_of_startsApart hRest (by decide)
  have hDigit : ∀ d ∈ rest.head?, Text.isDigit d = false :=
    ne_of_startsApart hRest (by decide)
  have hNe : ∀ e ∈ goingOn, ∀ d ∈ rest.head?, d ≠ e := by
    intro e hMember d hHead
    have hApart : ∀ e ∈ goingOn, ∀ c ∈ separators, c ≠ e := by decide
    have hEqual : (d == e) = false :=
      ne_of_startsApart hRest
        (P := fun d => d == e)
        (fun c hSeparator =>
          beq_false_of_ne (hApart e hMember c hSeparator))
        d hHead
    exact ne_of_beq_false hEqual
  have hOther : ∀ e ∈ goingOn, rest.head? ≠ some e :=
    fun e hMember hHead => hNe e hMember e hHead rfl
  rcases t with ⟨kind, text⟩
  cases hSpelling with
  | mark hMark =>
      exact opens_mark hMark fun _ => hOther '-' (by decide)
  | keyword hKeyword hAll => exact opens_keyword hKeyword hAll hWord
  | bareName hStart hAll =>
      exact opens_bareName hStart hAll (hName rfl) hWord
  | @quotedName q content hQuote hContent =>
      have hQuotes : ∀ q ∈ nameQuotes, q ∈ goingOn := by decide
      exact opens_quotedName hQuote hContent (hOther q (hQuotes q hQuote))
  | parameter hStart hAll => exact opens_parameter hStart hAll hWord
  | comparison hRun =>
      exact opens_comparison hRun fun d hHead =>
        ⟨hNe '=' (by decide) d hHead, hNe '>' (by decide) d hHead⟩
  | whole hDigits =>
      exact opens_whole hDigits fun d hHead =>
        ⟨hDigit d hHead, hNe '.' (by decide) d hHead⟩
  | fraction hDigits hDecimals =>
      exact opens_fraction hDigits hDecimals hDigit
  | string => exact opens_string (hOther '\'' (by decide))

end Token

end SqlTemplate
