import SqlTemplate.Proofs.Grammar.Relaying
import SqlTemplate.Proofs.Roundtrip.Literals

/-
  Identifiers in texts.  A quoted name is read back as itself.
  A bare name is one word, and what a word is read as depends
  on the place where it stands: after SELECT it is a column
  unless it is one of the few keywords that can begin one.

  Key definitions include:
    * `Token.columnKeywords`
    * `Token.kindOfColumn`
    * `Dialect.IsMisread`

  Correctness is proven by:
    * `Recognition.derive_selected`
    * `parseChars_column`
    * `not_parsed_as_column`
    * `Dialect.bare_reads_back_iff`
    * `identifier_reads_back_iff`
-/

------------------------------------------------------------
-- Recognized Queries
------------------------------------------------------------

namespace SqlTemplate

/- A text spells only one sequence of tokens. -/
theorem Spells.unique
    {cs : List Char}
    {ts ts' : List Token}
    (hFirst : Spells cs ts)
    (hSecond : Spells cs ts') :
    ts = ts' := by
  induction hFirst generalizing ts' with
  | done hEnd =>
      cases hSecond with
      | done => rfl
      | next hToken _ =>
          rw [hEnd] at hToken
          cases hToken
  | next hToken _ ih =>
      cases hSecond with
      | done hEnd =>
          rw [hEnd] at hToken
          cases hToken
      | next hToken' hRest' =>
          cases hToken.symm.trans hToken'
          rw [ih hRest']

/- The keyword that every query starts with. -/
def selectToken : Token :=
  ⟨.SELECT, "SELECT".toList⟩

theorem opens_select
    (cs : List Char) : selectToken.Opens (' ' :: cs) := by
  have hKeyword : Token.keyword? "SELECT".toList = some .SELECT := by decide
  refine Token.opens_keyword hKeyword (by decide) ?_
  intro c hHead
  cases hHead
  rfl

/- A single token after SELECT. -/
theorem spells_selected
    {t : Token}
    (hToken : t.Opens []) :
    Spells ("SELECT".toList ++ ' ' :: t.text) [selectToken, t] := by
  have hText := Spells.cons hToken .nil
  rw [List.append_nil] at hText
  exact .cons (opens_select _) (.blank rfl hText)

/- The tokens of a text that denotes a query have its derivation. -/
theorem Denotes.exists_derivation
    {cs : List Char}
    {ts : List Token}
    {q : Query Node}
    (hQuery : Denotes none (.phrase .query) cs q)
    (hText : Spells cs ts) :
    ∃ d : Derivation (.phrase .statement),
      d.tokens = ts ∧ d.meaning = q ∧ d.numeralError? = none := by
  have hStatement : Denotes none (.phrase .statement) cs q :=
    .of_rule .plain rfl (.last hQuery)
  rcases hStatement with ⟨d, hTokens, hMeaning, hNumerals⟩
  exact ⟨d, hTokens.spells.unique hText, hMeaning, hNumerals⟩

------------------------------------------------------------
-- A Word after SELECT
------------------------------------------------------------

namespace Recognition

/- The stack after SELECT. -/
def selected : List Frame :=
  [⟨3, .token .SELECT, .leaf selectToken⟩]

set_option maxRecDepth 10000 in
theorem shift_select :
    Frame.shift selectToken (Frame.settle (some selectToken.kind) []) =
      some selected := by
  with_unfolding_all rfl

/-
  A token that stands after SELECT and is the last one decides
  what the text is read as.
-/
theorem derive_selected
    {kind : Terminal}
    {text gap : List Char}
    {above : List Frame}
    (hStands :
      Token.Stands (Automaton.row (Frame.top selected)).accepts
        ⟨kind, text⟩ gap)
    (hShift :
      Frame.shift ⟨kind, text⟩ (Frame.settle (some kind) selected) =
        some above)
    (hGap : LayoutRun gap) :
    derive ("SELECT".toList ++ ' ' :: (text ++ gap)) =
      (recognize [] [selectToken, ⟨kind, text⟩]).elim
        (.error (text ++ gap)) .ok := by
  have hFirst :
      selectToken.Stands (Automaton.row (Frame.top [])).accepts
        (' ' :: (text ++ gap)) :=
    (opens_select _).stands (accepts_of_shift shift_select)
  have hFound :
      recognize [] [selectToken, ⟨kind, text⟩] =
        Frame.statement? (Frame.settle none above) := by
    rw [recognize, shift_select]
    dsimp only
    rw [recognize, hShift]
    dsimp only
    rw [recognize]
  have hFuel :
      ∃ n, ("SELECT".toList ++ ' ' :: (text ++ gap)).length + 1 =
        n + 1 + 1 + 1 := by
    refine ⟨(text ++ gap).length + 5, ?_⟩
    rw [List.length_append, List.length_cons]
    change 6 + _ + 1 = _
    omega
  rcases hFuel with ⟨n, hFuel⟩
  have hSecond :
      run (n + 1 + 1) selected ("SELECT".toList ++ ' ' :: (text ++ gap))
          (' ' :: (text ++ gap)) =
        run (n + 1) above (text ++ gap) gap :=
    run_of_stands (n + 1) _ (.blank rfl .nil) hStands hShift
  rw [hFound, derive, hFuel]
  refine (run_of_stands (n + 1 + 1) _ .nil hFirst shift_select).trans ?_
  refine hSecond.trans ?_
  rw [run, hGap.skip_self]
  cases Frame.statement? (Frame.settle none above) <;> rfl

end Recognition

namespace Token

/- The keywords that can follow SELECT. -/
def columnKeywords : List Terminal :=
  [.DISTINCT, .NOT, .TRUE, .FALSE, .NULL]

/- What a word after SELECT is read as. -/
def kindOfColumn (word : List Char) : Terminal :=
  match keyword? word with
  | none => .name
  | some kind => if kind ∈ columnKeywords then kind else .name

theorem kindOfColumn_cases
    (word : List Char) :
    kindOfColumn word = .name ∨
      kindOfColumn word ∈ columnKeywords ∧
        keyword? word = some (kindOfColumn word) := by
  unfold kindOfColumn
  cases hKeyword : keyword? word with
  | none => exact .inl rfl
  | some kind =>
      dsimp only
      split
      next hMember => exact .inr ⟨hMember, rfl⟩
      next => exact .inl rfl

/- After SELECT a keyword is accepted if it can begin a column. -/
theorem accepts_keyword :
    ∀ entry ∈ keywords,
      (Automaton.row (Frame.top Recognition.selected)).accepts entry.2 =
        decide (entry.2 ∈ columnKeywords) := by
  decide +kernel

theorem accepts_name :
    (Automaton.row (Frame.top Recognition.selected)).accepts .name =
      true := by
  decide +kernel

/- A word stands after SELECT as what it is read as there. -/
theorem stands_word
    {c : Char}
    {cs gap : List Char}
    (hStart : Text.isNameStart c = true)
    (hWord : (c :: cs).all Text.isWord = true)
    (hGap : ∀ d ∈ gap.head?, Text.isWord d = false) :
    Stands (Automaton.row (Frame.top Recognition.selected)).accepts
      ⟨kindOfColumn (c :: cs), c :: cs⟩ gap := by
  have hFirst := isWord_of_isNameStart hStart
  have hSign := not_sign_of_isWord hFirst
  have hTake := takeWhile_append_of_head hWord hGap
  rw [List.cons_append] at hTake
  refine ⟨skipLayout_cons (isLayout_of_isWord hFirst) ?_, ?_⟩
  · rintro rfl
    exact absurd (by decide) hSign
  · rw [scan, List.cons_append, candidates_of_not_sign _ hSign,
      isDigit_of_isNameStart hStart, hTake, wordCandidates.eq_def,
      kindOfColumn]
    cases hKeyword : keyword? (c :: cs) with
    | none => simp [hStart, accepts_name]
    | some kind =>
        have hAccepts := accepts_keyword _ (mem_keywords hKeyword)
        by_cases hMember : kind ∈ columnKeywords
        · simp [hStart, hAccepts, hMember]
        · simp [hStart, hAccepts, hMember, accepts_name]

end Token

------------------------------------------------------------
-- Words that Are Read as Columns
------------------------------------------------------------

namespace Recognition

set_option maxRecDepth 10000 in
theorem shift_column
    {kind : Terminal}
    (hKind : kind = .name ∨ kind ∈ Token.columnKeywords)
    (text : List Char) :
    ∃ above,
      Frame.shift ⟨kind, text⟩ (Frame.settle (some kind) selected) =
        some above := by
  simp only [Token.columnKeywords, List.mem_cons, List.not_mem_nil,
    or_false] at hKind
  rcases hKind with rfl | rfl | rfl | rfl | rfl | rfl <;>
    exact ⟨_, by with_unfolding_all rfl⟩

end Recognition

section

variable {c : Char} {cs gap : List Char}

/- A word after SELECT is read as the two tokens are recognized. -/
theorem derive_word
    (hStart : Text.isNameStart c = true)
    (hWord : (c :: cs).all Text.isWord = true)
    (hGap : gap = [] ∨ gap = ['\n']) :
    Recognition.derive ("SELECT".toList ++ ' ' :: (c :: cs ++ gap)) =
      (Recognition.recognize []
        [selectToken, ⟨Token.kindOfColumn (c :: cs), c :: cs⟩]).elim
          (.error (c :: cs ++ gap)) .ok := by
  have hKind :
      Token.kindOfColumn (c :: cs) = .name ∨
        Token.kindOfColumn (c :: cs) ∈ Token.columnKeywords :=
    (Token.kindOfColumn_cases (c :: cs)).imp_right And.left
  rcases Recognition.shift_column hKind (c :: cs) with ⟨above, hShift⟩
  refine Recognition.derive_selected (Token.stands_word hStart hWord ?_)
    hShift ?_
  · rcases hGap with rfl | rfl
    · exact nofun
    · rintro d ⟨⟩
      decide
  · rcases hGap with rfl | rfl
    · exact .nil
    · exact .blank rfl .nil

/- A quoted name can be selected. -/
theorem denotes_quotedName
    {q : Char}
    {content : List Char}
    (hQuote : q ∈ Token.nameQuotes)
    (hContent : content ≠ []) :
    Denotes none (.phrase .query)
      ("SELECT".toList ++ ' ' :: Text.quoted q content)
      (Query.ofColumn (.column (String.ofList content) none none)) := by
  have hName :
      Denotes none (.phrase .atom) (Text.quoted q content)
        (.column (Token.nameOf (Text.quoted q content)) none none) :=
    .of_rule .shortName rfl
      (.only (.quotedName hQuote hContent) fun _ =>
        Token.keyword?_quoted hQuote content)
  have hSigned :
      Denotes none (.phrase .signed) (Text.quoted q content)
        (.column (Token.nameOf (Text.quoted q content)) none none) :=
    .of_rule .atomExpr rfl (.last hName)
  rw [← Token.nameOf_quoted hQuote content]
  exact hSigned.expr_of_signed.selected

/- A name after SELECT is recognized as a column, bare as in quotes. -/
theorem recognize_column
    {c : Char}
    (cs : List Char)
    (hStart : Text.isNameStart c = true) :
    ∃ d, Recognition.recognize [] [selectToken, ⟨.name, c :: cs⟩] = some d ∧
      d.meaning =
        Query.ofColumn (.column (String.ofList (c :: cs)) none none) ∧
        d.numeralError? = none := by
  have hQuote : '"' ∈ Token.nameQuotes := by decide
  have hContent : c :: cs ≠ [] := List.cons_ne_nil c cs
  have hText := spells_selected (t := ⟨.name, Text.quoted '"' (c :: cs)⟩)
    (Token.opens_quotedName hQuote hContent nofun)
  rcases (denotes_quotedName hQuote hContent).exists_derivation hText with
    ⟨d, hTokens, hMeaning, hNumerals⟩
  have hSimilar :
      List.Forall₂ Token.Similar d.tokens
        [selectToken, ⟨.name, c :: cs⟩] := by
    rw [hTokens]
    refine .cons ⟨rfl, trivial⟩ (.cons ⟨rfl, ?_⟩ .nil)
    change Token.nameOf _ = Token.nameOf _
    rw [Token.nameOf_quoted hQuote, Token.nameOf_bare cs hStart]
  rcases d.similar hSimilar with ⟨d', hTokens', hMeaning', hNumerals'⟩
  refine ⟨d', ?_, ?_, hNumerals'.trans hNumerals⟩
  · rw [← hTokens']
    exact Recognition.recognize_tokens d'
  · exact (show d.meaning = d'.meaning from hMeaning').symm.trans hMeaning

/- A word that is read as a name is selected as a column. -/
theorem parseChars_column
    (hStart : Text.isNameStart c = true)
    (hWord : (c :: cs).all Text.isWord = true)
    (hGap : gap = [] ∨ gap = ['\n'])
    (hKind : Token.kindOfColumn (c :: cs) = .name) :
    parseChars ("SELECT".toList ++ ' ' :: (c :: cs ++ gap)) =
      .ok (.select
        (Query.ofColumn (.column (String.ofList (c :: cs)) none none))) := by
  rcases recognize_column cs hStart with
    ⟨d, hFound, hMeaning, hNumerals⟩
  have hDerive := derive_word hStart hWord hGap
  rw [hKind, hFound] at hDerive
  rw [parse_of_derive hDerive, hNumerals, hMeaning]
  rfl

/- No query starts with these keywords alone. -/
set_option maxRecDepth 10000 in
theorem recognize_unfinished
    {kind : Terminal}
    (hKind : kind = .DISTINCT ∨ kind = .NOT)
    (word : List Char) :
    Recognition.recognize [] [selectToken, ⟨kind, word⟩] = none := by
  rcases hKind with rfl | rfl <;> with_unfolding_all rfl

/- The keywords of values are recognized as their values. -/
theorem recognize_value
    {kind : Terminal}
    {word : List Char}
    (hKind : kind = .TRUE ∨ kind = .FALSE ∨ kind = .NULL)
    (hKeyword : Token.keyword? word = some kind)
    (hWord : word.all Text.isWord = true) :
    ∃ v d, Recognition.recognize [] [selectToken, ⟨kind, word⟩] = some d ∧
      d.meaning = Query.ofColumn (.literal v) := by
  have hAtom : ∃ v, Denotes none (.phrase .atom) word (Node.literal v) := by
    rcases hKind with rfl | rfl | rfl
    · exact ⟨_, .of_rule .trueValue rfl (.lastWord ⟨hKeyword, hWord⟩)⟩
    · exact ⟨_, .of_rule .falseValue rfl (.lastWord ⟨hKeyword, hWord⟩)⟩
    · exact ⟨_, .of_rule .nullValue rfl (.lastWord ⟨hKeyword, hWord⟩)⟩
  rcases hAtom with ⟨v, hAtom⟩
  have hSigned : Denotes none (.phrase .signed) word (Node.literal v) :=
    .of_rule .atomExpr rfl (.last hAtom)
  have hText := spells_selected (t := ⟨kind, word⟩)
    (Token.opens_keyword hKeyword hWord nofun)
  rcases hSigned.expr_of_signed.selected.exists_derivation hText with
    ⟨d, hTokens, hMeaning, _⟩
  refine ⟨v, d, ?_, hMeaning⟩
  rw [← hTokens]
  exact Recognition.recognize_tokens d

/- A word that is read as a keyword is selected as no column. -/
theorem not_parsed_as_column
    (hStart : Text.isNameStart c = true)
    (hWord : (c :: cs).all Text.isWord = true)
    (hGap : gap = [] ∨ gap = ['\n'])
    (hKind : Token.kindOfColumn (c :: cs) ≠ .name)
    (name : String) :
    parseChars ("SELECT".toList ++ ' ' :: (c :: cs ++ gap)) ≠
      .ok (.select (Query.ofColumn (.column name none none))) := by
  intro hParse
  rcases exists_derivation_of_parse hParse with ⟨d, hDerive, _, hTree⟩
  rw [derive_word hStart hWord hGap] at hDerive
  rcases Token.kindOfColumn_cases (c :: cs) with hName | ⟨hMember, hKeyword⟩
  · exact hKind hName
  · generalize Token.kindOfColumn (c :: cs) = kind at *
    have hCases :
        (kind = .DISTINCT ∨ kind = .NOT) ∨
          kind = .TRUE ∨ kind = .FALSE ∨ kind = .NULL := by
      simpa [Token.columnKeywords, or_assoc] using hMember
    rcases hCases with hUnfinished | hValue
    · rw [recognize_unfinished hUnfinished] at hDerive
      cases hDerive
    · rcases recognize_value hValue hKeyword hWord with
        ⟨v, d', hFound, hMeaning⟩
      rw [hFound] at hDerive
      cases hDerive
      have hQuery := Node.select.inj hTree
      rw [hMeaning] at hQuery
      cases Query.eq_of_ofColumn hQuery

end

------------------------------------------------------------
-- Plain Names and Reserved Words
------------------------------------------------------------

/- A plain name is a word, with or without a line break behind it. -/
theorem plainName_cases
    {name : List Char}
    (hPlain : Dialect.isPlainName name = true) :
    ∃ c cs gap, name = c :: cs ++ gap ∧ Text.isNameStart c = true ∧
      (c :: cs).all (fun c => c.isAlphanum || c == '_') = true ∧
        (gap = [] ∧ name.getLast? ≠ some '\n' ∨
          gap = ['\n'] ∧ name.getLast? = some '\n') := by
  unfold Dialect.isPlainName at hPlain
  split at hPlain
  next => cases hPlain
  next c cs hWord =>
    rw [Bool.and_eq_true] at hPlain
    have hStart : (c.isAlphanum || c == '_') = true := by
      have hFirst := hPlain.1
      unfold Text.isNameStart at hFirst
      rw [Bool.or_eq_true] at hFirst ⊢
      exact hFirst.imp_left fun hLetter => by
        rw [Char.isAlphanum, hLetter, Bool.true_or]
    have hAll : (c :: cs).all (fun c => c.isAlphanum || c == '_') = true := by
      rw [List.all_cons, hStart, hPlain.2]
      rfl
    unfold Dialect.dropFinalBreak at hWord
    split at hWord
    next hBreak =>
      refine ⟨c, cs, ['\n'], ?_, hPlain.1, hAll, .inr ⟨rfl, hBreak⟩⟩
      rw [← hWord]
      exact (List.dropLast_append_getLast? '\n' hBreak).symm
    next hBreak =>
      refine ⟨c, cs, [], ?_, hPlain.1, hAll, .inl ⟨rfl, hBreak⟩⟩
      rw [List.append_nil, ← hWord]

/- A word of ASCII letters is folded like it is lowered. -/
theorem map_foldLetter_of_plain
    {word : List Char}
    (hPlain : word.all (fun c => c.isAlphanum || c == '_') = true) :
    word.map Token.foldLetter = word.map Char.toLower := by
  apply List.map_congr_left
  intro c hMember
  have hChar := List.all_eq_true.mp hPlain c hMember
  have hAscii : c.toNat < 128 := by
    rcases Bool.or_eq_true_iff.mp hChar with hLetter | hUnderscore
    · exact ascii_of_isAlphanum hLetter
    · rw [beq_iff_eq.mp hUnderscore]
      decide
  apply forall_ascii (c := c) _ hAscii
  decide

/- The word false is read as a keyword in any case of letters. -/
theorem Token.kindOfColumn_false
    {word : List Char}
    (hPlain : word.all (fun c => c.isAlphanum || c == '_') = true)
    (hFalse : word.map Char.toLower = "false".toList) :
    kindOfColumn word = .FALSE := by
  rw [kindOfColumn, keyword?, map_foldLetter_of_plain hPlain, hFalse]
  decide +kernel

namespace Dialect

/-
  Names that are written bare and read as something else: plain
  names with a line break at the end, and in SQLite, whose
  reserved words lack it, the word false.
-/
def IsMisread
    (d : Dialect)
    (name : String) : Prop :=
  isPlainName name.toList = true ∧
    (name.toList.getLast? = some '\n' ∨
      d = .sqlite ∧ name.toList.map Char.toLower = "false".toList)

instance
    (d : Dialect)
    (name : String) : Decidable (d.IsMisread name) :=
  inferInstanceAs (Decidable (_ ∧ (_ ∨ _ ∧ _)))

/- A name with characters, none of them NUL, and not too many. -/
theorem checkName_eq_ok
    (d : Dialect)
    {name : String}
    (hSome : name ≠ "")
    (hNul : '\x00' ∉ name.toList)
    (hLength : ∀ limit ∈ d.maxNameLength?, name.toList.length ≤ limit) :
    d.checkName name = .ok () := by
  have hContent : name.toList.isEmpty = false := by
    rw [List.isEmpty_eq_false_iff]
    exact fun hEmpty => hSome (String.toList_injective hEmpty)
  rw [checkName, hContent, if_neg Bool.false_ne_true,
    if_neg fun hFound => hNul (List.contains_iff_mem.mp hFound)]
  cases hLimit : d.maxNameLength? with
  | none => rfl
  | some limit =>
      exact if_neg (Nat.not_lt.mpr (hLength limit hLimit))

/- No reserved word ends with a line break. -/
theorem getLast?_of_reserved
    (d : Dialect) :
    ∀ word ∈ d.reserved, word.toList.getLast? ≠ some '\n' := by
  have hAll : ∀ d ∈ all, ∀ word ∈ d.reserved,
      word.toList.getLast? ≠ some '\n' := by
    decide +kernel
  exact hAll d (by cases d <;> decide)

/-
  The keywords that a column can begin with are reserved, but
  for one of them in SQLite.
-/
theorem mem_reserved_of_keyword
    (d : Dialect) :
    ∀ entry ∈ Token.keywords, entry.2 ∈ Token.columnKeywords →
      (entry.1 ∈ d.reserved ↔ ¬ (d = .sqlite ∧ entry.1 = "false")) := by
  have hAll : ∀ d ∈ all, ∀ entry ∈ Token.keywords,
      entry.2 ∈ Token.columnKeywords →
        (entry.1 ∈ d.reserved ↔ ¬ (d = .sqlite ∧ entry.1 = "false")) := by
    decide +kernel
  exact hAll d (by cases d <;> decide)

/- A name is written bare if it is plain and not reserved. -/
theorem needsQuotes_eq_false_iff
    (d : Dialect)
    (name : String) :
    d.needsQuotes name = false ↔
      isPlainName name.toList = true ∧
        String.ofList (name.toList.map Char.toLower) ∉ d.reserved := by
  simp [needsQuotes]

/- Names that are misread are not quoted. -/
theorem needsQuotes_of_misread
    {d : Dialect}
    {name : String}
    (hMisread : d.IsMisread name) :
    d.needsQuotes name = false := by
  rw [needsQuotes_eq_false_iff]
  rcases hMisread with ⟨hPlain, hBreak | ⟨rfl, hFalse⟩⟩
  · refine ⟨hPlain, fun hReserved => ?_⟩
    apply d.getLast?_of_reserved _ hReserved
    rw [String.toList_ofList, List.getLast?_map, hBreak]
    rfl
  · refine ⟨hPlain, ?_⟩
    rw [hFalse]
    decide +kernel

/-
  A bare name is a column where it is read as a name, unless a
  line break at its end is lost.
-/
theorem bare_reads_back_iff
    {d : Dialect}
    {name : String}
    (hBare : d.needsQuotes name = false) :
    parse ("SELECT " ++ name) =
        .ok (.select (Query.ofColumn (.column name none none))) ↔
      ¬ d.IsMisread name := by
  rw [needsQuotes_eq_false_iff] at hBare
  rcases plainName_cases hBare.1 with
    ⟨c, cs, gap, hName, hStart, hPlain, hGap⟩
  have hWord : (c :: cs).all Text.isWord = true := by
    rw [List.all_eq_true] at hPlain ⊢
    intro c hMember
    rw [Text.isWord, hPlain c hMember, Bool.true_or]
  have hEnd : gap = [] ∨ gap = ['\n'] := hGap.imp And.left And.left
  have hText :
      parse ("SELECT " ++ name) =
        parseChars ("SELECT".toList ++ ' ' :: (c :: cs ++ gap)) := by
    rw [parse, String.toList_append, hName]
    rfl
  rw [hText]
  by_cases hKind : Token.kindOfColumn (c :: cs) = .name
  · rw [parseChars_column hStart hWord hEnd hKind]
    rcases hGap with ⟨rfl, hBreak⟩ | ⟨rfl, hBreak⟩
    · rw [List.append_nil] at hName
      rw [← hName, String.ofList_toList]
      refine iff_of_true rfl ?_
      rintro ⟨_, hLast | ⟨_, hFalse⟩⟩
      · exact hBreak hLast
      · rw [hName] at hFalse
        rw [Token.kindOfColumn_false hPlain hFalse] at hKind
        cases hKind
    · refine iff_of_false (fun hSame => ?_)
        (not_not_intro ⟨hBare.1, .inl hBreak⟩)
      have hColumn :=
        Query.eq_of_ofColumn (Node.select.inj (Except.ok.inj hSame))
      have hLetters := congrArg String.toList (Node.column.inj hColumn).1
      rw [String.toList_ofList, hName, List.self_eq_append_right] at hLetters
      cases hLetters
  · refine iff_of_false (not_parsed_as_column hStart hWord hEnd hKind name) ?_
    rw [not_not]
    refine ⟨hBare.1, ?_⟩
    rcases hGap with ⟨rfl, _⟩ | ⟨_, hBreak⟩
    · right
      rcases (Token.kindOfColumn_cases (c :: cs)).resolve_left hKind with
        ⟨hMember, hKeyword⟩
      have hEntry := Token.mem_keywords hKeyword
      have hReserved := hBare.2
      rw [List.append_nil] at hName
      rw [map_foldLetter_of_plain hPlain, ← hName] at hEntry
      rw [← hName] at hMember
      rw [d.mem_reserved_of_keyword _ hEntry hMember, not_not] at hReserved
      refine ⟨hReserved.1, ?_⟩
      rw [← hReserved.2, String.toList_ofList]
    · exact .inl hBreak

end Dialect

/-
  Every name that has a written form is read back as one column
  of that name, in quotes always and bare unless it is misread.
-/
theorem identifier_reads_back_iff
    (d : Dialect)
    (name : String)
    (hStar : name ≠ "*")
    (hSome : name ≠ "")
    (hNul : '\x00' ∉ name.toList)
    (hLength : ∀ limit ∈ d.maxNameLength?, name.toList.length ≤ limit) :
    ∃ text, d.identifier name = .ok text ∧
      (parse ("SELECT " ++ text) =
          .ok (.select (Query.ofColumn (.column name none none))) ↔
        ¬ d.IsMisread name) := by
  have hCheck := d.checkName_eq_ok hSome hNul hLength
  rw [Dialect.identifier, if_neg hStar, hCheck]
  refine ⟨_, rfl, ?_⟩
  cases hBare : d.needsQuotes name with
  | false => exact Dialect.bare_reads_back_iff hBare
  | true =>
      have hContent : name.toList ≠ [] :=
        fun hEmpty => hSome (String.toList_injective hEmpty)
      have hQuote : d.nameQuote ∈ Token.nameQuotes := by cases d <;> decide
      refine iff_of_true ?_ fun hMisread => ?_
      · have hParse :=
          parseChars_of_denotes (denotes_quotedName hQuote hContent)
        rw [String.ofList_toList] at hParse
        rw [if_pos rfl, parse, String.toList_append, Dialect.quotedName,
          String.toList_ofList (l := Text.quoted d.nameQuote name.toList)]
        exact hParse
      · rw [Dialect.needsQuotes_of_misread hMisread] at hBare
        cases hBare

/- A reserved word of a dialect, in capitals. -/
theorem identifier_reads_back_iff_of_reserved :
    ("TABLE" ≠ "*" ∧ "TABLE" ≠ "" ∧ '\x00' ∉ "TABLE".toList ∧
      ∀ limit ∈ Dialect.mysql.maxNameLength?,
        "TABLE".toList.length ≤ limit) ∧
      ∃ text, Dialect.mysql.identifier "TABLE" = .ok text ∧
        (parse ("SELECT " ++ text) =
            .ok (.select (Query.ofColumn (.column "TABLE" none none))) ↔
          ¬ Dialect.mysql.IsMisread "TABLE") :=
  ⟨by decide, identifier_reads_back_iff .mysql "TABLE" (by decide)
    (by decide) (by decide) (by decide)⟩

/- Two names that are misread: as a literal, and as a shorter name. -/
theorem identifier_misread :
    Dialect.sqlite.identifier "false" = .ok "false" ∧
      parse "SELECT false" ≠
        .ok (.select (Query.ofColumn (.column "false" none none))) ∧
      Dialect.mysql.identifier "a\n" = .ok "a\n" ∧
        parse "SELECT a\n" ≠
          .ok (.select (Query.ofColumn (.column "a\n" none none))) := by
  have hMisread : ∀ (d : Dialect) (name : String),
      name ≠ "*" → d.checkName name = .ok () → d.IsMisread name →
        d.identifier name = .ok name ∧
          parse ("SELECT " ++ name) ≠
            .ok (.select (Query.ofColumn (.column name none none))) := by
    intro d name hStar hCheck hMisread
    have hBare := Dialect.needsQuotes_of_misread hMisread
    refine ⟨?_, fun hParse => ?_⟩
    · rw [Dialect.identifier, if_neg hStar, hCheck, hBare]
      rfl
    · exact (Dialect.bare_reads_back_iff hBare).mp hParse hMisread
  rcases hMisread .sqlite "false" (by decide) rfl (by decide) with
    ⟨hLiteral, hColumn⟩
  rcases hMisread .mysql "a\n" (by decide) rfl (by decide) with
    ⟨hBroken, hShorter⟩
  exact ⟨hLiteral, hColumn, hBroken, hShorter⟩

end SqlTemplate
