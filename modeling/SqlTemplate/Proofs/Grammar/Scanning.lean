import SqlTemplate.Proofs.Grammar.Soundness
import SqlTemplate.Proofs.Text.Letters

/-
  The forms of tokens: what the characters of a token are, by
  the way in which it was found.

  Key definitions include:
    * `Token.Form`
  Correctness is proven by:
    * `Token.form_of_mem`
    * `Token.parameter_of_form`
    * `Token.direction_of_form`
-/

------------------------------------------------------------
-- Forms
------------------------------------------------------------

namespace SqlTemplate

namespace Token

/-
  The ways in which a text can begin with a token: a mark, a
  string, a quoted name, a parameter, a comparison, a number, a
  keyword or a bare name.
-/
inductive Form : List Char → Token → Prop where
| mark {c : Char} {rest : List Char} {kind : Terminal}
    (hMark : punctuation? c = some kind) :
    Form (c :: rest) ⟨kind, [c]⟩
| string {rest run : List Char}
    (hRun : quotedRun '\'' rest = some run) :
    Form ('\'' :: rest) ⟨.string, '\'' :: run⟩
| quoted {q : Char} {rest run : List Char}
    (hQuote : q = '\x60' ∨ q = '"')
    (hRun : quotedRun q rest = some run)
    (hContent : run.length ≠ 1) :
    Form (q :: rest) ⟨.name, q :: run⟩
| parameter {c : Char} {rest : List Char}
    (hStart : Text.isNameStart c = true) :
    Form (':' :: c :: rest)
      ⟨.parameter, ':' :: (c :: rest).takeWhile Text.isWord⟩
| comparison {cs run : List Char}
    (hRun : comparisonToken cs = [⟨.comparison, run⟩]) :
    Form cs ⟨.comparison, run⟩
| number {c : Char} {rest : List Char}
    (hDigit : Text.isDigit c = true) :
    Form (c :: rest) ⟨.number, numberRun (c :: rest)⟩
| keyword {cs : List Char} {kind : Terminal}
    (hWord : keyword? (cs.takeWhile Text.isWord) = some kind) :
    Form cs ⟨kind, cs.takeWhile Text.isWord⟩
| bare {c : Char} {cs rest : List Char}
    (hWord : cs.takeWhile Text.isWord = c :: rest)
    (hStart : Text.isNameStart c = true) :
    Form cs ⟨.name, c :: rest⟩

/- A text begins with at most one comparison. -/
theorem comparisonToken_cases (cs : List Char) :
    comparisonToken cs = [] ∨
      ∃ run, comparisonToken cs = [⟨.comparison, run⟩] := by
  unfold comparisonToken
  dsimp only
  split <;> first | exact .inl rfl | exact .inr ⟨_, rfl⟩

theorem form_of_mem_comparisonToken
    {cs : List Char}
    {t : Token}
    (hMember : t ∈ comparisonToken cs) :
    Form cs t := by
  rcases comparisonToken_cases cs with hNone | ⟨run, hRun⟩
  · rw [hNone] at hMember
    cases hMember
  · rw [hRun, List.mem_singleton] at hMember
    subst hMember
    exact .comparison hRun

theorem form_of_mem_wordCandidates
    {cs : List Char}
    {t : Token}
    (hMember : t ∈ wordCandidates (cs.takeWhile Text.isWord)) :
    Form cs t := by
  unfold wordCandidates at hMember
  rcases List.mem_append.mp hMember with hKeyword | hName
  · rw [Option.mem_toList, Option.map_eq_some_iff] at hKeyword
    rcases hKeyword with ⟨kind, hKind, rfl⟩
    exact .keyword hKind
  · split at hName
    next => cases hName
    next c rest hWord =>
      split at hName
      next hStart =>
        rw [List.mem_singleton] at hName
        subst hName
        rw [hWord]
        exact .bare hWord hStart
      next => cases hName

/- A candidate has one of the forms. -/
theorem form_of_mem
    {cs : List Char}
    {t : Token}
    (hMember : t ∈ candidates cs) :
    Form cs t := by
  unfold candidates at hMember
  split at hMember
  next => cases hMember
  next c cs =>
    split at hMember
    next kind hMark =>
      rw [List.mem_singleton] at hMember
      subst hMember
      exact .mark hMark
    next =>
      split at hMember
      next hQuote =>
        rw [beq_iff_eq] at hQuote
        subst hQuote
        rw [quotedString, Option.mem_toList,
          Option.map_eq_some_iff] at hMember
        rcases hMember with ⟨run, hRun, rfl⟩
        exact .string hRun
      split at hMember
      next hQuote =>
        unfold quotedName at hMember
        split at hMember
        next => cases hMember
        next run hRun =>
          split at hMember
          next => cases hMember
          next hContent =>
            rw [List.mem_singleton] at hMember
            subst hMember
            exact .quoted (by simpa using hQuote) hRun hContent
      split at hMember
      next hColon =>
        rw [beq_iff_eq] at hColon
        subst hColon
        unfold parameterToken at hMember
        split at hMember
        next d rest =>
          split at hMember
          next hStart =>
            rw [List.mem_singleton] at hMember
            subst hMember
            exact .parameter hStart
          next => cases hMember
        next => cases hMember
      split at hMember
      next => exact form_of_mem_comparisonToken hMember
      split at hMember
      next hDigit =>
        rw [List.mem_singleton] at hMember
        subst hMember
        exact .number hDigit
      next => exact form_of_mem_wordCandidates hMember

------------------------------------------------------------
-- Kinds and Forms
------------------------------------------------------------

/- The keyword of a word is one of the list. -/
theorem mem_keywords
    {word : List Char}
    {kind : Terminal}
    (hWord : keyword? word = some kind) :
    (String.ofList (word.map foldLetter), kind) ∈ keywords := by
  unfold keyword? at hWord
  rw [List.lookup_eq_some_iff] at hWord
  rcases hWord with ⟨before, after, hList, _⟩
  rw [hList]
  exact List.mem_append_right _ (List.mem_cons_self ..)

/- A mark is no token with a content of its own. -/
theorem punctuation?_ne
    {c : Char}
    {kind : Terminal}
    (hMark : punctuation? c = some kind) :
    kind ≠ .parameter ∧ kind ≠ .direction ∧ kind ≠ .name ∧
      kind ≠ .number ∧ kind ≠ .string := by
  unfold punctuation? at hMark
  split at hMark <;> cases hMark <;> decide

/- A keyword is no parameter, name or number. -/
theorem keyword?_ne
    {word : List Char}
    {kind : Terminal}
    (hKeyword : keyword? word = some kind) :
    kind ≠ .parameter ∧ kind ≠ .name ∧ kind ≠ .number := by
  have hKinds :
      ∀ entry ∈ keywords,
        entry.2 ≠ .parameter ∧ entry.2 ≠ .name ∧ entry.2 ≠ .number := by
    decide
  exact hKinds _ (mem_keywords hKeyword)

/- A parameter token is a colon and a word. -/
theorem parameter_of_form
    {cs : List Char}
    {t : Token}
    (hForm : Form cs t)
    (hKind : t.kind = .parameter) :
    ∃ c rest, t.text = ':' :: c :: rest ∧
      Text.isNameStart c = true ∧ rest.all Text.isWord = true := by
  cases hForm with
  | mark hMark =>
      exact absurd hKind (punctuation?_ne hMark).1
  | @parameter c rest hStart =>
      refine ⟨c, rest.takeWhile Text.isWord, ?_, hStart, ?_⟩
      · rw [List.takeWhile_cons_of_pos (isWord_of_isNameStart hStart)]
      · exact List.all_takeWhile
  | keyword hWord => exact absurd hKind (keyword?_ne hWord).1
  | _ => cases hKind

/- A direction is the word for ascending or descending order. -/
theorem direction_of_form
    {cs : List Char}
    {t : Token}
    (hForm : Form cs t)
    (hKind : t.kind = .direction) :
    Text.upper (String.ofList t.text) = "ASC" ∨
      Text.upper (String.ofList t.text) = "DESC" := by
  cases hForm with
  | mark hMark =>
      exact absurd hKind (punctuation?_ne hMark).2.1
  | keyword hWord =>
      subst hKind
      have hMember := mem_keywords hWord
      have hSpelling :
          String.ofList ((cs.takeWhile Text.isWord).map foldLetter) = "asc" ∨
            String.ofList ((cs.takeWhile Text.isWord).map foldLetter) =
              "desc" := by
        simpa [keywords] using hMember
      rcases hSpelling with hAscending | hDescending
      · have hWord := congrArg String.toList hAscending
        rw [String.toList_ofList] at hWord
        left
        rw [upper_of_fold _ (by rw [hWord]; simp), hWord]
        rfl
      · have hWord := congrArg String.toList hDescending
        rw [String.toList_ofList] at hWord
        right
        rw [upper_of_fold _ (by rw [hWord]; simp), hWord]
        rfl
  | _ => cases hKind

end Token

end SqlTemplate
