import SqlTemplate.Node.Legible
import SqlTemplate.Proofs.Grammar.Composition
import SqlTemplate.Proofs.Grammar.Correctness
import SqlTemplate.Proofs.Rendering.Presence

/-
  Literals in texts.  The literal of a value that the dialect
  keeps is an operand with that value: it can only be selected
  as what it is read as.  A number in scientific form is not
  kept, since a name and a sign follow its first digits.

  Key definitions include:
    * `Value.IsConstant`
    * `Value.IsUnsigned`
  Correctness is proven by:
    * `parseChars_of_denotes`
    * `Denotes.eq_of_selected`
    * `not_parsed_scientific`
    * `denotes_unsigned`
    * `denotes_constant`
-/

------------------------------------------------------------
-- Selected Operands
------------------------------------------------------------

namespace SqlTemplate

/- A query for one column has that column. -/
theorem Query.eq_of_ofColumn
    {n m : Node}
    (hQuery : Query.ofColumn n = Query.ofColumn m) :
    n = m := by
  have hColumns : Slot.ofList [n] = Slot.ofList [m] :=
    congrArg Query.columns hQuery
  cases hColumns
  rfl

/- A text that denotes a query is parsed to it. -/
theorem parseChars_of_denotes
    {e : Option NumeralError}
    {cs : List Char}
    {q : Query Node}
    (hQuery : Denotes e (.phrase .query) cs q) :
    parseChars cs =
      e.elim (.ok (.select q)) fun e => .error (.numeral e) := by
  have hStatement : Denotes e (.phrase .statement) cs q :=
    .of_rule .plain rfl (.last hQuery)
  rcases hStatement with ⟨d, hText, hMeaning, hNumerals⟩
  rw [parse_of_spells hText.spells, hNumerals, hMeaning]

namespace Denotes

variable {e : Option NumeralError} {cs : List Char} {n : Node}

/- An operand with a sign is an expression. -/
theorem expr_of_signed
    (hSigned : Denotes e (.phrase .signed) cs n) :
    Denotes e (.phrase .expr) cs n := by
  have hProduct : Denotes e (.phrase .product) cs n :=
    .of_rule .signedExpr rfl (.last hSigned)
  have hSum : Denotes e (.phrase .sum) cs n :=
    .of_rule .productExpr rfl (.last hProduct)
  have hBitAnd : Denotes e (.phrase .bitAnd) cs n :=
    .of_rule .sumExpr rfl (.last hSum)
  have hBitXor : Denotes e (.phrase .bitXor) cs n :=
    .of_rule .bitAndExpr rfl (.last hBitAnd)
  have hBitOr : Denotes e (.phrase .bitOr) cs n :=
    .of_rule .bitXorExpr rfl (.last hBitXor)
  have hPredicate : Denotes e (.phrase .predicate) cs n :=
    .of_rule .bitOrExpr rfl (.last hBitOr)
  have hNegation : Denotes e (.phrase .negation) cs n :=
    .of_rule .predicateExpr rfl (.last hPredicate)
  have hConjunction : Denotes e (.phrase .conjunction) cs n :=
    .of_rule .negationExpr rfl (.last hNegation)
  have hExclusive : Denotes e (.phrase .exclusive) cs n :=
    .of_rule .conjunctionExpr rfl (.last hConjunction)
  exact .of_rule .exclusiveExpr rfl (.last hExclusive)

/- An expression alone can be selected. -/
theorem selected
    (hExpr : Denotes e (.phrase .expr) cs n) :
    Denotes e (.phrase .query) ("SELECT".toList ++ ' ' :: cs)
      (Query.ofColumn n) := by
  have hColumn : Denotes e (.phrase .column) cs n :=
    .of_rule .plainColumn rfl (.last hExpr)
  have hColumns : Denotes e (.phrase .columns) cs [n] :=
    .of_rule .firstColumn rfl (.last hColumn)
  refine .of_rule .query rfl ?_
  refine .word (by decide) (.everyRow ?_)
  rw [← List.append_nil cs]
  refine .failing hColumns ?_ rfl
  refine .cons (.of_rule .noSource rfl .nil) ?_ rfl
  refine .cons (.of_rule .noFilter rfl .nil) ?_ rfl
  refine .cons (.of_rule .noGroups rfl .nil) ?_ rfl
  refine .cons (.of_rule .noHaving rfl .nil) ?_ rfl
  refine .cons (.of_rule .noOrder rfl .nil) ?_ rfl
  exact .last (.of_rule .noLimit rfl .nil)

/- An operand is selected as nothing but itself. -/
theorem eq_of_selected
    {m : Node}
    (hSigned : Denotes e (.phrase .signed) cs n)
    (hParse :
      parseChars ("SELECT".toList ++ ' ' :: cs) =
        .ok (.select (Query.ofColumn m))) :
    e = none ∧ n = m := by
  rw [parseChars_of_denotes hSigned.expr_of_signed.selected] at hParse
  cases e with
  | some e => cases hParse
  | none =>
      have hQuery := Node.select.inj (Except.ok.inj hParse)
      exact ⟨rfl, Query.eq_of_ofColumn hQuery⟩

end Denotes

------------------------------------------------------------
-- Number Tokens
------------------------------------------------------------

namespace Token

/- A number starts with a digit. -/
theorem digit_of_number
    {text : List Char}
    (hNumber : Spelling .number text) :
    ∃ c cs, text = c :: cs ∧ Text.isDigit c = true := by
  rcases hNumber.number_cases with
    ⟨c, cs, rfl, hDigits⟩ | ⟨c, cs, d, ds, rfl, hDigits, _⟩ <;>
  exact ⟨c, _, rfl, List.all_eq_true.mp hDigits c List.mem_cons_self⟩

/- A number is no keyword. -/
theorem keyword?_number
    {text : List Char}
    (hNumber : Spelling .number text) :
    keyword? text = none := by
  rcases digit_of_number hNumber with ⟨c, cs, rfl, hDigit⟩
  cases hKeyword : keyword? (c :: cs) with
  | none => rfl
  | some kind =>
      rw [isDigit_of_keyword hKeyword] at hDigit
      cases hDigit

/- No sign stands in front of a number. -/
theorem head?_number
    {text : List Char}
    (hNumber : Spelling .number text)
    (rest : List Char) :
    (text ++ rest).head? ≠ some '-' := by
  rcases digit_of_number hNumber with ⟨c, cs, rfl, hDigit⟩
  intro hHead
  cases hHead
  revert hDigit
  decide

/- A number is found before anything that is no part of it. -/
theorem opens_number
    {text rest : List Char}
    (hNumber : Spelling .number text)
    (hRest : ∀ d ∈ rest.head?, Text.isDigit d = false ∧ d ≠ '.') :
    Opens ⟨.number, text⟩ rest := by
  rcases hNumber.number_cases with
    ⟨c, cs, rfl, hDigits⟩ | ⟨c, cs, d, ds, rfl, hDigits, hDecimals⟩
  · exact opens_whole hDigits hRest
  · exact opens_fraction hDigits hDecimals fun d hHead => (hRest d hHead).1

end Token

------------------------------------------------------------
-- Digits
------------------------------------------------------------

theorem digit?_of_ascii
    {c : Char}
    (hDigit : c.isDigit = true) :
    Text.digit? c = some (c.toNat - '0'.toNat) := by
  have hAscii : c.toNat < 128 := by
    apply ascii_of_isAlphanum
    rw [Char.isAlphanum, hDigit, Bool.or_true]
  revert hDigit
  apply forall_ascii (c := c) _ hAscii
  decide

theorem isDigit_of_ascii
    {c : Char}
    (hDigit : c.isDigit = true) :
    Text.isDigit c = true := by
  rw [Text.isDigit, digit?_of_ascii hDigit, Option.isSome_some]

theorem isDigit_decimal
    (n : Nat) : (Digits.decimal n).all Text.isDigit = true := by
  rw [List.all_eq_true]
  intro c hMember
  exact isDigit_of_ascii ((digits_decimal n).2 c hMember)

theorem point_not_mem_decimal
    (n : Nat) : '.' ∉ Digits.decimal n := by
  intro hMember
  have hDigit := List.all_eq_true.mp (isDigit_decimal n) _ hMember
  revert hDigit
  decide

theorem isDigit_zeros
    (n : Nat) : (List.replicate n '0').all Text.isDigit = true := by
  rw [List.all_eq_true]
  intro c hMember
  rw [(List.mem_replicate.mp hMember).2]
  decide

theorem spelling_digits
    {ds : List Char}
    (hDigits : ds.all Text.isDigit = true)
    (hSome : ds ≠ []) :
    Token.Spelling .number ds := by
  cases ds with
  | nil => exact absurd rfl hSome
  | cons c ds => exact .whole hDigits

theorem spelling_decimal
    (n : Nat) : Token.Spelling .number (Digits.decimal n) :=
  spelling_digits (isDigit_decimal n) (decimal_ne_nil n)

/- Digits with a point between two of them are a number. -/
theorem spelling_pointed
    {ds ds' : List Char}
    (hDigits : ds.all Text.isDigit = true)
    (hSome : ds ≠ [])
    (hDecimals : ds'.all Text.isDigit = true)
    (hFraction : ds' ≠ []) :
    Token.Spelling .number (ds ++ '.' :: ds') := by
  cases ds with
  | nil => exact absurd rfl hSome
  | cons c ds =>
      cases ds' with
      | nil => exact absurd rfl hFraction
      | cons d ds' => exact .fraction hDigits hDecimals

/- Digits with a point put into them are a number. -/
theorem spelling_placePoint
    {ds : List Char}
    (point : Int)
    (hDigits : ds.all Text.isDigit = true)
    (hSome : ds ≠ []) :
    Token.Spelling .number (Decimal.placePoint ds point) := by
  unfold Decimal.placePoint
  split
  next =>
    have hZero : ['0'].all Text.isDigit = true := by decide
    apply spelling_pointed hZero (List.cons_ne_nil _ _)
    · rw [List.all_append, isDigit_zeros, hDigits]
      rfl
    · exact List.append_ne_nil_of_right_ne_nil _ hSome
  next hPoint =>
    split
    next =>
      apply spelling_digits
      · rw [List.all_append, isDigit_zeros, hDigits]
        rfl
      · exact List.append_ne_nil_of_left_ne_nil hSome _
    next hLength =>
      have hParts :
          (ds.take point.toNat ++ ds.drop point.toNat).all Text.isDigit =
            true := by
        rw [List.take_append_drop]
        exact hDigits
      rw [List.all_append, Bool.and_eq_true] at hParts
      apply spelling_pointed hParts.1 _ hParts.2
      · rw [ne_eq, List.drop_eq_nil_iff]
        exact hLength
      · rw [ne_eq, List.take_eq_nil_iff]
        rintro (hZero | hNil)
        · omega
        · exact hSome hNil

------------------------------------------------------------
-- Numbers in Scientific Form
------------------------------------------------------------

/- The signs in front of an exponent. -/
def exponentSigns : List Char :=
  ['+', '-']

/- A number in scientific form: digits, a letter, and an exponent. -/
def IsScientific (cs : List Char) : Prop :=
  ∃ digits sign exponent, cs = digits ++ 'E' :: sign :: exponent ∧
    Token.Spelling .number digits ∧ sign ∈ exponentSigns ∧
      Token.Spelling .number exponent

/- A decimal number is a number token or in scientific form. -/
theorem spelling_or_scientific
    (coefficient : Nat)
    (exponent : Int) :
    Token.Spelling .number (Decimal.finiteChars coefficient exponent) ∨
      IsScientific (Decimal.finiteChars coefficient exponent) := by
  have hDigits :
      ∀ point, Token.Spelling .number
        (Decimal.placePoint (Digits.decimal coefficient) point) :=
    fun point => spelling_placePoint point (isDigit_decimal _)
      (decimal_ne_nil _)
  unfold Decimal.finiteChars
  dsimp only
  split
  · exact .inl (hDigits _)
  · split
    · rw [List.append_nil]
      exact .inl (hDigits 1)
    · right
      refine ⟨_, _, _, rfl, hDigits 1, ?_, spelling_decimal _⟩
      split <;> decide

/- The tokens of a number in scientific form, from its letter on. -/
def exponentTokens
    (kind : Terminal)
    (sign : Char)
    (exponent : List Char) : List Token :=
  [⟨.name, ['E']⟩, ⟨kind, [sign]⟩, ⟨.number, exponent⟩]

/- A letter and an exponent with its sign are three tokens. -/
theorem spells_exponent
    {sign : Char}
    {exponent : List Char}
    {kind : Terminal}
    (hSign : sign ∈ exponentSigns)
    (hMark : Token.punctuation? sign = some kind)
    (hExponent : Token.Spelling .number exponent) :
    Spells ('E' :: sign :: exponent) (exponentTokens kind sign exponent) := by
  have hNumber : Spells exponent [⟨.number, exponent⟩] :=
    (Fragment.of_spelling (t := ⟨.number, exponent⟩) hExponent nofun).spells
  have hHead : exponent.head? ≠ some '-' := by
    have hFirst := Token.head?_number hExponent []
    rw [List.append_nil] at hFirst
    exact hFirst
  have hSigned := Spells.cons (Token.opens_mark hMark fun _ => hHead) hNumber
  have hLetter : Token.Opens ⟨.name, ['E']⟩ ([sign] ++ exponent) := by
    have hWord : ∀ sign ∈ exponentSigns, Text.isWord sign = false := by
      decide
    apply Token.opens_bareName (by decide) (by decide) (by decide)
    intro d hHead
    cases hHead
    exact hWord sign hSign
  exact .cons hLetter hSigned

/- A number in scientific form is four tokens, none a keyword. -/
theorem spells_scientific
    {cs : List Char}
    (hForm : IsScientific cs) :
    ∃ digits kind sign exponent, (kind = .plus ∨ kind = .minus) ∧
      Spells cs (⟨.number, digits⟩ :: exponentTokens kind sign exponent) ∧
        ∀ t ∈ (⟨.number, digits⟩ : Token) ::
          exponentTokens kind sign exponent, Token.keyword? t.text = none := by
  rcases hForm with
    ⟨digits, sign, exponent, rfl, hDigits, hSign, hExponent⟩
  have hMark :
      ∀ sign ∈ exponentSigns,
        ∃ kind ∈ [Terminal.plus, .minus],
          Token.punctuation? sign = some kind := by
    decide
  have hKeyword : ∀ sign ∈ exponentSigns, Token.keyword? [sign] = none := by
    decide
  rcases hMark sign hSign with ⟨kind, hKind, hMark⟩
  refine ⟨digits, kind, sign, exponent, by simpa using hKind, ?_, ?_⟩
  · refine .cons (Token.opens_number hDigits ?_)
      (spells_exponent hSign hMark hExponent)
    intro d hHead
    cases hHead
    exact ⟨by decide, by decide⟩
  · simp only [exponentTokens, List.forall_mem_cons]
    exact ⟨Token.keyword?_number hDigits, by decide, hKeyword sign hSign,
      Token.keyword?_number hExponent, List.forall_mem_nil _⟩

/- No minus sign stands in front of a number in scientific form. -/
theorem head?_scientific
    {cs : List Char}
    (hForm : IsScientific cs) :
    cs.head? ≠ some '-' := by
  rcases hForm with ⟨digits, sign, exponent, rfl, hDigits, _⟩
  exact Token.head?_number hDigits _

/- A statement starts with no name. -/
set_option maxRecDepth 10000 in
theorem recognize_name
    (text : List Char)
    (ts : List Token) :
    Recognition.recognize [] (⟨.name, text⟩ :: ts) = none := by
  with_unfolding_all rfl

/- No sign follows the alias of a number. -/
set_option maxRecDepth 10000 in
theorem recognize_scientific
    {kind : Terminal}
    (hKind : kind = .plus ∨ kind = .minus)
    (word digits name sign : List Char)
    (ts : List Token) :
    Recognition.recognize []
      (⟨.SELECT, word⟩ :: ⟨.number, digits⟩ :: ⟨.name, name⟩ ::
        ⟨kind, sign⟩ :: ts) = none := by
  rcases hKind with rfl | rfl <;> with_unfolding_all rfl

set_option maxRecDepth 10000 in
theorem recognize_negative_scientific
    {kind : Terminal}
    (hKind : kind = .plus ∨ kind = .minus)
    (word minus digits name sign : List Char)
    (ts : List Token) :
    Recognition.recognize []
      (⟨.SELECT, word⟩ :: ⟨.minus, minus⟩ :: ⟨.number, digits⟩ ::
        ⟨.name, name⟩ :: ⟨kind, sign⟩ :: ts) = none := by
  rcases hKind with rfl | rfl <;> with_unfolding_all rfl

/- The word at the start of a query is that keyword or a name. -/
theorem tokenizes_select
    {cs : List Char}
    {ts : List Token}
    (hTokens : Tokenizes ("SELECT".toList ++ ' ' :: cs) ts) :
    ∃ kind text ts', ts = ⟨kind, text⟩ :: ts' ∧
      (kind = .SELECT ∨ kind = .name) ∧ Tokenizes (' ' :: cs) ts' := by
  have hLayout :
      skipLayout ("SELECT".toList ++ ' ' :: cs) =
        "SELECT".toList ++ ' ' :: cs :=
    Token.skipLayout_cons (by decide) nofun
  have hWord :
      Token.candidates ("SELECT".toList ++ ' ' :: cs) =
        Token.wordCandidates "SELECT".toList := by
    have hTake :
        ("SELECT".toList ++ ' ' :: cs).takeWhile Text.isWord =
          "SELECT".toList :=
      takeWhile_append_of_head (by decide) fun d hHead => by
        cases hHead
        decide
    change Token.candidates ('S' :: _) = _
    rw [Token.candidates_of_not_sign _ (by decide)]
    exact congrArg Token.wordCandidates hTake
  cases hTokens with
  | done hEnd =>
      rw [hLayout] at hEnd
      cases hEnd
  | next hToken hRest =>
      rw [hLayout, hWord] at hToken
      rw [hLayout] at hRest
      have hChoices :
          ∀ t ∈ Token.wordCandidates "SELECT".toList,
            (t.kind = .SELECT ∨ t.kind = .name) ∧ t.text.length = 6 := by
        decide
      rcases hChoices _ hToken with ⟨hKind, hLength⟩
      rw [hLength] at hRest
      exact ⟨_, _, _, rfl, hKind, hRest⟩

/- A number in scientific form cannot be selected. -/
theorem not_parsed_scientific
    {cs : List Char}
    {tree : Node}
    (hForm : IsScientific cs)
    (negative : Bool) :
    parseChars ("SELECT".toList ++ ' ' :: (Decimal.signChars negative ++ cs)) ≠
      .ok tree := by
  intro hParse
  rcases exists_derivation_of_parse hParse with ⟨d, hDerive, _, _⟩
  have hFound := Recognition.recognize_tokens d
  rcases tokenizes_select (Recognition.tokenizes_of_derive hDerive) with
    ⟨kind, word, ts, hTokens, hKind, hRest⟩
  rw [hTokens] at hFound
  rcases hKind with rfl | rfl
  · rcases spells_scientific hForm with
      ⟨digits, kind, sign, exponent, hSign, hText, hKeywords⟩
    cases negative with
    | false =>
        cases (hText.blank rfl).eq_of_tokenizes hKeywords hRest
        rw [exponentTokens, recognize_scientific hSign] at hFound
        cases hFound
    | true =>
        have hMinus :
            Token.Opens ⟨.minus, ['-']⟩ cs :=
          Token.opens_mark rfl fun _ => head?_scientific hForm
        have hSigned := (Spells.cons hMinus hText).blank (c := ' ') rfl
        cases hSigned.eq_of_tokenizes
          (List.forall_mem_cons.mpr ⟨by decide, hKeywords⟩) hRest
        rw [exponentTokens, recognize_negative_scientific hSign] at hFound
        cases hFound
  · rw [recognize_name] at hFound
    cases hFound

------------------------------------------------------------
-- Constants
------------------------------------------------------------

/- The values of literals in statements, with or without a sign. -/
def Value.IsConstant : Value → Prop
| .null | .bool _ | .int _ | .text _ => True
| .decimal (.finite _ _ _) => True
| _ => False

/- The values of literals in statements that have no sign. -/
def Value.IsUnsigned : Value → Prop
| .int n => 0 ≤ n
| .decimal (.finite negative _ _) => negative = false
| .null | .bool _ | .text _ => True
| _ => False

/- A literal that is kept is selected as its value. -/
theorem parseChars_of_keeps
    {d : Dialect}
    {v : Value}
    {cs : List Char}
    (hKeeps : d.KeepsLiteral v)
    (hText : d.literal v = .ok (String.ofList cs)) :
    parseChars ("SELECT".toList ++ ' ' :: cs) =
      .ok (.select (Query.ofColumn (.literal v))) := by
  rcases hKeeps with ⟨text, hText', hParse⟩
  cases hText.symm.trans hText'
  rw [parse, String.toList_append,
    show (String.ofList cs).toList = cs from String.toList_ofList] at hParse
  exact hParse

namespace Denotes

variable {e : Option NumeralError} {cs : List Char} {n m : Node}

/- An operand that is selected as a node denotes it. -/
theorem kept_signed
    (hSigned : Denotes e (.phrase .signed) cs n)
    (hParse :
      parseChars ("SELECT".toList ++ ' ' :: cs) =
        .ok (.select (Query.ofColumn m))) :
    Denotes none (.phrase .signed) cs m := by
  rcases hSigned.eq_of_selected hParse with ⟨rfl, rfl⟩
  exact hSigned

theorem kept_atom
    (hAtom : Denotes e (.phrase .atom) cs n)
    (hParse :
      parseChars ("SELECT".toList ++ ' ' :: cs) =
        .ok (.select (Query.ofColumn m))) :
    Denotes none (.phrase .atom) cs m := by
  have hSigned : Denotes e (.phrase .signed) cs n :=
    .of_rule .atomExpr rfl (.last hAtom)
  rcases hSigned.eq_of_selected hParse with ⟨rfl, rfl⟩
  exact hAtom

/- A number after a minus sign that is selected as a node. -/
theorem kept_negative
    (hNumber : Token.Spelling .number cs)
    (hParse :
      parseChars ("SELECT".toList ++ ' ' :: '-' :: cs) =
        .ok (.select (Query.ofColumn m))) :
    Denotes none (.phrase .signed) ('-' :: cs) m := by
  have hSigned :
      Denotes (numberError? cs) (.phrase .signed) cs
        (Node.literal (Token.numberOf cs)) :=
    .of_rule .atomExpr rfl (.last (.number hNumber))
  have hHead := Token.head?_number hNumber []
  rw [List.append_nil] at hHead
  have hNegative :
      Denotes (numberError? cs) (.phrase .signed) ('-' :: cs)
        (Node.negative (.literal (Token.numberOf cs))) :=
    .of_rule .negate rfl (.minus hHead (.last hSigned))
  exact hNegative.kept_signed hParse

end Denotes

section

variable {d : Dialect} {v : Value} {text : String}

/- A decimal number that is kept is not in scientific form. -/
theorem spelling_of_keeps
    {negative : Bool}
    {coefficient : Nat}
    {exponent : Int}
    (hKeeps :
      d.KeepsLiteral (.decimal (.finite negative coefficient exponent))) :
    Token.Spelling .number (Decimal.finiteChars coefficient exponent) := by
  rcases spelling_or_scientific coefficient exponent with hNumber | hForm
  · exact hNumber
  · exact absurd (parseChars_of_keeps hKeeps rfl)
      (not_parsed_scientific hForm negative)

/- The content of a string token is what stands between its quotes. -/
theorem textOf_quoted
    (s : String) : Token.textOf (Text.quoted '\'' s.toList) = s := by
  rw [Text.quoted, Token.textOf, List.drop_one, List.tail_cons,
    List.dropLast_concat, Text.undouble_double, String.ofList_toList]

/- A text in quotes is an operand. -/
theorem denotes_quoted
    (cs : List Char) :
    Denotes none (.phrase .atom) (Text.quoted '\'' cs)
      (Node.literal (.text (Token.textOf (Text.quoted '\'' cs)))) :=
  .of_rule .string rfl (.only .string fun hName => by cases hName)

/- A constant without a sign that is kept is an operand. -/
theorem denotes_unsigned
    (hKeeps : d.KeepsLiteral v)
    (hUnsigned : v.IsUnsigned)
    (hText : d.literal v = .ok text) :
    Denotes none (.phrase .atom) text.toList (Node.literal v) := by
  cases v with
  | null =>
      cases hText
      exact .of_rule .nullValue rfl
        (.lastWord (by decide))
  | bool b =>
      have hNumber : ∀ digit ∈ ['0', '1'],
          Token.Spelling .number [digit] := by
        intro digit hDigit
        apply spelling_digits _ (List.cons_ne_nil _ _)
        revert digit
        decide
      have hTrue :
          Denotes none (.phrase .atom) "TRUE".toList
            (Node.literal (.bool true)) :=
        .of_rule .trueValue rfl
          (.lastWord (by decide))
      have hFalse :
          Denotes none (.phrase .atom) "FALSE".toList
            (Node.literal (.bool false)) :=
        .of_rule .falseValue rfl
          (.lastWord (by decide))
      cases hText
      cases d <;> cases b
      case sqlite.false =>
        exact (Denotes.number (hNumber '0' (by decide))).kept_atom
          (parseChars_of_keeps hKeeps rfl)
      case sqlite.true =>
        exact (Denotes.number (hNumber '1' (by decide))).kept_atom
          (parseChars_of_keeps hKeeps rfl)
      all_goals assumption
  | int n =>
      obtain ⟨k, rfl⟩ := Int.eq_ofNat_of_zero_le hUnsigned
      cases hText
      change Denotes none _ (String.ofList (Digits.decimal k)).toList _
      rw [String.toList_ofList]
      exact (Denotes.number (spelling_decimal k)).kept_atom
        (parseChars_of_keeps hKeeps rfl)
  | decimal x =>
      cases x with
      | finite negative coefficient exponent =>
          cases hUnsigned
          cases hText
          rw [String.toList_ofList]
          exact (Denotes.number (spelling_of_keeps hKeeps)).kept_atom
            (parseChars_of_keeps hKeeps rfl)
      | _ => cases hUnsigned
  | text s =>
      rw [Dialect.literal, Dialect.literal.literalText] at hText
      split at hText
      next => cases hText
      next hNul =>
        cases hText
        rw [String.toList_ofList]
        apply (denotes_quoted _).kept_atom (parseChars_of_keeps hKeeps _)
        rw [Dialect.literal, Dialect.literal.literalText, if_neg hNul,
          Dialect.textLiteral]
  | _ => cases hUnsigned

/- A constant that is kept is an operand, with a sign if it has one. -/
theorem denotes_constant
    (hKeeps : d.KeepsLiteral v)
    (hConstant : v.IsConstant)
    (hText : d.literal v = .ok text) :
    Denotes none (.phrase .signed) text.toList (Node.literal v) := by
  by_cases hUnsigned : v.IsUnsigned
  · exact .of_rule .atomExpr rfl
      (.last (denotes_unsigned hKeeps hUnsigned hText))
  cases v with
  | int n =>
      cases n with
      | ofNat n => exact absurd (Int.natCast_nonneg n) hUnsigned
      | negSucc n =>
          cases hText
          change Denotes none _
            (String.ofList ('-' :: Digits.decimal (n + 1))).toList _
          rw [String.toList_ofList]
          exact .kept_negative (spelling_decimal (n + 1))
            (parseChars_of_keeps hKeeps rfl)
  | decimal x =>
      cases x with
      | finite negative coefficient exponent =>
          cases negative with
          | false => exact absurd rfl hUnsigned
          | true =>
              cases hText
              rw [String.toList_ofList]
              exact .kept_negative (spelling_of_keeps hKeeps)
                (parseChars_of_keeps hKeeps rfl)
      | _ => cases hConstant
  | null | bool _ | text _ => exact absurd trivial hUnsigned
  | _ => cases hConstant

end

------------------------------------------------------------
-- Literals that Are Kept
------------------------------------------------------------

/- An ASCII digit has the value of its place after the zero. -/
/- The digits of a number are read as that number. -/
theorem ofDigits_decimal
    (n : Nat) :
    Digits.ofDigits (Token.digitsOf (Digits.decimal n)) = n := by
  have hValues :
      ∀ (cs : List Char) (k : Nat), (∀ c ∈ cs, c.isDigit = true) →
        (Token.digitsOf cs).foldl (fun value d => 10 * value + d) k =
          Nat.ofDigitChars 10 cs k := by
    intro cs
    induction cs with
    | nil => exact fun _ _ => rfl
    | cons c cs ih =>
        intro k hDigits
        rw [List.forall_mem_cons] at hDigits
        rw [Token.digitsOf,
          List.filterMap_cons_some (digit?_of_ascii hDigits.1),
          List.foldl_cons, Nat.ofDigitChars_cons]
        exact ih _ hDigits.2
  rw [Digits.ofDigits, hValues _ 0 (digits_decimal n).2]
  exact Nat.ofDigitChars_ten_toDigits

theorem numberOf_decimal
    (n : Nat) : Token.numberOf (Digits.decimal n) = .int n := by
  have hWhole : ∀ c ∈ Digits.decimal n, (c != '.') = true := by
    intro c hMember
    rw [bne_iff_ne]
    rintro rfl
    exact point_not_mem_decimal n hMember
  rw [Token.numberOf, List.dropWhile_eq_nil_iff.mpr hWhole,
    List.takeWhile_eq_self_iff.mpr hWhole, ofDigits_decimal]

/- A literal is kept if it denotes its value. -/
theorem keepsLiteral_of_signed
    {d : Dialect}
    {v : Value}
    {cs : List Char}
    (hText : d.literal v = .ok (String.ofList cs))
    (hSigned : Denotes none (.phrase .signed) cs (Node.literal v)) :
    d.KeepsLiteral v := by
  refine ⟨String.ofList cs, hText, ?_⟩
  rw [parse, String.toList_append,
    show (String.ofList cs).toList = cs from String.toList_ofList]
  exact parseChars_of_denotes hSigned.expr_of_signed.selected

/- Whole numbers are kept unless they have too many digits. -/
theorem keepsLiteral_int
    (d : Dialect)
    {n : Int}
    (hDigits :
      (Digits.decimal n.natAbs).length ≤ NumeralError.maxDigits) :
    d.KeepsLiteral (.int n) := by
  have hNumber :
      Denotes none (.phrase .signed) (Digits.decimal n.natAbs)
        (Node.literal (.int n.natAbs)) := by
    have hAtom := Denotes.number (spelling_decimal n.natAbs)
    have hPoint : ¬ (Digits.decimal n.natAbs).contains '.' = true :=
      fun hFound =>
        point_not_mem_decimal _ (List.contains_iff_mem.mp hFound)
    rw [numberError?, if_neg hPoint, wholeError?,
      if_neg (Nat.not_lt.mpr hDigits), numberOf_decimal] at hAtom
    exact .of_rule .atomExpr rfl (.last hAtom)
  cases n with
  | ofNat k => exact keepsLiteral_of_signed rfl hNumber
  | negSucc k =>
      have hHead := Token.head?_number (spelling_decimal (k + 1)) []
      rw [List.append_nil] at hHead
      exact keepsLiteral_of_signed rfl
        (.of_rule .negate rfl (.minus hHead (.last hNumber)))

/- Texts are kept, backslashes only where they stand for themselves. -/
theorem keepsLiteral_text
    {d : Dialect}
    {s : String}
    (hNul : '\x00' ∉ s.toList)
    (hBackslash : d.escapeText s.toList = s.toList) :
    d.KeepsLiteral (.text s) := by
  have hLiteral :
      d.literal (.text s) =
        .ok (String.ofList (Text.quoted '\'' s.toList)) := by
    rw [Dialect.literal, Dialect.literal.literalText, Dialect.textLiteral,
      hBackslash, if_neg fun hFound => hNul (List.contains_iff_mem.mp hFound)]
  have hString := denotes_quoted s.toList
  rw [textOf_quoted] at hString
  exact keepsLiteral_of_signed hLiteral (.of_rule .atomExpr rfl (.last hString))

end SqlTemplate
