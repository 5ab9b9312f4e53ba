import SqlTemplate.Proofs.Inlining.Readings

/-
  Literals and names are fragments without placeholders:
  whatever its characters, a value ends its literal where the
  literal ends, and no comment starts in it.

  Key definitions include:
    * `Dialect.IsTamed`
    * `Dialect.IsName`

  Correctness is proven by:
    * `constant_textLiteral`
    * `constant_of_literal`
    * `name_of_identifier`
-/

------------------------------------------------------------
-- String Literals
------------------------------------------------------------

namespace SqlTemplate

namespace Dialect

variable {d : Dialect}

/- A string literal is one token, whatever its content. -/
theorem constant_textLiteral
    (content : List Char) :
    d.IsConstant (String.ofList (d.textLiteral content)) := by
  unfold textLiteral escapeText
  split
  next hEscapes =>
    have hEscape : d.escapesIn '\'' = true := by
      rw [escapesIn, hEscapes]
      rfl
    exact (constant_of_through (by decide)
      (through_escaped ['\''] content hEscape (by decide))).1
  next hEscapes =>
    have hEscape : d.escapesIn '\'' = false := by
      rw [escapesIn, eq_false_of_ne_true hEscapes]
      rfl
    exact (constant_quoted content (by decide) hEscape).1

------------------------------------------------------------
-- Numbers
------------------------------------------------------------

/- A text of plain characters and signs that starts with no minus. -/
def IsTamed (cs : List Char) : Prop :=
  isTame cs = true ∧ cs.head? ≠ some '-'

theorem tamed_nil : IsTamed [] :=
  ⟨rfl, nofun⟩

theorem tamed_cons
    {c : Char}
    {cs : List Char}
    (hPlain : isPlainChar c = true)
    (hTame : isTame cs = true) :
    IsTamed (c :: cs) := by
  refine ⟨?_, ?_⟩
  · rw [isTame, hPlain, hTame]
    rfl
  · intro hMinus
    cases hMinus
    cases hPlain

theorem tamed_append
    {cs ds : List Char}
    (hPlain : ∀ c ∈ cs, isPlainChar c = true)
    (hTamed : IsTamed ds) :
    IsTamed (cs ++ ds) := by
  induction cs with
  | nil => exact hTamed
  | cons c cs ih =>
      apply tamed_cons (hPlain c (List.mem_cons_self ..))
      exact (ih fun c hMember => hPlain c (List.mem_cons_of_mem _ hMember)).1

theorem tamed_of_plain
    {cs : List Char}
    (hPlain : ∀ c ∈ cs, isPlainChar c = true) :
    IsTamed cs := by
  rw [← List.append_nil cs]
  exact tamed_append hPlain tamed_nil

theorem plain_of_all
    {cs : List Char}
    (hAll : cs.all isPlainChar = true) :
    ∀ c ∈ cs, isPlainChar c = true :=
  List.all_eq_true.mp hAll

theorem tame_minus
    {cs : List Char}
    (hTamed : IsTamed cs) :
    isTame ('-' :: cs) = true := by
  rw [isTame, hTamed.1, bne_iff_ne.mpr hTamed.2]
  rfl

theorem tame_signed
    {cs : List Char}
    (negative : Bool)
    (hTamed : IsTamed cs) :
    isTame (Decimal.signChars negative ++ cs) = true := by
  cases negative with
  | false => exact hTamed.1
  | true => exact tame_minus hTamed

theorem plain_of_isDigit
    {c : Char}
    (hDigit : c.isDigit = true) :
    isPlainChar c = true := by
  rw [isPlainChar, Char.isAlphanum, hDigit, Bool.or_true]
  rfl

theorem plain_decimal
    (n : Nat) :
    ∀ c ∈ Digits.decimal n, isPlainChar c = true := by
  intro c hMember
  exact plain_of_isDigit ((digits_decimal n).2 c hMember)

theorem plain_zeros
    (n : Nat) :
    ∀ c ∈ List.replicate n '0', isPlainChar c = true := by
  intro c hMember
  rw [(List.mem_replicate.mp hMember).2]
  decide

theorem plain_placePoint
    {ds : List Char}
    (point : Int)
    (hDigits : ∀ c ∈ ds, isPlainChar c = true) :
    ∀ c ∈ Decimal.placePoint ds point, isPlainChar c = true := by
  intro c hMember
  unfold Decimal.placePoint at hMember
  split at hMember
  · simp only [List.mem_cons, List.mem_append] at hMember
    rcases hMember with rfl | rfl | hZero | hDigit
    · decide
    · decide
    · exact plain_zeros _ c hZero
    · exact hDigits c hDigit
  · split at hMember
    · rcases List.mem_append.mp hMember with hDigit | hZero
      · exact hDigits c hDigit
      · exact plain_zeros _ c hZero
    · rcases List.mem_append.mp hMember with hDigit | hRest
      · exact hDigits c (List.mem_of_mem_take hDigit)
      · rcases List.mem_cons.mp hRest with rfl | hDigit
        · decide
        · exact hDigits c (List.mem_of_mem_drop hDigit)

theorem plain_fixed
    (width n : Nat) :
    ∀ c ∈ Digits.fixed width n, isPlainChar c = true := by
  intro c hMember
  rcases List.mem_append.mp hMember with hZero | hDigit
  · exact plain_zeros _ c hZero
  · exact plain_decimal n c hDigit

/- The exponent of a number follows a letter and has a sign. -/
theorem tamed_exponent
    {c : Char}
    {ds : List Char}
    (negative : Bool)
    (hPlain : isPlainChar c = true)
    (hDigits : ∀ c ∈ ds, isPlainChar c = true) :
    IsTamed (c :: (if negative then '-' else '+') :: ds) := by
  apply tamed_cons hPlain
  cases negative with
  | false => exact (tamed_cons (by decide) (tamed_of_plain hDigits).1).1
  | true => exact tame_minus (tamed_of_plain hDigits)

theorem tame_textInt
    (n : Int) :
    isTame (Digits.decimalInt n) = true := by
  cases n with
  | ofNat n => exact (tamed_of_plain (plain_decimal n)).1
  | negSucc n => exact tame_minus (tamed_of_plain (plain_decimal (n + 1)))

theorem tame_decimal
    (x : Decimal) :
    isTame x.toChars = true := by
  cases x with
  | finite negative coefficient exponent =>
      apply tame_signed
      unfold Decimal.finiteChars
      dsimp only
      split
      · exact tamed_of_plain (plain_placePoint _ (plain_decimal _))
      · apply tamed_append (plain_placePoint _ (plain_decimal _))
        split
        · exact tamed_nil
        · have hExponent := tamed_exponent
            (decide ((Digits.decimal coefficient).length + exponent - 1 < 0))
            (show isPlainChar 'E' = true by decide)
            (plain_decimal
              ((Digits.decimal coefficient).length + exponent - 1).natAbs)
          simpa [Decimal.exponentChars] using hExponent
  | infinite negative =>
      exact tame_signed negative (tamed_of_plain (plain_of_all (by decide)))
  | undefined negative signaling payload =>
      rw [Decimal.toChars, List.append_assoc, List.append_assoc]
      apply tame_signed
      apply tamed_append
      · cases signaling <;> exact plain_of_all (by decide)
      · apply tamed_append (plain_of_all (by decide))
        split
        · exact tamed_nil
        · exact tamed_of_plain (plain_decimal payload)

theorem tame_binary
    (x : Binary64) :
    isTame x.toChars = true := by
  cases x with
  | finite negative significand exponent =>
      apply tame_signed
      split
      · exact tamed_of_plain (plain_of_all (by decide))
      · unfold Binary64.decimalChars
        dsimp only
        split
        · split
          · apply tamed_append (plain_placePoint _ (plain_decimal _))
            exact tamed_of_plain (plain_of_all (by decide))
          · exact tamed_of_plain (plain_placePoint _ (plain_decimal _))
        · apply tamed_append (plain_placePoint _ (plain_decimal _))
          have hExponent := tamed_exponent
            (decide (((Digits.decimal
              (Binary64.shortest significand exponent).1).length +
                (Binary64.shortest significand exponent).2 - 1 : Int) < 0))
            (show isPlainChar 'e' = true by decide)
            (plain_fixed 2 ((Digits.decimal
              (Binary64.shortest significand exponent).1).length +
                (Binary64.shortest significand exponent).2 - 1 : Int).natAbs)
          simpa using hExponent
  | infinite negative =>
      exact tame_signed negative (tamed_of_plain (plain_of_all (by decide)))
  | undefined => exact (tamed_of_plain (plain_of_all (by decide))).1

------------------------------------------------------------
-- Binary Literals
------------------------------------------------------------

/- Hexadecimal digits end no quoted run. -/
theorem hex_ne_quote
    (b : UInt8) :
    ∀ c ∈ Digits.hexUpper 2 b.toNat, c ≠ '\'' ∧ c ≠ '\\' := by
  have hAll :
      ∀ n < 256, (Digits.hexUpper 2 n).all
        (fun c => c != '\'' && c != '\\') = true := by
    decide +kernel
  intro c hMember
  have hChar := List.all_eq_true.mp (hAll b.toNat b.toNat_lt) c hMember
  simpa using hChar

/- Without quotes and backslashes a content stays inside. -/
theorem through_content
    {q : Char}
    (cs : List Char)
    {content : List Char}
    (hContent :
      ∀ c ∈ content, c ≠ q ∧ (d.escapesIn q && c == '\\') = false) :
    (Reading.inside q cs).through d content =
      some (.inside q (cs ++ content)) := by
  induction content generalizing cs with
  | nil =>
      rw [List.append_nil]
      rfl
  | cons c content ih =>
      have hFirst := hContent c (List.mem_cons_self ..)
      rw [through_inside _ _ hFirst.1 hFirst.2,
        ih _ fun c hMember => hContent c (List.mem_cons_of_mem _ hMember),
        List.append_assoc]
      rfl

/- Hexadecimal digits in quotes are one token. -/
theorem constant_of_content
    {content : List Char}
    (hContent :
      ∀ c ∈ content, c ≠ '\'' ∧ (d.escapesIn '\'' && c == '\\') = false) :
    d.IsConstant (String.ofList ('\'' :: (content ++ ['\'']))) ∧
      ∃ cs, d.atEnd (String.ofList ('\'' :: (content ++ ['\'']))) =
        .closed '\'' cs :=
  constant_of_through (by decide) (through_content ['\''] hContent)

/- A word and a quoted run after it are two tokens. -/
theorem constant_prefixed
    {content : List Char}
    (hContent :
      ∀ c ∈ content, c ≠ '\'' ∧ (d.escapesIn '\'' && c == '\\') = false) :
    d.IsConstant
      (String.ofList ('X' :: '\'' :: (content ++ ['\'']))) := by
  have hSplit :
      String.ofList ('X' :: '\'' :: (content ++ ['\''])) =
        "X" ++ String.ofList ('\'' :: (content ++ ['\''])) :=
    @String.ofList_append ['X'] _
  rw [hSplit]
  apply IsConstant.append _ (constant_of_content hContent).1
  · intro c hHead
    rw [String.toList_ofList] at hHead
    cases hHead
    cases d <;> decide
  · exact constant_of_check (by cases d <;> decide)

/- Where no backslash escapes, one can stand before the digits. -/
theorem plain_escaped
    {content : List Char}
    (hEscape : d.escapesIn '\'' = false)
    (hContent : ∀ c ∈ content, c ≠ '\'' ∧ c ≠ '\\') :
    ∀ c ∈ '\\' :: 'x' :: content,
      c ≠ '\'' ∧ (d.escapesIn '\'' && c == '\\') = false := by
  intro c hMember
  rw [hEscape]
  refine ⟨?_, rfl⟩
  rcases List.mem_cons.mp hMember with rfl | hMember
  · decide
  · rcases List.mem_cons.mp hMember with rfl | hMember
    · decide
    · exact (hContent c hMember).1

theorem constant_bytesLiteral
    (bs : List UInt8) :
    d.IsConstant (String.ofList (d.bytesLiteral bs)) := by
  have hPairs :
      ∀ c ∈ (bs.map fun b => Digits.hexUpper 2 b.toNat).flatten,
        c ≠ '\'' ∧ c ≠ '\\' := by
    intro c hMember
    rcases List.mem_flatten.mp hMember with ⟨pair, hPair, hChar⟩
    rcases List.mem_map.mp hPair with ⟨b, _, rfl⟩
    exact hex_ne_quote b c hChar
  have hContent :
      ∀ c ∈ (bs.map fun b => Digits.hexUpper 2 b.toNat).flatten,
        c ≠ '\'' ∧ (d.escapesIn '\'' && c == '\\') = false := by
    intro c hMember
    rw [beq_eq_false_iff_ne.mpr (hPairs c hMember).2, Bool.and_false]
    exact ⟨(hPairs c hMember).1, rfl⟩
  cases d with
  | mysql => exact constant_prefixed hContent
  | sqlite => exact constant_prefixed hContent
  | postgresql =>
      exact (constant_of_content (plain_escaped rfl hPairs)).1
  | duckdb =>
      have hEscaped :
          ∀ c ∈ (bs.map fun b => Digits.hexUpper 2 b.toNat).flatMap
              fun pair => '\\' :: 'x' :: pair,
            c ≠ '\'' ∧
              (duckdb.escapesIn '\'' && c == '\\') = false := by
        intro c hMember
        rcases List.mem_flatMap.mp hMember with ⟨pair, hPair, hChar⟩
        refine plain_escaped rfl ?_ c hChar
        intro c hDigit
        exact hPairs c (List.mem_flatten.mpr ⟨pair, hPair, hDigit⟩)
      rcases constant_of_content hEscaped with ⟨hConstant, cs, hEnd⟩
      have hSplit :
          '\'' :: (((bs.map fun b => Digits.hexUpper 2 b.toNat).flatMap
              fun pair => '\\' :: 'x' :: pair) ++ "'::BLOB".toList) =
            '\'' :: (((bs.map fun b => Digits.hexUpper 2 b.toNat).flatMap
              fun pair => '\\' :: 'x' :: pair) ++ ['\'']) ++
                "::BLOB".toList := by
        rw [List.cons_append, List.append_assoc]
        rfl
      rw [bytesLiteral, hSplit, String.ofList_append, String.ofList_toList]
      apply hConstant.append (constant_of_check (by decide))
      intro c hHead
      rw [hEnd]
      cases hHead
      rfl

theorem decimalInt_ne_nil
    (n : Int) :
    Digits.decimalInt n ≠ [] := by
  cases n with
  | ofNat n => exact decimal_ne_nil n
  | negSucc n => exact List.cons_ne_nil _ _

theorem constant_literalText
    {content s : String}
    (hLiteral : Dialect.literal.literalText d content = .ok s) :
    d.IsConstant s := by
  unfold Dialect.literal.literalText at hLiteral
  split at hLiteral
  · cases hLiteral
  · cases hLiteral
    exact constant_textLiteral content.toList

/- The literal of a value is a fragment without placeholders. -/
theorem constant_of_literal :
    ∀ (v : Value) {s : String}, d.literal v = .ok s → d.IsConstant s
| .null, _, rfl => constant_of_check (by cases d <;> decide)
| .bool b, _, rfl => constant_of_check (by cases d <;> cases b <;> decide)
| .int n, _, rfl => constant_of_tame (decimalInt_ne_nil n) (tame_textInt n)
| .float x, _, hLiteral => by
    rw [Dialect.literal] at hLiteral
    split at hLiteral
    · cases hLiteral
      exact constant_of_tame (binary_toChars_ne_nil x) (tame_binary x)
    · cases hLiteral
| .decimal x, _, rfl =>
    constant_of_tame (decimal_toChars_ne_nil x) (tame_decimal x)
| .text _, _, hLiteral => constant_literalText hLiteral
| .bytes bs, _, rfl => constant_bytesLiteral bs
| .buffer bs, _, rfl => constant_bytesLiteral bs
| .date x, _, rfl => constant_textLiteral x.iso
| .time x, _, rfl => constant_textLiteral x.iso
| .moment x, _, rfl => constant_textLiteral x.iso
| .member _ _ v, _, hLiteral => constant_of_literal v hLiteral
| .intMember _ _ n, _, rfl =>
    constant_of_tame (decimalInt_ne_nil n) (tame_textInt n)
| .textMember _ _ _, _, hLiteral => constant_literalText hLiteral
| .collection .., _, hLiteral => by cases hLiteral
| .mapping _, _, hLiteral => by cases hLiteral
| .other .., _, hLiteral => by cases hLiteral
termination_by structural v => v

------------------------------------------------------------
-- Names
------------------------------------------------------------

/- The written form of a name: a fragment that a point also ends. -/
structure IsName
    (d : Dialect)
    (s : String) : Prop extends d.IsConstant s where
  point : (d.atEnd s).extended d '.' = none

/- A word goes on to its end. -/
theorem after_word
    (cs : List Char)
    {rest : List Char}
    (hWord : rest.all Text.isWord = true) :
    (Reading.word cs).through d rest = some (.word (cs ++ rest)) := by
  refine through_run Reading.word ?_ cs hWord
  exact fun _ _ hNext => if_pos hNext

theorem starting_word
    {c : Char}
    (hStart : Text.isNameStart c = true) :
    Reading.starting c = .word [c] := by
  have hAscii := ascii_of_isNameStart hStart
  revert hStart
  apply forall_ascii (c := c) _ hAscii
  decide

/- A bare name is a word, or several if a line break ends it. -/
theorem name_of_bare
    {name : String}
    {c : Char}
    {rest : List Char}
    (hName : name.toList = c :: rest)
    (hStart : Text.isNameStart c = true)
    (hWord : rest.all Text.isWord = true) :
    d.IsName name ∧ ∀ c, Text.isWord c = false →
      (d.atEnd name).extended d c = none := by
  have hRead := of_through (d := d) (after_word [c] hWord)
  have hNone : Reading.between.extended d c = none := rfl
  have hEnd : d.atEnd name = .word (c :: rest) := by
    rw [atEnd, hName, Reading.after, Reading.next, hNone]
    change (Reading.starting c).after d rest = _
    rw [starting_word hStart]
    exact hRead.1
  have hLexemes : d.lexemes name = [.word (c :: rest)] := by
    rw [lexemes, hName, lexemes_of_stopped _ hNone, starting_word hStart,
      hRead.2]
    rfl
  have hOther : ∀ c, Text.isWord c = false →
      (d.atEnd name).extended d c = none := by
    intro c hOther
    rw [hEnd, Reading.extended, hOther]
    rfl
  refine ⟨⟨⟨⟨?_, ?_⟩, ?_⟩, hOther '.' (by decide)⟩, hOther⟩
  · rintro rfl
    cases hName
  · rw [hEnd]
    exact settled_of_calm trivial
  · rw [hLexemes]
    intro lexeme hMember
    rw [List.mem_singleton.mp hMember]
    rfl

/- A plain name is a word; a line break at its end does no harm. -/
theorem name_of_plain
    {name : String}
    (hPlain : isPlainName name.toList = true) :
    d.IsName name := by
  unfold isPlainName at hPlain
  split at hPlain
  next => cases hPlain
  next c rest hChars =>
    rw [Bool.and_eq_true, List.all_eq_true] at hPlain
    have hWord : rest.all Text.isWord = true := by
      rw [List.all_eq_true]
      intro c hMember
      rw [Text.isWord, hPlain.2 c hMember]
      rfl
    unfold dropFinalBreak at hChars
    split at hChars
    next hLast =>
      have hSplit : name = String.ofList (c :: rest) ++ "\n" := by
        have hList := List.dropLast_append_getLast? '\n' hLast
        rw [hChars] at hList
        rw [← String.ofList_toList (s := name), ← hList,
          String.ofList_append]
      have hBare := name_of_bare (d := d)
        (String.toList_ofList (l := c :: rest)) hPlain.1 hWord
      have hJoins : d.Joins (String.ofList (c :: rest)) "\n" := by
        intro c hHead
        cases hHead
        exact hBare.2 '\n' (by decide)
      have hEnd := atEnd_append (by decide) hJoins
      rw [hSplit]
      refine ⟨hBare.1.toIsConstant.append
        (constant_of_check (by cases d <;> decide)) hJoins, ?_⟩
      rw [hEnd]
      rfl
    next => exact (name_of_bare hChars hPlain.1 hWord).1

/- The written form of a name ends where it ends. -/
theorem name_of_identifier
    {name s : String}
    (hName : d.identifier name = .ok s) :
    d.IsName s := by
  unfold identifier at hName
  split at hName
  next hStar =>
    cases hName
    subst hStar
    exact ⟨constant_of_check (by cases d <;> decide), by cases d <;> decide⟩
  next =>
    split at hName
    next => cases hName
    next =>
      cases hName
      split
      next =>
        have hQuote : d.nameQuote ∈ ['\'', '"', '\x60'] := by
          cases d <;> decide
        have hEscape : d.escapesIn d.nameQuote = false := by
          cases d <;> decide
        rcases constant_quoted name.toList hQuote hEscape with
          ⟨hConstant, cs, hEnd⟩
        refine ⟨hConstant, ?_⟩
        rw [quotedName, hEnd, Reading.extended, if_neg]
        cases d <;> decide
      next hPlain =>
        simp only [needsQuotes, Bool.or_eq_true, Bool.not_eq_true',
          not_or, Bool.not_eq_false] at hPlain
        exact name_of_plain hPlain.1

/- No mark goes on after a point or an opening bracket. -/
theorem extended_single
    {m : Char}
    (hMark : m ∈ ['.', '('])
    (c : Char) :
    (Reading.mark [m]).extended d c = none := by
  have hNotCompound : [m] ++ [c] ∉ compoundMarks := by
    simp only [List.mem_cons, List.not_mem_nil, or_false] at hMark
    rcases hMark with rfl | rfl <;> simp [compoundMarks]
  have hNotMinus : ¬ ([m] = ['-'] ∧ c = '-') := by
    rintro ⟨hMinus, _⟩
    cases hMinus
    exact absurd hMark (by decide)
  have hNotColon : ¬ ([m] = [':'] ∧ Text.isNameStart c = true) := by
    rintro ⟨hColon, _⟩
    cases hColon
    exact absurd hMark (by decide)
  rw [Reading.extended, if_neg hNotMinus, if_neg hNotColon,
    if_neg hNotCompound]

/- Names with points between them are read one by one. -/
theorem name_of_points
    {names : List String}
    (hSome : names ≠ [])
    (hNames : ∀ s ∈ names, d.IsName s) :
    d.IsName (".".intercalate names) := by
  induction names with
  | nil => exact absurd rfl hSome
  | cons s names ih =>
      have hFirst := hNames s (List.mem_cons_self ..)
      cases names with
      | nil =>
          rw [String.intercalate_singleton]
          exact hFirst
      | cons t names =>
          have hRest := ih (List.cons_ne_nil _ _) fun s hMember =>
            hNames s (List.mem_cons_of_mem _ hMember)
          have hPoint : d.IsConstant "." :=
            constant_of_check (by cases d <;> decide)
          have hSealed : d.IsSealed "." := extended_single (by decide)
          have hJoins : d.Joins s "." := by
            intro c hHead
            cases hHead
            exact hFirst.point
          have hPrefix := hFirst.toIsConstant.append hPoint hJoins
          have hBoth : d.Joins (s ++ ".") (".".intercalate (t :: names)) := by
            intro c _
            rw [atEnd_append (by decide) hJoins]
            exact hSealed c
          rw [String.intercalate_cons_cons]
          refine ⟨hPrefix.append hRest.toIsConstant hBoth, ?_⟩
          rw [atEnd_append hRest.present hBoth]
          exact hRest.point

end Dialect

end SqlTemplate
