import SqlTemplate.Grammar.Pattern
import SqlTemplate.Proofs.Grammar.Relaying
import SqlTemplate.Proofs.Roundtrip.Literals

/-
  Tokens in quotes.  The scanner takes from a text what the
  patterns of names and strings take, whether the quotes are
  closed or not, and in front of a text that does not go on with
  the quote this is the whole content.

  Key definitions include:
    * `Token.IsReadWhole`
  Correctness is proven by:
    * `Pattern.first?_closing`
    * `Pattern.quotedName_eq`
    * `Pattern.quotedString_eq`
    * `quoted_tokens_are_read_whole`
-/

------------------------------------------------------------
-- Quoted Contents
------------------------------------------------------------

namespace SqlTemplate

namespace Pattern

section

variable {q c : Char} {cs : List Char}

theorem matched_quote
    (q c : Char)
    (cs : List Char) :
    (quote q).matched (c :: cs) = if c = q then [[c]] else [] := by
  simp [quote, matched]

theorem matched_piece
    (q c : Char)
    (cs : List Char) :
    (piece q).matched (c :: cs) =
      if c = q then
        if cs.head? = some q then [[q, q]] else []
      else
        [[c]] := by
  by_cases hQuote : c = q
  · cases cs with
    | nil => simp [piece, quote, matched, hQuote]
    | cons d cs =>
        by_cases hSecond : d = q <;>
          simp [piece, quote, matched, hQuote, hSecond]
  · simp [piece, quote, matched, hQuote]

/- A content has one more piece, or it is over. -/
theorem matched_closing
    (q : Char)
    (cs : List Char) :
    (closing q).matched cs =
      ((piece q).matched cs).flatMap (fun text =>
        if (cs.drop text.length).length < cs.length then
          ((closing q).matched (cs.drop text.length)).map (text ++ ·)
        else
          []) ++ (quote q).matched cs :=
  matched_seq_star (piece q) (quote q) cs

theorem first?_closing_nil : (closing q).first? [] = none := by
  rw [first?, matched_closing]
  simp [piece, quote, matched]

/- A character that is no quote belongs to the content. -/
theorem first?_closing_other
    (hOther : c ≠ q) :
    (closing q).first? (c :: cs) = ((closing q).first? cs).map (c :: ·) := by
  rw [first?, matched_closing, matched_piece, if_neg hOther, matched_quote,
    if_neg hOther]
  simp [first?]

/-
  Two quotes belong to the content.  Only if nothing closes it
  after them, the first one does.
-/
theorem first?_closing_pair :
    (closing q).first? (q :: q :: cs) =
      (((closing q).first? cs).map (q :: q :: ·)).or (some [q]) := by
  have hLess :
      ((q :: q :: cs).drop [q, q].length).length <
        (q :: q :: cs).length := by
    simp only [List.length_drop, List.length_cons]
    omega
  rw [first?, matched_closing, matched_piece, if_pos rfl,
    if_pos List.head?_cons, List.flatMap_singleton, if_pos hLess,
    matched_quote, if_pos rfl, List.head?_append, List.head?_map]
  rfl

/- A quote that no other one follows ends the content. -/
theorem first?_closing_end
    (hRest : cs.head? ≠ some q) :
    (closing q).first? (q :: cs) = some [q] := by
  rw [first?, matched_closing, matched_piece, if_pos rfl, if_neg hRest,
    matched_quote, if_pos rfl]
  simp

/- The scanner closes a content where the pattern does. -/
theorem first?_closing
    (q : Char)
    (cs : List Char) :
    (closing q).first? cs = Token.quotedRun q cs := by
  fun_induction Token.quotedRun q cs with
  | case1 => exact first?_closing_nil
  | case2 =>
      have hRest : ([] : List Char).head? ≠ some q := by simp
      exact first?_closing_end hRest
  | case3 c hOther =>
      rw [first?_closing_other hOther, first?_closing_nil, Option.map_none]
  | case4 c d cs hOther ih => rw [first?_closing_other hOther, ih]
  | case5 c cs hFirst run hRun ih =>
      rw [not_not.mp hFirst, first?_closing_pair, ih, hRun, Option.map_some,
        Option.some_or]
  | case6 c cs hFirst hNone ih =>
      rw [not_not.mp hFirst, first?_closing_pair, ih, hNone,
        Option.map_none, Option.none_or]
  | case7 c d cs hFirst hSecond =>
      rw [not_not.mp hFirst]
      exact first?_closing_end fun hHead =>
        hSecond (Option.some.inj hHead)

------------------------------------------------------------
-- Names and Strings
------------------------------------------------------------

/- What closes a content is not empty. -/
theorem ne_nil_of_closing
    {run : List Char}
    (hRun : (closing q).first? cs = some run) :
    run ≠ [] := by
  rw [first?_closing] at hRun
  rcases Token.content_of_quotedRun hRun with ⟨content, rfl⟩
  exact List.append_ne_nil_of_right_ne_nil _ (List.cons_ne_nil _ _)

/- Before a closed content a piece is matched in one way. -/
theorem first?_seq_closing
    {p : Pattern}
    {text : List Char}
    (hText : p.matched cs = [text]) :
    (seq p (closing q)).first? cs =
      ((closing q).first? (cs.drop text.length)).map (text ++ ·) := by
  rw [first?, matched, hText, List.flatMap_singleton, List.head?_map, first?]

/- A content with a piece is closed by more than its quote. -/
theorem first?_piece_closing
    (q : Char)
    (cs : List Char) :
    (seq (piece q) (closing q)).first? cs =
      ((closing q).first? cs).filter fun run => run.length ≠ 1 := by
  cases cs with
  | nil =>
      rw [first?_closing_nil]
      simp [first?, matched, piece, quote]
  | cons c cs =>
      have hPiece := matched_piece q c cs
      by_cases hQuote : c = q
      · subst hQuote
        rw [if_pos rfl] at hPiece
        by_cases hSecond : cs.head? = some c
        · rw [if_pos hSecond] at hPiece
          rcases List.head?_eq_some_iff.mp hSecond with ⟨rest, rfl⟩
          rw [first?_seq_closing hPiece, first?_closing_pair]
          cases hRun : (closing c).first? rest <;>
            simp [hRun, Option.filter_some]
        · rw [if_neg hSecond] at hPiece
          rw [first?_closing_end hSecond, first?, matched, hPiece]
          simp [Option.filter_some]
      · rw [if_neg hQuote] at hPiece
        rw [first?_seq_closing hPiece, first?_closing_other hQuote]
        cases hRun : (closing q).first? cs with
        | none => simp [hRun]
        | some run => simp [hRun, Option.filter_some, ne_nil_of_closing hRun]

/- The scanner takes the quoted names that the pattern takes. -/
theorem quotedName_eq
    (q : Char)
    (cs : List Char) :
    Token.quotedName q cs =
      ((quotedName q).first? (q :: cs)).toList.map (Token.mk .name) := by
  have hFirst :
      (quotedName q).first? (q :: cs) =
        ((seq (piece q) (closing q)).first? cs).map (q :: ·) := by
    rw [quotedName, quote, first?, matched_seq_char,
      if_pos (beq_self_eq_true q), List.head?_map, ← quote, plus,
      matched_seq_seq, first?, closing]
  rw [Token.quotedName, ← first?_closing, hFirst, first?_piece_closing]
  cases (closing q).first? cs with
  | none => rfl
  | some run =>
      by_cases hLength : run.length = 1 <;>
        simp [hLength, Option.filter_some]

/- The same of strings. -/
theorem quotedString_eq
    (cs : List Char) :
    Token.quotedString cs =
      (string.first? ('\'' :: cs)).toList.map (Token.mk .string) := by
  rw [Token.quotedString, ← first?_closing, string, quote, first?, first?,
    matched_seq_char, if_pos (beq_self_eq_true '\''), List.head?_map]
  cases ((closing '\'').matched cs).head? <;> rfl

/- At a quote a name is a quoted name. -/
theorem first?_name
    (hQuote : q ∈ Token.nameQuotes)
    (cs : List Char) :
    name.first? (q :: cs) = (quotedName q).first? (q :: cs) := by
  have hStart : ∀ q ∈ Token.nameQuotes, Text.isNameStart q = false := by
    decide
  have hBare :
      (seq (.char Text.isNameStart) (.star (.char Text.isWord))).matched
        (q :: cs) = [] := by
    rw [matched_seq_char, hStart q hQuote]
    rfl
  have hOther : ∀ q', q' ≠ q → (quotedName q').matched (q :: cs) = [] := by
    intro q' hOther
    rw [quotedName, quote, matched_seq_char, beq_false_of_ne hOther.symm]
    rfl
  rw [first?, first?, name, matched_alt, matched_alt, hBare, List.nil_append]
  rcases Token.mem_nameQuotes.mp hQuote with rfl | rfl
  · rw [hOther '"' (by decide), List.append_nil]
  · rw [hOther '\x60' (by decide), List.nil_append]

end

end Pattern

------------------------------------------------------------
-- Quoted Tokens in Texts
------------------------------------------------------------

namespace Token

/- At a quote around names a text begins with a name or nothing. -/
theorem candidates_nameQuote
    {q : Char}
    (hQuote : q ∈ nameQuotes)
    (cs : List Char) :
    candidates (q :: cs) =
      (Pattern.name.first? (q :: cs)).toList.map (Token.mk .name) := by
  rw [Pattern.first?_name hQuote, ← Pattern.quotedName_eq]
  rcases mem_nameQuotes.mp hQuote with rfl | rfl <;>
    simp [candidates, punctuation?]

/- At a single quote it begins with a string or nothing. -/
theorem candidates_singleQuote
    (cs : List Char) :
    candidates ('\'' :: cs) =
      (Pattern.string.first? ('\'' :: cs)).toList.map
        (Token.mk .string) := by
  rw [← Pattern.quotedString_eq]
  simp [candidates, punctuation?]

/-
  A token is read before the rest of a text.  Its pattern takes
  just its characters, it is found wherever its kind is
  accepted, and behind layout it is the one token that is put on
  the stack before the rest is read.
-/
structure IsReadWhole
    (t : Token)
    (p : Pattern)
    (rest : List Char) : Prop where
  taken : p.first? (t.text ++ rest) = some t.text
  scanned :
    ∀ accepts : Terminal → Bool, accepts t.kind = true →
      scan accepts (t.text ++ rest) = some t
  followed :
    ∀ (fuel : Nat) (stack : List Frame) (last gap : List Char),
      LayoutRun gap →
        (Automaton.row (Frame.top stack)).accepts t.kind = true →
          Recognition.run (fuel + 1) stack last
              (gap ++ (t.text ++ rest)) =
            match Frame.shift t (Frame.settle (some t.kind) stack) with
            | none => .error (t.text ++ rest)
            | some above =>
                Recognition.run fuel above (t.text ++ rest) rest

/- A token that is found as its pattern says is read whole. -/
theorem IsReadWhole.of_opens
    {t : Token}
    {p : Pattern}
    {rest : List Char}
    (hOpens : t.Opens rest)
    (hPattern :
      candidates (t.text ++ rest) =
        (p.first? (t.text ++ rest)).toList.map (Token.mk t.kind)) :
    t.IsReadWhole p rest where
  taken := by
    have hFirst := hOpens.2
    rw [hPattern] at hFirst
    cases hText : p.first? (t.text ++ rest) with
    | none =>
        rw [hText] at hFirst
        cases hFirst
    | some text =>
        rw [hText] at hFirst
        have hToken : Token.mk t.kind text = t := Option.some.inj hFirst
        rw [← hToken]
  scanned := fun accepts hAccepts => scan_of_head? hOpens.2 hAccepts
  followed := fun fuel _ last _ hGap hAccepts =>
    Recognition.run_token fuel last hGap (hOpens.stands hAccepts)

/- A name in quotes is read before a text without the quote in front. -/
theorem isReadWhole_name
    {q : Char}
    {content rest : List Char}
    (hQuote : q ∈ nameQuotes)
    (hContent : content ≠ [])
    (hRest : rest.head? ≠ some q) :
    (Token.mk .name (Text.quoted q content)).IsReadWhole .name rest :=
  .of_opens (opens_quotedName hQuote hContent hRest)
    (candidates_nameQuote hQuote _)

/- The same of a string, which may be empty. -/
theorem isReadWhole_string
    {content rest : List Char}
    (hRest : rest.head? ≠ some '\'') :
    (Token.mk .string (Text.quoted '\'' content)).IsReadWhole
      .string rest :=
  .of_opens (opens_string hRest) (candidates_singleQuote _)

end Token

/-
  Every content in quotes is read as one token before every text
  that does not begin with the same quote, and this token denotes
  the content: a name if there is something in backticks or
  double quotes, a string if there is anything in single quotes.
-/
theorem quoted_tokens_are_read_whole :
    (∀ (n : String) (q : Char) (rest : List Char),
      n ≠ "" → q ∈ Token.nameQuotes → rest.head? ≠ some q →
        (Token.mk .name (Text.quoted q n.toList)).IsReadWhole .name rest ∧
          Token.nameOf (Text.quoted q n.toList) = n) ∧
      ∀ (s : String) (rest : List Char), rest.head? ≠ some '\'' →
        (Token.mk .string (Text.quoted '\'' s.toList)).IsReadWhole
            .string rest ∧
          Rule.string.meaning (Text.quoted '\'' s.toList) =
            Node.literal (.text s) := by
  constructor
  · intro n q rest hSome hQuote hRest
    have hContent : n.toList ≠ [] :=
      fun hEmpty => hSome (String.toList_injective hEmpty)
    refine ⟨Token.isReadWhole_name hQuote hContent hRest, ?_⟩
    rw [Token.nameOf_quoted hQuote, String.ofList_toList]
  · intro s rest hRest
    refine ⟨Token.isReadWhole_string hRest, ?_⟩
    exact congrArg (fun s => Node.literal (.text s)) (textOf_quoted s)

/- Runs of quotes at both ends of a name, and nothing but a quote in a string. -/
theorem quoted_tokens_are_read_whole_of_runs :
    ("\"\"a\"" ≠ "" ∧ '"' ∈ Token.nameQuotes ∧
      ".b".toList.head? ≠ some '"' ∧ "\" ''".toList.head? ≠ some '\'') ∧
      ((Token.mk .name "\"\"\"\"\"a\"\"\"".toList).IsReadWhole
          .name ".b".toList ∧
        Token.nameOf "\"\"\"\"\"a\"\"\"".toList = "\"\"a\"") ∧
        (Token.mk .string "''''".toList).IsReadWhole
            .string "\" ''".toList ∧
          Rule.string.meaning "''''".toList = Node.literal (.text "'") := by
  refine ⟨by decide, ?_, ?_⟩
  · exact quoted_tokens_are_read_whole.1 "\"\"a\"" '"' ".b".toList
      (by decide) (by decide) (by decide)
  · exact quoted_tokens_are_read_whole.2 "'" "\" ''".toList (by decide)

end SqlTemplate
