import SqlTemplate.Proofs.Inlining.Boundaries
import SqlTemplate.Proofs.Text.Letters

/-
  How words, numbers and quoted runs are read.  No quote, no
  comment and no placeholder is open at their ends.

  Key definitions include:
    * `Dialect.isPlainChar`
    * `Dialect.isTame`
    * `Dialect.Reading.IsCalm`
    * `Dialect.Reading.through`

  Correctness is proven by:
    * `calm_tame`
    * `constant_of_tame`
    * `constant_of_through`
-/

------------------------------------------------------------
-- Words and Numbers
------------------------------------------------------------

namespace SqlTemplate

namespace Dialect

/- The characters of words and numbers, apart from minus signs. -/
def isPlainChar (c : Char) : Bool :=
  c.isAlphanum || c == '_' || c == '.' || c == '+'

/- A text of words and numbers that starts no comment. -/
def isTame : List Char → Bool
| [] => true
| c :: cs =>
    (isPlainChar c || (c == '-' && cs.head? != some '-')) && isTame cs

/- A reading outside of quotes, comments and placeholders. -/
def Reading.IsCalm : Reading → Prop
| .between => True
| .word _ => True
| .number _ => True
| .closed q _ => q ∈ ['\'', '"', '\x60']
| .mark cs => cs ≠ [':']
| _ => False

variable {d : Dialect}

theorem ascii_of_isPlainChar
    {c : Char}
    (hPlain : isPlainChar c = true) :
    c.toNat < 128 := by
  simp only [isPlainChar, Bool.or_eq_true, beq_iff_eq] at hPlain
  rcases hPlain with ((hLetter | rfl) | rfl) | rfl
  · exact ascii_of_isAlphanum hLetter
  · decide
  · decide
  · decide

/- A plain character starts a word, a number or a mark of its own. -/
theorem starting_plain
    {c : Char}
    (hPlain : isPlainChar c = true) :
    Reading.starting c = .number [c] ∨ Reading.starting c = .word [c] ∨
      Reading.starting c = .mark [c] ∧ c ≠ ':' ∧ c ≠ '-' := by
  have hAscii := ascii_of_isPlainChar hPlain
  revert hPlain
  apply forall_ascii (c := c) _ hAscii
  decide

/- The characters that go on a mark, except in a placeholder. -/
def markEnds : List Char :=
  ['-', '=', '>', '|', ':']

/- A mark ends before a character that goes on no mark. -/
theorem extended_mark
    {cs : List Char}
    {c : Char}
    (hOther : c ∉ markEnds)
    (hName : cs = [':'] → Text.isNameStart c = false) :
    (Reading.mark cs).extended d c = none := by
  have hNotMinus : ¬ (cs = ['-'] ∧ c = '-') := by
    rintro ⟨_, rfl⟩
    exact hOther (by decide)
  have hNotName : ¬ (cs = [':'] ∧ Text.isNameStart c = true) := by
    rintro ⟨hColon, hStart⟩
    rw [hName hColon] at hStart
    cases hStart
  have hNotCompound : cs ++ [c] ∉ compoundMarks := by
    intro hMember
    have hEnd : (cs ++ [c]).getLast? = some c := by simp
    simp only [compoundMarks, List.mem_cons, List.not_mem_nil,
      or_false] at hMember
    rcases hMember with h | h | h | h | h | h | h <;>
      · rw [h] at hEnd
        cases hEnd
        exact hOther (by decide)
  rw [Reading.extended, if_neg hNotMinus, if_neg hNotName,
    if_neg hNotCompound]

theorem not_mem_markEnds
    {c : Char}
    (hPlain : isPlainChar c = true) :
    c ∉ markEnds := by
  have hAscii := ascii_of_isPlainChar hPlain
  revert hPlain
  apply forall_ascii (c := c) _ hAscii
  decide

theorem quote_ne_plain
    {q c : Char}
    (hQuote : q ∈ ['\'', '"', '\x60'])
    (hPlain : isPlainChar c = true) :
    c ≠ q := by
  rintro rfl
  revert hPlain
  simp only [List.mem_cons, List.not_mem_nil, or_false] at hQuote
  rcases hQuote with rfl | rfl | rfl <;> decide

/- A plain character leads from a calm reading to a calm one. -/
theorem calm_plain
    {r : Reading}
    {c : Char}
    (hCalm : r.IsCalm)
    (hPlain : isPlainChar c = true) :
    (r.next d c).IsCalm ∧ r.next d c ≠ .mark ['-'] := by
  have hStart :
      (Reading.starting c).IsCalm ∧ Reading.starting c ≠ .mark ['-'] := by
    rcases starting_plain hPlain with hNumber | hWord | ⟨hMark, hOther⟩
    · rw [hNumber]
      exact ⟨trivial, nofun⟩
    · rw [hWord]
      exact ⟨trivial, nofun⟩
    · rw [hMark]
      simpa [Reading.IsCalm] using hOther
  unfold Reading.next
  cases r with
  | between => exact hStart
  | word cs =>
      rw [Reading.extended]
      split
      · exact ⟨trivial, nofun⟩
      · exact hStart
  | number cs =>
      rw [Reading.extended]
      split
      · exact ⟨trivial, nofun⟩
      · exact hStart
  | closed q cs =>
      rw [Reading.extended, if_neg (quote_ne_plain hCalm hPlain)]
      exact hStart
  | mark cs =>
      rw [extended_mark (not_mem_markEnds hPlain)
        fun hColon => absurd hColon hCalm]
      exact hStart
  | _ => exact hCalm.elim

/- A minus sign that follows none leads to a calm reading. -/
theorem calm_minus
    {r : Reading}
    (hCalm : r.IsCalm)
    (hOther : r ≠ .mark ['-']) :
    (r.next d '-').IsCalm := by
  have hStart : (Reading.starting '-').IsCalm := by
    rw [show Reading.starting '-' = .mark ['-'] by decide]
    exact fun hColon => absurd hColon (by decide)
  unfold Reading.next
  cases r with
  | between => exact hStart
  | word cs =>
      rw [Reading.extended]
      split
      · trivial
      · exact hStart
  | number cs =>
      rw [Reading.extended]
      split
      · trivial
      · exact hStart
  | closed q cs =>
      have hQuote : '-' ≠ q := by
        rintro rfl
        simp [Reading.IsCalm] at hCalm
      rw [Reading.extended, if_neg hQuote]
      exact hStart
  | mark cs =>
      have hNotMinus : ¬ (cs = ['-'] ∧ '-' = '-') := by
        rintro ⟨rfl, _⟩
        exact hOther rfl
      have hNotCompound : cs ++ ['-'] ∉ compoundMarks := by
        intro hMember
        have hEnd : (cs ++ ['-']).getLast? = some '-' := by simp
        simp only [compoundMarks, List.mem_cons, List.not_mem_nil,
          or_false] at hMember
        rcases hMember with h | h | h | h | h | h | h <;>
          · rw [h] at hEnd
            cases hEnd
      rw [Reading.extended, if_neg hNotMinus,
        if_neg (by simp [Reading.IsCalm] at hCalm; simp [hCalm]),
        if_neg hNotCompound]
      exact hStart
  | _ => exact hCalm.elim

/- A calm reading ends before a character that goes on nothing. -/
theorem extended_of_calm
    {r : Reading}
    {c : Char}
    (hCalm : r.IsCalm)
    (hApart : c ∈ '(' :: separators) :
    r.extended d c = none := by
  have hChar :
      Text.isWord c = false ∧ (∀ cs, extendsNumber cs c = false) ∧
        c ∉ ['\'', '"', '\x60'] ∧ c ∉ markEnds ∧
          Text.isNameStart c = false := by
    simp only [separators, List.mem_cons, List.not_mem_nil,
      or_false] at hApart
    rcases hApart with rfl | rfl | rfl | rfl | rfl <;>
      exact ⟨by decide, fun cs => rfl, by decide, by decide, by decide⟩
  cases r with
  | between => rfl
  | word cs =>
      rw [Reading.extended, hChar.1]
      rfl
  | number cs =>
      rw [Reading.extended, hChar.2.1 cs]
      rfl
  | closed q cs =>
      have hQuote : c ≠ q := by
        rintro rfl
        exact hChar.2.2.1 hCalm
      rw [Reading.extended, if_neg hQuote]
  | mark cs => exact extended_mark hChar.2.2.2.1 fun _ => hChar.2.2.2.2
  | _ => exact hCalm.elim

theorem settled_of_calm
    {r : Reading}
    (hCalm : r.IsCalm) :
    r.IsSettled d :=
  fun _ hSeparator =>
    extended_of_calm hCalm (List.mem_cons_of_mem _ hSeparator)

theorem ended_of_calm
    {r : Reading}
    (hCalm : r.IsCalm) :
    ∀ lexeme ∈ r.ended d, lexeme.isLasting = true := by
  intro lexeme hMember
  cases r with
  | between => cases hMember
  | closed q cs =>
      rw [List.mem_singleton.mp hMember]
      unfold Reading.ended.quotedLexeme
      split <;> rfl
  | word | number | mark =>
      rw [List.mem_singleton.mp hMember]
      rfl
  | _ => exact hCalm.elim

/- A tame text is read without a comment or a placeholder. -/
theorem calm_tame
    {r : Reading}
    {cs : List Char}
    (hCalm : r.IsCalm)
    (hTame : isTame cs = true)
    (hMinus : r = .mark ['-'] → cs.head? ≠ some '-') :
    (r.after d cs).IsCalm ∧
      ∀ lexeme ∈ r.lexemes d cs, lexeme.isLasting = true := by
  induction cs generalizing r with
  | nil => exact ⟨hCalm, ended_of_calm hCalm⟩
  | cons c cs ih =>
      rw [isTame, Bool.and_eq_true, Bool.or_eq_true] at hTame
      have hNext :
          (r.next d c).IsCalm ∧
            (r.next d c = .mark ['-'] → cs.head? ≠ some '-') := by
        rcases hTame.1 with hPlain | hSign
        · have hStep := calm_plain (d := d) hCalm hPlain
          exact ⟨hStep.1, fun hMark => absurd hMark hStep.2⟩
        · simp only [Bool.and_eq_true, beq_iff_eq, bne_iff_ne, ne_eq]
            at hSign
          rcases hSign with ⟨rfl, hHead⟩
          refine ⟨calm_minus hCalm ?_, fun _ => hHead⟩
          intro hMark
          exact hMinus hMark rfl
      have hRest := ih hNext.1 hTame.2 hNext.2
      refine ⟨hRest.1, ?_⟩
      cases hExtended : r.extended d c with
      | none =>
          rw [Reading.next, hExtended] at hRest
          rw [lexemes_of_stopped cs hExtended]
          intro lexeme hMember
          rcases List.mem_append.mp hMember with hEnded | hOther
          · exact ended_of_calm hCalm lexeme hEnded
          · exact hRest.2 lexeme hOther
      | some next =>
          rw [Reading.next, hExtended] at hRest
          rw [lexemes_of_extended cs hExtended]
          exact hRest.2

/- Words and numbers are constant if no comment starts in them. -/
theorem constant_of_tame
    {cs : List Char}
    (hSome : cs ≠ [])
    (hTame : isTame cs = true) :
    d.IsConstant (String.ofList cs) := by
  have hCalm := calm_tame (d := d) (r := .between) trivial hTame nofun
  refine ⟨⟨ofList_ne_empty hSome, ?_⟩, ?_⟩
  · rw [atEnd, String.toList_ofList]
    exact settled_of_calm hCalm.1
  · rw [lexemes, String.toList_ofList]
    exact hCalm.2

------------------------------------------------------------
-- Quoted Runs
------------------------------------------------------------

/- A quote after which a backslash escapes the next character. -/
def escapesIn
    (d : Dialect)
    (q : Char) : Bool :=
  d.escapesBackslash && d.isStringQuote q

/- A text is read within a single token. -/
def Reading.through
    (d : Dialect)
    (r : Reading)
    (cs : List Char) : Option Reading :=
  cs.foldlM (Reading.extended d) r

theorem through_append
    {r : Reading}
    (cs ds : List Char) :
    r.through d (cs ++ ds) =
      (r.through d cs).bind fun r => r.through d ds := by
  unfold Reading.through
  rw [List.foldlM_append]
  rfl

/- Characters that each extend a token are read within it. -/
theorem through_run
    (token : List Char → Reading)
    {P : Char → Bool}
    (hNext : ∀ cs c, P c = true →
      (token cs).extended d c = some (token (cs ++ [c])))
    (cs : List Char)
    {ds : List Char}
    (hRun : ds.all P = true) :
    (token cs).through d ds = some (token (cs ++ ds)) := by
  induction ds generalizing cs with
  | nil =>
      rw [List.append_nil]
      rfl
  | cons c ds ih =>
      rw [List.all_cons, Bool.and_eq_true] at hRun
      rw [Reading.through, List.foldlM_cons, hNext cs c hRun.1]
      change (token (cs ++ [c])).through d ds = _
      rw [ih _ hRun.2, List.append_assoc]
      rfl

/- What is read within a token is part of that token. -/
theorem of_through
    {r r' : Reading}
    {cs : List Char}
    (hThrough : r.through d cs = some r') :
    r.after d cs = r' ∧ r.lexemes d cs = r'.ended d := by
  induction cs generalizing r with
  | nil =>
      cases hThrough
      exact ⟨rfl, rfl⟩
  | cons c cs ih =>
      rw [Reading.through, List.foldlM_cons] at hThrough
      rcases Option.bind_eq_some_iff.mp hThrough with ⟨next, hNext, hRest⟩
      rw [Reading.after, Reading.next, hNext, lexemes_of_extended cs hNext]
      exact ih hRest

theorem extended_inside
    {q c : Char}
    (cs : List Char)
    (hQuote : c ≠ q)
    (hEscape : (d.escapesIn q && c == '\\') = false) :
    (Reading.inside q cs).extended d c = some (.inside q (cs ++ [c])) := by
  have hPlain : ¬ (d.escapesBackslash && d.isStringQuote q &&
      c == '\\') = true := by
    rw [show (d.escapesBackslash && d.isStringQuote q) = d.escapesIn q
      from rfl, hEscape]
    exact Bool.false_ne_true
  rw [Reading.extended, if_neg hQuote, if_neg hPlain]

/- Two quotes in a row stay inside. -/
theorem through_quotes
    (q : Char)
    (cs ds : List Char) :
    (Reading.inside q cs).through d (q :: q :: ds) =
      (Reading.inside q (cs ++ [q, q])).through d ds := by
  have hFirst : (Reading.inside q cs).extended d q =
      some (.closed q (cs ++ [q])) := if_pos rfl
  have hSecond : (Reading.closed q (cs ++ [q])).extended d q =
      some (.inside q (cs ++ [q, q])) := by
    rw [Reading.extended, if_pos rfl, List.append_assoc]
    rfl
  unfold Reading.through
  rw [List.foldlM_cons, hFirst]
  exact congrArg (Option.bind · _) hSecond

theorem through_inside
    {q c : Char}
    (cs ds : List Char)
    (hQuote : c ≠ q)
    (hEscape : (d.escapesIn q && c == '\\') = false) :
    (Reading.inside q cs).through d (c :: ds) =
      (Reading.inside q (cs ++ [c])).through d ds := by
  unfold Reading.through
  rw [List.foldlM_cons, extended_inside cs hQuote hEscape]
  rfl

/- A backslash and the character after it stay inside. -/
theorem through_backslash
    {q : Char}
    (c : Char)
    (cs ds : List Char)
    (hEscape : d.escapesIn q = true)
    (hOther : '\\' ≠ q) :
    (Reading.inside q cs).through d ('\\' :: c :: ds) =
      (Reading.inside q (cs ++ ['\\', c])).through d ds := by
  have hFirst : (Reading.inside q cs).extended d '\\' =
      some (.escaped q (cs ++ ['\\'])) := by
    rw [Reading.extended, if_neg hOther, if_pos]
    rw [show (d.escapesBackslash && d.isStringQuote q) = d.escapesIn q
      from rfl, hEscape]
    rfl
  have hSecond : (Reading.escaped q (cs ++ ['\\'])).extended d c =
      some (.inside q (cs ++ ['\\', c])) := by
    rw [Reading.extended, List.append_assoc]
    rfl
  unfold Reading.through
  rw [List.foldlM_cons, hFirst]
  change List.foldlM (Reading.extended d) (.escaped q (cs ++ ['\\']))
    (c :: ds) = _
  rw [List.foldlM_cons, hSecond]
  rfl

/- Doubled quotes keep any content inside. -/
theorem through_double
    {q : Char}
    (cs content : List Char)
    (hEscape : d.escapesIn q = false) :
    (Reading.inside q cs).through d (Text.double q content) =
      some (.inside q (cs ++ Text.double q content)) := by
  induction content generalizing cs with
  | nil =>
      rw [Text.double, List.append_nil]
      rfl
  | cons c content ih =>
      rw [Text.double]
      split
      · rw [through_quotes, ih, List.append_assoc]
        rfl
      next hQuote =>
        rw [through_inside _ _ hQuote (by rw [hEscape]; rfl), ih,
          List.append_assoc]
        rfl

/- Where a backslash escapes, doubled backslashes do the same. -/
theorem through_escaped
    {q : Char}
    (cs content : List Char)
    (hEscape : d.escapesIn q = true)
    (hOther : '\\' ≠ q) :
    (Reading.inside q cs).through d
        (Text.double q (Text.double '\\' content)) =
      some (.inside q
        (cs ++ Text.double q (Text.double '\\' content))) := by
  induction content generalizing cs with
  | nil =>
      rw [Text.double, Text.double, List.append_nil]
      rfl
  | cons c content ih =>
      rw [Text.double]
      split
      · rw [Text.double, if_neg hOther, Text.double, if_neg hOther]
        rw [through_backslash _ _ _ hEscape hOther, ih, List.append_assoc]
        rfl
      next hSlash =>
        rw [Text.double]
        split
        · rw [through_quotes, ih, List.append_assoc]
          rfl
        next hQuote =>
          have hPlain : (d.escapesIn q && c == '\\') = false := by
            rw [beq_eq_false_iff_ne.mpr hSlash, Bool.and_false]
          rw [through_inside _ _ hQuote hPlain, ih, List.append_assoc]
          rfl

/- A text that leads to no end inside its quotes is one token. -/
theorem constant_of_through
    {q : Char}
    {content : List Char}
    (hQuote : q ∈ ['\'', '"', '\x60'])
    (hInside :
      (Reading.inside q [q]).through d content =
        some (.inside q (q :: content))) :
    d.IsConstant (String.ofList (q :: (content ++ [q]))) ∧
      ∃ cs, d.atEnd (String.ofList (q :: (content ++ [q]))) =
        .closed q cs := by
  have hStart : Reading.starting q = .inside q [q] := by
    simp only [List.mem_cons, List.not_mem_nil, or_false] at hQuote
    rcases hQuote with rfl | rfl | rfl <;> decide
  have hClosed :
      (Reading.inside q [q]).through d (content ++ [q]) =
        some (.closed q (q :: (content ++ [q]))) := by
    rw [through_append, hInside]
    have hLast : (Reading.inside q (q :: content)).extended d q =
        some (.closed q (q :: (content ++ [q]))) := if_pos rfl
    exact congrArg (Option.bind · _) hLast
  have hRead := of_through hClosed
  have hEnd :
      d.atEnd (String.ofList (q :: (content ++ [q]))) =
        .closed q (q :: (content ++ [q])) := by
    rw [atEnd, String.toList_ofList, Reading.after, Reading.next,
      Reading.extended, ← hRead.1, ← hStart]
    rfl
  have hCalm : (Reading.closed q (q :: (content ++ [q]))).IsCalm := hQuote
  refine ⟨⟨⟨ofList_ne_empty (List.cons_ne_nil _ _), ?_⟩, ?_⟩, _, hEnd⟩
  · rw [hEnd]
    exact settled_of_calm hCalm
  · have hLexemes :
        d.lexemes (String.ofList (q :: (content ++ [q]))) =
          (Reading.closed q (q :: (content ++ [q]))).ended d := by
      have hNone : Reading.between.extended d q = none := rfl
      rw [lexemes, String.toList_ofList, lexemes_of_stopped _ hNone,
        hStart, ← hRead.2]
      rfl
    rw [hLexemes]
    exact ended_of_calm hCalm

/- A quoted text is one token where no backslash escapes. -/
theorem constant_quoted
    {q : Char}
    (content : List Char)
    (hQuote : q ∈ ['\'', '"', '\x60'])
    (hEscape : d.escapesIn q = false) :
    d.IsConstant (String.ofList (Text.quoted q content)) ∧
      ∃ cs, d.atEnd (String.ofList (Text.quoted q content)) =
        .closed q cs :=
  constant_of_through hQuote (through_double [q] content hEscape)

end Dialect

end SqlTemplate
