import SqlTemplate.Proofs.Inlining.Fragments
import SqlTemplate.Proofs.Rendering.Limits
import SqlTemplate.Rendering.Pruned

/-
  A placeholder is a single token, and the text of the value
  that is bound to it has the tokens of the value.  Numerals
  are written for limits in either case.

  Correctness is proven by:
    * `inlines_literals`
    * `constant_of_numerals`
    * `inlines_written`
-/

------------------------------------------------------------
-- Placeholders
------------------------------------------------------------

namespace SqlTemplate

variable {ctx : RenderContext} {d : Dialect} {b : Bindings}

theorem through_placeholder
    (cs : List Char)
    {rest : List Char}
    (hWord : rest.all Text.isWord = true) :
    (Dialect.Reading.placeholder cs).through d rest =
      some (.placeholder (cs ++ rest)) := by
  refine Dialect.through_run Dialect.Reading.placeholder ?_ cs hWord
  exact fun _ _ hNext => if_pos hNext

/- A placeholder is one token that every separator ends. -/
theorem lexemes_placeholder
    {name : String}
    (hName : IsBareName name) :
    d.IsComplete (placeholder name) ∧
      d.lexemes (placeholder name) = [.placeholder name.toList] := by
  rcases hName with ⟨c, rest, hChars, hStart, hWord⟩
  have hText : (placeholder name).toList = ':' :: c :: rest := by
    rw [placeholder, String.toList_append, hChars]
    rfl
  have hFirst : (Dialect.Reading.mark [':']).extended d c =
      some (.placeholder [c]) := by
    have hNotMinus : ¬ ([':'] = ['-'] ∧ c = '-') := by
      rintro ⟨hMinus, _⟩
      cases hMinus
    rw [Dialect.Reading.extended, if_neg hNotMinus, if_pos ⟨rfl, hStart⟩]
  have hRead := Dialect.of_through (through_placeholder (d := d) [c] hWord)
  have hNone : Dialect.Reading.between.extended d ':' = none := rfl
  have hMark : Dialect.Reading.starting ':' = .mark [':'] := by decide
  have hEnd : d.atEnd (placeholder name) = .placeholder (c :: rest) := by
    rw [Dialect.atEnd, hText, Dialect.Reading.after, Dialect.Reading.next,
      hNone, Option.getD_none, hMark, Dialect.Reading.after,
      Dialect.Reading.next, hFirst]
    exact hRead.1
  refine ⟨⟨append_ne_empty_left _ (by decide), ?_⟩, ?_⟩
  · intro c hSeparator
    have hWord : Text.isWord c = false := by
      simp only [Dialect.separators, List.mem_cons, List.not_mem_nil,
        or_false] at hSeparator
      rcases hSeparator with rfl | rfl | rfl | rfl <;> decide
    rw [hEnd, Dialect.Reading.extended, hWord]
    rfl
  · rw [Dialect.lexemes, hText, Dialect.lexemes_of_stopped _ hNone, hMark,
      Dialect.lexemes_of_extended _ hFirst, hRead.2, hChars]
    rfl

------------------------------------------------------------
-- Values
------------------------------------------------------------

/- Fragments with commas between them are read one by one. -/
theorem lexemes_commas
    {texts : List String}
    (hSome : texts ≠ [])
    (hTexts : ∀ s ∈ texts, d.IsConstant s) :
    d.IsConstant (", ".intercalate texts) ∧
      d.lexemes (", ".intercalate texts) =
        [Lexeme.mark [',']].intercalate (texts.map d.lexemes) := by
  induction texts with
  | nil => exact absurd rfl hSome
  | cons s texts ih =>
      have hFirst := hTexts s (List.mem_cons_self ..)
      cases texts with
      | nil =>
          rw [String.intercalate_singleton]
          rw [List.map_singleton, List.intercalate_singleton]
          exact ⟨hFirst, rfl⟩
      | cons t texts =>
          have hRest := ih (List.cons_ne_nil _ _) fun s hMember =>
            hTexts s (List.mem_cons_of_mem _ hMember)
          have hComma : d.lexemes ", " = [.mark [',']] := by
            cases d <;> decide
          have hJoins : d.Joins s ", " :=
            Dialect.joins_of_apart hFirst.toIsComplete
              (Dialect.glue_comma (d := d)).apart
          have hSealed : d.IsSealed (s ++ ", ") :=
            Dialect.glue_comma.isSealed.append (by decide) hJoins
          have hBoth :=
            Dialect.joins_of_sealed (", ".intercalate (t :: texts)) hSealed
          rw [String.intercalate_cons_cons]
          refine ⟨(hFirst.append Dialect.glue_comma.toIsConstant
            hJoins).append hRest.1 hBoth, ?_⟩
          rw [Dialect.lexemes_append hBoth, Dialect.lexemes_append hJoins,
            hRest.2, hComma, List.map_cons (l := t :: texts),
            List.intercalate_cons_of_ne_nil (by simp), List.append_assoc]

/- The literals of values are fragments, with the values' tokens. -/
theorem lexemes_of_literals
    {items : List Value}
    {texts : List String}
    (hTexts :
      List.Forall₂ (fun v s => ctx.literal v = .ok s) items texts) :
    (∀ s ∈ texts, ctx.dialect.IsConstant s) ∧
      texts.map ctx.dialect.lexemes =
        items.map ctx.dialect.literalLexemes := by
  induction hTexts with
  | nil => exact ⟨nofun, rfl⟩
  | @cons v s items texts hFirst _ ih =>
      have hLiteral := mapError_eq_ok.mp hFirst
      have hTokens :
          ctx.dialect.literalLexemes v = ctx.dialect.lexemes s := by
        rw [Dialect.literalLexemes, hLiteral]
      refine ⟨?_, ?_⟩
      · intro t hMember
        rcases List.mem_cons.mp hMember with rfl | hRest
        · exact Dialect.constant_of_literal v hLiteral
        · exact ih.1 t hRest
      · rw [List.map_cons, List.map_cons, ih.2, hTokens]

/- The text of a value has the tokens of the value. -/
theorem lexemes_of_value
    {v : Value}
    {s : String}
    (hFills : v.isEmptyCollection = false)
    (hLiterals : ctx.literals v = .ok s) :
    ctx.dialect.IsConstant s ∧
      ctx.dialect.lexemes s = ctx.dialect.valueLexemes v := by
  unfold RenderContext.literals at hLiterals
  unfold Dialect.valueLexemes
  cases hItems : v.items? with
  | some items =>
      rw [hItems] at hLiterals
      rcases map_eq_ok.mp hLiterals with ⟨texts, hTexts, rfl⟩
      have hForall := forall₂_of_mapM hTexts
      have hTokens := lexemes_of_literals hForall
      have hSome : texts ≠ [] := by
        rintro rfl
        cases hForall
        exact Value.ne_nil_of_items? hItems hFills rfl
      have hCommas := lexemes_commas hSome hTokens.1
      rw [hTokens.2] at hCommas
      exact hCommas
  | none =>
      rw [hItems] at hLiterals
      have hLiteral := mapError_eq_ok.mp hLiterals
      have hTokens :
          ctx.dialect.literalLexemes v = ctx.dialect.lexemes s := by
        rw [Dialect.literalLexemes, hLiteral]
      exact ⟨Dialect.constant_of_literal v hLiteral, hTokens.symm⟩

/- The text of a bound value is inlined where its placeholder is. -/
theorem inlines_literals
    {name s : String}
    {v : Value}
    (hName : IsBareName name)
    (hValue : ctx.bindings.value? name = some v)
    (hFills : v.isEmptyCollection = false)
    (hLiterals : ctx.literals v = .ok s) :
    Inlines ctx.dialect ctx.bindings s (placeholder name) := by
  have hTokens := lexemes_of_value hFills hLiterals
  have hPlaceholder := lexemes_placeholder (d := ctx.dialect) hName
  have hBound : ctx.bindings name = v := by
    unfold Bindings.value? at hValue
    split at hValue
    · cases hValue
    · exact Option.some.inj hValue
  refine ⟨hTokens.1.toIsComplete, hPlaceholder.1, ?_, ?_⟩
  · rw [hTokens.2, hPlaceholder.2, List.flatMap_singleton, Lexeme.bound,
      String.ofList_toList, hBound]
  · intro lexeme hMember
    exact Dialect.not_comment (hTokens.1.lasting lexeme hMember)

------------------------------------------------------------
-- Numerals
------------------------------------------------------------

theorem constant_of_digits
    {s : String}
    (hDigits : IsDigits s.toList) :
    d.IsConstant s := by
  have hConstant := Dialect.constant_of_tame (d := d) hDigits.1
    (Dialect.tamed_of_plain fun c hMember =>
      Dialect.plain_of_isDigit (hDigits.2 c hMember)).1
  rw [String.ofList_toList] at hConstant
  exact hConstant

/- The numerals of a value that fills its place are constant. -/
theorem constant_of_numerals
    {name : String}
    {v : Value}
    {s : String}
    (hFills : v.isEmptyCollection = false)
    (hNumerals : RenderContext.numerals name v = .ok s) :
    d.IsConstant s := by
  rcases runs_of_numerals hNumerals with ⟨runs, hSome, hDigits, rfl⟩
  exact (lexemes_commas (hSome hFills)
    fun run hRun => constant_of_digits (hDigits run hRun)).1

------------------------------------------------------------
-- Lines
------------------------------------------------------------

theorem constant_preceded
    {s : String}
    (word : String)
    (hCheck :
      (d.isConstantText word && d.atEnd word == .between) = true)
    (hText : d.IsConstant s) :
    d.IsConstant (word ++ s) := by
  rw [Bool.and_eq_true, beq_iff_eq] at hCheck
  exact (Dialect.constant_of_check hCheck.1).append hText
    (Dialect.joins_of_sealed s (Dialect.sealed_of_between hCheck.2))

theorem constant_glued
    {s g t : String}
    (hFirst : d.IsConstant s)
    (hGlue : d.IsGlue g)
    (hSecond : d.IsConstant t) :
    d.IsConstant (s ++ g ++ t) := by
  have hJoins := Dialect.joins_of_apart hFirst.toIsComplete hGlue.apart
  apply (hFirst.append hGlue.toIsConstant hJoins).append hSecond
  exact Dialect.joins_of_sealed t
    (hGlue.isSealed.append hGlue.present hJoins)

/- The line of a constant limit and offset is constant. -/
theorem constant_limitLine
    {limit : String}
    {offset : Option String}
    (hLimit : d.IsConstant limit)
    (hOffset : ∀ s ∈ offset, d.IsConstant s) :
    d.IsConstant (d.limitLine limit offset) := by
  have hWord : (d.isConstantText "LIMIT " &&
      d.atEnd "LIMIT " == .between) = true := by
    cases d <;> decide
  have hGlue : d.IsGlue " OFFSET " :=
    Dialect.glue_of_check (by cases d <;> decide) (by cases d <;> decide)
  have hAlone := constant_preceded "LIMIT " hWord hLimit
  cases offset with
  | none => cases d <;> exact hAlone
  | some s =>
      have hRows := hOffset s rfl
      have hFirst := constant_preceded "LIMIT " hWord hRows
      cases d with
      | mysql => exact constant_glued hFirst Dialect.glue_comma hLimit
      | sqlite => exact constant_glued hFirst Dialect.glue_comma hLimit
      | postgresql => exact constant_glued hAlone hGlue hRows
      | duckdb => exact constant_glued hAlone hGlue hRows

/- The clauses that are there are inlined one by one. -/
theorem inlines_clauses
    {clauses clauses' : List (String × Option String)}
    (hClauses :
      List.Forall₂
        (fun clause clause' =>
          clause.1 = clause'.1 ∧ d.IsConstant clause.1 ∧
            Option.Rel (Inlines d b) clause.2 clause'.2)
        clauses clauses') :
    List.Forall₂ (Inlines d b)
      (clauses.filterMap fun clause =>
        clause.2.map fun s => clause.1 ++ " " ++ s)
      (clauses'.filterMap fun clause =>
        clause.2.map fun s => clause.1 ++ " " ++ s) := by
  induction hClauses with
  | nil => exact .nil
  | @cons clause clause' clauses clauses' hFirst _ ih =>
      rcases clause with ⟨word, text⟩
      rcases clause' with ⟨word', text'⟩
      rcases hFirst with ⟨hSame, hWord, hRel⟩
      cases hSame
      cases hRel with
      | none => exact ih
      | some hText =>
          exact .cons ((Inlines.of_constant b hWord).spaced hText) ih

/- The slots of a query have related texts, its limit apart. -/
structure QueryTexts.Inlines
    (d : Dialect)
    (b : Bindings)
    (texts texts' : QueryTexts) : Prop where
  columns : Option.Rel (SqlTemplate.Inlines d b) texts.columns texts'.columns
  source : Option.Rel (SqlTemplate.Inlines d b) texts.source texts'.source
  filter : Option.Rel (SqlTemplate.Inlines d b) texts.filter texts'.filter
  groups : Option.Rel (SqlTemplate.Inlines d b) texts.groups texts'.groups
  having : Option.Rel (SqlTemplate.Inlines d b) texts.having texts'.having
  order : Option.Rel (SqlTemplate.Inlines d b) texts.order texts'.order

/- The text of a query is inlined if the texts of its slots are. -/
theorem inlines_written
    {query : Query Node}
    {texts texts' : QueryTexts}
    {line : Option String}
    (indent : Int)
    (hOptions : query.options = [])
    (hTexts : texts.Inlines d b texts')
    (hLine : ∀ s ∈ line, d.IsConstant s) :
    Inlines d b (query.written indent texts line)
      (query.written indent texts' line) := by
  have hWord : ∀ word ∈ ["SELECT", "DISTINCT", "FROM", "WHERE", "GROUP BY",
      "HAVING", "ORDER BY"], d.IsConstant word := by
    simp only [List.forall_mem_cons, List.not_mem_nil, false_imp_iff,
      implies_true, and_true]
    refine ⟨?_, ?_, ?_, ?_, ?_, ?_, ?_⟩ <;>
      exact Dialect.constant_of_check (by cases d <;> decide)
  have hHead :
      List.Forall₂ (Inlines d b)
        ("SELECT" :: if query.distinct then ["DISTINCT"] else [])
        ("SELECT" :: if query.distinct then ["DISTINCT"] else []) := by
    refine .cons (.of_constant b (hWord _ (by simp))) ?_
    split
    · exact .cons (.of_constant b (hWord _ (by simp))) .nil
    · exact .nil
  have hColumns :
      List.Forall₂ (Inlines d b) texts.columns.toList
        texts'.columns.toList := by
    have hRel := hTexts.columns
    generalize texts.columns = text at hRel
    generalize texts'.columns = text' at hRel
    cases hRel with
    | none => exact .nil
    | some hText => exact .cons hText .nil
  have hLast : List.Forall₂ (Inlines d b) line.toList line.toList := by
    cases line with
    | none => exact .nil
    | some s => exact .cons (.of_constant b (hLine s rfl)) .nil
  unfold Query.written layLines queryLines
  rw [hOptions]
  apply Inlines.intercalate (Dialect.glue_lines indent)
  · apply List.rel_append (List.rel_append _ _) hLast
    · exact .cons (.intercalate Dialect.glue_space
        (List.rel_append hHead hColumns) (List.cons_ne_nil _ _)) .nil
    · apply inlines_clauses
      refine .cons ⟨rfl, hWord _ (by simp), hTexts.source⟩ ?_
      refine .cons ⟨rfl, hWord _ (by simp), hTexts.filter⟩ ?_
      refine .cons ⟨rfl, hWord _ (by simp), hTexts.groups⟩ ?_
      refine .cons ⟨rfl, hWord _ (by simp), hTexts.having⟩ ?_
      exact .cons ⟨rfl, hWord _ (by simp), hTexts.order⟩ .nil
  · exact List.cons_ne_nil _ _

end SqlTemplate
