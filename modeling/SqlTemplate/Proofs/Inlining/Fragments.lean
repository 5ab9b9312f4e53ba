import SqlTemplate.Node.Shape
import SqlTemplate.Proofs.Inlining.Literals
import SqlTemplate.Proofs.Rendering.Inversion

/-
  The texts of fragments are inlined part by part: what is
  written around the parts is constant, and separators or marks
  of their own keep the tokens of neighbours apart.

  Correctness is proven by:
    * `Inlines.negated`
    * `Inlines.call`
    * `Inlines.tableText`
-/

------------------------------------------------------------
-- Glues
------------------------------------------------------------

namespace SqlTemplate

namespace Dialect

variable {d : Dialect}

theorem apart_of_check
    {s : String}
    (hCheck : separators.contains (s.toList.headD 'x') = true) :
    StartsApart s := by
  intro c hHead
  have hSame : s.toList.headD 'x' = c := by
    rw [List.headD_eq_head?_getD, hHead]
    rfl
  rw [← hSame]
  exact List.contains_iff_mem.mp hCheck

theorem glue_of_check
    {s : String}
    (hCheck :
      (d.isConstantText s && separators.contains (s.toList.headD 'x')) = true)
    (hBetween : d.atEnd s = .between) :
    d.IsGlue s := by
  rw [Bool.and_eq_true] at hCheck
  exact ⟨constant_of_check hCheck.1, apart_of_check hCheck.2,
    sealed_of_between hBetween⟩

theorem glue_space : d.IsGlue " " :=
  glue_of_check (by cases d <;> decide) (by cases d <;> decide)

theorem glue_comma : d.IsGlue ", " :=
  glue_of_check (by cases d <;> decide) (by cases d <;> decide)

theorem glue_connective
    (op : ConnectiveOp) :
    d.IsGlue (" " ++ op.symbol ++ " ") :=
  glue_of_check (by cases d <;> cases op <;> decide)
    (by cases d <;> cases op <;> decide)

/- A line break and blanks are between tokens. -/
theorem after_blanks
    (n : Nat) :
    Reading.between.after d (List.replicate n ' ') = .between ∧
      Reading.between.lexemes d (List.replicate n ' ') = [] := by
  induction n with
  | zero => exact ⟨rfl, rfl⟩
  | succ n ih => exact ih

theorem glue_lines
    (indent : Int) :
    d.IsGlue ("\n" ++ String.ofList (List.replicate indent.toNat ' ')) := by
  have hChars :
      ("\n" ++ String.ofList (List.replicate indent.toNat ' ')).toList =
        '\n' :: List.replicate indent.toNat ' ' := by
    rw [String.toList_append, String.toList_ofList (l := List.replicate _ _)]
    rfl
  have hBlanks := after_blanks (d := d) indent.toNat
  have hEnd :
      d.atEnd ("\n" ++ String.ofList (List.replicate indent.toNat ' ')) =
        .between := by
    rw [atEnd, hChars]
    exact hBlanks.1
  have hLexemes :
      d.lexemes ("\n" ++ String.ofList (List.replicate indent.toNat ' ')) =
        [] := by
    rw [lexemes, hChars]
    exact hBlanks.2
  refine ⟨⟨⟨append_ne_empty_left _ (by decide), ?_⟩, ?_⟩, ?_,
    sealed_of_between hEnd⟩
  · rw [hEnd]
    exact settled_of_calm trivial
  · rw [hLexemes]
    exact List.forall_mem_nil _
  · intro c hHead
    rw [hChars] at hHead
    cases hHead
    decide

theorem sealed_bracket : d.IsSealed "(" :=
  extended_single (by decide)

/- A minus sign ends before anything but a minus sign. -/
theorem joins_minus
    {s : String}
    (hHead : s.toList.head? ≠ some '-') :
    d.Joins "-" s := by
  intro c hFirst
  have hOther : c ≠ '-' := by
    rintro rfl
    exact hHead hFirst
  have hEnd : d.atEnd "-" = .mark ['-'] := by
    cases d <;> decide
  have hNotMinus : ¬ (['-'] = ['-'] ∧ c = '-') := fun hBoth =>
    hOther hBoth.2
  have hNotCompound : ['-'] ++ [c] ∉ compoundMarks := by
    simp [compoundMarks]
  rw [hEnd, Reading.extended, if_neg hNotMinus, if_neg (by simp),
    if_neg hNotCompound]

end Dialect

------------------------------------------------------------
-- Expressions
------------------------------------------------------------

namespace Inlines

variable {d : Dialect} {b : Bindings} {s s' t t' : String}

theorem enclose
    (brackets : Bool)
    (hInner : Inlines d b s s') :
    Inlines d b (SqlTemplate.enclose brackets s)
      (SqlTemplate.enclose brackets s') := by
  cases brackets with
  | false => exact hInner
  | true =>
      have hOpening : d.IsConstant "(" :=
        Dialect.constant_of_check (by cases d <;> decide)
      have hClosing : d.IsConstant ")" :=
        Dialect.constant_of_check (by cases d <;> decide)
      exact (preceded hOpening Dialect.sealed_bracket hInner).followed hClosing
        (Dialect.apart_of_check (by decide))

theorem spaced
    (hFirst : Inlines d b s s')
    (hSecond : Inlines d b t t') :
    Inlines d b (s ++ " " ++ t) (s' ++ " " ++ t') :=
  hFirst.glued Dialect.glue_space hSecond

theorem nullTest
    (hOperand : Inlines d b s s') :
    Inlines d b (SqlTemplate.nullTest s) (SqlTemplate.nullTest s') := by
  apply hOperand.followed
  · exact Dialect.constant_of_check (by cases d <;> decide)
  · exact Dialect.apart_of_check (by decide)

theorem constant_symbol
    (op : BinaryOp) :
    d.IsConstant op.symbol :=
  Dialect.constant_of_check (by cases d <;> cases op <;> decide)

theorem binaryText
    (op : BinaryOp)
    (hLeft : Inlines d b s s')
    (hRight : Inlines d b t t') :
    Inlines d b (SqlTemplate.binaryText op s t)
      (SqlTemplate.binaryText op s' t') :=
  (hLeft.spaced (of_constant b (constant_symbol op))).spaced hRight

/-
  A negated text is a minus sign and the operand.  The space
  between two minus signs is no token.
-/
theorem negated_lexemes
    (hOperand : d.IsComplete s) :
    d.IsComplete (SqlTemplate.negated s) ∧
      d.lexemes (SqlTemplate.negated s) =
        .mark ['-'] :: d.lexemes s := by
  unfold SqlTemplate.negated
  split
  next =>
    have hSealed : d.IsSealed "- " :=
      Dialect.sealed_of_between (by cases d <;> decide)
    have hJoins := Dialect.joins_of_sealed s hSealed
    refine ⟨hOperand.append hJoins, ?_⟩
    rw [Dialect.lexemes_append hJoins]
    cases d <;> rfl
  next hHead =>
    have hJoins := Dialect.joins_minus (d := d) hHead
    refine ⟨hOperand.append hJoins, ?_⟩
    rw [Dialect.lexemes_append hJoins]
    cases d <;> rfl

theorem negated
    (hOperand : Inlines d b s s') :
    Inlines d b (SqlTemplate.negated s) (SqlTemplate.negated s') := by
  have hInlined := negated_lexemes hOperand.inlined
  have hPrepared := negated_lexemes hOperand.prepared
  refine ⟨hInlined.1, hPrepared.1, ?_, ?_⟩
  · rw [hInlined.2, hPrepared.2, List.flatMap_cons, hOperand.same]
    rfl
  · rw [hInlined.2]
    intro lexeme hMember
    rcases List.mem_cons.mp hMember with rfl | hRest
    · rfl
    · exact hOperand.uncommented lexeme hRest

theorem unaryText
    (op : UnaryOp)
    (hOperand : Inlines d b s s') :
    Inlines d b (SqlTemplate.unaryText op s)
      (SqlTemplate.unaryText op s') := by
  cases op with
  | not =>
      apply preceded _ _ hOperand
      · exact Dialect.constant_of_check (by cases d <;> decide)
      · exact Dialect.sealed_of_between (by cases d <;> decide)
  | negate => exact hOperand.negated
  | isNull =>
      apply hOperand.spaced
      exact of_constant b (Dialect.constant_of_check (by cases d <;> decide))
  | isNotNull =>
      apply hOperand.spaced
      exact of_constant b (Dialect.constant_of_check (by cases d <;> decide))

/- A text that follows a word which is put before it. -/
theorem labelled
    (word : String)
    (hCheck :
      (d.isConstantText word && d.atEnd word == .between) = true)
    (hText : Inlines d b s s') :
    Inlines d b (word ++ s) (word ++ s') := by
  rw [Bool.and_eq_true, beq_iff_eq] at hCheck
  exact preceded (Dialect.constant_of_check hCheck.1)
    (Dialect.sealed_of_between hCheck.2) hText

/- Related texts of a range test, or of the comparison it becomes. -/
theorem betweenText
    {low low' high high' : Option String}
    (hOperand : Inlines d b s s')
    (hLow : Option.Rel (Inlines d b) low low')
    (hHigh : Option.Rel (Inlines d b) high high') :
    Option.Rel (Inlines d b) (SqlTemplate.betweenText s low high)
      (SqlTemplate.betweenText s' low' high') := by
  have hGlue : ∀ word : String,
      (d.isConstantText word &&
        Dialect.separators.contains (word.toList.headD 'x')) = true →
        d.atEnd word = .between → d.IsGlue word :=
    fun word => Dialect.glue_of_check
  cases hLow with
  | none =>
      cases hHigh with
      | none => exact .none
      | some hUpper =>
          refine .some (hOperand.glued (hGlue " <= " ?_ ?_) hUpper) <;>
            cases d <;> decide
  | some hLower =>
      cases hHigh with
      | none =>
          refine .some (hOperand.glued (hGlue " >= " ?_ ?_) hLower) <;>
            cases d <;> decide
      | some hUpper =>
          refine .some ((hOperand.glued (hGlue " BETWEEN " ?_ ?_)
            hLower).glued (hGlue " AND " ?_ ?_) hUpper) <;>
            cases d <;> decide

------------------------------------------------------------
-- Calls and Keys
------------------------------------------------------------

/- The name of a function and its opening bracket. -/
theorem opened_call
    {name : String}
    (distinct : Bool)
    (hName : IsBareName name) :
    d.IsConstant (name ++ "(" ++ if distinct then "DISTINCT " else "") ∧
      d.IsSealed (name ++ "(" ++ if distinct then "DISTINCT " else "") := by
  rcases hName with ⟨c, rest, hChars, hStart, hWord⟩
  have hBare := Dialect.name_of_bare (d := d) hChars hStart hWord
  have hBracket : d.IsConstant "(" :=
    Dialect.constant_of_check (by cases d <;> decide)
  have hJoins : d.Joins name "(" := by
    intro c hHead
    cases hHead
    exact hBare.2 '(' (by decide)
  have hOpened := hBare.1.toIsConstant.append hBracket hJoins
  have hSealed := Dialect.sealed_bracket.append (by decide) hJoins
  cases distinct with
  | false =>
      rw [if_neg Bool.false_ne_true, String.append_empty]
      exact ⟨hOpened, hSealed⟩
  | true =>
      have hWord : d.IsConstant "DISTINCT " :=
        Dialect.constant_of_check (by cases d <;> decide)
      have hBetween : d.IsSealed "DISTINCT " :=
        Dialect.sealed_of_between (by cases d <;> decide)
      have hBoth := Dialect.joins_of_sealed "DISTINCT " hSealed
      rw [if_pos rfl]
      exact ⟨hOpened.append hWord hBoth,
        hBetween.append (by decide) hBoth⟩

theorem call
    {name : String}
    {args args' : List String}
    (distinct : Bool)
    (hName : IsBareName name)
    (hArgs : List.Forall₂ (Inlines d b) args args') :
    Inlines d b (callText name args distinct)
      (callText name args' distinct) := by
  rcases opened_call (d := d) distinct hName with ⟨hOpened, hSealed⟩
  have hClosing : d.IsConstant ")" :=
    Dialect.constant_of_check (by cases d <;> decide)
  have hApart : Dialect.StartsApart ")" :=
    Dialect.apart_of_check (by decide)
  unfold callText
  cases hArgs with
  | nil =>
      rw [String.intercalate_nil, String.append_empty]
      exact of_constant b
        (hOpened.append hClosing (Dialect.joins_of_sealed ")" hSealed))
  | cons hFirst hRest =>
      have hList := intercalate Dialect.glue_comma (.cons hFirst hRest)
        (List.cons_ne_nil _ _)
      exact (preceded hOpened hSealed hList).followed hClosing hApart

theorem orderText
    (direction : Option String)
    (hDirection : ∀ word ∈ direction, word ∈ sortDirections)
    (hKey : Inlines d b s s') :
    Inlines d b (SqlTemplate.orderText s direction)
      (SqlTemplate.orderText s' direction) := by
  cases direction with
  | none => exact hKey
  | some word =>
      have hWord := hDirection word rfl
      simp only [sortDirections, List.mem_cons, List.not_mem_nil,
        or_false] at hWord
      rcases hWord with rfl | rfl
      · exact hKey.spaced
          (of_constant b (Dialect.constant_of_check (by cases d <;> decide)))
      · exact hKey.spaced
          (of_constant b (Dialect.constant_of_check (by cases d <;> decide)))

------------------------------------------------------------
-- Tables and Subqueries
------------------------------------------------------------

/- The texts that are there, put after a word each. -/
theorem rel_labelled
    {text text' : Option String}
    (word : String)
    (hCheck :
      (d.isConstantText word && d.atEnd word == .between) = true)
    (hText : Option.Rel (Inlines d b) text text') :
    List.Forall₂ (Inlines d b) (text.map fun s => word ++ s).toList
      (text'.map fun s => word ++ s).toList := by
  cases hText with
  | none => exact .nil
  | some hInner => exact .cons (labelled word hCheck hInner) .nil

theorem rel_join
    (join : Option String)
    (hJoin : ∀ words ∈ join, words ∈ joinKinds) :
    List.Forall₂ (Inlines d b) (join.bind present).toList
      (join.bind present).toList := by
  cases join with
  | none => exact .nil
  | some words =>
      have hWords := hJoin words rfl
      have hConstant : words ≠ "" ∧ d.IsConstant words := by
        simp only [joinKinds, List.mem_cons, List.not_mem_nil,
          or_false] at hWords
        rcases hWords with rfl | rfl | rfl | rfl | rfl <;>
          exact ⟨by decide,
            Dialect.constant_of_check (by cases d <;> decide)⟩
      have hPresent : (some words).bind present = some words :=
        present_of_ne_empty hConstant.1
      rw [hPresent]
      exact .cons (of_constant b hConstant.2) .nil

theorem tableText
    {name : String}
    {label condition condition' : Option String}
    (join : Option String)
    (hJoin : ∀ words ∈ join, words ∈ joinKinds)
    (hName : d.IsName name)
    (hLabel : ∀ s ∈ label, d.IsName s)
    (hCondition : Option.Rel (Inlines d b) condition condition') :
    Inlines d b (SqlTemplate.tableText join name label condition)
      (SqlTemplate.tableText join name label condition') := by
  have hLabelled : Option.Rel (Inlines d b) label label := by
    cases label with
    | none => exact .none
    | some s => exact .some (of_constant b (hLabel s rfl).toIsConstant)
  unfold SqlTemplate.tableText
  apply intercalate Dialect.glue_space
  · apply List.rel_append
    · apply List.rel_append
      · apply List.rel_append (rel_join join hJoin)
        exact .cons (of_constant b hName.toIsConstant) .nil
      · exact rel_labelled "AS " (by cases d <;> decide) hLabelled
    · exact rel_labelled "ON " (by cases d <;> decide) hCondition
  · simp

theorem subqueryText
    {label : Option String}
    (hLabel : ∀ s ∈ label, d.IsName s)
    (hQuery : Inlines d b s s') :
    Inlines d b (SqlTemplate.subqueryText s label)
      (SqlTemplate.subqueryText s' label) := by
  have hEnclosed := hQuery.enclose true
  cases label with
  | none =>
      unfold SqlTemplate.subqueryText
      rw [Option.map_none, Option.getD_none, String.append_empty,
        String.append_empty]
      exact hEnclosed
  | some name =>
      have hName := of_constant b (hLabel name rfl).toIsConstant
      have hGlue : d.IsGlue " AS " :=
        Dialect.glue_of_check (by cases d <;> decide) (by cases d <;> decide)
      have hAll := hEnclosed.glued hGlue hName
      rw [String.append_assoc, String.append_assoc] at hAll
      exact hAll

end Inlines

end SqlTemplate
