import SqlTemplate.Grammar.Automaton
import SqlTemplate.Grammar.Derivation

/-
  What can come next.  A phrase begins with one of few kinds of
  tokens and is followed by one of few kinds, and the automaton
  keeps to these: from every state in which a phrase can begin
  it has a way along each rule for the phrase, and applies the
  rule at the end of the way before every token that can follow.

  Key definitions include:
    * `kindBefore`
    * `Nonterminal.starts`
    * `startsBefore`
    * `Automaton.followAt`
    * `Automaton.leads`
  Correctness is proven by:
    * `Derivations.startsBefore_holds`
    * `Automaton.leads_of_goto`
-/

------------------------------------------------------------
-- Sets of Next Tokens
------------------------------------------------------------

namespace SqlTemplate

open Automaton

namespace Automaton.Lookaheads

/-
  A set is part of another one.  Most sets extend others at the
  front, so this is looked for before their tokens are compared
  one by one.
-/
def isIn (set set' : Lookaheads) : Bool :=
  (set.terminals.isSuffixOf set'.terminals ||
      set.terminals.all set'.terminals.contains) &&
    (!set.atEnd || set'.atEnd)

theorem holds_of_isIn
    {set set' : Lookaheads}
    {next : Option Terminal}
    (hIn : set.isIn set' = true)
    (hHolds : set.holds next = true) :
    set'.holds next = true := by
  rw [isIn, Bool.and_eq_true, Bool.or_eq_true, List.all_eq_true] at hIn
  rcases hIn with ⟨hTerminals, hEnd⟩
  cases next with
  | none =>
      have hAtEnd : set.atEnd = true := hHolds
      rw [hAtEnd] at hEnd
      exact hEnd
  | some t =>
      have hMember := List.contains_iff_mem.mp hHolds
      rcases hTerminals with hSuffix | hAll
      · exact List.contains_iff_mem.mpr
          ((List.isSuffixOf_iff_suffix.mp hSuffix).mem hMember)
      · exact hAll t hMember

end Automaton.Lookaheads

/-
  The kind of the first of some tokens, or the next kind after
  them if there are none.
-/
def kindBefore
    (next : Option Terminal) : List Token → Option Terminal
| [] => next
| t :: _ => some t.kind

theorem kindBefore_append
    (next : Option Terminal)
    (ts ts' : List Token) :
    kindBefore next (ts ++ ts') =
      kindBefore (kindBefore next ts') ts := by
  cases ts <;> rfl

------------------------------------------------------------
-- Beginnings of Phrases
------------------------------------------------------------

/- The tokens that an operand begins with. -/
def atomStarts : List Terminal :=
  [.number, .string, .TRUE, .FALSE, .NULL, .parameter, .name,
    .leftBracket]

/- The tokens that an operand begins with, or its sign. -/
def operandStarts : List Terminal :=
  .minus :: atomStarts

/- The tokens that a condition begins with. -/
def conditionStarts : List Terminal :=
  .NOT :: operandStarts

/-
  What a phrase begins with.  The end is in the set if nothing
  can stand in place of the phrase.
-/
def Nonterminal.starts : Nonterminal → Lookaheads
| .statement | .query => ⟨[.SELECT], false⟩
| .rowKind => ⟨[.DISTINCT], true⟩
| .columns | .column => ⟨.star :: conditionStarts, false⟩
| .sourceClause => ⟨[.FROM], true⟩
| .sources | .source => ⟨[.leftBracket, .name], false⟩
| .table | .tableName => ⟨[.name], false⟩
| .join => ⟨.comma :: joinStarts, false⟩
| .joinKind => ⟨joinStarts, false⟩
| .filterClause => ⟨[.WHERE], true⟩
| .groupClause => ⟨[.GROUP], true⟩
| .havingClause => ⟨[.HAVING], true⟩
| .orderClause => ⟨[.ORDER], true⟩
| .limitClause => ⟨[.LIMIT], true⟩
| .limitValue => ⟨[.number, .parameter], false⟩
| .exprs | .orderKeys | .orderKey | .expr | .exclusive | .conjunction
| .negation => ⟨conditionStarts, false⟩
| .predicate | .bitOr | .bitXor | .bitAnd | .sum | .product
| .signed => ⟨operandStarts, false⟩
| .valueList => ⟨[.leftBracket, .parameter], false⟩
| .atom => ⟨atomStarts, false⟩

/- The same of a symbol. -/
def Symbol.starts : Symbol → Lookaheads
| .token t => ⟨[t], false⟩
| .phrase n => n.starts

/-
  What a sequence of symbols begins with, given what follows
  after it.
-/
def startsBefore
    (after : Lookaheads) : List Symbol → Lookaheads
| [] => after
| s :: ss =>
    if s.starts.atEnd then
      (startsBefore after ss).extend s.starts.terminals
    else
      s.starts

/- What the right side of a rule begins with, its phrase can. -/
theorem startsBefore_isIn
    (r : Rule) :
    (startsBefore ⟨[], true⟩ r.rhs).isIn r.lhs.starts = true := by
  cases r <;> decide

mutual

/- A derivation begins with a token that its symbol begins with. -/
theorem Derivation.starts_holds :
    ∀ {s : Symbol} (d : Derivation s),
      s.starts.holds (kindBefore none d.tokens) = true
| _, .leaf t => by
    rw [Derivation.tokens]
    exact List.contains_iff_mem.mpr (List.mem_singleton_self t.kind)
| _, .node r parts => by
    rw [Derivation.tokens]
    exact Lookaheads.holds_of_isIn (startsBefore_isIn r)
      (Derivations.startsBefore_holds parts rfl)
termination_by structural _ d => d

/-
  Derivations begin with a token that their symbols begin with,
  or with what follows after them.
-/
theorem Derivations.startsBefore_holds :
    ∀ {ss : List Symbol} (ds : Derivations ss) {after : Lookaheads}
      {next : Option Terminal}, after.holds next = true →
        (startsBefore after ss).holds (kindBefore next ds.tokens) = true
| _, .nil, _, _, hNext => hNext
| _, .cons (s := s) head tail, after, next, hNext => by
    have hHead := Derivation.starts_holds head
    have hTail := Derivations.startsBefore_holds tail hNext
    rw [Derivations.tokens, kindBefore_append, startsBefore]
    cases hTokens : head.tokens with
    | nil =>
        -- nothing stands for the first symbol
        rw [hTokens] at hHead
        have hEmpty : s.starts.atEnd = true := hHead
        rw [if_pos hEmpty]
        change Lookaheads.holds _ (kindBefore next tail.tokens) = true
        cases hKind : kindBefore next tail.tokens with
        | none =>
            rw [hKind] at hTail
            exact hTail
        | some t =>
            rw [hKind] at hTail
            exact List.contains_iff_mem.mpr
              (List.mem_append_right _ (List.contains_iff_mem.mp hTail))
    | cons t ts =>
        rw [hTokens] at hHead
        split
        next =>
          exact List.contains_iff_mem.mpr
            (List.mem_append_left _ (List.contains_iff_mem.mp hHead))
        next => exact hHead
termination_by structural _ ds => ds

end

------------------------------------------------------------
-- Followers of Phrases
------------------------------------------------------------

namespace Automaton

/- What can follow after a phrase. -/
def follow : Nonterminal → Lookaheads
| .statement => endOfText
| .query | .limitClause => afterQuery
| .rowKind => beforeColumns
| .columns | .column => afterColumns
| .sourceClause => afterSource
| .sources | .source | .join => afterSources
| .table => afterTable
| .tableName => afterTableName
| .joinKind => beforeTable
| .filterClause => afterFilter
| .groupClause => afterGroups
| .exprs => afterExprs
| .havingClause => afterHaving
| .orderClause => afterOrder
| .orderKeys | .orderKey => afterKeys
| .limitValue => afterLimitValue
| .expr => afterExpr
| .exclusive => afterExclusive
| .conjunction | .negation | .predicate | .valueList => afterConjunction
| .bitOr => afterBitOr
| .bitXor => afterBitXor
| .bitAnd => afterBitAnd
| .sum => afterSum
| .product | .signed | .atom => afterOperand

/- A column of a select list can begin in a state. -/
def startsColumn (state : Nat) : Bool :=
  ((row state).gotos.lookup .column).isSome

/- The state after a bracket that an operand begins with. -/
def bracketState : Nat := 31

/-
  What can follow after a phrase that begins in a state.  Within
  a column no join and no direction can follow.  A list that
  begins at a bracket is one of at least two expressions.
-/
def followAt
    (state : Nat)
    (n : Nonterminal) : Lookaheads :=
  if startsColumn state then
    { follow n with
      terminals := (follow n).terminals.filter fun t =>
        !joinStarts.contains t && t != .direction }
  else if state = bracketState ∧ n = .exprs then
    atComma
  else
    follow n

/-
  The automaton has a way along the given symbols at the end of a
  rule.  On the way it puts every token on the stack at once and
  can find each phrase before what follows there, and at the end
  it applies the rule before everything in the given set.
-/
def leads
    (r : Rule)
    (set : Lookaheads) : List Symbol → Nat → Bool
| [], state =>
    match (row state).reduction with
    | some (r', set') => r' == r && set.isIn set'
    | none => false
| .token t :: ss, state =>
    match (row state).shifts.lookup t with
    | some state' =>
        ((row state).reductionOn? (some t)).isNone &&
          leads r set ss state'
    | none => false
| .phrase n :: ss, state =>
    match (row state).gotos.lookup n with
    | some state' =>
        (startsBefore set ss).isIn (followAt state n) &&
          leads r set ss state'
    | none => false

/- The rules for phrases of a kind. -/
def rules : Nonterminal → List Rule
| .statement => [.plain, .terminated]
| .query => [.query]
| .rowKind => [.everyRow, .distinctRows]
| .columns => [.firstColumn, .nextColumn]
| .column => [.plainColumn, .namedColumn, .columnAs, .allColumns,
    .allOfTable]
| .sourceClause => [.noSource, .fromSources]
| .sources => [.firstSource, .nextSource]
| .source => [.tableSource, .derived, .derivedAs]
| .table => [.plainTable, .namedTable, .tableAs]
| .tableName => [.shortTable, .longTable]
| .join => [.joinTable, .joinTableOn, .joinComma]
| .joinKind => [.plainJoin, .innerJoin, .leftJoin, .leftOuterJoin,
    .rightJoin, .rightOuterJoin, .crossJoin]
| .filterClause => [.noFilter, .whereFilter]
| .groupClause => [.noGroups, .groupBy]
| .exprs => [.firstExpr, .nextExpr]
| .havingClause => [.noHaving, .havingFilter]
| .orderClause => [.noOrder, .orderBy]
| .orderKeys => [.firstKey, .nextKey]
| .orderKey => [.plainKey, .directedKey]
| .limitClause => [.noLimit, .limitOnly, .limitComma, .limitOffset]
| .limitValue => [.limitNumber, .limitParameter]
| .expr => [.exclusiveExpr, .disjoin]
| .exclusive => [.conjunctionExpr, .exclude]
| .conjunction => [.negationExpr, .conjoin]
| .negation => [.predicateExpr, .negateCondition]
| .predicate => [.bitOrExpr, .compare, .isNull, .isNotNull, .isIn, .notIn,
    .between, .like, .notLike]
| .valueList => [.givenValues, .selectedValues, .boundValues]
| .bitOr => [.bitXorExpr, .bitOr]
| .bitXor => [.bitAndExpr, .bitXor]
| .bitAnd => [.sumExpr, .bitAnd]
| .sum => [.productExpr, .plus, .minus]
| .product => [.signedExpr, .multiply, .divide, .modulo]
| .signed => [.atomExpr, .negate]
| .atom => [.number, .string, .trueValue, .falseValue, .nullValue,
    .parameter, .shortName, .tableName, .databaseName, .callEmpty,
    .callStar, .call, .callDistinct, .bracketed, .tuple, .subquery]

theorem mem_rules (r : Rule) : r ∈ rules r.lhs := by
  cases r <;> decide

/- Every rule can be followed where its phrase can begin. -/
theorem leads_all :
    ((List.range rows.size).all fun state =>
      (row state).gotos.all fun goto =>
        (rules goto.1).all fun r =>
          leads r (followAt state goto.1) r.rhs state) = true := by
  decide +kernel

/- What holds of all ways on of all states holds of each of them. -/
theorem holds_of_goto
    {check : Nat → Nonterminal × Nat → Bool}
    (hAll :
      ((List.range rows.size).all fun state =>
        (row state).gotos.all (check state)) = true)
    {state state' : Nat}
    {n : Nonterminal}
    (hGoto : (row state).gotos.lookup n = some state') :
    check state (n, state') = true := by
  -- Only the states that have a row have a way on.
  have hState : state < rows.size := by
    rcases Nat.lt_or_ge state rows.size with hInside | hOutside
    · exact hInside
    · unfold row at hGoto
      rw [Array.getElem?_eq_none hOutside] at hGoto
      cases hGoto
  have hRow := List.all_eq_true.mp hAll state (List.mem_range.mpr hState)
  rcases List.lookup_eq_some_iff.mp hGoto with ⟨before, after, hGotos, _⟩
  apply List.all_eq_true.mp hRow
  rw [hGotos]
  exact List.mem_append_right _ List.mem_cons_self

/- A rule can be followed where its phrase can begin. -/
theorem leads_of_goto
    {state state' : Nat}
    {r : Rule}
    (hGoto : (row state).gotos.lookup r.lhs = some state') :
    leads r (followAt state r.lhs) r.rhs state = true :=
  List.all_eq_true.mp (holds_of_goto leads_all hGoto) r (mem_rules r)

end Automaton

end SqlTemplate
