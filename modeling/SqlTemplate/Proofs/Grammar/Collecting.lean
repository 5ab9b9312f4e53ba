import SqlTemplate.Node.Parameters
import SqlTemplate.Proofs.Grammar.Correctness
import SqlTemplate.Proofs.Pruning.Filled
import SqlTemplate.Proofs.Template

/-
  The order of parameters.  Each rule puts its parts into slots
  in the order of the text, except for the limit with a comma:
  its first value is the offset, whose slot is the last one.  So
  the parameters of a tree are those of the text, in the order
  of the text with the two values of each such limit exchanged.

  Key definitions include:
    * `Token.parameter?`
    * `Token.exchangeLimits`
    * `Symbol.names`
    * `Meanings.Collects`
    * `Symbol.isOpen`

  Correctness is proven by:
    * `collects_meaning`
    * `Derivation.isNamed`
    * `Derivation.exchangeLimits_tokens`
    * `parameterList_of_statement`
    * `comma_limit_is_collected_backwards`
    * `parameters_follow_text`
-/

------------------------------------------------------------
-- Parameters of Tokens
------------------------------------------------------------

namespace SqlTemplate

namespace Token

/- The name of the parameter that a token is. -/
def parameter? (t : Token) : Option String :=
  if t.kind = .parameter then some (parameterOf t.text) else none

/- The names of the parameters among tokens, in order. -/
def parameters (ts : List Token) : List String :=
  ts.filterMap parameter?

theorem parameters_append (ts us : List Token) :
    parameters (ts ++ us) = parameters ts ++ parameters us :=
  List.filterMap_append

/- A list of tokens does not start with a comma. -/
def NoComma (ts : List Token) : Prop :=
  ∀ t ∈ ts.head?, t.kind ≠ .comma

/-
  Tokens with the two values of every limit that has a comma
  exchanged.
-/
def exchangeLimits : List Token → List Token
| limit :: first :: comma :: second :: ts =>
    if limit.kind = .LIMIT ∧ comma.kind = .comma then
      limit :: second :: comma :: first :: exchangeLimits ts
    else
      limit :: exchangeLimits (first :: comma :: second :: ts)
| ts => ts

/- A limit among tokens has a comma. -/
def hasCommaLimit : List Token → Bool
| limit :: value :: comma :: ts =>
    (limit.kind == .LIMIT && comma.kind == .comma) ||
      hasCommaLimit (value :: comma :: ts)
| _ => false

theorem exchangeLimits_cons
    {t : Token}
    (ts : List Token)
    (hKind : t.kind ≠ .LIMIT) :
    exchangeLimits (t :: ts) = t :: exchangeLimits ts := by
  match ts with
  | [] | [_] | [_, _] => rfl
  | _ :: _ :: _ :: _ =>
      rw [exchangeLimits, if_neg fun hBoth => hKind hBoth.1]

/- A limit whose value no comma follows is left as it is. -/
theorem exchangeLimits_limit
    {limit : Token}
    (value : Token)
    {ts : List Token}
    (hComma : NoComma ts) :
    exchangeLimits (limit :: value :: ts) =
      limit :: exchangeLimits (value :: ts) := by
  match ts, hComma with
  | [], _ | [_], _ => rfl
  | comma :: _ :: _, hComma =>
      rw [exchangeLimits, if_neg fun hBoth => hComma comma rfl hBoth.2]

theorem exchangeLimits_comma
    {limit first comma second : Token}
    (ts : List Token)
    (hLimit : limit.kind = .LIMIT)
    (hComma : comma.kind = .comma) :
    exchangeLimits (limit :: first :: comma :: second :: ts) =
      limit :: second :: comma :: first :: exchangeLimits ts := by
  rw [exchangeLimits, if_pos ⟨hLimit, hComma⟩]

/- Without such limits all tokens keep their places. -/
theorem exchangeLimits_eq
    {ts : List Token}
    (hNone : hasCommaLimit ts = false) :
    exchangeLimits ts = ts := by
  induction ts using exchangeLimits.induct with
  | case1 limit first comma second ts hBoth _ =>
      rw [hasCommaLimit, hBoth.1, hBoth.2] at hNone
      cases hNone
  | case2 limit first comma second ts hBoth ih =>
      rw [hasCommaLimit, Bool.or_eq_false_iff] at hNone
      rw [exchangeLimits, if_neg hBoth, ih hNone.2]
  | case3 ts hShort =>
      rw [exchangeLimits]
      exact hShort

/- The tokens are the same ones. -/
theorem exchangeLimits_perm (ts : List Token) :
    (exchangeLimits ts).Perm ts := by
  induction ts using exchangeLimits.induct with
  | case1 limit first comma second ts hBoth ih =>
      rw [exchangeLimits, if_pos hBoth]
      exact ((List.reverse_perm [first, comma, second]).append ih).cons limit
  | case2 limit first comma second ts hBoth ih =>
      rw [exchangeLimits, if_neg hBoth]
      exact ih.cons limit
  | case3 ts hShort =>
      rw [exchangeLimits]
      exact hShort

end Token

------------------------------------------------------------
-- Names of Meanings
------------------------------------------------------------

/- The names of the parameters in what a phrase means. -/
def Nonterminal.names : (n : Nonterminal) → n.Meaning → List String
| .statement, q | .query, q => Node.queryParameters q
| .rowKind, _ | .table, _ | .tableName, _ | .joinKind, _ => []
| .columns, ns | .sources, ns | .exprs, ns | .orderKeys, ns =>
    List.flatMap Node.parameterList ns
| .sourceClause, slot | .filterClause, slot | .groupClause, slot
| .havingClause, slot | .orderClause, slot => Node.slotParameters slot
| .limitClause, limits =>
    Node.slotParameters limits.1 ++ Node.slotParameters limits.2
| .column, n | .source, n | .join, n | .orderKey, n | .limitValue, n
| .expr, n | .exclusive, n | .conjunction, n | .negation, n
| .predicate, n | .valueList, n | .bitOr, n | .bitXor, n | .bitAnd, n
| .sum, n | .product, n | .signed, n | .atom, n => Node.parameterList n

/- The names of the parameters in what a symbol means. -/
def Symbol.names : (s : Symbol) → s.Meaning → List String
| .token .parameter, cs => [Token.parameterOf cs]
| .token _, _ => []
| .phrase n, m => n.names m

/- The names collected so far and those of one more symbol. -/
def Symbol.collect
    (collected : List String) :
    (s : Symbol) → s.Meaning → List String
| .token .parameter, cs => collected ++ [Token.parameterOf cs]
| .token _, _ => collected
| .phrase n, m => collected ++ n.names m

theorem Symbol.collect_eq
    (collected : List String)
    (s : Symbol)
    (m : s.Meaning) :
    s.collect collected m = collected ++ s.names m := by
  cases s with
  | phrase n => rfl
  | token kind =>
      cases kind with
      | parameter => rfl
      | _ => exact (List.append_nil collected).symm

/-
  A function of meanings has a result whose names are those
  collected so far and then those of the meanings in order.
-/
def Meanings.Collects
    {α : Type}
    (names : α → List String) :
    ∀ ss : List Symbol, Meanings α ss → List String → Prop
| [], a, collected => names a = collected
| s :: ss, f, collected =>
    ∀ m : s.Meaning, Collects names ss (f m) (s.collect collected m)

theorem listParameters_map_some
    (ns : List Node) :
    Node.listParameters (ns.map some) =
      ns.flatMap Node.parameterList := by
  induction ns with
  | nil => rfl
  | cons n ns ih =>
      rw [List.map_cons, Node.listParameters, ih, List.flatMap_cons]

theorem slotParameters_ofList
    (ns : List Node) :
    Node.slotParameters (.ofList ns) = ns.flatMap Node.parameterList :=
  listParameters_map_some ns

theorem parameterList_connect
    (op : ConnectiveOp)
    (left right : Node) :
    (Node.connect op left right).parameterList =
      left.parameterList ++ right.parameterList := by
  have hPair :
      (Node.connective op (.ofList [left, right])).parameterList =
        left.parameterList ++ right.parameterList := by
    rw [Node.parameterList, slotParameters_ofList]
    simp only [List.flatMap_cons, List.flatMap_nil, List.append_nil]
  unfold Node.connect
  split
  next op' operands =>
    split
    · exact slotParameters_append operands right
    · exact hPair
  next => exact hPair

theorem parameterList_negative
    (operand : Node) :
    operand.negative.parameterList = operand.parameterList := by
  unfold Node.negative
  split <;> rfl

theorem flatMap_concat
    (ns : List Node)
    (n : Node) :
    (List.concat ns n).flatMap Node.parameterList =
      ns.flatMap Node.parameterList ++ n.parameterList := by
  simp

theorem queryParameters_ofList
    (columns : List Node)
    (source filter groups having order : Slot Node)
    (limits : Slot Node × Slot Node)
    (distinct : Bool) :
    Node.queryParameters
        ⟨.ofList columns, source, filter, groups, having, order, limits.1,
          limits.2, distinct, []⟩ =
      columns.flatMap Node.parameterList ++ Node.slotParameters source ++
        Node.slotParameters filter ++ Node.slotParameters groups ++
          Node.slotParameters having ++ Node.slotParameters order ++
            (Node.slotParameters limits.1 ++
              Node.slotParameters limits.2) := by
  rw [Node.queryParameters, slotParameters_ofList]
  exact List.append_assoc _ _ _

/-
  Each rule gives its phrase the names of its parts in order; the
  limit with a comma alone has its two values the other way round.
-/
theorem collects_meaning
    {r : Rule}
    (hRule : r ≠ .limitComma) :
    Meanings.Collects (Symbol.phrase r.lhs).names r.rhs r.meaning [] := by
  cases r with
  | limitComma => exact absurd rfl hRule
  | query =>
      exact fun _ distinct columns source filter groups having order limits =>
        queryParameters_ofList columns source filter groups having order
          limits distinct
  | firstColumn | firstSource | firstExpr | firstKey =>
      exact fun n => List.append_nil (Node.parameterList n)
  | nextColumn | nextExpr | nextKey => exact fun ns _ n => flatMap_concat ns n
  | nextSource => exact flatMap_concat
  | fromSources => exact fun _ ns => slotParameters_ofList ns
  | groupBy | orderBy => exact fun _ _ ns => slotParameters_ofList ns
  | limitOnly => exact fun _ n => List.append_nil (Node.parameterList n)
  | disjoin | exclude | conjoin =>
      exact fun left _ right => parameterList_connect _ left right
  | negate => exact fun _ n => parameterList_negative n
  | givenValues => exact fun _ ns _ => slotParameters_ofList ns
  | call => exact fun _ _ ns _ => slotParameters_ofList ns
  | callDistinct => exact fun _ _ _ ns _ => slotParameters_ofList ns
  | bracketed => exact fun _ n _ => List.append_nil (Node.parameterList n)
  | tuple =>
      exact fun _ ns _ n _ =>
        (slotParameters_ofList _).trans (flatMap_concat ns n)
  | everyRow | noSource | noFilter | noGroups | noHaving | noOrder
  | noLimit => exact rfl
  | plain | distinctRows | plainColumn | allColumns | tableSource
  | plainTable | shortTable | plainJoin | plainKey | limitNumber
  | limitParameter | exclusiveExpr | conjunctionExpr | negationExpr
  | predicateExpr | bitOrExpr | boundValues | bitXorExpr | bitAndExpr
  | sumExpr | productExpr | signedExpr | atomExpr | number | string
  | trueValue | falseValue | nullValue | parameter | shortName =>
      exact fun _ => rfl
  | terminated | namedColumn | namedTable | joinTable | joinComma
  | innerJoin | leftJoin | rightJoin | crossJoin | whereFilter
  | havingFilter | directedKey | negateCondition =>
      exact fun _ _ => rfl
  | columnAs | allOfTable | tableAs | longTable | leftOuterJoin
  | rightOuterJoin | compare | isNull | isIn | like | selectedValues
  | bitOr | bitXor | bitAnd | plus | minus | multiply | divide | modulo
  | tableName | callEmpty | subquery =>
      exact fun _ _ _ => rfl
  | derived | joinTableOn | limitOffset | isNotNull | notIn | notLike
  | callStar => exact fun _ _ _ _ => rfl
  | derivedAs | between | databaseName => exact fun _ _ _ _ _ => rfl

------------------------------------------------------------
-- Arranged Tokens
------------------------------------------------------------

/-
  The tokens of a phrase from those of its parts: the two values
  of a limit with a comma are exchanged.
-/
def Rule.arrange (r : Rule) (parts : List (List Token)) : List Token :=
  match r, parts with
  | .limitComma, [limit, first, comma, second] =>
      limit ++ second ++ comma ++ first
  | _, parts => parts.flatten

mutual

/- The tokens of a derivation in the order of the slots. -/
def Derivation.arranged {s : Symbol} : Derivation s → List Token
| .leaf t => [t]
| .node r parts => r.arrange parts.arranged

/- The tokens of each of several derivations. -/
def Derivations.arranged {ss : List Symbol} :
    Derivations ss → List (List Token)
| .nil => []
| .cons head tail => head.arranged :: tail.arranged

end

theorem Rule.arrange_eq
    {r : Rule}
    (parts : List (List Token))
    (hRule : r ≠ .limitComma) :
    r.arrange parts = parts.flatten := by
  unfold Rule.arrange
  split
  next => exact absurd rfl hRule
  next => rfl

/- The derivation of a token is that token. -/
theorem Derivation.exists_token
    {kind : Terminal}
    (d : Derivation (.token kind)) :
    ∃ text : List Char, d.tokens = [⟨kind, text⟩] ∧
      d.arranged = [⟨kind, text⟩] ∧ d.meaning = text := by
  rcases d.eq_leaf rfl with ⟨⟨_, text⟩, hKind, hToken, rfl⟩
  cases hToken
  refine ⟨text, ?_, ?_, ?_⟩
  · rw [Derivation.tokens]
  · rw [Derivation.arranged]
  · rw [Derivation.meaning]

------------------------------------------------------------
-- Names of Arranged Tokens
------------------------------------------------------------

/- The names of a meaning are the parameters of the arranged tokens. -/
def Derivation.IsNamed {s : Symbol} (d : Derivation s) : Prop :=
  s.names d.meaning = Token.parameters d.arranged

/- The same of each of several derivations. -/
def Derivations.AreNamed {ss : List Symbol} : Derivations ss → Prop
| .nil => True
| .cons head tail => head.IsNamed ∧ tail.AreNamed

/- Parts have the names that a function of them collects. -/
theorem names_of_parts :
    ∀ {ss : List Symbol} (parts : Derivations ss) {α : Type}
      (names : α → List String) (f : Meanings α ss)
      (collected : List String),
      parts.AreNamed → Meanings.Collects names ss f collected →
        names (parts.meaning f) =
          collected ++ Token.parameters parts.arranged.flatten
| _, .nil, _, names, f, collected, _, hCollects => by
    rw [Derivations.meaning, Derivations.arranged]
    exact hCollects.trans (List.append_nil collected).symm
| _, .cons head tail, _, names, f, collected, hNamed, hCollects => by
    have hHead : _ = Token.parameters head.arranged := hNamed.1
    have hTail :=
      names_of_parts tail names _ _ hNamed.2 (hCollects head.meaning)
    rw [Derivations.meaning, hTail, Symbol.collect_eq, hHead,
      Derivations.arranged, List.flatten_cons, Token.parameters_append,
      List.append_assoc]

/- In a limit with a comma the second value has the first names. -/
theorem names_of_exchanged
    {α : Type}
    {s s' : Symbol}
    {names : α → List String}
    (parts : Derivations [.token .LIMIT, s, .token .comma, s'])
    (f : Meanings α [.token .LIMIT, s, .token .comma, s'])
    (hNamed : parts.AreNamed)
    (hNames : ∀ text first text' second,
      names (f text first text' second) =
        s'.names second ++ s.names first) :
    names (parts.meaning f) =
      Token.parameters (Rule.limitComma.arrange parts.arranged) := by
  rcases parts with _ | ⟨limit, _ | ⟨first, _ | ⟨comma, _ | ⟨second, ⟨⟩⟩⟩⟩⟩
  rcases hNamed with ⟨_, hFirst, _, hSecond, _⟩
  rcases limit.exists_token with ⟨text, _, hLimit, _⟩
  rcases comma.exists_token with ⟨text', _, hComma, _⟩
  have hFirst : _ = Token.parameters first.arranged := hFirst
  have hSecond : _ = Token.parameters second.arranged := hSecond
  simp only [Derivations.meaning, Derivations.arranged, Rule.arrange, hNames,
    hFirst, hSecond, hLimit, hComma, Token.parameters_append]
  rw [show Token.parameters [⟨.LIMIT, text⟩] = [] from rfl,
    show Token.parameters [⟨.comma, text'⟩] = [] from rfl,
    List.nil_append, List.append_nil]

mutual

/-
  The names of what a derivation means are the parameters among
  its arranged tokens.
-/
theorem Derivation.isNamed :
    ∀ {s : Symbol} (d : Derivation s), d.IsNamed
| _, .leaf ⟨kind, text⟩ => by
    rw [Derivation.IsNamed, Derivation.meaning, Derivation.arranged]
    cases kind <;> rfl
| _, .node r parts => by
    have hNamed := parts.areNamed
    rw [Derivation.IsNamed, Derivation.meaning, Derivation.arranged]
    by_cases hRule : r = .limitComma
    · subst hRule
      exact names_of_exchanged parts _ hNamed fun _ _ _ _ => rfl
    · rw [Rule.arrange_eq _ hRule]
      exact names_of_parts parts _ _ _ hNamed (collects_meaning hRule)
termination_by structural _ d => d

theorem Derivations.areNamed :
    ∀ {ss : List Symbol} (parts : Derivations ss), parts.AreNamed
| _, .nil => trivial
| _, .cons head tail => ⟨head.isNamed, tail.areNamed⟩
termination_by structural _ parts => parts

end

------------------------------------------------------------
-- Limits among Tokens
------------------------------------------------------------

open Token

/- The only part of a value of a limit is a token. -/
theorem Derivations.exists_single
    {kind : Terminal}
    (parts : Derivations [.token kind]) :
    ∃ text : List Char, parts.tokens = [⟨kind, text⟩] ∧
      parts.arranged.flatten = [⟨kind, text⟩] := by
  rcases parts with _ | ⟨head, ⟨⟩⟩
  rcases head.exists_token with ⟨text, hTokens, hArranged, _⟩
  refine ⟨text, ?_, ?_⟩
  · rw [Derivations.tokens, Derivations.tokens, hTokens, List.append_nil]
  · rw [Derivations.arranged, Derivations.arranged, hArranged]
    rfl

theorem Derivation.exists_limitValue
    {s : Symbol}
    (d : Derivation s)
    (hSymbol : s = .phrase .limitValue) :
    ∃ t : Token, d.tokens = [t] ∧ d.arranged = [t] ∧ t.kind ≠ .LIMIT := by
  cases d with
  | leaf t => cases hSymbol
  | node r parts =>
      injection hSymbol with hRule
      rw [Derivation.tokens, Derivation.arranged]
      cases r with
      | limitNumber =>
          rcases Derivations.exists_single parts with
            ⟨text, hTokens, hArranged⟩
          exact ⟨⟨.number, text⟩, hTokens, hArranged, nofun⟩
      | limitParameter =>
          rcases Derivations.exists_single parts with
            ⟨text, hTokens, hArranged⟩
          exact ⟨⟨.parameter, text⟩, hTokens, hArranged, nofun⟩
      | _ => cases hRule

theorem exchangeLimits_limitOnly
    {rest : List Token}
    (parts : Derivations [.token .LIMIT, .phrase .limitValue])
    (hComma : NoComma rest) :
    exchangeLimits (parts.tokens ++ rest) =
      Rule.limitOnly.arrange parts.arranged ++ exchangeLimits rest := by
  rcases parts with _ | ⟨limit, _ | ⟨value, ⟨⟩⟩⟩
  rcases limit.exists_token with ⟨text, hLimit, hLimit', _⟩
  rcases value.exists_limitValue rfl with ⟨t, hValue, hValue', hKind⟩
  simp only [Derivations.tokens, Derivations.arranged, Rule.arrange, hLimit,
    hLimit', hValue, hValue', List.flatten_cons, List.flatten_nil,
    List.append_nil, List.cons_append, List.nil_append,
    exchangeLimits_limit t hComma, exchangeLimits_cons rest hKind]

theorem exchangeLimits_limitOffset
    {rest : List Token}
    (parts : Derivations [.token .LIMIT, .phrase .limitValue,
      .token .OFFSET, .phrase .limitValue]) :
    exchangeLimits (parts.tokens ++ rest) =
      Rule.limitOffset.arrange parts.arranged ++ exchangeLimits rest := by
  rcases parts with _ | ⟨limit, _ | ⟨value, _ | ⟨offset, _ | ⟨value', ⟨⟩⟩⟩⟩⟩
  rcases limit.exists_token with ⟨text, hLimit, hLimit', _⟩
  rcases offset.exists_token with ⟨text', hOffset, hOffset', _⟩
  rcases value.exists_limitValue rfl with ⟨t, hFirst, hFirst', hKind⟩
  rcases value'.exists_limitValue rfl with ⟨t', hSecond, hSecond', hKind'⟩
  have hComma : NoComma (⟨.OFFSET, text'⟩ :: t' :: rest) := by
    rintro _ ⟨⟩
    exact nofun
  have hOther : (⟨.OFFSET, text'⟩ : Token).kind ≠ .LIMIT := nofun
  simp only [Derivations.tokens, Derivations.arranged, Rule.arrange, hLimit,
    hLimit', hOffset, hOffset', hFirst, hFirst', hSecond, hSecond',
    List.flatten_cons, List.flatten_nil, List.append_nil, List.cons_append,
    List.nil_append, exchangeLimits_limit t hComma,
    exchangeLimits_cons _ hKind, exchangeLimits_cons _ hKind',
    exchangeLimits_cons _ hOther]

theorem exchangeLimits_limitComma
    {rest : List Token}
    (parts : Derivations [.token .LIMIT, .phrase .limitValue,
      .token .comma, .phrase .limitValue]) :
    exchangeLimits (parts.tokens ++ rest) =
      Rule.limitComma.arrange parts.arranged ++ exchangeLimits rest := by
  rcases parts with _ | ⟨limit, _ | ⟨value, _ | ⟨comma, _ | ⟨value', ⟨⟩⟩⟩⟩⟩
  rcases limit.exists_token with ⟨text, hLimit, hLimit', _⟩
  rcases comma.exists_token with ⟨text', hComma, hComma', _⟩
  rcases value.exists_limitValue rfl with ⟨t, hFirst, hFirst', _⟩
  rcases value'.exists_limitValue rfl with ⟨t', hSecond, hSecond', _⟩
  have hExchanged :
      exchangeLimits (⟨.LIMIT, text⟩ :: t :: ⟨.comma, text'⟩ :: t' :: rest) =
        ⟨.LIMIT, text⟩ :: t' :: ⟨.comma, text'⟩ :: t ::
          exchangeLimits rest :=
    exchangeLimits_comma rest rfl rfl
  simp only [Derivations.tokens, Derivations.arranged, Rule.arrange, hLimit,
    hLimit', hComma, hComma', hFirst, hFirst', hSecond, hSecond',
    List.append_nil, List.cons_append, List.nil_append, hExchanged]

------------------------------------------------------------
-- Open Phrases
------------------------------------------------------------

/- A phrase can end with a limit, so that no comma may follow it. -/
def Symbol.isOpen : Symbol → Bool
| .phrase .statement | .phrase .query | .phrase .limitClause => true
| _ => false

/- A symbol that an open phrase can be followed by. -/
def Symbol.closes : Symbol → Bool
| .token kind => kind != .comma
| .phrase _ => false

/-
  Among these symbols there is no keyword of a limit, and every
  open phrase that is not the last symbol is closed by the next.
-/
def AreClosed : List Symbol → Bool
| [] => true
| [s] => s != .token .LIMIT
| s :: next :: ss =>
    s != .token .LIMIT && (!s.isOpen || next.closes) &&
      AreClosed (next :: ss)

/- The last of these symbols is an open phrase. -/
def EndOpen : List Symbol → Bool
| [] => false
| [s] => s.isOpen
| _ :: next :: ss => EndOpen (next :: ss)

/- The rules of a limit. -/
def Rule.isLimit (r : Rule) : Bool :=
  r == .limitOnly || r == .limitComma || r == .limitOffset

theorem Rule.areClosed_rhs
    {r : Rule}
    (hRule : r.isLimit = false) :
    AreClosed r.rhs = true ∧
      (EndOpen r.rhs = true → (Symbol.phrase r.lhs).isOpen = true) := by
  cases r <;> first | decide | cases hRule

theorem areClosed_cons
    {s : Symbol}
    {ss : List Symbol}
    (hClosed : AreClosed (s :: ss) = true) :
    s ≠ .token .LIMIT ∧ AreClosed ss = true := by
  cases ss with
  | nil => exact ⟨bne_iff_ne.mp hClosed, rfl⟩
  | cons next ss =>
      simp only [AreClosed, Bool.and_eq_true] at hClosed
      exact ⟨bne_iff_ne.mp hClosed.1.1, hClosed.2⟩

/- After an open phrase among closed symbols there is no comma. -/
theorem noComma_of_areClosed
    {s : Symbol}
    {ss : List Symbol}
    {rest : List Token}
    (tail : Derivations ss)
    (hClosed : AreClosed (s :: ss) = true)
    (hComma : EndOpen (s :: ss) = true → NoComma rest)
    (hOpen : s.isOpen = true) :
    NoComma (tail.tokens ++ rest) := by
  cases tail with
  | nil =>
      rw [Derivations.tokens]
      exact hComma hOpen
  | @cons next ss head tail =>
      simp only [AreClosed, Bool.and_eq_true, hOpen, Bool.not_true,
        Bool.false_or] at hClosed
      rcases hClosed with ⟨⟨_, hCloses⟩, _⟩
      cases next with
      | phrase n => cases hCloses
      | token kind =>
          rcases head.exists_token with ⟨text, hTokens, _⟩
          rw [Derivations.tokens, hTokens]
          rintro _ ⟨⟩
          exact bne_iff_ne.mp hCloses

theorem endOpen_cons
    {s : Symbol}
    {ss : List Symbol}
    (hOpen : EndOpen ss = true) :
    EndOpen (s :: ss) = true := by
  cases ss with
  | nil => cases hOpen
  | cons next ss => exact hOpen

/- The tokens of a limit are exchanged as they are arranged. -/
theorem exchangeLimits_of_isLimit
    {r : Rule}
    {rest : List Token}
    (parts : Derivations r.rhs)
    (hRule : r.isLimit = true)
    (hComma : NoComma rest) :
    exchangeLimits (parts.tokens ++ rest) =
      r.arrange parts.arranged ++ exchangeLimits rest := by
  cases r with
  | limitOnly => exact exchangeLimits_limitOnly parts hComma
  | limitComma => exact exchangeLimits_limitComma parts
  | limitOffset => exact exchangeLimits_limitOffset parts
  | _ => cases hRule

mutual

/-
  With their limits exchanged the tokens of a derivation are
  arranged, if no comma comes after an open phrase.
-/
theorem Derivation.exchangeLimits_tokens :
    ∀ {s : Symbol} (d : Derivation s) {rest : List Token},
      s ≠ .token .LIMIT → (s.isOpen = true → NoComma rest) →
        exchangeLimits (d.tokens ++ rest) =
          d.arranged ++ exchangeLimits rest
| _, .leaf t, rest, hSymbol, _ => by
    have hKind : t.kind ≠ .LIMIT := fun hLimit =>
      hSymbol (congrArg Symbol.token hLimit)
    rw [Derivation.tokens, Derivation.arranged, List.singleton_append,
      exchangeLimits_cons rest hKind, List.singleton_append]
| _, .node r parts, rest, _, hComma => by
    have hParts := @Derivations.exchangeLimits_tokens _ parts rest
    rw [Derivation.tokens, Derivation.arranged]
    cases hRule : r.isLimit with
    | true =>
        have hOpen : (Symbol.phrase r.lhs).isOpen = true := by
          cases r <;> first | rfl | cases hRule
        exact exchangeLimits_of_isLimit parts hRule (hComma hOpen)
    | false =>
        have hOther : r ≠ .limitComma := by
          rintro rfl
          cases hRule
        have hClosed := Rule.areClosed_rhs hRule
        rw [Rule.arrange_eq _ hOther]
        exact hParts hClosed.1 fun hEnd => hComma (hClosed.2 hEnd)
termination_by structural _ d => d

theorem Derivations.exchangeLimits_tokens :
    ∀ {ss : List Symbol} (parts : Derivations ss) {rest : List Token},
      AreClosed ss = true → (EndOpen ss = true → NoComma rest) →
        exchangeLimits (parts.tokens ++ rest) =
          parts.arranged.flatten ++ exchangeLimits rest
| _, .nil, rest, _, _ => by
    rw [Derivations.tokens, Derivations.arranged]
    rfl
| _, .cons head tail, rest, hClosed, hComma => by
    rcases areClosed_cons hClosed with ⟨hSymbol, hRest⟩
    have hTail := tail.exchangeLimits_tokens hRest
      fun hEnd => hComma (endOpen_cons hEnd)
    have hHead := head.exchangeLimits_tokens hSymbol
      (noComma_of_areClosed tail hClosed hComma)
    rw [Derivations.tokens, Derivations.arranged, List.append_assoc,
      hHead, hTail, List.flatten_cons, List.append_assoc]
termination_by structural _ parts => parts

end

------------------------------------------------------------
-- Collected Parameters
------------------------------------------------------------

/- The parameters of a statement are those of its exchanged tokens. -/
theorem parameterList_of_statement
    (d : Derivation (.phrase .statement)) :
    (Node.select d.meaning).parameterList =
      parameters (exchangeLimits d.tokens) := by
  have hNamed : (Node.select d.meaning).parameterList =
      parameters d.arranged := d.isNamed
  have hTokens := @Derivation.exchangeLimits_tokens _ d [] nofun
    fun _ => nofun
  have hNone : exchangeLimits [] = [] := rfl
  rw [hNone, List.append_nil, List.append_nil] at hTokens
  rw [hNamed, hTokens]

/- A template with two parameters in a limit with a comma. -/
def commaLimitTemplate : String :=
  "SELECT x FROM t LIMIT :a, :b"

/- The parameters of such a limit are collected against the text. -/
theorem comma_limit_is_collected_backwards :
    ∃ tree d, parse commaLimitTemplate = .ok tree ∧
      Recognition.derive commaLimitTemplate.toList = .ok d ∧
        Node.distinctNames (parameters d.tokens) = ["a", "b"] ∧
          tree.parameterNames = ["b", "a"] := by
  have hDerived :
      (Recognition.derive commaLimitTemplate.toList).toOption.map
          (fun d => parameters d.tokens) =
        some ["a", "b"] := by
    decide +kernel
  have hParsed :
      parsesTo commaLimitTemplate (fun tree =>
        tree.parameterNames = ["b", "a"]) = true := by
    decide +kernel
  rcases exists_of_parse hParsed with ⟨tree, hParse, hNames⟩
  rcases Option.map_eq_some_iff.mp hDerived with ⟨d, hDerive, hTokens⟩
  refine ⟨tree, d, hParse, eq_ok_of_toOption hDerive, ?_, hNames⟩
  rw [hTokens]
  rfl

/-
  The collected names of a template are the distinct names of the
  parameters among its tokens, each once.  They are in the order
  of their first appearance in the text, with the two values of
  each limit that has a comma exchanged; so without such limits
  they are in the order of the text.
-/
theorem parameters_follow_text
    {sql : String}
    {tree : Node}
    (hParse : parse sql = .ok tree) :
    ∃ d, Recognition.derive sql.toList = .ok d ∧
      Tokenizes sql.toList d.tokens ∧
        tree.parameterNames =
          Node.distinctNames (parameters (exchangeLimits d.tokens)) ∧
        (hasCommaLimit d.tokens = false →
          tree.parameterNames =
            Node.distinctNames (parameters d.tokens)) ∧
        tree.parameterNames.Perm
          (Node.distinctNames (parameters d.tokens)) ∧
        tree.parameterNames.Nodup := by
  rcases exists_derivation_of_parse hParse with ⟨d, hDerive, _, rfl⟩
  have hNames :
      (Node.select d.meaning).parameterNames =
        Node.distinctNames (parameters (exchangeLimits d.tokens)) := by
    rw [Node.parameterNames, parameterList_of_statement]
  refine ⟨d, hDerive, Recognition.tokenizes_of_derive hDerive, hNames,
    ?_, ?_, nodup_distinctNames _⟩
  · intro hNone
    rw [hNames, exchangeLimits_eq hNone]
  · have hTokens := (exchangeLimits_perm d.tokens).filterMap parameter?
    rw [hNames, List.perm_ext_iff_of_nodup (nodup_distinctNames _)
      (nodup_distinctNames _)]
    intro name
    rw [mem_distinctNames, mem_distinctNames]
    exact hTokens.mem_iff

/- A template with parameters in several clauses and a subquery. -/
def scatteredTemplate : String :=
  "SELECT :b, a FROM t JOIN u ON c = :a WHERE d IN (SELECT e FROM v " ++
    "LIMIT :l, :k) AND f = :b ORDER BY :o LIMIT :m OFFSET :n"

/- A template without a comma in its limit. -/
def offsetTemplate : String :=
  "SELECT a FROM t WHERE b BETWEEN :x AND :y LIMIT :m OFFSET :x"

theorem parameters_follow_text_of_scattered :
    (∃ tree d, parse scatteredTemplate = .ok tree ∧
        Recognition.derive scatteredTemplate.toList = .ok d ∧
          parameters d.tokens = ["b", "a", "l", "k", "b", "o", "m", "n"] ∧
            tree.parameterNames = ["b", "a", "k", "l", "o", "m", "n"]) ∧
      ∃ tree d, parse offsetTemplate = .ok tree ∧
        Recognition.derive offsetTemplate.toList = .ok d ∧
          hasCommaLimit d.tokens = false ∧
            parameters d.tokens = ["x", "y", "m", "x"] ∧
              tree.parameterNames = ["x", "y", "m"] := by
  constructor
  · have hDerived :
        (Recognition.derive scatteredTemplate.toList).toOption.map
            (fun d => (parameters d.tokens,
              parameters (exchangeLimits d.tokens))) =
          some (["b", "a", "l", "k", "b", "o", "m", "n"],
            ["b", "a", "k", "l", "b", "o", "m", "n"]) := by
      decide +kernel
    have hParsed : parsesTo scatteredTemplate (fun _ => True) = true := by
      decide +kernel
    rcases exists_of_parse hParsed with ⟨tree, hParse, _⟩
    rcases parameters_follow_text hParse with ⟨d, hDerive, _, hNames, _⟩
    rw [hDerive] at hDerived
    rcases Prod.mk.inj (Option.some.inj hDerived) with ⟨hText, hSlots⟩
    refine ⟨tree, d, hParse, hDerive, hText, ?_⟩
    rw [hNames, hSlots]
    decide
  · have hDerived :
        (Recognition.derive offsetTemplate.toList).toOption.map
            (fun d => (hasCommaLimit d.tokens, parameters d.tokens)) =
          some (false, ["x", "y", "m", "x"]) := by
      decide +kernel
    have hParsed : parsesTo offsetTemplate (fun _ => True) = true := by
      decide +kernel
    rcases exists_of_parse hParsed with ⟨tree, hParse, _⟩
    rcases parameters_follow_text hParse with
      ⟨d, hDerive, _, _, hOrdered, _⟩
    rw [hDerive] at hDerived
    rcases Prod.mk.inj (Option.some.inj hDerived) with ⟨hNone, hText⟩
    refine ⟨tree, d, hParse, hDerive, hNone, hText, ?_⟩
    rw [hOrdered hNone, hText]
    decide

end SqlTemplate
