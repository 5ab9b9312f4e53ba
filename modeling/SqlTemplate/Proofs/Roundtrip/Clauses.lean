import SqlTemplate.Proofs.Roundtrip.Literals
import SqlTemplate.Proofs.Roundtrip.Operands
import SqlTemplate.Proofs.Rendering.Limits

/-
  The parts of queries in texts: columns with and without an
  alias, sort keys, tables and subqueries to select from, and
  limits.

  Key definitions include:
    * `labelChars`
  Correctness is proven by:
    * `gives_star`
    * `readBack_alias`
    * `readBack_orderBy`
    * `readBack_table`
    * `readBack_derived`
    * `denotes_limits`
-/

------------------------------------------------------------
-- Columns
------------------------------------------------------------

namespace SqlTemplate

variable {ctx : RenderContext} {P : List Char → Node → Prop}

/- A star is read back as the columns that it stands for. -/
theorem gives_star
    {n : Node}
    {depth : Nat}
    {indent : Int}
    (hStar : n.IsStar ctx.dialect) :
    Rendered.Gives (fun cs => Denotes none (.phrase .column) cs n)
      (n.render ctx depth indent) := by
  apply gives_node
  intro hDeep text hRender
  unfold Node.IsStar at hStar
  split at hStar
  next name owner =>
    rcases hStar with ⟨rfl, hKeeps⟩
    cases owner with
    | none =>
        cases render_star hRender
        exact ⟨"*", rfl, by decide,
          .of_rule .allColumns rfl (.only (.mark rfl) nofun)⟩
    | some owner =>
        rw [Node.render.eq_def, hDeep] at hRender
        rcases map_eq_ok.mp hRender with ⟨s, hName, rfl⟩
        have hMember : some "*" ∈ [none, some owner, some "*"] := by simp
        refine ⟨s, rfl,
          RenderContext.qualified_ne_empty hMember hName, ?_⟩
        rcases map_eq_ok.mp hName with ⟨texts, hTexts, rfl⟩
        rcases forall₂_of_mapM hTexts with
          _ | @⟨_, t, _, _, hOwner, _ | ⟨hStar, _ | _⟩⟩
        cases hStar
        have hOwner := Token.Names.of_keeps
          (hKeeps (some owner) (by simp) owner rfl) (mapError_eq_ok.mp hOwner)
        have hColumn :
            Denotes none (.phrase .column) (t.toList ++ '.' :: ['*'])
              (Node.column "*" (some (Token.nameOf t.toList)) none) :=
          .of_rule .allOfTable rfl
            (.nameBefore hOwner (by decide) (.mark rfl (by decide)
              (.mark rfl (by decide) .nil)))
        rw [hOwner.denotes] at hColumn
        simpa [toList_intercalate_cons] using hColumn
  next => exact hStar.elim

/- A name after a keyword, as it stands behind what it is for. -/
theorem gives_name
    {name : String}
    (hKeeps : ctx.dialect.KeepsName name) :
    Rendered.Gives (Token.Names · name) ((ctx.name name).map some) := by
  intro text hText
  rcases map_eq_ok.mp hText with ⟨s, hName, rfl⟩
  exact ⟨s, rfl, RenderContext.ne_empty_of_name hName,
    .of_keeps hKeeps (mapError_eq_ok.mp hName)⟩

/- A column with an alias is read back. -/
theorem readBack_alias
    {n : Node}
    {label : String}
    (hNode : n.ReadBack ctx
      (Denotes none (.phrase .expr))) :
    (Node.alias (.one n) label).ReadBack ctx
      (Denotes none (.phrase .column)) := by
  rintro ⟨hKeeps, hLegible⟩ depth indent
  apply gives_node
  intro hDeep
  rw [Node.render.eq_def, hDeep]
  apply gives_pair (gives_slot (hNode hLegible _ _)) (gives_name hKeeps)
  · intro s t hNotEmpty
    exact append_ne_empty_left _ (append_ne_empty_left _ hNotEmpty)
  · intro s t hExpr hName
    have hColumn :
        Denotes none (.phrase .column)
          (s.toList ++ ' ' :: ("AS".toList ++ ' ' :: t.toList))
          (Node.alias (.one n) (Token.nameOf t.toList)) :=
      .of_rule .columnAs rfl
        (.spaced hExpr (.word (by decide) (.lastName hName)))
    rw [hName.denotes] at hColumn
    simpa [String.toList_append] using hColumn

------------------------------------------------------------
-- Sort Keys
------------------------------------------------------------

/- A sort key is read back, with its direction if it has one. -/
theorem readBack_orderBy
    {n : Node}
    {direction : Option String}
    (hDirection : ∀ word ∈ direction, word ∈ sortDirections)
    (hNode : n.ReadBack ctx
      (Denotes none (.phrase .expr))) :
    (Node.orderBy (.one n) direction).ReadBack ctx
      (Denotes none (.phrase .orderKey)) := by
  intro hLegible depth indent
  apply gives_node
  intro hDeep
  rw [Node.render.eq_def, hDeep]
  apply gives_map (f := (orderText · direction))
    (gives_slot (hNode hLegible _ _))
  · intro s hNotEmpty
    unfold orderText
    split
    · exact append_ne_empty_left _ (append_ne_empty_left _ hNotEmpty)
    · exact hNotEmpty
  · intro s hExpr
    cases direction with
    | none => exact .of_rule .plainKey rfl (.last hExpr)
    | some word =>
        have hWords :
            ∀ word ∈ sortDirections,
              Token.keyword? word.toList = some .direction ∧
                word.toList.all Text.isWord = true ∧
                  Text.upper word = word ∧ present word = some word := by
          decide
        rcases hWords word (hDirection word rfl) with
          ⟨hKeyword, hWord, hUpper, hPresent⟩
        have hKey :
            Denotes none (.phrase .orderKey)
              (s.toList ++ ' ' :: word.toList)
              (Node.orderBy (.one n)
                (some (Text.upper (String.ofList word.toList)))) :=
          .of_rule .directedKey rfl
            (.spaced hExpr (.lastWord ⟨hKeyword, hWord⟩))
        rw [String.ofList_toList, hUpper] at hKey
        rw [orderText, Option.bind_some, hPresent]
        dsimp only
        rw [hUpper]
        simpa [String.toList_append] using hKey

------------------------------------------------------------
-- Tables
------------------------------------------------------------

/- An alias after what it is for, if there is one. -/
def labelChars (label : Option String) : List Char :=
  label.elim [] fun s => ' ' :: ("AS".toList ++ ' ' :: s.toList)

/- The text of an alias is its token, or there is none. -/
theorem names_of_name?
    {label found : Option String}
    (hKeeps : ctx.dialect.KeepsNames [label])
    (hFound : ctx.name? label = .ok found) :
    (label = none ∧ found = none) ∨
      ∃ name s, label = some name ∧ found = some s ∧
        Token.Names s.toList name := by
  cases label with
  | none =>
      cases hFound
      exact .inl ⟨rfl, rfl⟩
  | some name =>
      have hKept := hKeeps (some name) (List.mem_singleton_self _) name rfl
      have hPresent : present name = some name := by
        apply present_of_ne_empty
        rintro rfl
        rcases hKept with ⟨_, text, hText, _⟩
        cases hText
      unfold RenderContext.name? at hFound
      rw [Option.bind_some, hPresent] at hFound
      rcases gives_name hKept found hFound with ⟨s, rfl, _, hNames⟩
      exact .inr ⟨name, s, rfl, rfl, hNames⟩

/- A table is denoted by its name and its alias. -/
theorem Denotes.table
    {t : TableName}
    {text : String}
    {label : Option String}
    (hKeeps : ctx.dialect.KeepsNames [t.database, some t.name, t.label])
    (hText : ctx.qualified [t.database, some t.name] = .ok text)
    (hLabel : ctx.name? t.label = .ok label) :
    Denotes none (.phrase .table) (text.toList ++ labelChars label) t := by
  rcases t with ⟨own, given, database⟩
  have hNames : ctx.dialect.KeepsNames [database, some own] :=
    fun name hMember => hKeeps name (List.mem_append_left [given] hMember)
  have hAlias : ctx.dialect.KeepsNames [given] :=
    fun name hMember =>
      hKeeps name (List.mem_append_right [database, some own] hMember)
  have hTable :
      Denotes none (.phrase .tableName) text.toList (database, own) := by
    rcases exists_of_qualified hNames hText with ⟨texts, rfl, hTexts⟩
    cases database with
    | none =>
        rcases hTexts with _ | @⟨_, s, _, _, hOwn, _ | _⟩
        have hShort :
            Denotes none (.phrase .tableName) s.toList
              ((none : Option String), Token.nameOf s.toList) :=
          .of_rule .shortTable rfl
            (.lastName hOwn)
        rw [hOwn.denotes] at hShort
        exact hShort
    | some database =>
        rcases hTexts with
          _ | @⟨_, s, _, _, hDatabase, _ | @⟨_, s', _, _, hOwn, _ | _⟩⟩
        have hLong :
            Denotes none (.phrase .tableName)
              (s.toList ++ '.' :: s'.toList)
              (some (Token.nameOf s.toList), Token.nameOf s'.toList) :=
          .of_rule .longTable rfl
            (.nameBefore hDatabase (by decide) (.mark rfl (by decide)
              (.lastName hOwn)))
        rw [hDatabase.denotes, hOwn.denotes] at hLong
        simpa [toList_intercalate_cons] using hLong
  rcases names_of_name? hAlias hLabel with
    ⟨rfl, rfl⟩ | ⟨name, s, rfl, rfl, hName⟩
  · rw [labelChars, Option.elim_none, List.append_nil]
    exact .of_rule .plainTable rfl (.last hTable)
  · have hLabeled :
        Denotes none (.phrase .table)
          (text.toList ++ labelChars (some s))
          (TableName.mk own (some (Token.nameOf s.toList)) database) :=
      .of_rule .tableAs rfl
        (.spaced hTable (.word (by decide) (.lastName hName)))
    rw [hName.denotes] at hLabeled
    exact hLabeled

/- The words of a kind of join denote it. -/
theorem Denotes.joinKind
    {words : String}
    (hKind : words ∈ joinKinds) :
    Denotes none (.phrase .joinKind) words.toList words := by
  have hJoin :
      ∀ {f : Meanings String [.token .JOIN]},
        DenotesAll none [.token .JOIN] f "JOIN".toList (f "JOIN".toList) :=
    .lastWord (by decide)
  simp only [joinKinds, List.mem_cons, List.not_mem_nil, or_false] at hKind
  rcases hKind with rfl | rfl | rfl | rfl | rfl
  · exact .of_rule .plainJoin rfl hJoin
  · change Denotes none _ ("INNER".toList ++ ' ' :: "JOIN".toList) _
    exact .of_rule .innerJoin rfl
      (.word (by decide) hJoin)
  · change Denotes none _ ("LEFT".toList ++ ' ' :: "JOIN".toList) _
    exact .of_rule .leftJoin rfl
      (.word (by decide) hJoin)
  · change Denotes none _ ("RIGHT".toList ++ ' ' :: "JOIN".toList) _
    exact .of_rule .rightJoin rfl
      (.word (by decide) hJoin)
  · change Denotes none _ ("CROSS".toList ++ ' ' :: "JOIN".toList) _
    exact .of_rule .crossJoin rfl
      (.word (by decide) hJoin)

/- A table is written from the texts of its parts. -/
/- A table is written with its own name. -/
theorem TableName.name_mem
    (t : TableName) : some t.name ∈ [t.database, some t.name] :=
  List.mem_cons_of_mem _ (List.mem_singleton_self _)

theorem exists_of_table
    {t : TableName}
    {join : Option String}
    {condition : Slot Node}
    {depth : Nat}
    {indent : Int}
    {text : Option String}
    (hRender :
      (t.node join condition).render ctx depth indent = .ok text) :
    ∃ name label conditionText,
      ctx.qualified [t.database, some t.name] = .ok name ∧
        ctx.name? t.label = .ok label ∧
          Node.renderSlot ctx (depth + 1) indent " " condition =
              .ok conditionText ∧
            text = some (tableText join name label conditionText) ∧
              tableText join name label conditionText ≠ "" := by
  have hDeep := not_tooDeep_of_render hRender
  rw [TableName.node, Node.render.eq_def, hDeep] at hRender
  rcases bind_eq_ok.mp hRender with ⟨name, hName, hRender⟩
  rcases bind_eq_ok.mp hRender with ⟨label, hLabel, hRender⟩
  rcases bind_eq_ok.mp hRender with ⟨conditionText, hCondition, hText⟩
  cases hText
  exact ⟨name, label, conditionText, hName, hLabel, hCondition, rfl,
    tableText_ne_empty _ _ _
      (RenderContext.qualified_ne_empty t.name_mem hName)⟩

theorem tableText_toList
    (name : String)
    (label : Option String) :
    (tableText none name label none).toList =
      name.toList ++ labelChars label := by
  cases label <;>
    simp [tableText, labelChars, String.toList_append]

theorem joinedText_toList
    {words : String}
    (hWords : words ≠ "")
    (name : String)
    (label condition : Option String) :
    (tableText (some words) name label condition).toList =
      words.toList ++ ' ' :: (name.toList ++ (labelChars label ++
        condition.elim [] fun s =>
          ' ' :: ("ON".toList ++ ' ' :: s.toList))) := by
  have hPresent := present_of_ne_empty hWords
  cases label <;> cases condition <;>
    simp [tableText, labelChars, hPresent, String.toList_append]

theorem joinKinds_ne_empty
    {words : String}
    (hKind : words ∈ joinKinds) :
    words ≠ "" := by
  rintro rfl
  revert hKind
  decide

/- A table that is selected from is read back. -/
theorem readBack_table
    (t : TableName) :
    (t.node none .vacant).ReadBack ctx
      (Denotes none (.phrase .source)) := by
  rintro ⟨hKeeps, _⟩ depth indent text hRender
  rcases exists_of_table hRender with
    ⟨name, label, conditionText, hName, hLabel, hNone, rfl, hPresent⟩
  cases hNone
  refine ⟨_, rfl, hPresent, ?_⟩
  rw [tableText_toList]
  exact .of_rule .tableSource rfl (.last (.table hKeeps hName hLabel))

/- A table that is joined to others is read back. -/
theorem readBack_joined
    (t : TableName)
    {words : String}
    (hKind : words ∈ joinKinds) :
    (t.node (some words) .vacant).ReadBack ctx
      (Denotes none (.phrase .join)) := by
  rintro ⟨hKeeps, _⟩ depth indent text hRender
  rcases exists_of_table hRender with
    ⟨name, label, conditionText, hName, hLabel, hNone, rfl, hPresent⟩
  cases hNone
  refine ⟨_, rfl, hPresent, ?_⟩
  have hTable := Denotes.table hKeeps hName hLabel
  rw [joinedText_toList (joinKinds_ne_empty hKind), Option.elim_none,
    List.append_nil]
  exact .of_rule .joinTable rfl
    (.spaced (.joinKind hKind) (.last hTable))

/- A table that is joined to others on a condition is read back. -/
theorem readBack_joinedOn
    (t : TableName)
    {words : String}
    {n : Node}
    (hKind : words ∈ joinKinds)
    (hNode : n.ReadBack ctx
      (Denotes none (.phrase .expr))) :
    (t.node (some words) (.one n)).ReadBack ctx
      (Denotes none (.phrase .join)) := by
  rintro ⟨hKeeps, hLegible⟩ depth indent text hRender
  rcases exists_of_table hRender with
    ⟨name, label, conditionText, hName, hLabel, hCondition, rfl, hPresent⟩
  rcases gives_slot (hNode hLegible _ _) _ hCondition with
    ⟨s, rfl, _, hExpr⟩
  refine ⟨_, rfl, hPresent, ?_⟩
  have hTable := Denotes.table hKeeps hName hLabel
  have hJoin :
      Denotes none (.phrase .join)
        (words.toList ++ ' ' :: ((name.toList ++ labelChars label) ++
          ' ' :: ("ON".toList ++ ' ' :: s.toList)))
        (t.node (some words) (.one n)) :=
    .of_rule .joinTableOn rfl
      (.spaced (.joinKind hKind)
        (.spaced hTable (.word (by decide) (.last hExpr))))
  rw [joinedText_toList (joinKinds_ne_empty hKind), Option.elim_some,
    ← List.append_assoc]
  exact hJoin

/- A subquery that is selected from is read back with its alias. -/
theorem readBack_derived
    {q : Query Node}
    {label : String}
    (hQuery : q.ReadBack ctx) :
    (Node.subquery (.one (.select q)) (some label)).ReadBack ctx
      (Denotes none (.phrase .source)) := by
  rintro ⟨hKeeps, hLegible⟩ depth indent
  apply gives_node
  intro hDeep text hRender
  rw [Node.render.eq_def, hDeep] at hRender
  rcases bind_eq_ok.mp hRender with ⟨s, hInner, hRender⟩
  rcases bind_eq_ok.mp hRender with ⟨found, hLabel, hText⟩
  cases hText
  refine ⟨_, rfl,
    append_ne_empty_left _ (append_ne_empty_right _ (by decide)), ?_⟩
  have hInner := hQuery hLegible _ _ _ hInner
  rcases names_of_name? hKeeps hLabel with
    ⟨hNone, _⟩ | ⟨name, t, hSome, rfl, hName⟩
  · cases hNone
  · cases hSome
    have hSource :
        Denotes none (.phrase .source)
          ('(' :: (s.toList ++ ')' :: ' ' :: ("AS".toList ++ ' ' :: t.toList)))
          (Node.subquery (.one (.select q)) (some (Token.nameOf t.toList))) :=
      .of_rule .derivedAs rfl
        (.mark rfl (by decide) (.cons hInner (.mark rfl (by decide)
          (.blank rfl (.word (by decide) (.lastName hName)))) rfl))
    rw [hName.denotes] at hSource
    simpa [subqueryText, String.toList_append] using hSource

------------------------------------------------------------
-- Limits
------------------------------------------------------------

/- A whole number is a limit if it can be selected. -/
theorem denotes_limitValue
    {d : Dialect}
    {k : Nat}
    (hKeeps : d.KeepsLiteral (.int k)) :
    Denotes none (.phrase .limitValue) (Digits.decimal k)
      (Node.literal (.int k)) := by
  have hSpelling := spelling_decimal k
  have hSigned :
      Denotes (numberError? (Digits.decimal k)) (.phrase .signed)
        (Digits.decimal k)
        (Node.literal (Token.numberOf (Digits.decimal k))) :=
    .of_rule .atomExpr rfl (.last (.number hSpelling))
  rcases hSigned.eq_of_selected (parseChars_of_keeps hKeeps rfl) with
    ⟨hError, hValue⟩
  have hPoint := point_not_mem_decimal k
  have hLimit : limitError? (Digits.decimal k) = none := by
    apply limitError?_eq_none (t := ⟨.number, Digits.decimal k⟩) rfl _ hPoint
    intro _ _
    apply Nat.le_of_not_lt
    intro hLength
    rw [numberError?,
      if_neg fun hFound => hPoint (List.contains_iff_mem.mp hFound),
      wholeError?, if_pos hLength] at hError
    cases hError
  have hDenotes := Denotes.limitNumber hSpelling
  rw [hLimit, hValue] at hDenotes
  exact hDenotes

/- A limit that is legible is left out or a whole number. -/
theorem limit_cases
    {slot : Slot Node}
    {depth : Nat}
    {indent : Int}
    {text : Option String}
    (hLimit : slot.IsLimit)
    (hLegible : slot.Legible ctx.dialect)
    (hText : Node.renderSlot ctx depth indent " " slot = .ok text) :
    (slot = .vacant ∧ ctx.resolve slot text = none) ∨
      ∃ k : Nat, slot = .one (.literal (.int k)) ∧
        ctx.resolve slot text = some (String.ofList (Digits.decimal k)) ∧
          Denotes none (.phrase .limitValue) (Digits.decimal k)
            (Node.literal (.int k)) := by
  unfold Slot.IsLimit at hLimit
  split at hLimit
  next =>
    cases hText
    exact .inl ⟨rfl, rfl⟩
  next n =>
    obtain ⟨k, rfl⟩ := Int.eq_ofNat_of_zero_le hLimit
    right
    have hSome : text = some (String.ofList (Digits.decimal k)) := by
      rw [Node.renderSlot] at hText
      rcases map_eq_ok.mp hText with ⟨nodeText, hNode, rfl⟩
      have hDeep := not_tooDeep_of_render hNode
      rw [Node.render.eq_def, hDeep] at hNode
      cases hNode
      rw [Option.bind_some]
      exact present_of_ne_empty (ofList_ne_empty (decimal_ne_nil k))
    refine ⟨k, rfl, ?_, denotes_limitValue hLegible⟩
    subst hSome
    cases hInline : ctx.inline with
    | true =>
        have hDigit := (isDigits_textInt (Int.natCast_nonneg k)).startsWithDigit
        apply resolve_eq _ hInline
        intro s hSame
        cases hSame
        exact hDigit
    | false =>
        simp [RenderContext.resolve, hInline]
  next => exact hLegible.elim
  next => exact hLimit.elim

/- The limits of a query are denoted by their line, if there is one. -/
theorem denotes_limits
    {limit offset : Slot Node}
    {depth : Nat}
    {indent : Int}
    {limitText offsetText line : Option String}
    (hLimit : limit.IsLimit)
    (hOffset : offset.IsLimit)
    (hLegible : limit.Legible ctx.dialect ∧ offset.Legible ctx.dialect)
    (hLimitText :
      Node.renderSlot ctx depth indent " " limit = .ok limitText)
    (hOffsetText :
      Node.renderSlot ctx depth indent " " offset = .ok offsetText)
    (hLine :
      ctx.limitLine (ctx.resolve limit limitText)
        (ctx.resolve offset offsetText) = .ok line) :
    Denotes none (.phrase .limitClause) (line.elim [] String.toList)
      (limit, offset) := by
  rcases limit_cases hLimit hLegible.1 hLimitText with
    ⟨rfl, hNoLimit⟩ | ⟨k, rfl, hResolved, hDenotes⟩
  · rcases limit_cases hOffset hLegible.2 hOffsetText with
      ⟨rfl, hNoOffset⟩ | ⟨k, rfl, hResolved, _⟩
    · rw [hNoLimit, hNoOffset] at hLine
      cases hLine
      exact .of_rule .noLimit rfl .nil
    · rw [hNoLimit, hResolved] at hLine
      cases hLine
  · rcases limit_cases hOffset hLegible.2 hOffsetText with
      ⟨rfl, hNoOffset⟩ | ⟨k', rfl, hResolved', hDenotes'⟩
    · rw [hResolved, hNoOffset] at hLine
      cases hLine
      have hClause :
          Denotes none (.phrase .limitClause)
            ("LIMIT".toList ++ ' ' :: Digits.decimal k)
            ((.one (.literal (.int k)), .vacant) : Slot Node × Slot Node) :=
        .of_rule .limitOnly rfl
          (.word (by decide) (.last hDenotes))
      simpa [Dialect.limitLine, String.toList_append] using hClause
    · rw [hResolved, hResolved'] at hLine
      cases hLine
      have hComma :
          Denotes none (.phrase .limitClause)
            ("LIMIT".toList ++ ' ' ::
              (Digits.decimal k' ++ ',' :: ' ' :: Digits.decimal k))
            ((.one (.literal (.int k)), .one (.literal (.int k'))) :
              Slot Node × Slot Node) :=
        .of_rule .limitComma rfl
          (.word (by decide)
            (.cons hDenotes'
              (.mark rfl (by decide) (.blank rfl (.last hDenotes))) rfl))
      have hWord :
          Denotes none (.phrase .limitClause)
            ("LIMIT".toList ++ ' ' ::
              (Digits.decimal k ++ ' ' ::
                ("OFFSET".toList ++ ' ' :: Digits.decimal k')))
            ((.one (.literal (.int k)), .one (.literal (.int k'))) :
              Slot Node × Slot Node) :=
        .of_rule .limitOffset rfl
          (.word (by decide)
            (.spaced hDenotes (.word (by decide) (.last hDenotes'))))
      cases ctx.dialect with
      | mysql | sqlite =>
          simpa [Dialect.limitLine, String.toList_append] using hComma
      | postgresql | duckdb =>
          simpa [Dialect.limitLine, String.toList_append] using hWord

end SqlTemplate
