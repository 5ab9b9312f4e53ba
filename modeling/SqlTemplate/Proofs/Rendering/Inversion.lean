import SqlTemplate.Proofs.Rendering.Presence

/-
  What a written form is made of.  A fragment that is written
  lies at an allowed depth and has its parts written; a query
  is written from the texts of its slots and the line of its
  limit.

  Key definitions include:
    * `QueryTexts`
    * `Query.HasTexts`
    * `Query.written`

  Correctness is proven by:
    * `not_tooDeep_of_render`
    * `pair_eq_ok`
    * `range_eq_ok`
    * `renderMembers_some_eq_ok`
    * `renderQuery_eq_ok`
    * `renderQuery_ne_empty`
-/

------------------------------------------------------------
-- Fragments
------------------------------------------------------------

namespace SqlTemplate

theorem not_tooDeep_of_render
    {ctx : RenderContext}
    {n : Node}
    {depth : Nat}
    {indent : Int}
    {text : Option String}
    (hRender : n.render ctx depth indent = .ok text) :
    ctx.isTooDeep depth = false := by
  cases hDeep : ctx.isTooDeep depth with
  | false => rfl
  | true =>
      rw [Node.render.eq_def, if_pos hDeep] at hRender
      cases hRender

/- A whole number that is written consists of its digits. -/
theorem eq_textInt_of_renderSlot
    {ctx : RenderContext}
    {depth : Nat}
    {indent value : Int}
    {separator s : String}
    (hRender :
      Node.renderSlot ctx depth indent separator
        (.one (.literal (.int value))) = .ok (some s)) :
    s = Digits.textInt value := by
  rw [Node.renderSlot] at hRender
  rcases map_eq_ok.mp hRender with ⟨nodeText, hText, hPresent⟩
  have hDeep := not_tooDeep_of_render hText
  simp only [Node.render, hDeep, Bool.false_eq_true, if_false] at hText
  cases hText
  exact (Option.some.inj (eq_some_of_present hPresent).1).symm

theorem pair_eq_ok
    {first second : Rendered}
    {f : String → String → String}
    {text : Option String}
    (hPair : Rendered.pair first second f = .ok text) :
    (first = .ok none ∧ text = none) ∨
      ∃ s, first = .ok (some s) ∧
        ∃ other, second = .ok other ∧ text = other.map (f s) := by
  unfold Rendered.pair at hPair
  split at hPair
  · cases hPair
  · cases hPair
    exact .inl ⟨rfl, rfl⟩
  · cases hPair
  · cases hPair
    exact .inr ⟨_, rfl, _, rfl, rfl⟩
  · cases hPair
    exact .inr ⟨_, rfl, _, rfl, rfl⟩

theorem range_eq_ok
    {operand low high : Rendered}
    {text : Option String}
    (hRange : Rendered.range operand low high = .ok text) :
    (operand = .ok none ∧ text = none) ∨
      ∃ s lowText highText, operand = .ok (some s) ∧
        low = .ok lowText ∧ high = .ok highText ∧
          text = betweenText s lowText highText := by
  unfold Rendered.range at hRange
  split at hRange
  · cases hRange
  · cases hRange
    exact .inl ⟨rfl, rfl⟩
  · rcases bind_eq_ok.mp hRange with ⟨lowText, hLow, hRest⟩
    rcases bind_eq_ok.mp hRest with ⟨highText, hHigh, hText⟩
    cases hText
    exact .inr ⟨_, _, _, rfl, hLow, hHigh, rfl⟩

theorem grouped_eq_ok
    {c : RenderContext}
    {depth : Nat}
    {text : Rendered}
    {s : Option String}
    (hGrouped : c.grouped depth text = .ok s) :
    c.isTooDeep depth = false ∧
      ∃ t, text = .ok t ∧ t.map (enclose true) = s := by
  unfold RenderContext.grouped at hGrouped
  split at hGrouped
  next => cases hGrouped
  next hDeep =>
    exact ⟨eq_false_of_ne_true hDeep, map_eq_ok.mp hGrouped⟩

/- The texts of a list that starts with a member. -/
theorem renderMembers_some_eq_ok
    {c : RenderContext}
    {depth : Nat}
    {indent : Int}
    {n : Node}
    {members : List (Option Node)}
    {texts : List String} :
    Node.renderMembers c depth indent (some n :: members) = .ok texts ↔
      ∃ text others, n.render c depth indent = .ok text ∧
        Node.renderMembers c depth indent members = .ok others ∧
          (text.bind present).toList ++ others = texts := by
  rw [Node.renderMembers, bind_eq_ok]
  constructor
  · rintro ⟨text, hText, hRest⟩
    rcases bind_eq_ok.mp hRest with ⟨others, hOthers, hTexts⟩
    exact ⟨text, others, hText, hOthers, Except.ok.inj hTexts⟩
  · rintro ⟨text, others, hText, hOthers, rfl⟩
    exact ⟨text, hText, bind_eq_ok.mpr ⟨others, hOthers, rfl⟩⟩

theorem eq_vacant
    {slot : Slot Node}
    (hVacant : slot.isVacant = true) :
    slot = .vacant := by
  cases slot <;> first | rfl | cases hVacant

------------------------------------------------------------
-- Texts of the Slots
------------------------------------------------------------

/- The texts of the slots of a query. -/
structure QueryTexts where
  columns : Option String
  source : Option String
  filter : Option String
  groups : Option String
  having : Option String
  order : Option String
  limit : Option String
  offset : Option String

namespace Query

/- The slots of a query at the given depth have these texts. -/
structure HasTexts
    (c : RenderContext)
    (depth : Nat)
    (indent : Int)
    (query : Query Node)
    (texts : QueryTexts) : Prop where
  columns :
    Node.renderSlot c (depth + 1) indent ", " query.columns =
      .ok texts.columns
  source :
    Node.renderSlot c (depth + 1) indent " " query.source =
      .ok texts.source
  filter :
    Node.renderSlot c (depth + 1) indent " " query.filter =
      .ok texts.filter
  groups :
    Node.renderSlot c (depth + 1) indent ", " query.groups =
      .ok texts.groups
  having :
    Node.renderSlot c (depth + 1) indent " " query.having =
      .ok texts.having
  order :
    Node.renderSlot c (depth + 1) indent ", " query.order =
      .ok texts.order
  limit :
    Node.renderSlot c (depth + 1) indent " " query.limit =
      .ok texts.limit
  offset :
    Node.renderSlot c (depth + 1) indent " " query.offset =
      .ok texts.offset

/- The text of a query, from the texts of its slots. -/
def written
    (query : Query Node)
    (indent : Int)
    (texts : QueryTexts)
    (line : Option String) : String :=
  layLines indent
    (queryLines query.distinct query.options texts.columns
      [("FROM", texts.source), ("WHERE", texts.filter),
        ("GROUP BY", texts.groups), ("HAVING", texts.having),
        ("ORDER BY", texts.order)]
      line)

end Query

------------------------------------------------------------
-- Written Queries
------------------------------------------------------------

variable {c : RenderContext} {depth : Nat} {indent : Int}

/- A query is written if its slots are and its limit is in order. -/
theorem renderQuery_eq_ok
    {query : Query Node}
    {s : String} :
    Node.renderQuery c depth indent query = .ok s ↔
      (query.limit.isVacant && !query.offset.isVacant) = false ∧
        ∃ texts line, query.HasTexts c depth indent texts ∧
          c.limitLine (c.resolve query.limit texts.limit)
            (c.resolve query.offset texts.offset) = .ok line ∧
              query.written indent texts line = s := by
  rcases query with ⟨columns, source, filter, groups, having, order,
    limit, offset, distinct, options⟩
  rw [Node.renderQuery]
  constructor
  · intro hQuery
    split at hQuery
    next => cases hQuery
    next hAlone =>
      refine ⟨eq_false_of_ne_true hAlone, ?_⟩
      rcases bind_eq_ok.mp hQuery with ⟨columnsText, hColumns, hQuery⟩
      rcases bind_eq_ok.mp hQuery with ⟨sourceText, hSource, hQuery⟩
      rcases bind_eq_ok.mp hQuery with ⟨filterText, hFilter, hQuery⟩
      rcases bind_eq_ok.mp hQuery with ⟨groupsText, hGroups, hQuery⟩
      rcases bind_eq_ok.mp hQuery with ⟨havingText, hHaving, hQuery⟩
      rcases bind_eq_ok.mp hQuery with ⟨orderText, hOrder, hQuery⟩
      rcases bind_eq_ok.mp hQuery with ⟨limitText, hLimit, hQuery⟩
      rcases bind_eq_ok.mp hQuery with ⟨offsetText, hOffset, hQuery⟩
      rcases bind_eq_ok.mp hQuery with ⟨line, hLine, hText⟩
      cases hText
      exact ⟨⟨columnsText, sourceText, filterText, groupsText, havingText,
        orderText, limitText, offsetText⟩, line,
        ⟨hColumns, hSource, hFilter, hGroups, hHaving, hOrder, hLimit,
          hOffset⟩, hLine, rfl⟩
  · rintro ⟨hAlone, texts, line, hTexts, hLine, rfl⟩
    rw [if_neg (ne_true_of_eq_false hAlone)]
    refine bind_eq_ok.mpr ⟨_, hTexts.columns, ?_⟩
    refine bind_eq_ok.mpr ⟨_, hTexts.source, ?_⟩
    refine bind_eq_ok.mpr ⟨_, hTexts.filter, ?_⟩
    refine bind_eq_ok.mpr ⟨_, hTexts.groups, ?_⟩
    refine bind_eq_ok.mpr ⟨_, hTexts.having, ?_⟩
    refine bind_eq_ok.mpr ⟨_, hTexts.order, ?_⟩
    refine bind_eq_ok.mpr ⟨_, hTexts.limit, ?_⟩
    refine bind_eq_ok.mpr ⟨_, hTexts.offset, ?_⟩
    exact bind_eq_ok.mpr ⟨line, hLine, rfl⟩

/- The first line of a query starts with a word. -/
theorem queryLines_head
    (distinct : Bool)
    (options : List String)
    (columns : Option String)
    (clauses : List (String × Option String))
    (limit : Option String) :
    ∃ words lines,
      queryLines distinct options columns clauses limit =
        " ".intercalate ("SELECT" :: words) :: lines := by
  unfold queryLines
  dsimp only
  split
  · exact ⟨_, _, rfl⟩
  · exact ⟨_, _, rfl⟩

theorem written_ne_empty
    (query : Query Node)
    (indent : Int)
    (texts : QueryTexts)
    (line : Option String) :
    query.written indent texts line ≠ "" := by
  unfold Query.written layLines
  rcases queryLines_head query.distinct query.options texts.columns _ line
    with ⟨words, lines, hLines⟩
  rw [hLines]
  apply intercalate_ne_empty_of_mem _ (List.mem_cons_self ..)
  exact intercalate_ne_empty_of_mem _ (List.mem_cons_self ..) (by decide)

theorem renderQuery_ne_empty
    {query : Query Node}
    {s : String}
    (hQuery : Node.renderQuery c depth indent query = .ok s) :
    s ≠ "" := by
  rcases renderQuery_eq_ok.mp hQuery with ⟨_, texts, line, _, _, rfl⟩
  exact written_ne_empty query indent texts line

/- In a slot a query has the text that it has on its own. -/
theorem renderSlot_select
    {separator s : String}
    {query : Query Node}
    (hDeep : c.isTooDeep depth = false)
    (hText : s ≠ "") :
    Node.renderSlot c depth indent separator (.one (.select query)) =
        .ok (some s) ↔
      Node.renderQuery c depth indent query = .ok s := by
  simp only [Node.renderSlot, Node.render, hDeep, Bool.false_eq_true,
    if_false]
  constructor
  · intro hSlot
    rcases map_eq_ok.mp hSlot with ⟨text, hNode, hPresent⟩
    rcases map_eq_ok.mp hNode with ⟨t, hQuery, rfl⟩
    cases (eq_some_of_present hPresent).1
    exact hQuery
  · intro hQuery
    rw [hQuery]
    exact congrArg Except.ok (present_of_ne_empty hText)

end SqlTemplate
