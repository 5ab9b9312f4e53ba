import SqlTemplate.Proofs.Rendering.Inversion

/-
  Texts as parts of other texts.  Whatever is written for a
  fragment holds the texts of its parts as they are.

  Key definitions include:
    * `Text.IsPart`

  Correctness is proven by:
    * `isPart_intercalate`
    * `isPart_enclose`
    * `isPart_binaryText_left`
    * `isPart_callText`
    * `isPart_tableText`
    * `isPart_written`
-/

------------------------------------------------------------
-- Parts of a Text
------------------------------------------------------------

namespace SqlTemplate

/- A text stands somewhere in another one. -/
def Text.IsPart (s t : String) : Prop :=
  ∃ before after, t = before ++ s ++ after

namespace Text.IsPart

variable {s t u : String}

theorem refl (s : String) : IsPart s s :=
  ⟨"", "", by simp⟩

theorem append_right
    (hPart : IsPart s t)
    (after : String) :
    IsPart s (t ++ after) := by
  rcases hPart with ⟨first, last, rfl⟩
  exact ⟨first, last ++ after, by simp [String.append_assoc]⟩

theorem append_left
    (before : String)
    (hPart : IsPart s t) :
    IsPart s (before ++ t) := by
  rcases hPart with ⟨first, last, rfl⟩
  exact ⟨before ++ first, last, by simp [String.append_assoc]⟩

theorem trans
    (hFirst : IsPart s t)
    (hSecond : IsPart t u) :
    IsPart s u := by
  rcases hSecond with ⟨before, after, rfl⟩
  exact (hFirst.append_left before).append_right after

theorem ne_empty
    (hPart : IsPart s t)
    (hText : s ≠ "") :
    t ≠ "" := by
  rcases hPart with ⟨before, after, rfl⟩
  exact append_ne_empty_left _ (append_ne_empty_right _ hText)

end Text.IsPart

open Text (IsPart)

/- Texts with a separator between them hold each of them. -/
theorem isPart_intercalate
    {texts : List String}
    {s : String}
    (separator : String)
    (hMember : s ∈ texts) :
    IsPart s (separator.intercalate texts) := by
  induction texts with
  | nil => cases hMember
  | cons t texts ih =>
      cases texts with
      | nil =>
          rw [String.intercalate_singleton, List.mem_singleton.mp hMember]
          exact .refl t
      | cons u texts =>
          rw [String.intercalate_cons_cons]
          rcases List.mem_cons.mp hMember with rfl | hRest
          · exact ((IsPart.refl s).append_right _).append_right _
          · exact (ih hRest).append_left _

------------------------------------------------------------
-- Texts of Fragments
------------------------------------------------------------

theorem isPart_enclose
    (brackets : Bool)
    (s : String) :
    IsPart s (enclose brackets s) := by
  unfold enclose
  split
  · exact ((IsPart.refl s).append_left _).append_right _
  · exact .refl s

theorem isPart_unaryText
    (op : UnaryOp)
    (s : String) :
    IsPart s (unaryText op s) := by
  unfold unaryText
  split
  · exact ((IsPart.refl s).append_right _).append_right _
  · split
    · unfold negated
      split <;> exact (IsPart.refl s).append_left _
    · exact (IsPart.refl s).append_left _

theorem isPart_orderText
    (direction : Option String)
    (s : String) :
    IsPart s (orderText s direction) := by
  unfold orderText
  split
  · exact ((IsPart.refl s).append_right _).append_right _
  · exact .refl s

theorem isPart_binaryText_left
    (op : BinaryOp)
    (s t : String) :
    IsPart s (binaryText op s t) :=
  ((((IsPart.refl s).append_right _).append_right _).append_right
    _).append_right _

theorem isPart_binaryText_right
    (op : BinaryOp)
    (s t : String) :
    IsPart t (binaryText op s t) :=
  (IsPart.refl t).append_left _

theorem isPart_rangeText
    (operand low high : String) :
    let text := operand ++ " BETWEEN " ++ low ++ " AND " ++ high
    IsPart operand text ∧ IsPart low text ∧ IsPart high text := by
  refine ⟨?_, ?_, (IsPart.refl high).append_left _⟩
  · exact ((((IsPart.refl operand).append_right _).append_right
      _).append_right _).append_right _
  · exact (((IsPart.refl low).append_left _).append_right _).append_right _

theorem isPart_callText
    {args : List String}
    {s : String}
    (name : String)
    (distinct : Bool)
    (hArgument : s ∈ args) :
    IsPart s (callText name args distinct) :=
  ((isPart_intercalate _ hArgument).append_left _).append_right _

theorem isPart_tableText
    (join : Option String)
    (name : String)
    (label : Option String)
    (s : String) :
    IsPart s (tableText join name label (some s)) := by
  have hCondition : IsPart s ("ON " ++ s) := (IsPart.refl s).append_left _
  apply hCondition.trans
  apply isPart_intercalate
  simp

theorem isPart_subqueryText
    (s : String)
    (label : Option String) :
    IsPart s (subqueryText s label) :=
  (((IsPart.refl s).append_left _).append_right _).append_right _

------------------------------------------------------------
-- Texts of Queries
------------------------------------------------------------

theorem isPart_limitLine
    (d : Dialect)
    (limit : String)
    (offset : Option String) :
    IsPart limit (d.limitLine limit offset) ∧
      ∀ s ∈ offset, IsPart s (d.limitLine limit offset) := by
  cases offset with
  | none =>
      refine ⟨?_, nofun⟩
      cases d <;> exact (IsPart.refl limit).append_left _
  | some offset =>
      constructor
      · cases d with
        | mysql | sqlite => exact (IsPart.refl limit).append_left _
        | postgresql | duckdb =>
            exact (((IsPart.refl limit).append_left _).append_right
              _).append_right _
      · intro s hOffset
        rw [← Option.mem_some.mp hOffset]
        cases d with
        | mysql | sqlite =>
            exact (((IsPart.refl offset).append_left _).append_right
              _).append_right _
        | postgresql | duckdb => exact (IsPart.refl offset).append_left _

/- The lines of a query hold the texts that they are made of. -/
theorem isPart_queryLines
    {distinct : Bool}
    {options : List String}
    {columns : Option String}
    {clauses : List (String × Option String)}
    {limit : Option String}
    {s : String}
    (hText :
      some s = columns ∨ some s ∈ clauses.map Prod.snd ∨ some s = limit) :
    ∃ line ∈ queryLines distinct options columns clauses limit,
      IsPart s line := by
  unfold queryLines
  dsimp only
  rcases hText with hColumns | hClause | hLimit
  · subst hColumns
    split
    · refine ⟨_, List.mem_append_left _ (List.mem_append_left _
        (List.mem_singleton_self _)), ?_⟩
      apply isPart_intercalate
      simp
    · refine ⟨s, ?_, .refl s⟩
      simp
  · rcases List.mem_map.mp hClause with ⟨⟨keyword, text⟩, hMember, rfl⟩
    refine ⟨keyword ++ " " ++ s, ?_, (IsPart.refl s).append_left _⟩
    apply List.mem_append_left
    apply List.mem_append_right
    exact List.mem_filterMap.mpr ⟨_, hMember, rfl⟩
  · subst hLimit
    refine ⟨s, ?_, .refl s⟩
    simp

/- A query holds the texts of its slots and the line of its limit. -/
theorem isPart_written
    {query : Query Node}
    {texts : QueryTexts}
    {line : Option String}
    {s : String}
    (indent : Int)
    (hText :
      some s ∈ [texts.columns, texts.source, texts.filter, texts.groups,
        texts.having, texts.order, line]) :
    IsPart s (query.written indent texts line) := by
  have hLine :
      ∃ l ∈ queryLines query.distinct query.options texts.columns
          [("FROM", texts.source), ("WHERE", texts.filter),
            ("GROUP BY", texts.groups), ("HAVING", texts.having),
            ("ORDER BY", texts.order)] line, IsPart s l := by
    apply isPart_queryLines
    simpa [or_assoc] using hText
  rcases hLine with ⟨l, hMember, hPart⟩
  exact hPart.trans (isPart_intercalate _ hMember)

end SqlTemplate
