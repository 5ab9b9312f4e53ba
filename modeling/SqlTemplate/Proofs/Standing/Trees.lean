import SqlTemplate.Proofs.Standing.Fragments

/-
  Trees whose parameters are written.  A slot that is given in a
  well-formed tree is present, a list with all of its members,
  and a query that has values in its text has a line for each
  slot that it is given.

  Key definitions include:
    * `Slot.IsFilled`
    * `Supplied`

  Correctness is proven by:
    * `stands_query`
    * `Node.stands`
    * `Slot.stands`
    * `Query.stands`
-/

------------------------------------------------------------
-- Queries
------------------------------------------------------------

namespace SqlTemplate

open Text (IsPart)

variable {ctx : RenderContext} {ms ns : List Node} {t : String}

/- What stands in a slot is kept where the text of the slot is. -/
theorem Slot.Stands.keeps
    {slot : Slot Node}
    {depth : Nat}
    {indent : Int}
    {separator : String}
    {text : Option String}
    (hSlot : slot.Stands ctx)
    (hInline : ctx.inline = true)
    (hRender :
      Node.renderSlot ctx depth indent separator slot = .ok text)
    (hPart : ∀ s ∈ text, IsPart s t) :
    ∀ m ∈ Node.slotStanding ctx.bindings slot, m.IsKept ctx t := by
  intro m hMember
  rcases hSlot _ _ _ _ hRender with ⟨hFull, hCarries⟩
  cases text with
  | none =>
      rw [eq_vacant hFull.vacant.symm] at hMember
      cases hMember
  | some s =>
      exact ((hCarries s rfl).kept hInline m hMember).within (hPart s rfl)

/- With values in the text a limit has a line, and an offset too. -/
theorem limitLine_eq
    {query : Query Node}
    {depth : Nat}
    {indent : Int}
    {texts : QueryTexts}
    {line : Option String}
    (hInline : ctx.inline = true)
    (hLimit : query.limit.IsLimit)
    (hOffset : query.offset.IsLimit)
    (hTexts : query.HasTexts ctx depth indent texts)
    (hLine :
      ctx.limitLine (ctx.resolve query.limit texts.limit)
        (ctx.resolve query.offset texts.offset) = .ok line) :
    line = texts.limit.map
        (fun limit => ctx.dialect.limitLine limit texts.offset) ∧
      ∀ s, s ∈ texts.limit ∨ s ∈ texts.offset →
        ∃ l ∈ line, IsPart s l := by
  rcases offset_not_alone hInline hLimit hOffset hTexts hLine with
    ⟨hKept, hAlone⟩
  cases hFirst : texts.limit with
  | none =>
      rw [hFirst] at hKept hAlone
      cases hSecond : texts.offset with
      | none =>
          rw [hSecond] at hKept
          cases hKept
          refine ⟨rfl, ?_⟩
          rintro s (hSome | hSome) <;> cases hSome
      | some offset =>
          rw [hSecond] at hAlone
          cases hAlone
  | some limit =>
      rw [hFirst] at hKept
      cases hKept
      refine ⟨rfl, ?_⟩
      intro s hSome
      have hParts := isPart_limitLine ctx.dialect limit texts.offset
      refine ⟨_, rfl, ?_⟩
      rcases hSome with hLimit | hOffset
      · cases hLimit
        exact hParts.1
      · exact hParts.2 s hOffset

/- A query holds the texts of its slots, those of the limit among them. -/
theorem isPart_of_texts
    {query : Query Node}
    {depth : Nat}
    {indent : Int}
    {texts : QueryTexts}
    {line : Option String}
    (hInline : ctx.inline = true)
    (hLimit : query.limit.IsLimit)
    (hOffset : query.offset.IsLimit)
    (hTexts : query.HasTexts ctx depth indent texts)
    (hLine :
      ctx.limitLine (ctx.resolve query.limit texts.limit)
        (ctx.resolve query.offset texts.offset) = .ok line) :
    ∀ text ∈ [texts.columns, texts.source, texts.filter, texts.groups,
      texts.having, texts.order, texts.limit, texts.offset], ∀ s ∈ text,
        IsPart s (query.written indent texts line) := by
  have hOwn : ∀ s, some s ∈ [texts.columns, texts.source, texts.filter,
      texts.groups, texts.having, texts.order, line] →
        IsPart s (query.written indent texts line) :=
    fun s hSome => isPart_written indent hSome
  have hEnd : ∀ s, s ∈ texts.limit ∨ s ∈ texts.offset →
      IsPart s (query.written indent texts line) := by
    intro s hSome
    rcases (limitLine_eq hInline hLimit hOffset hTexts hLine).2 s hSome with
      ⟨l, hLast, hInner⟩
    exact hInner.trans (hOwn l (by simp [Option.mem_def.mp hLast]))
  simp only [List.forall_mem_cons, Option.mem_def]
  refine ⟨?_, ?_, ?_, ?_, ?_, ?_, ?_, ?_, List.forall_mem_nil _⟩
  · exact fun s hSome => hOwn s (by simp [hSome])
  · exact fun s hSome => hOwn s (by simp [hSome])
  · exact fun s hSome => hOwn s (by simp [hSome])
  · exact fun s hSome => hOwn s (by simp [hSome])
  · exact fun s hSome => hOwn s (by simp [hSome])
  · exact fun s hSome => hOwn s (by simp [hSome])
  · exact fun s hSome => hEnd s (.inl hSome)
  · exact fun s hSome => hEnd s (.inr hSome)

theorem stands_query
    {query : Query Node}
    (hColumns : query.columns.Stands ctx)
    (hSource : query.source.Stands ctx)
    (hFilter : query.filter.Stands ctx)
    (hGroups : query.groups.Stands ctx)
    (hHaving : query.having.Stands ctx)
    (hOrder : query.order.Stands ctx)
    (hLimit : query.limit.IsLimit)
    (hOffset : query.offset.IsLimit)
    (hLimitStands : ctx.inline = true → query.limit.Stands ctx)
    (hOffsetStands : ctx.inline = true → query.offset.Stands ctx) :
    query.Stands ctx := by
  intro depth indent s hRender hInline
  rcases renderQuery_eq_ok.mp hRender with
    ⟨_, texts, line, hTexts, hLine, rfl⟩
  have hSame := (limitLine_eq hInline hLimit hOffset hTexts hLine).1
  have hPart := isPart_of_texts hInline hLimit hOffset hTexts hLine
  have hCount := hLimitStands hInline
  have hStart := hOffsetStands hInline
  constructor
  · refine ⟨texts, hTexts, ⟨?_, ?_, ?_, ?_, ?_, ?_, ?_, ?_⟩, by rw [hSame]⟩
    · exact (hColumns _ _ _ _ hTexts.columns).1
    · exact (hSource _ _ _ _ hTexts.source).1
    · exact (hFilter _ _ _ _ hTexts.filter).1
    · exact (hGroups _ _ _ _ hTexts.groups).1
    · exact (hHaving _ _ _ _ hTexts.having).1
    · exact (hOrder _ _ _ _ hTexts.order).1
    · exact (hCount _ _ _ _ hTexts.limit).1
    · exact (hStart _ _ _ _ hTexts.offset).1
  · rw [Node.queryStanding.eq_def]
    simp only [List.forall_mem_append]
    refine ⟨⟨⟨⟨⟨⟨⟨?_, ?_⟩, ?_⟩, ?_⟩, ?_⟩, ?_⟩, ?_⟩, ?_⟩
    · exact hColumns.keeps hInline hTexts.columns (hPart _ (by simp))
    · exact hSource.keeps hInline hTexts.source (hPart _ (by simp))
    · exact hFilter.keeps hInline hTexts.filter (hPart _ (by simp))
    · exact hGroups.keeps hInline hTexts.groups (hPart _ (by simp))
    · exact hHaving.keeps hInline hTexts.having (hPart _ (by simp))
    · exact hOrder.keeps hInline hTexts.order (hPart _ (by simp))
    · exact hCount.keeps hInline hTexts.limit (hPart _ (by simp))
    · exact hStart.keeps hInline hTexts.offset (hPart _ (by simp))

------------------------------------------------------------
-- Slots and Lists
------------------------------------------------------------

theorem stands_vacant : (Slot.vacant : Slot Node).Stands ctx := by
  intro depth indent separator text hRender
  cases hRender
  refine ⟨⟨rfl, ?_⟩, ?_⟩
  · intro members hSame
    cases hSame
  · intro s hSome
    cases hSome

theorem stands_one
    {n : Node}
    (hNode : n.Stands ctx) :
    (Slot.one n).Stands ctx := by
  intro depth indent separator text hRender
  rw [Node.renderSlot] at hRender
  rcases map_eq_ok.mp hRender with ⟨nodeText, hText, rfl⟩
  rcases hNode _ _ _ hText with ⟨s, rfl, hCarries⟩
  rw [Option.bind_some, present_of_ne_empty hCarries.present]
  refine ⟨⟨rfl, ?_⟩, ?_⟩
  · intro members hSame
    cases hSame
  · intro t hSome
    cases hSome
    exact hCarries

theorem stands_many
    {members : List (Option Node)}
    (hSome : members ≠ [])
    (hMembers : Members.Stands ctx members) :
    (Slot.many members).Stands ctx := by
  intro depth indent separator text hRender
  rw [Node.renderSlot] at hRender
  rcases map_eq_ok.mp hRender with ⟨texts, hTexts, rfl⟩
  rcases hMembers _ _ _ hTexts with ⟨hLength, hPresent, hKept⟩
  have hNotNil : texts ≠ [] := by
    intro hNil
    rw [hNil] at hLength
    exact hSome (List.length_eq_zero_iff.mp hLength.symm)
  rw [joined, if_neg (by simpa using hNotNil)]
  refine ⟨⟨rfl, ?_⟩, ?_⟩
  · intro others hSame
    cases hSame
    exact ⟨texts, hTexts, hLength⟩
  intro s hJoined
  cases hJoined
  refine ⟨intercalate_ne_empty _ hNotNil hPresent, ?_⟩
  intro hInline m hMember
  rcases hKept hInline m hMember with ⟨s, hText, hInner⟩
  exact hInner.within (isPart_intercalate _ hText)

/- What is kept in the first of several texts or in another one. -/
theorem kept_cons
    {s : String}
    {texts : List String}
    (hFirst : ∀ m ∈ ms, m.IsKept ctx s)
    (hOthers : ∀ m ∈ ns, ∃ t ∈ texts, m.IsKept ctx t) :
    ∀ m ∈ ms ++ ns, ∃ t ∈ s :: texts, m.IsKept ctx t := by
  rw [List.forall_mem_append]
  constructor
  · intro m hMember
    exact ⟨s, List.mem_cons_self, hFirst m hMember⟩
  · intro m hMember
    rcases hOthers m hMember with ⟨t, hOther, hKept⟩
    exact ⟨t, List.mem_cons_of_mem _ hOther, hKept⟩

theorem stands_members_nil : Members.Stands ctx [] := by
  intro depth indent texts hRender
  cases hRender
  exact ⟨rfl, nofun, fun _ => nofun⟩

theorem stands_members_cons
    {n : Node}
    {members : List (Option Node)}
    (hNode : n.Stands ctx)
    (hMembers : Members.Stands ctx members) :
    Members.Stands ctx (some n :: members) := by
  intro depth indent texts hRender
  rcases renderMembers_some_eq_ok.mp hRender with
    ⟨text, others, hText, hOthers, rfl⟩
  rcases hNode _ _ _ hText with ⟨s, rfl, hCarries⟩
  rcases hMembers _ _ _ hOthers with ⟨hLength, hPresent, hKept⟩
  rw [Option.bind_some, present_of_ne_empty hCarries.present]
  refine ⟨congrArg (· + 1) hLength,
    List.forall_mem_cons.mpr ⟨hCarries.present, hPresent⟩, ?_⟩
  intro hInline
  exact kept_cons (hCarries.kept hInline) (hKept hInline)

theorem stands_arguments_nil : Arguments.Stands ctx [] := by
  intro depth indent texts hRender
  cases hRender
  exact ⟨[], rfl, fun _ => nofun⟩

theorem stands_arguments_cons
    {n : Node}
    {args : List (Option Node)}
    (hNode : n.Stands ctx)
    (hArgs : Arguments.Stands ctx args) :
    Arguments.Stands ctx (some n :: args) := by
  intro depth indent texts hRender
  rw [Node.renderArgs] at hRender
  rcases bind_eq_ok.mp hRender with ⟨text, hText, hRest⟩
  rcases hNode _ _ _ hText with ⟨s, rfl, hCarries⟩
  rw [Option.bind_some, present_of_ne_empty hCarries.present] at hRest
  rcases bind_eq_ok.mp hRest with ⟨others, hOthers, hTexts⟩
  rcases hArgs _ _ _ hOthers with ⟨ss, rfl, hKept⟩
  cases hTexts
  refine ⟨s :: ss, rfl, ?_⟩
  intro hInline
  exact kept_cons (hCarries.kept hInline) (hKept hInline)

------------------------------------------------------------
-- Filled Slots
------------------------------------------------------------

/- A slot holds no list, or one with something in every place. -/
def Slot.IsFilled : Slot Node → Prop
| .many members => members ≠ [] ∧ ∀ member ∈ members, member.isSome = true
| _ => True

theorem isFilled_of_holds
    {P : Node → Prop}
    {slot : Slot Node}
    (hHolds : slot.Holds P) :
    slot.IsFilled := by
  cases slot with
  | one n => trivial
  | _ => cases hHolds

theorem isSome_of_exists
    {P : Node → Prop}
    {member : Option Node}
    (hMember : ∃ n ∈ member, P n) :
    member.isSome = true := by
  rcases hMember with ⟨n, hSome, _⟩
  exact Option.isSome_of_mem hSome

theorem isFilled_of_lists
    {P : Node → Prop}
    {least : Nat}
    {slot : Slot Node}
    (hLeast : 0 < least)
    (hLists : slot.Lists P least) :
    slot.isVacant = false ∧ slot.IsFilled := by
  cases slot with
  | many members =>
      refine ⟨rfl, ?_, ?_⟩
      · intro hNil
        rw [hNil] at hLists
        exact Nat.not_lt_of_le hLists.1 hLeast
      · intro member hMember
        exact isSome_of_exists (hLists.2 member hMember)
  | _ => cases hLists

theorem isFilled_of_source
    {slot : Slot Node}
    (hSource : slot.IsSource) :
    slot.IsFilled := by
  unfold Slot.IsSource at hSource
  split at hSource
  next => trivial
  next first joined =>
    refine ⟨List.cons_ne_nil _ _, List.forall_mem_cons.mpr ⟨rfl, ?_⟩⟩
    intro member hMember
    exact isSome_of_exists (hSource.2 member hMember)
  next => exact hSource.elim

theorem isFilled_of_optional
    {P : Slot Node → Prop}
    {slot : Slot Node}
    (hFilled : P slot → slot.IsFilled)
    (hSlot : slot.Optional P) :
    slot.IsFilled := by
  rcases hSlot with hVacant | hHolds
  · rw [eq_vacant hVacant]
    trivial
  · exact hFilled hHolds

------------------------------------------------------------
-- Trees
------------------------------------------------------------

/- With values in the text, all fragments of a list are supplied. -/
def Supplied
    (ctx : RenderContext)
    (ms : List Node) : Prop :=
  ctx.inline = true → ∀ m ∈ ms, ctx.bindings.supplies m = true

namespace Supplied

theorem root
    {m : Node}
    (hAll : Supplied ctx (m :: ms))
    (hInline : ctx.inline = true) :
    ctx.bindings.supplies m = true :=
  hAll hInline m List.mem_cons_self

theorem below
    {m : Node}
    (hAll : Supplied ctx (m :: ms)) :
    Supplied ctx ms :=
  fun hInline m hMember => hAll hInline m (List.mem_cons_of_mem _ hMember)

theorem first (hAll : Supplied ctx (ms ++ ns)) : Supplied ctx ms :=
  fun hInline m hMember => hAll hInline m (List.mem_append_left _ hMember)

theorem second (hAll : Supplied ctx (ms ++ ns)) : Supplied ctx ns :=
  fun hInline m hMember => hAll hInline m (List.mem_append_right _ hMember)

end Supplied

theorem stands_limit
    {slot : Slot Node}
    (hLimit : slot.IsLimit)
    (hSupplied : Supplied ctx (Node.slotStanding ctx.bindings slot))
    (hInline : ctx.inline = true) :
    slot.Stands ctx := by
  unfold Slot.IsLimit at hLimit
  split at hLimit
  next => exact stands_vacant
  next n => exact stands_one (stands_literal _)
  next name => exact stands_one (stands_numeral (hSupplied.root hInline))
  next => exact hLimit.elim

mutual

/-
  A well-formed tree whose parameters are supplied stands.  An
  operator decides whether what is below it has to be supplied.
-/
theorem Node.stands :
    ∀ n : Node, n.WellFormed → n.Shaped →
      Supplied ctx (n.standing ctx.bindings) → n.Stands ctx
| .column name owner database, _, _, _ => stands_column name owner database
| .literal v, _, _, _ => stands_literal v
| .raw _, hNode, _, _ => hNode.elim
| .parameter _, _, _, hSupplied => stands_parameter hSupplied.root
| .numeral _, hNode, _, _ => hNode.elim
| .group members _ _, hNode, hShaped, hSupplied =>
    have hFilled := isFilled_of_lists Nat.one_pos hNode.2.1
    stands_group hShaped hFilled.1
      (members.stands hNode.2.2 hShaped.2 hFilled.2 hSupplied.below)
| .binary _ left right, hNode, hShaped, hSupplied =>
    stands_binary hShaped (isVacant_of_holds hNode.1)
      (isVacant_of_holds hNode.2.1) hSupplied fun hOpen => by
        simp only [Node.standing, hOpen, Bool.false_eq_true, if_false]
          at hSupplied
        exact ⟨left.stands hNode.2.2.1 hShaped.1
            (isFilled_of_holds hNode.1) hSupplied.below.first,
          right.stands hNode.2.2.2 hShaped.2
            (isFilled_of_holds hNode.2.1) hSupplied.below.second⟩
| .connective _ operands, hNode, hShaped, hSupplied =>
    have hFilled := isFilled_of_lists Nat.two_pos hNode.1
    stands_connective hShaped hFilled.1
      (operands.stands hNode.2 hShaped hFilled.2 hSupplied.below)
| .unary _ operand, hNode, hShaped, hSupplied =>
    stands_unary hShaped (isVacant_of_holds hNode.1)
      (operand.stands hNode.2 hShaped (isFilled_of_holds hNode.1)
        hSupplied.below)
| .between operand low high, hNode, hShaped, hSupplied =>
    stands_between hShaped (isVacant_of_holds hNode.1)
      (isVacant_of_holds hNode.2.1) (isVacant_of_holds hNode.2.2.1)
      (operand.stands hNode.2.2.2.1 hShaped.1 (isFilled_of_holds hNode.1)
        hSupplied.below.first.first)
      (low.stands hNode.2.2.2.2.1 hShaped.2.1
        (isFilled_of_holds hNode.2.1) hSupplied.below.first.second)
      (high.stands hNode.2.2.2.2.2 hShaped.2.2
        (isFilled_of_holds hNode.2.2.1) hSupplied.below.second)
| .call _ (.many args) _, hNode, hShaped, hSupplied =>
    stands_call hShaped
      (Arguments.stands args hNode.2 hShaped
        (fun member hMember => isSome_of_exists (hNode.1.2 member hMember))
        hSupplied.below)
| .call _ .vacant _, hNode, _, _ => hNode.1.elim
| .call _ (.one _) _, hNode, _, _ => hNode.1.elim
| .alias node _, hNode, hShaped, hSupplied =>
    stands_alias hShaped (isVacant_of_holds hNode.2.1)
      (node.stands hNode.2.2 hShaped (isFilled_of_holds hNode.2.1)
        hSupplied.below)
| .orderBy node _, hNode, hShaped, hSupplied =>
    stands_orderBy hShaped (isVacant_of_holds hNode.1)
      (node.stands hNode.2 hShaped.2 (isFilled_of_holds hNode.1)
        hSupplied.below)
| .table _ _ _ _ condition, hNode, hShaped, hSupplied =>
    stands_table hShaped
      (condition.stands hNode.2.2.2.2 hShaped.2
        (isFilled_of_optional isFilled_of_holds hNode.2.2.2.1)
        hSupplied.below)
| .select query, hNode, hShaped, hSupplied =>
    stands_select hShaped (query.stands hNode hShaped hSupplied.below)
| .subquery (.one (.select query)) _, hNode, hShaped, hSupplied =>
    stands_subquery hShaped (stands_one
      (Node.stands (.select query) hNode.2.2 hShaped hSupplied.below))
| .foreign _, hNode, _, _ => hNode.elim
termination_by structural n => n

theorem Slot.stands :
    ∀ slot : Slot Node, slot.WellFormed → slot.Shaped → slot.IsFilled →
      Supplied ctx (Node.slotStanding ctx.bindings slot) → slot.Stands ctx
| .vacant, _, _, _, _ => stands_vacant
| .one n, hNode, hShaped, _, hSupplied =>
    stands_one (n.stands hNode hShaped hSupplied)
| .many members, hMembers, hShaped, hFilled, hSupplied =>
    stands_many hFilled.1
      (Members.stands members hMembers hShaped hFilled.2 hSupplied)
termination_by structural slot => slot

theorem Members.stands :
    ∀ members : List (Option Node),
      Members.WellFormed members → Members.Shaped members →
        (∀ member ∈ members, member.isSome = true) →
          Supplied ctx (Node.listStanding ctx.bindings members) →
            Members.Stands ctx members
| [], _, _, _, _ => stands_members_nil
| none :: _, _, _, hFilled, _ => by
    have hNone := hFilled none List.mem_cons_self
    cases hNone
| some n :: members, hMembers, hShaped, hFilled, hSupplied =>
    stands_members_cons (n.stands hMembers.1 hShaped.1 hSupplied.first)
      (Members.stands members hMembers.2 hShaped.2
        (List.forall_mem_cons.mp hFilled).2 hSupplied.second)
termination_by structural members => members

theorem Arguments.stands :
    ∀ args : List (Option Node),
      Members.WellFormed args → Members.Shaped args →
        (∀ arg ∈ args, arg.isSome = true) →
          Supplied ctx (Node.listStanding ctx.bindings args) →
            Arguments.Stands ctx args
| [], _, _, _, _ => stands_arguments_nil
| none :: _, _, _, hFilled, _ => by
    have hNone := hFilled none List.mem_cons_self
    cases hNone
| some n :: args, hArgs, hShaped, hFilled, hSupplied =>
    stands_arguments_cons (n.stands hArgs.1 hShaped.1 hSupplied.first)
      (Arguments.stands args hArgs.2 hShaped.2
        (List.forall_mem_cons.mp hFilled).2 hSupplied.second)
termination_by structural args => args

theorem Query.stands :
    ∀ query : Query Node, query.WellFormed → query.Shaped →
      Supplied ctx (Node.queryStanding ctx.bindings query) →
        query.Stands ctx
| ⟨columns, source, filter, groups, having, order, limit, offset, _, _⟩,
    hQuery, hShaped, hSupplied => by
    rcases hQuery with ⟨hColumnList, hSourceList, hFilterKind, hGroupList,
      hHavingKind, hOrderList, hLimit, hOffset, _, hColumns, hSource,
      hFilter, hGroups, hHaving, hOrder⟩
    rcases hShaped with ⟨hColumnShape, hSourceShape, hFilterShape,
      hGroupShape, hHavingShape, hOrderShape, _⟩
    have hBeforeOffset := hSupplied.first
    have hBeforeLimit := hBeforeOffset.first
    have hBeforeOrder := hBeforeLimit.first
    have hBeforeHaving := hBeforeOrder.first
    have hBeforeGroups := hBeforeHaving.first
    have hBeforeFilter := hBeforeGroups.first
    exact stands_query
      (columns.stands hColumns hColumnShape
        (isFilled_of_lists Nat.one_pos hColumnList).2 hBeforeFilter.first)
      (source.stands hSource hSourceShape
        (isFilled_of_source hSourceList) hBeforeFilter.second)
      (filter.stands hFilter hFilterShape
        (isFilled_of_optional isFilled_of_holds hFilterKind)
        hBeforeGroups.second)
      (groups.stands hGroups hGroupShape
        (isFilled_of_optional
          (fun hLists => (isFilled_of_lists Nat.one_pos hLists).2)
          hGroupList)
        hBeforeHaving.second)
      (having.stands hHaving hHavingShape
        (isFilled_of_optional isFilled_of_holds hHavingKind)
        hBeforeOrder.second)
      (order.stands hOrder hOrderShape
        (isFilled_of_optional
          (fun hLists => (isFilled_of_lists Nat.one_pos hLists).2)
          hOrderList)
        hBeforeLimit.second)
      hLimit hOffset (stands_limit hLimit hBeforeOffset.second)
      (stands_limit hOffset hSupplied.second)
termination_by structural query => query

end

end SqlTemplate
