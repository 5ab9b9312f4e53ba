import SqlTemplate.Proofs.Standing.SelectItems
import SqlTemplate.Rendering.Places

/-
  The texts in the places of a tree.  What is below a node that
  is present is written as well, at the depth and with the indent
  of its slot, and the text of a node in any place is a part of
  the text of the tree.

  Key definitions include:
    * `Slot.WrittenIn`
    * `Node.IsFragment`

  Correctness is proven by:
    * `Slot.WrittenIn.member`
    * `writtenIn_binary`
    * `writtenIn_content`
    * `isPart_of_textAt?`
-/

------------------------------------------------------------
-- Present Nodes
------------------------------------------------------------

namespace SqlTemplate

open Text (IsPart)

variable {ctx : RenderContext} {depth : Nat} {indent : Int} {s : String}

theorem ownText?_eq_some
    {n : Node} :
    n.ownText? ctx depth indent = some s ↔
      Node.renderSlot ctx depth indent " " (.one n) = .ok (some s) := by
  unfold Node.ownText?
  split
  next text hText => rw [hText, Except.ok.injEq]
  next e hError =>
    rw [hError]
    exact ⟨nofun, nofun⟩

/- A node that is present is written with a text that is not empty. -/
theorem render_of_ownText?
    {n : Node}
    (hOwn : n.ownText? ctx depth indent = some s) :
    n.render ctx depth indent = .ok (some s) ∧ s ≠ "" := by
  have hSlot := ownText?_eq_some.mp hOwn
  rw [Node.renderSlot] at hSlot
  rcases map_eq_ok.mp hSlot with ⟨text, hRender, hPresent⟩
  rcases eq_some_of_present hPresent with ⟨rfl, hText⟩
  exact ⟨hRender, hText⟩

/- A step down to a place: one of the nodes below is looked at. -/
theorem textAt?_cons
    {n : Node}
    {slot member : Nat}
    {place : Place}
    {found : Node × String} :
    n.textAt? ctx ((slot, member) :: place) depth indent = some found ↔
      ∃ s outlet m, n.ownText? ctx depth indent = some s ∧
        n.outlet? ctx depth indent slot = some outlet ∧
          n.child? slot member = some m ∧
            m.textAt? ctx place outlet.1 outlet.2 = some found := by
  simp only [Node.textAt?, Option.bind_eq_bind, Option.bind_eq_some_iff]
  constructor
  · rintro ⟨s, hOwn, outlet, hOutlet, m, hChild, hAt⟩
    exact ⟨s, outlet, m, hOwn, hOutlet, hChild, hAt⟩
  · rintro ⟨s, outlet, m, hOwn, hOutlet, hChild, hAt⟩
    exact ⟨s, hOwn, outlet, hOutlet, m, hChild, hAt⟩

------------------------------------------------------------
-- Contents of Slots
------------------------------------------------------------

theorem eq_of_member?_one
    {m n : Node}
    {member : Nat}
    (hMember : (Slot.one m).member? member = some n) :
    m = n := by
  rw [Slot.member?] at hMember
  split at hMember
  next => exact Option.some.inj hMember
  next => cases hMember

theorem mem_of_member?_many
    {members : List (Option Node)}
    {n : Node}
    {member : Nat}
    (hMember : (Slot.many members).member? member = some n) :
    some n ∈ members :=
  List.mem_of_getElem? (Option.join_eq_some_iff.mp hMember)

/- What is in a slot is written, and its text is a part of another. -/
def Slot.WrittenIn
    (ctx : RenderContext)
    (depth : Nat)
    (indent : Int)
    (slot : Slot Node)
    (s : String) : Prop :=
  ∃ separator text,
    Node.renderSlot ctx depth indent separator slot = .ok text ∧
      ∀ t ∈ text, IsPart t s

/- If the members of a list are written, each of them is. -/
theorem exists_of_renderMembers
    {members : List (Option Node)}
    {texts : List String}
    {n : Node}
    (hRender : Node.renderMembers ctx depth indent members = .ok texts)
    (hMember : some n ∈ members) :
    ∃ text, n.render ctx depth indent = .ok text := by
  induction members generalizing texts with
  | nil => cases hMember
  | cons member members ih =>
      cases member with
      | none =>
          rcases List.mem_cons.mp hMember with hSame | hOther
          · cases hSame
          · exact ih hRender hOther
      | some m =>
          rcases renderMembers_some_eq_ok.mp hRender with
            ⟨text, others, hOwn, hOthers, _⟩
          rcases List.mem_cons.mp hMember with hSame | hOther
          · cases hSame
            exact ⟨text, hOwn⟩
          · exact ih hOthers hOther

/- Arguments that are all present are written as a list is. -/
theorem renderMembers_of_renderArgs
    {args : List (Option Node)}
    {texts : List String}
    (hArgs : Node.renderArgs ctx depth indent args = .ok (some texts)) :
    Node.renderMembers ctx depth indent args = .ok texts := by
  induction args generalizing texts with
  | nil =>
      cases hArgs
      rfl
  | cons arg args ih =>
      cases arg with
      | none => cases hArgs
      | some n =>
          rw [Node.renderArgs] at hArgs
          rcases bind_eq_ok.mp hArgs with ⟨text, hOwn, hRest⟩
          cases hPresent : text.bind present with
          | none =>
              rw [hPresent] at hRest
              cases hRest
          | some s =>
              rw [hPresent] at hRest
              rcases bind_eq_ok.mp hRest with ⟨others, hOthers, hTexts⟩
              cases others with
              | none => cases hTexts
              | some others =>
                  cases hTexts
                  refine renderMembers_some_eq_ok.mpr
                    ⟨text, others, hOwn, ih hOthers, ?_⟩
                  rw [hPresent]
                  rfl

/- Each member of what is written in a slot is written there. -/
theorem Slot.WrittenIn.member
    {slot : Slot Node}
    {member : Nat}
    {n : Node}
    (hSlot : slot.WrittenIn ctx depth indent s)
    (hMember : slot.member? member = some n) :
    (Slot.one n).WrittenIn ctx depth indent s := by
  rcases hSlot with ⟨separator, text, hRender, hPart⟩
  cases slot with
  | vacant => cases hMember
  | one m =>
      cases eq_of_member?_one hMember
      exact ⟨separator, text, hRender, hPart⟩
  | many members =>
      have hListed := mem_of_member?_many hMember
      rw [Node.renderSlot] at hRender
      rcases map_eq_ok.mp hRender with ⟨texts, hTexts, rfl⟩
      rcases exists_of_renderMembers hTexts hListed with ⟨text, hOwn⟩
      refine ⟨separator, text.bind present, ?_, ?_⟩
      · rw [Node.renderSlot, hOwn]
        rfl
      · intro t hPresent
        rcases eq_some_of_present hPresent with ⟨rfl, hText⟩
        have hAmong : t ∈ texts :=
          (mem_renderMembers hTexts).mpr ⟨n, hListed, hOwn, hText⟩
        have hJoined :
            joined separator texts = some (separator.intercalate texts) := by
          rw [joined, List.isEmpty_eq_false_iff.mpr
            (List.ne_nil_of_mem hAmong)]
          rfl
        exact (isPart_intercalate separator hAmong).trans
          (hPart _ hJoined)

------------------------------------------------------------
-- Contents of Fragments
------------------------------------------------------------

theorem Slot.WrittenIn.within
    {slot : Slot Node}
    {t : String}
    (hSlot : slot.WrittenIn ctx depth indent s)
    (hPart : IsPart s t) :
    slot.WrittenIn ctx depth indent t := by
  rcases hSlot with ⟨separator, text, hRender, hInner⟩
  exact ⟨separator, text, hRender, fun u hSome =>
    (hInner u hSome).trans hPart⟩

theorem writtenIn_of_text
    {slot : Slot Node}
    {separator t : String}
    (hRender :
      Node.renderSlot ctx depth indent separator slot = .ok (some t))
    (hPart : IsPart t s) :
    slot.WrittenIn ctx depth indent s := by
  refine ⟨separator, some t, hRender, ?_⟩
  intro u hSome
  cases hSome
  exact hPart

/- The part that a fragment is written around is written in it. -/
theorem writtenIn_of_part
    {slot : Slot Node}
    {separator : String}
    {f : String → String}
    (hPart : ∀ t, IsPart t (f t))
    (hText :
      (Node.renderSlot ctx depth indent separator slot).map (·.map f) =
        .ok (some s)) :
    slot.WrittenIn ctx depth indent s := by
  rcases map_eq_ok.mp hText with ⟨text, hRender, hMapped⟩
  rcases Option.map_eq_some_iff.mp hMapped with ⟨t, rfl, rfl⟩
  exact writtenIn_of_text hRender (hPart t)

/-
  The right operand is written in its text, one level further
  down if it is put in brackets.
-/
theorem writtenIn_rightText
    {op : BinaryOp}
    {right : Slot Node}
    (hText : rightText ctx depth indent op right = .ok (some s)) :
    right.WrittenIn ctx
      (if RenderContext.standsBare op right then depth + 2 else depth + 1)
      indent s := by
  unfold rightText at hText
  split at hText
  next hBare =>
    rw [if_pos hBare]
    rcases grouped_eq_ok hText with ⟨_, inner, hInner, hMapped⟩
    exact writtenIn_of_part (isPart_enclose true)
      (map_eq_ok.mpr ⟨inner, hInner, hMapped⟩)
  next hBare =>
    rw [if_neg hBare]
    exact writtenIn_of_text hText (.refl s)

/-
  The operands of a binary operator are written in it, where they
  are written at all.
-/
theorem writtenIn_binary
    {op : BinaryOp}
    {left right content : Slot Node}
    {slot : Nat}
    {outlet : Nat × Int}
    (hRender :
      (Node.binary op left right).render ctx depth indent = .ok (some s))
    (hOutlet :
      (Node.binary op left right).outlet? ctx depth indent slot =
        some outlet)
    (hContent : [left, right][slot]? = some content) :
    content.WrittenIn ctx outlet.1 outlet.2 s := by
  have hDeep := not_tooDeep_of_render hRender
  have hOpen : ctx.isUnbound right = ctx.bindings.leavesOpen right := rfl
  simp only [Node.render, hDeep, Bool.false_eq_true, if_false, hOpen]
    at hRender
  split at hRender
  next => cases hRender
  next =>
    rw [Node.outlet?] at hOutlet
    split at hOutlet
    next hNullTest =>
      rw [if_pos hNullTest] at hRender
      split at hOutlet
      next hFirst =>
        subst hFirst
        cases hOutlet
        cases hContent
        exact writtenIn_of_part (fun t => (IsPart.refl t).append_right _)
          hRender
      next => cases hOutlet
    next hOperands =>
      rw [if_neg hOperands] at hRender
      split at hOutlet
      next => cases hOutlet
      next hJudged =>
        rcases operands_eq_ok hRender with
          ⟨hOp, hEmpties, _⟩ | ⟨_, _, hPair⟩
        · exact absurd (Bool.and_eq_true_iff.mpr ⟨hOp, hEmpties⟩) hJudged
        rcases pair_eq_ok hPair with
          ⟨_, hAbsent⟩ | ⟨first, hFirst, other, hSecond, hText⟩
        · cases hAbsent
        rcases Option.map_eq_some_iff.mp hText.symm with
          ⟨second, rfl, rfl⟩
        match slot with
        | 0 =>
            rw [if_neg (by simp)] at hOutlet
            cases hOutlet
            cases hContent
            exact writtenIn_of_text hFirst
              (isPart_binaryText_left op first second)
        | 1 =>
            have hBelow := (writtenIn_rightText hSecond).within
              (isPart_binaryText_right op first second)
            cases hContent
            cases hBare : RenderContext.standsBare op right with
            | true =>
                rw [if_pos hBare] at hBelow
                rw [if_pos (by simp [hBare])] at hOutlet
                cases hOutlet
                exact hBelow
            | false =>
                rw [if_neg (ne_true_of_eq_false hBare)] at hBelow
                rw [if_neg (by simp [hBare])] at hOutlet
                cases hOutlet
                exact hBelow
        | _ + 2 => cases hContent

theorem isPart_betweenText
    {operand : String}
    {low high : Option String}
    (hText : betweenText operand low high = some s) :
    (∀ t ∈ some operand, IsPart t s) ∧ (∀ t ∈ low, IsPart t s) ∧
      ∀ t ∈ high, IsPart t s := by
  have hFirst : ∀ middle bound,
      IsPart operand (operand ++ middle ++ bound) ∧
        IsPart bound (operand ++ middle ++ bound) :=
    fun middle bound =>
      ⟨((IsPart.refl operand).append_right _).append_right _,
        (IsPart.refl bound).append_left _⟩
  unfold betweenText at hText
  split at hText
  next low high =>
    cases hText
    simpa using isPart_rangeText operand low high
  next low =>
    cases hText
    simpa using hFirst " >= " low
  next high =>
    cases hText
    simpa using hFirst " <= " high
  next => cases hText

/- A range test holds its operand and those bounds that are present. -/
theorem writtenIn_range
    {operand low high content : Slot Node}
    (hText :
      Rendered.range
          (Node.renderSlot ctx depth indent " " operand)
          (Node.renderSlot ctx depth indent " " low)
          (Node.renderSlot ctx depth indent " " high) =
        .ok (some s))
    (hContent : content ∈ [operand, low, high]) :
    content.WrittenIn ctx depth indent s := by
  rcases range_eq_ok hText with
    ⟨_, hAbsent⟩ | ⟨first, lowText, highText, hOperand, hLow, hHigh, hBoth⟩
  · cases hAbsent
  rcases isPart_betweenText hBoth.symm with ⟨hFirst, hSecond, hThird⟩
  revert content
  simp only [List.forall_mem_cons]
  exact ⟨⟨" ", _, hOperand, hFirst⟩, ⟨" ", _, hLow, hSecond⟩,
    ⟨" ", _, hHigh, hThird⟩, List.forall_mem_nil _⟩

/- A call that is present holds its arguments. -/
theorem writtenIn_call
    {name : String}
    {args : Slot Node}
    {distinct : Bool}
    (hRender :
      (Node.call name args distinct).render ctx depth indent =
        .ok (some s)) :
    args.WrittenIn ctx (depth + 1) indent s := by
  have hDeep := not_tooDeep_of_render hRender
  cases args with
  | vacant | one =>
      simp only [Node.render, hDeep, Bool.false_eq_true, if_false] at hRender
      cases hRender
  | many args =>
      simp only [Node.render, hDeep, Bool.false_eq_true, if_false] at hRender
      rcases map_eq_ok.mp hRender with ⟨found, hArgs, hMapped⟩
      rcases Option.map_eq_some_iff.mp hMapped with ⟨texts, rfl, rfl⟩
      refine ⟨", ", joined ", " texts, ?_, ?_⟩
      · rw [Node.renderSlot, renderMembers_of_renderArgs hArgs]
        rfl
      · intro t hSome
        unfold joined at hSome
        split at hSome
        · cases hSome
        · cases hSome
          exact ((IsPart.refl _).append_left _).append_right _

theorem writtenIn_alias
    {node : Slot Node}
    {label : String}
    (hRender :
      (Node.alias node label).render ctx depth indent = .ok (some s)) :
    node.WrittenIn ctx (depth + 1) indent s := by
  have hDeep := not_tooDeep_of_render hRender
  simp only [Node.render, hDeep, Bool.false_eq_true, if_false] at hRender
  split at hRender
  · cases hRender
  · rcases pair_eq_ok hRender with
      ⟨_, hAbsent⟩ | ⟨t, hText, other, _, hBoth⟩
    · cases hAbsent
    · rcases Option.map_eq_some_iff.mp hBoth.symm with ⟨_, rfl, rfl⟩
      exact writtenIn_of_text hText
        (((IsPart.refl t).append_right _).append_right _)

/- A table holds its join condition, if that is present. -/
theorem writtenIn_table
    {name : String}
    {label database join : Option String}
    {condition : Slot Node}
    (hRender :
      (Node.table name label database join condition).render ctx depth
        indent = .ok (some s)) :
    condition.WrittenIn ctx (depth + 1) indent s := by
  have hDeep := not_tooDeep_of_render hRender
  simp only [Node.render, hDeep, Bool.false_eq_true, if_false] at hRender
  rcases bind_eq_ok.mp hRender with ⟨nameText, _, hRest⟩
  rcases bind_eq_ok.mp hRest with ⟨labelText, _, hRest⟩
  rcases bind_eq_ok.mp hRest with ⟨text, hText, hTable⟩
  cases hTable
  refine ⟨" ", text, hText, ?_⟩
  intro t hSome
  cases hSome
  exact isPart_tableText join nameText labelText t

/- The SELECT of a subquery is written on the level of the subquery. -/
theorem writtenIn_subquery
    {slot : Slot Node}
    {label : Option String}
    (hRender :
      (Node.subquery slot label).render ctx depth indent =
        .ok (some s)) :
    slot.WrittenIn ctx depth (indent + indentWidth) s := by
  have hDeep := not_tooDeep_of_render hRender
  cases hSelect : slot.query? with
  | none =>
      rw [render_subquery_of_none hDeep hSelect] at hRender
      cases hRender
  | some query =>
      cases eq_of_query? hSelect
      simp only [Node.render, hDeep, Bool.false_eq_true, if_false]
        at hRender
      rcases bind_eq_ok.mp hRender with ⟨t, hQuery, hRest⟩
      rcases bind_eq_ok.mp hRest with ⟨labelText, _, hSubquery⟩
      cases hSubquery
      have hSlot :
          Node.renderSlot ctx depth (indent + indentWidth) " "
            (.one (.select query)) = .ok (some t) :=
        (renderSlot_select hDeep (renderQuery_ne_empty hQuery)).mpr hQuery
      exact writtenIn_of_text hSlot (isPart_subqueryText t labelText)

/- The slots of a query are written in it. -/
theorem writtenIn_query
    {query : Query Node}
    {content : Slot Node}
    (hInline : ctx.inline = true)
    (hLimit : query.limit.IsLimit)
    (hOffset : query.offset.IsLimit)
    (hQuery : Node.renderQuery ctx depth indent query = .ok s)
    (hContent : content ∈ (Node.select query).slots) :
    content.WrittenIn ctx (depth + 1) indent s := by
  rcases renderQuery_eq_ok.mp hQuery with
    ⟨_, texts, line, hTexts, hLine, rfl⟩
  have hPart := isPart_of_texts hInline hLimit hOffset hTexts hLine
  revert content
  simp only [Node.slots, List.forall_mem_cons]
  refine ⟨?_, ?_, ?_, ?_, ?_, ?_, ?_, ?_, List.forall_mem_nil _⟩
  · exact ⟨", ", _, hTexts.columns, hPart _ (by simp)⟩
  · exact ⟨" ", _, hTexts.source, hPart _ (by simp)⟩
  · exact ⟨" ", _, hTexts.filter, hPart _ (by simp)⟩
  · exact ⟨", ", _, hTexts.groups, hPart _ (by simp)⟩
  · exact ⟨" ", _, hTexts.having, hPart _ (by simp)⟩
  · exact ⟨", ", _, hTexts.order, hPart _ (by simp)⟩
  · exact ⟨" ", _, hTexts.limit, hPart _ (by simp)⟩
  · exact ⟨" ", _, hTexts.offset, hPart _ (by simp)⟩

/-
  What a slot of a node holds is written in the text of the node,
  if the slot is written at all.
-/
theorem writtenIn_content
    {n : Node}
    {slot : Nat}
    {content : Slot Node}
    {outlet : Nat × Int}
    (hInline : ctx.inline = true)
    (hShaped : n.Shaped)
    (hRender : n.render ctx depth indent = .ok (some s))
    (hOutlet : n.outlet? ctx depth indent slot = some outlet)
    (hContent : n.slots[slot]? = some content) :
    content.WrittenIn ctx outlet.1 outlet.2 s := by
  have hMember := List.mem_of_getElem? hContent
  have hDeep := not_tooDeep_of_render hRender
  cases n with
  | binary op left right => exact writtenIn_binary hRender hOutlet hContent
  | column | literal | raw | parameter | numeral | foreign => cases hMember
  | group members brackets delimiter =>
      cases hOutlet
      cases List.mem_singleton.mp hMember
      simp only [Node.render, hDeep, Bool.false_eq_true, if_false] at hRender
      exact writtenIn_of_part (isPart_enclose brackets) hRender
  | connective op operands =>
      cases hOutlet
      cases List.mem_singleton.mp hMember
      simp only [Node.render, hDeep, Bool.false_eq_true, if_false] at hRender
      exact writtenIn_of_text hRender (.refl s)
  | unary op operand =>
      cases hOutlet
      cases List.mem_singleton.mp hMember
      simp only [Node.render, hDeep, Bool.false_eq_true, if_false] at hRender
      split at hRender
      · cases hRender
      · exact writtenIn_of_part (isPart_unaryText op) hRender
  | between operand low high =>
      cases hOutlet
      simp only [Node.render, hDeep, Bool.false_eq_true, if_false] at hRender
      split at hRender
      · cases hRender
      · exact writtenIn_range hRender hMember
  | call name args distinct =>
      cases hOutlet
      rw [List.mem_singleton.mp hMember]
      exact writtenIn_call hRender
  | «alias» node label =>
      cases hOutlet
      rw [List.mem_singleton.mp hMember]
      exact writtenIn_alias hRender
  | orderBy node direction =>
      cases hOutlet
      cases List.mem_singleton.mp hMember
      simp only [Node.render, hDeep, Bool.false_eq_true, if_false] at hRender
      exact writtenIn_of_part (isPart_orderText direction) hRender
  | table name label database join condition =>
      cases hOutlet
      rw [List.mem_singleton.mp hMember]
      exact writtenIn_table hRender
  | select query =>
      cases hOutlet
      simp only [Node.render, hDeep, Bool.false_eq_true, if_false] at hRender
      rcases map_eq_ok.mp hRender with ⟨t, hQuery, hSame⟩
      cases hSame
      rcases query with ⟨columns, source, filter, groups, having, order,
        limit, offset, distinct, options⟩
      rcases hShaped with ⟨_, _, _, _, _, _, hLimit, hOffset, _⟩
      exact writtenIn_query hInline hLimit hOffset hQuery hMember
  | subquery query label =>
      cases hOutlet
      rw [List.mem_singleton.mp hMember]
      exact writtenIn_subquery hRender

------------------------------------------------------------
-- Fragments of Templates
------------------------------------------------------------

/- A fragment of a tree as templates are parsed to, or a limit in one. -/
def Node.IsFragment (n : Node) : Prop :=
  n.Shaped ∨ (Slot.one n).IsLimit

theorem eq_of_isLimit
    {n : Node}
    (hLimit : (Slot.one n).IsLimit) :
    (∃ count, n = .literal (.int count)) ∨ ∃ name, n = .numeral name := by
  unfold Slot.IsLimit at hLimit
  split at hLimit
  next hVacant => cases hVacant
  next count hLiteral => exact .inl ⟨count, Slot.one.inj hLiteral⟩
  next name hNumeral => exact .inr ⟨name, Slot.one.inj hNumeral⟩
  next => exact hLimit.elim

/- A limit has no parts. -/
theorem slots_of_isLimit
    {n : Node}
    (hLimit : (Slot.one n).IsLimit) :
    n.slots = [] := by
  rcases eq_of_isLimit hLimit with ⟨count, rfl⟩ | ⟨name, rfl⟩ <;> rfl

theorem shaped_of_mem
    {members : List (Option Node)}
    {n : Node}
    (hShaped : Members.Shaped members)
    (hMember : some n ∈ members) :
    n.Shaped := by
  induction members with
  | nil => cases hMember
  | cons member members ih =>
      cases member with
      | none =>
          rcases List.mem_cons.mp hMember with hSame | hOther
          · cases hSame
          · exact ih hShaped hOther
      | some m =>
          rcases List.mem_cons.mp hMember with hSame | hOther
          · cases hSame
            exact hShaped.1
          · exact ih hShaped.2 hOther

theorem Slot.Shaped.member
    {slot : Slot Node}
    {member : Nat}
    {n : Node}
    (hShaped : slot.Shaped)
    (hMember : slot.member? member = some n) :
    n.Shaped := by
  cases slot with
  | vacant => cases hMember
  | one m =>
      cases eq_of_member?_one hMember
      exact hShaped
  | many members => exact shaped_of_mem hShaped (mem_of_member?_many hMember)

theorem Slot.IsLimit.member
    {slot : Slot Node}
    {member : Nat}
    {n : Node}
    (hLimit : slot.IsLimit)
    (hMember : slot.member? member = some n) :
    (Slot.one n).IsLimit := by
  cases slot with
  | vacant => cases hMember
  | one m =>
      cases eq_of_member?_one hMember
      exact hLimit
  | many members => exact hLimit.elim

/- What a fragment holds is of the same kind, or a limit. -/
theorem Node.Shaped.content
    {n : Node}
    {content : Slot Node}
    (hShaped : n.Shaped)
    (hContent : content ∈ n.slots) :
    content.Shaped ∨ content.IsLimit := by
  cases n with
  | column | literal | raw | parameter | numeral | foreign => cases hContent
  | connective | unary | call | «alias» | subquery =>
      rw [List.mem_singleton.mp hContent]
      exact .inl hShaped
  | group | orderBy | table =>
      rw [List.mem_singleton.mp hContent]
      exact .inl hShaped.2
  | binary op left right =>
      revert content
      simp only [Node.slots, List.forall_mem_cons]
      exact ⟨.inl hShaped.1, .inl hShaped.2, List.forall_mem_nil _⟩
  | between operand low high =>
      revert content
      simp only [Node.slots, List.forall_mem_cons]
      exact ⟨.inl hShaped.1, .inl hShaped.2.1, .inl hShaped.2.2,
        List.forall_mem_nil _⟩
  | select query =>
      rcases query with ⟨columns, source, filter, groups, having, order,
        limit, offset, distinct, options⟩
      rcases hShaped with ⟨hColumns, hSource, hFilter, hGroups, hHaving,
        hOrder, hLimit, hOffset, _⟩
      revert content
      simp only [Node.slots, List.forall_mem_cons]
      exact ⟨.inl hColumns, .inl hSource, .inl hFilter, .inl hGroups,
        .inl hHaving, .inl hOrder, .inr hLimit, .inr hOffset,
        List.forall_mem_nil _⟩

variable {n m : Node} {slot member : Nat}

theorem Node.IsFragment.child
    (hFragment : n.IsFragment)
    (hChild : n.child? slot member = some m) :
    m.IsFragment := by
  rcases Option.bind_eq_some_iff.mp hChild with ⟨content, hContent, hMember⟩
  rcases hFragment with hShaped | hLimit
  · rcases hShaped.content (List.mem_of_getElem? hContent) with
      hInner | hInner
    · exact .inl (hInner.member hMember)
    · exact .inr (hInner.member hMember)
  · rw [slots_of_isLimit hLimit] at hContent
    cases hContent

/- A node right below one that is present is written in its text. -/
theorem writtenIn_child
    {outlet : Nat × Int}
    (hInline : ctx.inline = true)
    (hFragment : n.IsFragment)
    (hOwn : n.ownText? ctx depth indent = some s)
    (hOutlet : n.outlet? ctx depth indent slot = some outlet)
    (hChild : n.child? slot member = some m) :
    (Slot.one m).WrittenIn ctx outlet.1 outlet.2 s := by
  rcases Option.bind_eq_some_iff.mp hChild with ⟨content, hContent, hMember⟩
  rcases hFragment with hShaped | hLimit
  · exact (writtenIn_content hInline hShaped (render_of_ownText? hOwn).1
      hOutlet hContent).member hMember
  · rw [slots_of_isLimit hLimit] at hContent
    cases hContent

------------------------------------------------------------
-- Texts of Places
------------------------------------------------------------

/- The text in a place is a part of the text of the node above. -/
theorem isPart_of_textAt?
    {place : Place}
    {t : String}
    (hInline : ctx.inline = true)
    (hFragment : n.IsFragment)
    (hAt : n.textAt? ctx place depth indent = some (m, t)) :
    t ≠ "" ∧ ∃ s, n.ownText? ctx depth indent = some s ∧ IsPart t s := by
  induction place generalizing n depth indent with
  | nil =>
      rcases Option.map_eq_some_iff.mp hAt with ⟨s, hOwn, hSame⟩
      cases hSame
      exact ⟨(render_of_ownText? hOwn).2, t, hOwn, .refl t⟩
  | cons step place ih =>
      rcases textAt?_cons.mp hAt with
        ⟨s, outlet, child, hOwn, hOutlet, hChild, hBelow⟩
      rcases ih (hFragment.child hChild) hBelow with
        ⟨hText, u, hInner, hPart⟩
      rcases writtenIn_child hInline hFragment hOwn hOutlet hChild with
        ⟨separator, text, hRender, hWithin⟩
      have hSame : text = some u :=
        Except.ok.inj (hRender.symm.trans (ownText?_eq_some.mp hInner))
      exact ⟨hText, s, hOwn, hPart.trans (hWithin u hSame)⟩

end SqlTemplate
