import SqlTemplate.Proofs.Pruning.Correctness
import SqlTemplate.Proofs.Rendering.Faults
import SqlTemplate.Proofs.Standing.Parts
import SqlTemplate.Rendering.Standing

/-
  Fragments whose parameters are written.  In text with
  placeholders every parameter is written, in text with values
  every one that has a value.  A well-formed fragment whose
  parameters are all written is present, and with values in the
  text every standing fragment of it has its own text there.

  Key definitions include:
    * `Slot.IsFull`
    * `Query.IsWhole`
    * `Node.IsWhole`
    * `Node.IsKept`
    * `Carries`
    * `Node.Stands`
    * `Slot.Stands`

  Correctness is proven by:
    * `stands_of_part`
    * `stands_binary`
    * `stands_between`
    * `stands_call`
    * `stands_subquery`
-/

------------------------------------------------------------
-- Whole Texts
------------------------------------------------------------

namespace SqlTemplate

open Text (IsPart)

/-
  A slot has a text just if it holds something, and a list in it
  has a text for each of its members.
-/
structure Slot.IsFull
    (ctx : RenderContext)
    (depth : Nat)
    (indent : Int)
    (slot : Slot Node)
    (text : Option String) : Prop where
  vacant : text.isNone = slot.isVacant
  members :
    ∀ members, slot = .many members →
      ∃ texts, Node.renderMembers ctx depth indent members = .ok texts ∧
        texts.length = members.length

/- All slots of a query at the given depth have their texts. -/
structure Query.IsFull
    (ctx : RenderContext)
    (depth : Nat)
    (indent : Int)
    (query : Query Node)
    (texts : QueryTexts) : Prop where
  columns : query.columns.IsFull ctx (depth + 1) indent texts.columns
  source : query.source.IsFull ctx (depth + 1) indent texts.source
  filter : query.filter.IsFull ctx (depth + 1) indent texts.filter
  groups : query.groups.IsFull ctx (depth + 1) indent texts.groups
  having : query.having.IsFull ctx (depth + 1) indent texts.having
  order : query.order.IsFull ctx (depth + 1) indent texts.order
  limit : query.limit.IsFull ctx (depth + 1) indent texts.limit
  offset : query.offset.IsFull ctx (depth + 1) indent texts.offset

/- A query is written with a line for each slot that it has. -/
def Query.IsWhole
    (ctx : RenderContext)
    (depth : Nat)
    (indent : Int)
    (query : Query Node)
    (s : String) : Prop :=
  ∃ texts, query.HasTexts ctx depth indent texts ∧
    query.IsFull ctx depth indent texts ∧
      query.written indent texts
        (texts.limit.map fun limit =>
          ctx.dialect.limitLine limit texts.offset) = s

/-
  The text of a node leaves out nothing of it.  A membership
  test in an empty collection is false as a whole.
-/
def Node.IsWhole
    (ctx : RenderContext)
    (depth : Nat)
    (indent : Int)
    (n : Node)
    (s : String) : Prop :=
  match n with
  | .select query => query.IsWhole ctx depth indent s
  | .connective _ operands =>
      operands.IsFull ctx (depth + 1) indent (some s)
  | .group members brackets _ =>
      ∃ t, members.IsFull ctx (depth + 1) indent (some t) ∧
        enclose brackets t = s
  | .binary op _ right =>
      op.isMembership = true → ctx.bindings.empties right = true →
        s = emptyListResult
  | _ => True

/-
  A fragment is not pruned, and a text holds the text that the
  fragment has where it stands.
-/
def Node.IsKept
    (ctx : RenderContext)
    (n : Node)
    (s : String) : Prop :=
  (n.pruned ctx.bindings).isSome = true ∧
    ∃ depth indent t, n.render ctx depth indent = .ok (some t) ∧
      t ≠ "" ∧ n.IsWhole ctx depth indent t ∧ IsPart t s

theorem Node.IsKept.within
    {ctx : RenderContext}
    {n : Node}
    {s t : String}
    (hKept : n.IsKept ctx s)
    (hPart : IsPart s t) :
    n.IsKept ctx t := by
  rcases hKept with ⟨hPruned, depth, indent, u, hRender, hText, hWhole,
    hInner⟩
  exact ⟨hPruned, depth, indent, u, hRender, hText, hWhole,
    hInner.trans hPart⟩

------------------------------------------------------------
-- Texts of Several Fragments
------------------------------------------------------------

/-
  A text is present, and with values in the text it has a place
  for each of the given fragments.
-/
structure Carries
    (ctx : RenderContext)
    (ms : List Node)
    (s : String) : Prop where
  present : s ≠ ""
  kept : ctx.inline = true → ∀ m ∈ ms, m.IsKept ctx s

variable {ctx : RenderContext} {ms ns : List Node} {s t : String}

namespace Carries

theorem nothing (hText : s ≠ "") : Carries ctx [] s :=
  ⟨hText, nofun⟩

theorem within
    (hText : Carries ctx ms s)
    (hPart : IsPart s t) :
    Carries ctx ms t :=
  ⟨hPart.ne_empty hText.present,
    fun hInline m hMember => (hText.kept hInline m hMember).within hPart⟩

theorem append
    (hFirst : Carries ctx ms s)
    (hSecond : Carries ctx ns s) :
    Carries ctx (ms ++ ns) s :=
  ⟨hFirst.present, fun hInline =>
    List.forall_mem_append.mpr
      ⟨hFirst.kept hInline, hSecond.kept hInline⟩⟩

end Carries

section

variable (ctx)

/- Wherever a node is written, it is present with all that stands. -/
def Node.Stands (n : Node) : Prop :=
  ∀ (depth : Nat) (indent : Int) (text : Option String),
    n.render ctx depth indent = .ok text →
      ∃ s, text = some s ∧ Carries ctx (n.standing ctx.bindings) s

/- The same of the content of a slot, if there is any. -/
def Slot.Stands (slot : Slot Node) : Prop :=
  ∀ (depth : Nat) (indent : Int) (separator : String)
    (text : Option String),
    Node.renderSlot ctx depth indent separator slot = .ok text →
      slot.IsFull ctx depth indent text ∧
        ∀ s ∈ text, Carries ctx (Node.slotStanding ctx.bindings slot) s

/- The same of the members of a list. -/
def Members.Stands (members : List (Option Node)) : Prop :=
  ∀ (depth : Nat) (indent : Int) (texts : List String),
    Node.renderMembers ctx depth indent members = .ok texts →
      texts.length = members.length ∧ (∀ s ∈ texts, s ≠ "") ∧
        (ctx.inline = true →
          ∀ m ∈ Node.listStanding ctx.bindings members,
            ∃ s ∈ texts, m.IsKept ctx s)

/- The same of the arguments of a call. -/
def Arguments.Stands (args : List (Option Node)) : Prop :=
  ∀ (depth : Nat) (indent : Int) (texts : Option (List String)),
    Node.renderArgs ctx depth indent args = .ok texts →
      ∃ ss, texts = some ss ∧
        (ctx.inline = true →
          ∀ m ∈ Node.listStanding ctx.bindings args,
            ∃ s ∈ ss, m.IsKept ctx s)

/- With values in the text a query is written whole. -/
def Query.Stands (query : Query Node) : Prop :=
  ∀ (depth : Nat) (indent : Int) (s : String),
    Node.renderQuery ctx depth indent query = .ok s →
      ctx.inline = true →
        query.IsWhole ctx depth indent s ∧
          ∀ m ∈ Node.queryStanding ctx.bindings query, m.IsKept ctx s

end

theorem Slot.Stands.given
    {slot : Slot Node}
    {depth : Nat}
    {indent : Int}
    {separator : String}
    {text : Option String}
    (hSlot : slot.Stands ctx)
    (hGiven : slot.isVacant = false)
    (hRender :
      Node.renderSlot ctx depth indent separator slot = .ok text) :
    ∃ s, text = some s ∧
      Carries ctx (Node.slotStanding ctx.bindings slot) s := by
  rcases hSlot _ _ _ _ hRender with ⟨hFull, hText⟩
  have hVacant := hFull.vacant
  rw [hGiven] at hVacant
  cases text with
  | none => cases hVacant
  | some s => exact ⟨s, rfl, hText s rfl⟩

/- Pruning leaves something of a node that is present. -/
theorem isSome_pruned
    {n : Node}
    {depth : Nat}
    {indent : Int}
    (hPrunes : n.Prunes ctx)
    (hRender : n.render ctx depth indent = .ok (some s))
    (hText : s ≠ "") :
    (n.pruned ctx.bindings).isSome = true := by
  have hAgrees := hPrunes _ _ _ hRender
  cases hPruned : n.pruned ctx.bindings with
  | some left => rfl
  | none =>
      rw [hPruned] at hAgrees
      have hAbsent : present s = none := hAgrees
      rw [present_of_ne_empty hText] at hAbsent
      cases hAbsent

/- A node stands if its text carries what stands below it. -/
theorem stands_of_parts
    {n : Node}
    (hStanding : n.standing ctx.bindings = n :: ms)
    (hPrunes : ctx.inline = true → n.Prunes ctx)
    (hParts : ∀ (depth : Nat) (indent : Int) (text : Option String),
      ctx.isTooDeep depth = false →
        n.render ctx depth indent = .ok text →
          ∃ s, text = some s ∧ Carries ctx ms s ∧
            (ctx.inline = true → n.IsWhole ctx depth indent s)) :
    n.Stands ctx := by
  intro depth indent text hRender
  have hDeep := not_tooDeep_of_render hRender
  rcases hParts depth indent text hDeep hRender with
    ⟨s, rfl, hBelow, hWhole⟩
  refine ⟨s, rfl, hBelow.present, ?_⟩
  intro hInline
  rw [hStanding, List.forall_mem_cons]
  exact ⟨⟨isSome_pruned (hPrunes hInline) hRender hBelow.present, depth,
    indent, s, hRender, hBelow.present, hWhole hInline, .refl s⟩,
    hBelow.kept hInline⟩

------------------------------------------------------------
-- Leaves
------------------------------------------------------------

theorem stands_column
    (name : String)
    (owner database : Option String) :
    (Node.column name owner database).Stands ctx := by
  apply stands_of_parts rfl fun _ => prunes_column name owner database
  intro depth indent text hDeep hRender
  simp only [Node.render, hDeep, Bool.false_eq_true, if_false] at hRender
  rcases map_eq_ok.mp hRender with ⟨s, hName, rfl⟩
  have hMember : some name ∈ [database, owner, some name] := by simp
  have hText := RenderContext.qualified_ne_empty hMember hName
  exact ⟨s, rfl, .nothing hText, fun _ => trivial⟩

theorem stands_literal
    (v : Value) :
    (Node.literal v).Stands ctx := by
  apply stands_of_parts rfl fun _ => prunes_literal v
  intro depth indent text hDeep hRender
  simp only [Node.render, hDeep, Bool.false_eq_true, if_false] at hRender
  rcases map_eq_ok.mp hRender with ⟨s, hLiteral, rfl⟩
  have hText := RenderContext.ne_empty_of_literal hLiteral
  exact ⟨s, rfl, .nothing hText, fun _ => trivial⟩

theorem stands_parameter
    {name : String}
    (hSupplied : ctx.inline = true → ctx.bindings.fills name = true) :
    (Node.parameter name).Stands ctx := by
  apply stands_of_parts rfl (prunes_parameter name)
  intro depth indent text hDeep hRender
  simp only [Node.render, hDeep, Bool.false_eq_true, if_false,
    RenderContext.parameter] at hRender
  split at hRender
  next hInline =>
    rcases value_of_fills (hSupplied hInline) with ⟨v, hValue, hFills⟩
    rw [hValue] at hRender
    rcases map_eq_ok.mp hRender with ⟨s, hLiterals, rfl⟩
    have hText := RenderContext.literals_ne_empty hFills hLiterals
    exact ⟨s, rfl, .nothing hText, fun _ => trivial⟩
  next =>
    cases hRender
    have hText : placeholder name ≠ "" :=
      append_ne_empty_left _ (by decide)
    exact ⟨_, rfl, .nothing hText, fun _ => trivial⟩

theorem stands_numeral
    {name : String}
    (hSupplied : ctx.bindings.fills name = true) :
    (Node.numeral name).Stands ctx := by
  apply stands_of_parts rfl (prunes_numeral name)
  intro depth indent text hDeep hRender
  simp only [Node.render, hDeep, Bool.false_eq_true, if_false,
    RenderContext.numeral] at hRender
  rcases value_of_fills hSupplied with ⟨v, hValue, hFills⟩
  rw [hValue] at hRender
  rcases map_eq_ok.mp hRender with ⟨s, hNumerals, rfl⟩
  have hText := RenderContext.numerals_ne_empty hFills hNumerals
  exact ⟨s, rfl, .nothing hText, fun _ => trivial⟩

------------------------------------------------------------
-- Fragments of One Part
------------------------------------------------------------

/- A fragment that is written around its only part stands with it. -/
theorem stands_of_part
    {n : Node}
    {slot : Slot Node}
    (separator : String)
    {f : String → String}
    (hStanding :
      n.standing ctx.bindings = n :: Node.slotStanding ctx.bindings slot)
    (hPrunes : ctx.inline = true → n.Prunes ctx)
    (hWhole : ∀ depth indent s,
      slot.IsFull ctx (depth + 1) indent (some s) →
        n.IsWhole ctx depth indent (f s))
    (hSlot : slot.Stands ctx)
    (hGiven : slot.isVacant = false)
    (hPart : ∀ s, IsPart s (f s))
    (hRender : ∀ depth indent, ctx.isTooDeep depth = false →
      n.render ctx depth indent =
        (Node.renderSlot ctx (depth + 1) indent separator slot).map
          (·.map f)) :
    n.Stands ctx := by
  apply stands_of_parts hStanding hPrunes
  intro depth indent text hDeep hNode
  rw [hRender depth indent hDeep] at hNode
  rcases map_eq_ok.mp hNode with ⟨slotText, hText, rfl⟩
  rcases hSlot.given hGiven hText with ⟨s, rfl, hCarries⟩
  have hFull := (hSlot _ _ _ _ hText).1
  exact ⟨f s, rfl, hCarries.within (hPart s), fun _ => hWhole _ _ _ hFull⟩

theorem stands_group
    {members : Slot Node}
    {brackets : Bool}
    {delimiter : String}
    (hShaped : (Node.group members brackets delimiter).Shaped)
    (hGiven : members.isVacant = false)
    (hMembers : members.Stands ctx) :
    (Node.group members brackets delimiter).Stands ctx := by
  apply stands_of_part delimiter rfl (Node.prunes · _ hShaped)
    (fun _ _ s hFull => ⟨s, hFull, rfl⟩) hMembers hGiven
    (isPart_enclose brackets)
  intro depth indent hDeep
  simp only [Node.render, hDeep, Bool.false_eq_true, if_false]

theorem stands_connective
    {op : ConnectiveOp}
    {operands : Slot Node}
    (hShaped : (Node.connective op operands).Shaped)
    (hGiven : operands.isVacant = false)
    (hOperands : operands.Stands ctx) :
    (Node.connective op operands).Stands ctx := by
  apply stands_of_part (f := id) (" " ++ op.symbol ++ " ") rfl
    (Node.prunes · _ hShaped) (fun _ _ _ hFull => hFull) hOperands hGiven
    IsPart.refl
  intro depth indent hDeep
  simp only [Node.render, hDeep, Bool.false_eq_true, if_false,
    Option.map_id]
  cases Node.renderSlot ctx (depth + 1) indent _ operands <;> rfl

theorem stands_unary
    {op : UnaryOp}
    {operand : Slot Node}
    (hShaped : (Node.unary op operand).Shaped)
    (hGiven : operand.isVacant = false)
    (hOperand : operand.Stands ctx) :
    (Node.unary op operand).Stands ctx := by
  apply stands_of_part " " rfl (Node.prunes · _ hShaped)
    (fun _ _ _ _ => trivial) hOperand hGiven (isPart_unaryText op)
  intro depth indent hDeep
  simp only [Node.render, hDeep, hGiven, Bool.false_eq_true, if_false]

theorem stands_orderBy
    {node : Slot Node}
    {direction : Option String}
    (hShaped : (Node.orderBy node direction).Shaped)
    (hGiven : node.isVacant = false)
    (hNode : node.Stands ctx) :
    (Node.orderBy node direction).Stands ctx := by
  apply stands_of_part " " rfl (Node.prunes · _ hShaped)
    (fun _ _ _ _ => trivial) hNode hGiven (isPart_orderText direction)
  intro depth indent hDeep
  simp only [Node.render, hDeep, Bool.false_eq_true, if_false]

theorem stands_alias
    {node : Slot Node}
    {label : String}
    (hShaped : (Node.alias node label).Shaped)
    (hGiven : node.isVacant = false)
    (hNode : node.Stands ctx) :
    (Node.alias node label).Stands ctx := by
  apply stands_of_parts rfl (Node.prunes · _ hShaped)
  intro depth indent text hDeep hRender
  simp only [Node.render, hDeep, hGiven, Bool.false_eq_true, if_false]
    at hRender
  rcases pair_eq_ok hRender with ⟨hText, _⟩ | ⟨s, hText, other, hLabel, rfl⟩
  · rcases hNode.given hGiven hText with ⟨s, hSome, _⟩
    cases hSome
  · rcases hNode.given hGiven hText with ⟨_, hSome, hCarries⟩
    cases hSome
    rcases map_eq_ok.mp hLabel with ⟨labelText, _, rfl⟩
    have hPart : IsPart s (s ++ " AS " ++ labelText) :=
      ((IsPart.refl s).append_right _).append_right _
    exact ⟨_, rfl, hCarries.within hPart, fun _ => trivial⟩

------------------------------------------------------------
-- Operators
------------------------------------------------------------

/- The right operand of an operator stands in brackets or as it is. -/
theorem stands_rightText
    {depth : Nat}
    {indent : Int}
    {op : BinaryOp}
    {right : Slot Node}
    {text : Option String}
    (hGiven : right.isVacant = false)
    (hRight : right.Stands ctx)
    (hText : rightText ctx depth indent op right = .ok text) :
    ∃ s, text = some s ∧
      Carries ctx (Node.slotStanding ctx.bindings right) s := by
  unfold rightText at hText
  split at hText
  next =>
    rcases grouped_eq_ok hText with ⟨_, inner, hInner, rfl⟩
    rcases hRight.given hGiven hInner with ⟨s, rfl, hCarries⟩
    exact ⟨_, rfl, hCarries.within (isPart_enclose true s)⟩
  next => exact hRight.given hGiven hText

/- A parameter with a value is not left open. -/
theorem leavesOpen_of_supplied
    {b : Bindings}
    {slot : Slot Node}
    (hSupplied : ∀ m ∈ Node.slotStanding b slot, b.supplies m = true) :
    b.leavesOpen slot = false := by
  cases slot with
  | vacant | many => rfl
  | one n =>
      have hOwn : b.supplies n = true := by
        apply hSupplied
        rw [Node.slotStanding, Node.standing.eq_def]
        exact List.mem_cons_self
      have hBare : (Slot.one n).bareParameter? = n.parameterName? := rfl
      rw [Bindings.supplies] at hOwn
      rw [Bindings.leavesOpen, hBare]
      cases hName : n.parameterName? with
      | none => rfl
      | some name =>
          rw [hName] at hOwn
          rcases value_of_fills hOwn with ⟨v, hValue, _⟩
          simp [Bindings.isBound, hValue]

/- A test whose list is empty is written, false as a whole. -/
theorem stands_emptied
    {op : BinaryOp}
    {left right : Slot Node}
    (hShaped : (Node.binary op left right).Shaped)
    (hLeftGiven : left.isVacant = false)
    (hRightGiven : right.isVacant = false)
    (hEmpties : (op.isMembership && ctx.bindings.empties right) = true) :
    (Node.binary op left right).Stands ctx := by
  have hStanding :
      (Node.binary op left right).standing ctx.bindings =
        [.binary op left right] := by
    simp only [Node.standing, hEmpties, if_true]
  have hStrict : op.isNullLenient = false :=
    BinaryOp.isNullLenient_of_isMembership
      (Bool.and_eq_true_iff.mp hEmpties).1
  apply stands_of_parts hStanding (Node.prunes · _ hShaped)
  intro depth indent text hDeep hRender
  simp only [Node.render, hDeep, hLeftGiven, hRightGiven, hStrict,
    Bool.or_self, Bool.false_and, Bool.false_eq_true, if_false] at hRender
  rcases operands_eq_ok hRender with ⟨_, _, rfl⟩ | ⟨hFalse, _, _⟩
  · exact ⟨_, rfl, .nothing (by decide), fun _ _ _ => rfl⟩
  · rw [hFalse] at hEmpties
    cases hEmpties

/- In text with placeholders a null test is present. -/
theorem carries_nullTest
    {left : Slot Node}
    {depth : Nat}
    {indent : Int}
    {text : Option String}
    (hInline : ctx.inline = false)
    (hGiven : left.isVacant = false)
    (hLeft : left.Stands ctx)
    (hText :
      (Node.renderSlot ctx depth indent " " left).map
        (·.map nullTest) = .ok text) :
    ∃ s, text = some s ∧ Carries ctx ms s := by
  rcases map_eq_ok.mp hText with ⟨leftText, hLeftText, rfl⟩
  rcases hLeft.given hGiven hLeftText with ⟨s, rfl, hCarries⟩
  refine ⟨_, rfl, append_ne_empty_left _ hCarries.present, ?_⟩
  intro hWritten
  rw [hInline] at hWritten
  cases hWritten

/- Two operands that stand are both present in their test. -/
theorem carries_operands
    {op : BinaryOp}
    {left right : Slot Node}
    {depth : Nat}
    {indent : Int}
    {text : Option String}
    (hLeftGiven : left.isVacant = false)
    (hRightGiven : right.isVacant = false)
    (hLeft : left.Stands ctx)
    (hRight : right.Stands ctx)
    (hText :
      Rendered.pair (Node.renderSlot ctx (depth + 1) indent " " left)
        (rightText ctx depth indent op right) (binaryText op) =
          .ok text) :
    ∃ s, text = some s ∧
      Carries ctx (Node.slotStanding ctx.bindings left ++
        Node.slotStanding ctx.bindings right) s := by
  rcases pair_eq_ok hText with ⟨hAbsent, _⟩ | ⟨s, hFirst, other, hOther, rfl⟩
  · rcases hLeft.given hLeftGiven hAbsent with ⟨_, hSome, _⟩
    cases hSome
  rcases hLeft.given hLeftGiven hFirst with ⟨_, hSome, hLeftCarries⟩
  cases hSome
  rcases stands_rightText hRightGiven hRight hOther with
    ⟨t, rfl, hRightCarries⟩
  exact ⟨_, rfl, (hLeftCarries.within (isPart_binaryText_left op s t)).append
    (hRightCarries.within (isPart_binaryText_right op s t))⟩

/-
  An operator with two operands is a null test, which values
  rule out, false as a whole, or made of both operands.
-/
theorem stands_binary
    {op : BinaryOp}
    {left right : Slot Node}
    (hShaped : (Node.binary op left right).Shaped)
    (hLeftGiven : left.isVacant = false)
    (hRightGiven : right.isVacant = false)
    (hSupplied : ctx.inline = true →
      ∀ m ∈ (Node.binary op left right).standing ctx.bindings,
        ctx.bindings.supplies m = true)
    (hOperands : (op.isMembership && ctx.bindings.empties right) = false →
      left.Stands ctx ∧ right.Stands ctx) :
    (Node.binary op left right).Stands ctx := by
  cases hEmpties : op.isMembership && ctx.bindings.empties right with
  | true => exact stands_emptied hShaped hLeftGiven hRightGiven hEmpties
  | false =>
      rcases hOperands hEmpties with ⟨hLeft, hRight⟩
      have hStanding :
          (Node.binary op left right).standing ctx.bindings =
            .binary op left right ::
              (Node.slotStanding ctx.bindings left ++
                Node.slotStanding ctx.bindings right) := by
        simp only [Node.standing, hEmpties, Bool.false_eq_true, if_false]
      apply stands_of_parts hStanding (Node.prunes · _ hShaped)
      intro depth indent text hDeep hRender
      have hWhole : ∀ s,
          (Node.binary op left right).IsWhole ctx depth indent s := by
        intro s hOp hList
        rw [hOp, hList] at hEmpties
        cases hEmpties
      simp only [Node.render, hDeep, hLeftGiven, hRightGiven, Bool.or_self,
        Bool.false_eq_true, if_false] at hRender
      split at hRender
      next hLenient =>
        -- A null test stands for a parameter without a value.
        have hInline : ctx.inline = false := by
          rw [Bool.eq_false_iff]
          intro hWritten
          have hAll := hSupplied hWritten
          rw [hStanding, List.forall_mem_cons, List.forall_mem_append] at hAll
          have hOpen : ctx.bindings.leavesOpen right = true :=
            (Bool.and_eq_true_iff.mp hLenient).2
          rw [leavesOpen_of_supplied hAll.2.2] at hOpen
          cases hOpen
        rcases carries_nullTest hInline hLeftGiven hLeft hRender with
          ⟨s, rfl, hCarries⟩
        exact ⟨s, rfl, hCarries, fun _ => hWhole s⟩
      next =>
        rcases operands_eq_ok hRender with ⟨hOp, hList, _⟩ | ⟨_, _, hPair⟩
        · rw [hOp, hList] at hEmpties
          cases hEmpties
        rcases carries_operands hLeftGiven hRightGiven hLeft hRight hPair with
          ⟨s, rfl, hCarries⟩
        exact ⟨s, rfl, hCarries, fun _ => hWhole s⟩

theorem stands_between
    {operand low high : Slot Node}
    (hShaped : (Node.between operand low high).Shaped)
    (hOperandGiven : operand.isVacant = false)
    (hLowGiven : low.isVacant = false)
    (hHighGiven : high.isVacant = false)
    (hOperand : operand.Stands ctx)
    (hLow : low.Stands ctx)
    (hHigh : high.Stands ctx) :
    (Node.between operand low high).Stands ctx := by
  apply stands_of_parts rfl (Node.prunes · _ hShaped)
  intro depth indent text hDeep hRender
  simp only [Node.render, hDeep, hOperandGiven, Bool.false_eq_true,
    if_false] at hRender
  rcases range_eq_ok hRender with
    ⟨hText, _⟩ | ⟨s, lowText, highText, hText, hLowText, hHighText, rfl⟩
  · rcases hOperand.given hOperandGiven hText with ⟨_, hSome, _⟩
    cases hSome
  rcases hOperand.given hOperandGiven hText with ⟨_, hSome, hFirst⟩
  cases hSome
  rcases hLow.given hLowGiven hLowText with ⟨t, rfl, hSecond⟩
  rcases hHigh.given hHighGiven hHighText with ⟨u, rfl, hThird⟩
  rcases isPart_rangeText s t u with ⟨hPart, hLowPart, hHighPart⟩
  exact ⟨_, rfl, ((hFirst.within hPart).append
    (hSecond.within hLowPart)).append (hThird.within hHighPart),
    fun _ => trivial⟩

------------------------------------------------------------
-- Calls, Tables and Subqueries
------------------------------------------------------------

theorem stands_call
    {name : String}
    {args : List (Option Node)}
    {distinct : Bool}
    (hShaped : (Node.call name (.many args) distinct).Shaped)
    (hArgs : Arguments.Stands ctx args) :
    (Node.call name (.many args) distinct).Stands ctx := by
  apply stands_of_parts rfl (Node.prunes · _ hShaped)
  intro depth indent text hDeep hRender
  simp only [Node.render, hDeep, Bool.false_eq_true, if_false] at hRender
  rcases map_eq_ok.mp hRender with ⟨texts, hTexts, rfl⟩
  rcases hArgs _ _ _ hTexts with ⟨ss, rfl, hKept⟩
  refine ⟨_, rfl, ⟨callText_ne_empty name ss distinct, ?_⟩,
    fun _ => trivial⟩
  intro hInline m hMember
  rcases hKept hInline m hMember with ⟨s, hText, hArgument⟩
  exact hArgument.within (isPart_callText name distinct hText)

theorem stands_table
    {name : String}
    {label database join : Option String}
    {condition : Slot Node}
    (hShaped : (Node.table name label database join condition).Shaped)
    (hCondition : condition.Stands ctx) :
    (Node.table name label database join condition).Stands ctx := by
  apply stands_of_parts rfl (Node.prunes · _ hShaped)
  intro depth indent text hDeep hRender
  simp only [Node.render, hDeep, Bool.false_eq_true, if_false] at hRender
  rcases bind_eq_ok.mp hRender with ⟨nameText, hName, hRest⟩
  rcases bind_eq_ok.mp hRest with ⟨labelText, _, hRest⟩
  rcases bind_eq_ok.mp hRest with ⟨conditionText, hText, hTable⟩
  cases hTable
  have hMember : some name ∈ [database, some name] := by simp
  have hNotEmpty := RenderContext.qualified_ne_empty hMember hName
  refine ⟨_, rfl, ?_, fun _ => trivial⟩
  rcases hCondition _ _ _ _ hText with ⟨hFull, hCarries⟩
  cases conditionText with
  | none =>
      rw [eq_vacant hFull.vacant.symm]
      exact .nothing (tableText_ne_empty _ _ _ hNotEmpty)
  | some s => exact (hCarries s rfl).within (isPart_tableText _ _ _ s)

theorem stands_select
    {query : Query Node}
    (hShaped : (Node.select query).Shaped)
    (hQuery : query.Stands ctx) :
    (Node.select query).Stands ctx := by
  apply stands_of_parts rfl (Node.prunes · _ hShaped)
  intro depth indent text hDeep hRender
  simp only [Node.render, hDeep, Bool.false_eq_true, if_false] at hRender
  rcases map_eq_ok.mp hRender with ⟨s, hText, rfl⟩
  have hStands := hQuery _ _ _ hText
  exact ⟨s, rfl, ⟨renderQuery_ne_empty hText, fun hInline =>
    (hStands hInline).2⟩, fun hInline => (hStands hInline).1⟩

theorem stands_subquery
    {query : Query Node}
    {label : Option String}
    (hShaped : (Node.subquery (.one (.select query)) label).Shaped)
    (hSelect : (Slot.one (Node.select query)).Stands ctx) :
    (Node.subquery (.one (.select query)) label).Stands ctx := by
  apply stands_of_parts rfl (Node.prunes · _ hShaped)
  intro depth indent text hDeep hRender
  simp only [Node.render, hDeep, Bool.false_eq_true, if_false] at hRender
  rcases bind_eq_ok.mp hRender with ⟨s, hText, hRest⟩
  rcases bind_eq_ok.mp hRest with ⟨labelText, _, hSubquery⟩
  cases hSubquery
  have hSlot :
      Node.renderSlot ctx depth (indent + indentWidth) " "
        (.one (.select query)) = .ok (some s) :=
    (renderSlot_select hDeep (renderQuery_ne_empty hText)).mpr hText
  rcases hSelect.given rfl hSlot with ⟨_, hSome, hCarries⟩
  cases hSome
  exact ⟨_, rfl, hCarries.within (isPart_subqueryText s labelText),
    fun _ => trivial⟩

end SqlTemplate
