import SqlTemplate.Proofs.Pruning.Operators
import SqlTemplate.Proofs.Rendering.Bracketing
import SqlTemplate.Proofs.Rendering.Limits
import SqlTemplate.Proofs.Template

/-
  Membership tests.  The first member of a list of values alone
  decides whether the list is written: a parameter there has to
  be bound, and to something else than an empty collection.  The
  order of the members matters in no other way.

  Key definitions include:
    * `Judgement`
    * `RenderContext.judgement`
    * `Node.memberTest`
    * `Verdict`
    * `Members.Raise`
    * `Rendered.Alike`

  Correctness is proven by:
    * `render_memberTest`
    * `memberTest_eq_false_iff`
    * `renderMembers_perm`
    * `verdict_perm`
    * `membership_depends_on_order`
    * `membership_is_judged_by_first_member`
-/

------------------------------------------------------------
-- Judgements
------------------------------------------------------------

namespace SqlTemplate

variable {ctx : RenderContext} {op : BinaryOp} {left : Slot Node}
variable {delimiter : String} {members others : List (Option Node)}

/-
  What the first member of a list of values is: a parameter that
  is unbound, one that is bound to an empty collection, or
  anything else.
-/
inductive Judgement where
| unbound
| empty
| ordinary
deriving DecidableEq, Repr

/- The name of the parameter that comes first in a list. -/
def firstParameter? (members : List (Option Node)) : Option String :=
  members.head?.join.bind Node.parameterName?

/- A list of values is judged by its first member. -/
def RenderContext.judgement
    (ctx : RenderContext)
    (members : List (Option Node)) : Judgement :=
  match firstParameter? members with
  | none => .ordinary
  | some name =>
      match ctx.bindings.value? name with
      | none => .unbound
      | some v => if v.isEmptyCollection then .empty else .ordinary

/- A test of membership in a list in brackets. -/
def Node.memberTest
    (op : BinaryOp)
    (left : Slot Node)
    (delimiter : String)
    (members : List (Option Node)) : Node :=
  .binary op left (.one (.group (.many members) true delimiter))

theorem judgeList_group
    (ctx : RenderContext)
    (op : BinaryOp)
    (delimiter : String)
    (members : List (Option Node)) :
    ctx.judgeList op (.one (.group (.many members) true delimiter)) =
      match firstParameter? members with
      | none => .ok false
      | some name =>
          match ctx.bindings.value? name with
          | none => .error (.unboundMember op.symbol name)
          | some v => .ok v.isEmptyCollection := by
  cases members with
  | nil => rfl
  | cons member members => cases member <;> rfl

theorem judgeList_of_unbound
    (hJudged : ctx.judgement members = .unbound) :
    ∃ name, firstParameter? members = some name ∧
      ctx.judgeList op (.one (.group (.many members) true delimiter)) =
        .error (.unboundMember op.symbol name) := by
  rw [judgeList_group]
  unfold RenderContext.judgement at hJudged
  split at hJudged
  next => cases hJudged
  next name hFirst =>
    split at hJudged
    next => exact ⟨name, hFirst, rfl⟩
    next => split at hJudged <;> cases hJudged

theorem judgeList_of_empty
    (hJudged : ctx.judgement members = .empty) :
    ctx.judgeList op (.one (.group (.many members) true delimiter)) =
      .ok true := by
  rw [judgeList_group]
  unfold RenderContext.judgement at hJudged
  split at hJudged
  next => cases hJudged
  next name hFirst =>
    split at hJudged
    next => cases hJudged
    next =>
      split at hJudged
      next hEmpty => rw [hEmpty]
      next => cases hJudged

theorem judgeList_of_ordinary
    (hJudged : ctx.judgement members = .ordinary) :
    ctx.judgeList op (.one (.group (.many members) true delimiter)) =
      .ok false := by
  rw [judgeList_group]
  unfold RenderContext.judgement at hJudged
  split at hJudged
  next => rfl
  next name hFirst =>
    split at hJudged
    next => cases hJudged
    next =>
      split at hJudged
      next => cases hJudged
      next hEmpty =>
        rw [Bool.eq_false_iff.mpr hEmpty]

------------------------------------------------------------
-- Written Tests
------------------------------------------------------------

/- The list of a membership test as it is written in its brackets. -/
def RenderContext.listText
    (ctx : RenderContext)
    (depth : Nat)
    (indent : Int)
    (delimiter : String)
    (members : List (Option Node)) : Rendered :=
  Node.renderSlot ctx (depth + 1) indent " "
    (.one (.group (.many members) true delimiter))

theorem standsBare_group
    (op : BinaryOp)
    (delimiter : String)
    (members : List (Option Node)) :
    RenderContext.standsBare op
      (.one (.group (.many members) true delimiter)) = false :=
  Bool.and_false _

/-
  A test is a decision about its list, or a text of the operand
  and the list.
-/
theorem render_memberTest
    {depth : Nat}
    {indent : Int}
    (hOp : op.isMembership = true)
    (hDeep : ctx.isTooDeep depth = false)
    (hLeft : left.isVacant = false) :
    (Node.memberTest op left delimiter members).render ctx depth indent =
      ctx.unlessEmptyList op (.one (.group (.many members) true delimiter))
        (Rendered.pair (Node.renderSlot ctx (depth + 1) indent " " left)
          (ctx.listText depth indent delimiter members)
          (binaryText op)) := by
  have hFilled :
      (Slot.one (Node.group (.many members) true delimiter)).isVacant =
        false := rfl
  simp only [Node.memberTest, Node.render, hDeep, hLeft, hFilled,
    BinaryOp.isNullLenient_of_isMembership hOp, standsBare_group,
    RenderContext.listText,
    Bool.or_self, Bool.false_and, Bool.false_eq_true, if_false]

section

variable {depth : Nat} {indent : Int}

/- A parameter that comes first has to be bound. -/
theorem memberTest_of_unbound
    (hOp : op.isMembership = true)
    (hDeep : ctx.isTooDeep depth = false)
    (hLeft : left.isVacant = false)
    (hJudged : ctx.judgement members = .unbound) :
    ∃ name, firstParameter? members = some name ∧
      (Node.memberTest op left delimiter members).render ctx depth indent =
        .error (.unboundMember op.symbol name) := by
  rcases judgeList_of_unbound hJudged with ⟨name, hName, hError⟩
  refine ⟨name, hName, ?_⟩
  rw [render_memberTest hOp hDeep hLeft, RenderContext.unlessEmptyList,
    if_pos hOp, hError]

theorem memberTest_of_empty
    (hOp : op.isMembership = true)
    (hDeep : ctx.isTooDeep depth = false)
    (hLeft : left.isVacant = false)
    (hJudged : ctx.judgement members = .empty) :
    (Node.memberTest op left delimiter members).render ctx depth indent =
      .ok (some emptyListResult) := by
  rw [render_memberTest hOp hDeep hLeft, RenderContext.unlessEmptyList,
    if_pos hOp, judgeList_of_empty hJudged]

theorem memberTest_of_ordinary
    (hOp : op.isMembership = true)
    (hDeep : ctx.isTooDeep depth = false)
    (hLeft : left.isVacant = false)
    (hJudged : ctx.judgement members = .ordinary) :
    (Node.memberTest op left delimiter members).render ctx depth indent =
      Rendered.pair (Node.renderSlot ctx (depth + 1) indent " " left)
        (ctx.listText depth indent delimiter members) (binaryText op) := by
  rw [render_memberTest hOp hDeep hLeft, RenderContext.unlessEmptyList,
    if_pos hOp, judgeList_of_ordinary hJudged]

end

/- A parameter in place of the list is its only member. -/
theorem render_bare_memberTest
    {n : Node}
    (hOp : op.isMembership = true)
    (hParameter : n.isParameter = true)
    (depth : Nat)
    (indent : Int) :
    (Node.binary op left (.one n)).render ctx depth indent =
      (Node.memberTest op left " " [some n]).render ctx depth indent := by
  have hBrackets :
      (Node.binary op left (.one n)).Brackets
        (.binary op left (.one n.bracketed)) :=
    .list op hOp (.refl left) n hParameter
  exact (hBrackets.render_eq ctx depth indent).symm

/- The text of a test has a space in it. -/
theorem binaryText_ne_emptyListResult
    (op : BinaryOp)
    (s other : String) :
    binaryText op s other ≠ emptyListResult := by
  intro hSame
  have hSpace : ' ' ∈ (binaryText op s other).toList := by
    simp [binaryText]
  rw [hSame] at hSpace
  revert hSpace
  decide

theorem pair_ne_emptyListResult
    {first second : Rendered} :
    Rendered.pair first second (binaryText op) ≠
      .ok (some emptyListResult) := by
  intro hPair
  rcases pair_eq_ok hPair with ⟨_, hText⟩ | ⟨s, _, other, _, hText⟩
  · cases hText
  · rcases Option.map_eq_some_iff.mp hText.symm with ⟨t, _, hSame⟩
    exact binaryText_ne_emptyListResult op s t hSame

/-
  The result of an empty list is written if and only if the first
  member is a parameter that is bound to an empty collection.
-/
theorem memberTest_eq_false_iff
    {depth : Nat}
    {indent : Int}
    (hOp : op.isMembership = true)
    (hDeep : ctx.isTooDeep depth = false)
    (hLeft : left.isVacant = false) :
    (Node.memberTest op left delimiter members).render ctx depth indent =
        .ok (some emptyListResult) ↔
      ctx.judgement members = .empty := by
  cases hJudged : ctx.judgement members with
  | unbound =>
      rcases memberTest_of_unbound hOp hDeep hLeft hJudged with
        ⟨name, _, hError⟩
      rw [hError]
      exact iff_of_false nofun nofun
  | empty =>
      exact iff_of_true (memberTest_of_empty hOp hDeep hLeft hJudged) rfl
  | ordinary =>
      rw [memberTest_of_ordinary hOp hDeep hLeft hJudged]
      exact iff_of_false pair_ne_emptyListResult nofun

------------------------------------------------------------
-- Members in a Later Place
------------------------------------------------------------

/- A parameter without a value is left out of the members. -/
theorem renderMembers_cons_of_not_fills
    {name : String}
    {depth : Nat}
    {indent : Int}
    (hInline : ctx.inline = true)
    (hDeep : ctx.isTooDeep depth = false)
    (hFills : ctx.bindings.fills name = false) :
    Node.renderMembers ctx depth indent (some (.parameter name) :: members) =
      Node.renderMembers ctx depth indent members := by
  have hText :
      (Node.parameter name).render ctx depth indent = .ok none ∨
        (Node.parameter name).render ctx depth indent = .ok (some "") := by
    simp only [Node.render, hDeep, Bool.false_eq_true, if_false,
      RenderContext.parameter, hInline, if_true]
    cases hValue : ctx.bindings.value? name with
    | none => exact .inl rfl
    | some v =>
        rw [fills_of_value? hValue, Bool.not_eq_false'] at hFills
        dsimp only
        rw [literals_of_empty hFills]
        exact .inr rfl
  rw [Node.renderMembers]
  rcases hText with hText | hText
  · rw [hText]
    cases Node.renderMembers ctx depth indent members <;> rfl
  · rw [hText]
    cases Node.renderMembers ctx depth indent members <;> rfl

theorem firstParameter?_append
    (hMembers : members ≠ []) :
    firstParameter? (members ++ others) = firstParameter? members := by
  cases members with
  | nil => exact absurd rfl hMembers
  | cons member members => rfl

/- The first member and the texts of all members decide about a test. -/
theorem render_memberTest_congr
    {depth : Nat}
    {indent : Int}
    (hFirst : firstParameter? members = firstParameter? others)
    (hTexts :
      Node.renderMembers ctx (depth + 2) indent members =
        Node.renderMembers ctx (depth + 2) indent others) :
    (Node.memberTest op left delimiter members).render ctx depth indent =
      (Node.memberTest op left delimiter others).render
        ctx depth indent := by
  have hOpen (members : List (Option Node)) :
      ctx.isUnbound (.one (.group (.many members) true delimiter)) =
        false := rfl
  have hFilled (members : List (Option Node)) :
      (Slot.one (Node.group (.many members) true delimiter)).isVacant =
        false := rfl
  simp only [Node.memberTest, Node.render, Node.renderSlot, hFilled, hOpen,
    RenderContext.unlessEmptyList, judgeList_group, standsBare_group,
    hFirst, hTexts, Bool.false_eq_true, if_false]

/-
  A parameter without a value makes no difference to a test if it
  does not come first in the list.
-/
theorem memberTest_of_not_fills
    {name : String}
    {depth : Nat}
    {indent : Int}
    (hInline : ctx.inline = true)
    (hDeep : ctx.isTooDeep (depth + 2) = false)
    (hMembers : members ≠ [])
    (hFills : ctx.bindings.fills name = false) :
    (Node.memberTest op left delimiter
        (members ++ some (.parameter name) :: others)).render
          ctx depth indent =
      (Node.memberTest op left delimiter (members ++ others)).render
        ctx depth indent := by
  apply render_memberTest_congr
  · rw [firstParameter?_append hMembers, firstParameter?_append hMembers]
  · rw [renderMembers_append, renderMembers_append,
      renderMembers_cons_of_not_fills hInline hDeep hFills]

------------------------------------------------------------
-- Members in Another Order
------------------------------------------------------------

/- One of the members of a list raises an error. -/
def Members.Raise
    (ctx : RenderContext)
    (depth : Nat)
    (indent : Int)
    (members : List (Option Node))
    (e : RenderError) : Prop :=
  ∃ n, some n ∈ members ∧ n.render ctx depth indent = .error e

/- Members that cannot be written have one that raises the error. -/
theorem raise_of_renderMembers
    {depth : Nat}
    {indent : Int}
    {e : RenderError}
    (hError : Node.renderMembers ctx depth indent members = .error e) :
    Members.Raise ctx depth indent members e := by
  induction members with
  | nil => cases hError
  | cons member members ih =>
      cases member with
      | none =>
          rcases ih hError with ⟨n, hMember, hRaised⟩
          exact ⟨n, List.mem_cons_of_mem _ hMember, hRaised⟩
      | some n =>
          rw [Node.renderMembers] at hError
          cases hText : n.render ctx depth indent with
          | error e' =>
              rw [hText] at hError
              cases hError
              exact ⟨n, List.mem_cons_self, hText⟩
          | ok text =>
              rw [hText] at hError
              cases hRest : Node.renderMembers ctx depth indent members with
              | error e' =>
                  rw [hRest] at hError
                  cases hError
                  rcases ih hRest with ⟨m, hMember, hRaised⟩
                  exact ⟨m, List.mem_cons_of_mem _ hMember, hRaised⟩
              | ok texts =>
                  rw [hRest] at hError
                  cases hError

theorem renderMembers_cons_eq_ok
    {depth : Nat}
    {indent : Int}
    {member : Option Node}
    {texts : List String} :
    Node.renderMembers ctx depth indent (member :: members) = .ok texts ↔
      ∃ first rest,
        Node.renderMembers ctx depth indent [member] = .ok first ∧
          Node.renderMembers ctx depth indent members = .ok rest ∧
            first ++ rest = texts := by
  rw [← List.singleton_append, renderMembers_append]
  simp only [bind_eq_ok, pure, Except.pure, Except.ok.injEq]
  constructor
  · rintro ⟨first, hFirst, rest, hRest, hTexts⟩
    exact ⟨first, rest, hFirst, hRest, hTexts⟩
  · rintro ⟨first, rest, hFirst, hRest, hTexts⟩
    exact ⟨first, hFirst, rest, hRest, hTexts⟩

/- Members in another order have their texts in another order. -/
theorem renderMembers_perm
    {depth : Nat}
    {indent : Int}
    {texts : List String}
    (hPerm : members.Perm others)
    (hTexts : Node.renderMembers ctx depth indent members = .ok texts) :
    ∃ otherTexts,
      Node.renderMembers ctx depth indent others = .ok otherTexts ∧
        texts.Perm otherTexts := by
  induction hPerm generalizing texts with
  | nil => exact ⟨texts, hTexts, .refl _⟩
  | cons member _ ih =>
      rcases renderMembers_cons_eq_ok.mp hTexts with
        ⟨first, rest, hFirst, hRest, rfl⟩
      rcases ih hRest with ⟨otherRest, hOthers, hPerm⟩
      exact ⟨first ++ otherRest,
        renderMembers_cons_eq_ok.mpr ⟨_, _, hFirst, hOthers, rfl⟩,
        hPerm.append_left first⟩
  | swap member other members =>
      rcases renderMembers_cons_eq_ok.mp hTexts with
        ⟨first, later, hFirst, hLater, rfl⟩
      rcases renderMembers_cons_eq_ok.mp hLater with
        ⟨second, rest, hSecond, hRest, rfl⟩
      have hOthers := renderMembers_cons_eq_ok.mpr
        ⟨_, _, hFirst, hRest, rfl⟩
      refine ⟨_, renderMembers_cons_eq_ok.mpr
        ⟨_, _, hSecond, hOthers, rfl⟩, ?_⟩
      rw [← List.append_assoc, ← List.append_assoc]
      exact List.perm_append_comm.append_right rest
  | trans _ _ ihFirst ihSecond =>
      rcases ihFirst hTexts with ⟨middle, hMiddle, hPerm⟩
      rcases ihSecond hMiddle with ⟨last, hLast, hPerm'⟩
      exact ⟨last, hLast, hPerm.trans hPerm'⟩

------------------------------------------------------------
-- Verdicts
------------------------------------------------------------

/-
  What becomes of a membership test: an error about a parameter
  that is missing, the result of an empty list, a test that is
  written, nothing at all, or any other error.
-/
inductive Verdict where
| missing
| nothing
| test
| absent
| failure
deriving DecidableEq, Repr

def Verdict.of : Rendered → Verdict
| .error (.unboundMember _ _) => .missing
| .error _ => .failure
| .ok none => .absent
| .ok (some s) => if s = emptyListResult then .nothing else .test

/-
  Two results are alike: they are the same, or both are texts of
  tests, or both are errors that members raise.
-/
inductive Rendered.Alike
    (E : RenderError → Prop) : Rendered → Rendered → Prop
| same (result : Rendered) : Alike E result result
| text (s s' : String) : Alike E (.ok (some s)) (.ok (some s'))
| error {e e' : RenderError} (hError : E e) (hError' : E e') :
    Alike E (.error e) (.error e')

namespace Rendered.Alike

variable {E : RenderError → Prop}

theorem pair
    {first second second' : Rendered}
    (f : String → String → String)
    (hSecond : Alike E second second') :
    Alike E (Rendered.pair first second f)
      (Rendered.pair first second' f) := by
  match first with
  | .error _ | .ok none => exact .same _
  | .ok (some _) =>
      cases hSecond with
      | same => exact .same _
      | text => exact .text _ _
      | error hError hError' => exact .error hError hError'

theorem grouped
    {depth : Nat}
    {result result' : Rendered}
    (hResult : Alike E result result') :
    Alike E (ctx.grouped depth result) (ctx.grouped depth result') := by
  unfold RenderContext.grouped
  split
  next => exact .same _
  next =>
    cases hResult with
    | same => exact .same _
    | text => exact .text _ _
    | error hError hError' => exact .error hError hError'

/- Results that are alike have one verdict if none is that of an empty list. -/
theorem verdict
    {result result' : Rendered}
    (hResult : Alike E result result')
    (hTest : result ≠ .ok (some emptyListResult))
    (hTest' : result' ≠ .ok (some emptyListResult)) :
    Verdict.of result = Verdict.of result' ∨
      ∃ e e', result = .error e ∧ result' = .error e' ∧ E e ∧ E e' := by
  cases hResult with
  | same => exact .inl rfl
  | text s s' =>
      left
      rw [Verdict.of, Verdict.of, if_neg, if_neg]
      · exact fun hSame => hTest' (hSame ▸ rfl)
      · exact fun hSame => hTest (hSame ▸ rfl)
  | error hError hError' =>
      exact .inr ⟨_, _, rfl, rfl, hError, hError'⟩

end Rendered.Alike

/- Lists of the same members in another order are written alike. -/
theorem alike_members
    {depth : Nat}
    {indent : Int}
    (hPerm : members.Perm others) :
    Rendered.Alike (Members.Raise ctx depth indent members)
      (Node.renderSlot ctx depth indent delimiter (.many members))
      (Node.renderSlot ctx depth indent delimiter (.many others)) := by
  rw [Node.renderSlot, Node.renderSlot]
  cases hTexts : Node.renderMembers ctx depth indent members with
  | ok texts =>
      rcases renderMembers_perm hPerm hTexts with
        ⟨otherTexts, hOthers, hSame⟩
      rw [hOthers]
      cases texts with
      | nil =>
          cases hSame.nil_eq
          exact .same _
      | cons text texts =>
          cases otherTexts with
          | nil => cases hSame.eq_nil
          | cons other otherTexts => exact .text _ _
  | error e =>
      cases hOthers : Node.renderMembers ctx depth indent others with
      | ok otherTexts =>
          rcases renderMembers_perm hPerm.symm hOthers with
            ⟨texts, hOk, _⟩
          rw [hTexts] at hOk
          cases hOk
      | error e' =>
          refine .error (raise_of_renderMembers hTexts) ?_
          rcases raise_of_renderMembers hOthers with ⟨n, hMember, hError⟩
          exact ⟨n, hPerm.mem_iff.mpr hMember, hError⟩

/- The list of a test is the text of its members in brackets. -/
theorem listText_eq
    (ctx : RenderContext)
    (depth : Nat)
    (indent : Int)
    (delimiter : String)
    (members : List (Option Node)) :
    ctx.listText depth indent delimiter members =
      ctx.grouped (depth + 1)
        (Node.renderSlot ctx (depth + 2) indent delimiter
          (.many members)) := by
  simp only [RenderContext.listText, Node.renderSlot, Node.render,
    RenderContext.grouped]
  split
  next => rfl
  next =>
    cases Node.renderMembers ctx (depth + 2) indent members with
    | error e => rfl
    | ok texts =>
        simp only [Except.map]
        cases joined delimiter texts with
        | none => rfl
        | some s =>
            have hText : enclose true s ≠ "" := append_ne_empty_right _ nofun
            exact congrArg Except.ok (present_of_ne_empty hText)

/-
  A test on the same members in another order comes to the same,
  if the member that comes first is judged alike, unless members
  raise errors of their own.
-/
theorem verdict_perm
    {depth : Nat}
    {indent : Int}
    (hOp : op.isMembership = true)
    (hPerm : members.Perm others)
    (hJudged : ctx.judgement members = ctx.judgement others) :
    let result :=
      (Node.memberTest op left delimiter members).render ctx depth indent
    let otherResult :=
      (Node.memberTest op left delimiter others).render ctx depth indent
    Verdict.of result = Verdict.of otherResult ∨
      ∃ e e', result = .error e ∧ otherResult = .error e' ∧
        Members.Raise ctx (depth + 2) indent members e ∧
          Members.Raise ctx (depth + 2) indent members e' := by
  intro result otherResult
  by_cases hDeep : ctx.isTooDeep depth = true
  · left
    simp only [result, otherResult, Node.memberTest, Node.render, hDeep,
      if_true]
  rw [Bool.not_eq_true] at hDeep
  by_cases hLeft : left.isVacant = true
  · left
    simp only [result, otherResult, Node.memberTest, Node.render, hDeep,
      hLeft, Bool.true_or, Bool.false_eq_true, if_true, if_false]
  rw [Bool.not_eq_true] at hLeft
  have hMissing {list : List (Option Node)}
      (hFirst : ctx.judgement list = .unbound) :
      Verdict.of ((Node.memberTest op left delimiter list).render
        ctx depth indent) = .missing := by
    rcases memberTest_of_unbound hOp hDeep hLeft hFirst with
      ⟨_, _, hError⟩
    rw [hError, Verdict.of]
  cases hFirst : ctx.judgement members with
  | unbound =>
      exact .inl ((hMissing hFirst).trans
        (hMissing (hJudged ▸ hFirst)).symm)
  | empty =>
      left
      simp only [result, otherResult,
        memberTest_of_empty hOp hDeep hLeft hFirst,
        memberTest_of_empty hOp hDeep hLeft (hJudged ▸ hFirst)]
  | ordinary =>
      simp only [result, otherResult,
        memberTest_of_ordinary hOp hDeep hLeft hFirst,
        memberTest_of_ordinary hOp hDeep hLeft (hJudged ▸ hFirst),
        listText_eq]
      exact ((alike_members hPerm).grouped.pair _).verdict
        pair_ne_emptyListResult pair_ne_emptyListResult

------------------------------------------------------------
-- Tests on Lists
------------------------------------------------------------

/- A context with values for some parameters. -/
def listContext (entries : List (String × Value)) : RenderContext where
  dialect := .mysql
  bindings := .ofList entries
  inline := true
  maxDepth := defaultMaxDepth

/- A membership test on a column. -/
def columnTest (members : List Node) : Node :=
  .memberTest .isIn (.one (.column "b" none none)) ", " (members.map some)

/- What becomes of a test on a column. -/
def columnVerdict
    (entries : List (String × Value))
    (members : List Node) : Verdict :=
  Verdict.of ((columnTest members).render (listContext entries) 1 0)

/- A template with a list whose first member is a number. -/
def numberFirstTemplate : String :=
  "SELECT a FROM t WHERE b IN (1, :x)"

/-
  The order of the members matters.  A parameter that is unbound,
  or bound to an empty collection, is left out of the list where
  it does not come first, and of two errors that members raise
  it is the one of the first that is reported.
-/
theorem membership_depends_on_order :
    (∃ tree, parse numberFirstTemplate = .ok tree ∧
        tree.parameterNames = ["x"] ∧
          (listContext []).render tree =
            .ok "SELECT a\nFROM t\nWHERE b IN (1)") ∧
      columnVerdict [] [.literal (.int 1), .parameter "x"] = .test ∧
      columnVerdict [] [.parameter "x", .literal (.int 1)] = .missing ∧
      columnVerdict [("x", .collection .list [])]
        [.parameter "x", .literal (.int 1)] = .nothing ∧
      columnVerdict [("x", .collection .list [])]
        [.literal (.int 1), .parameter "x"] = .test ∧
      columnVerdict [("m", .mapping [])]
        [.literal (.int 1), .parameter "m", columnTest [.parameter "x"]] =
          .failure ∧
      columnVerdict [("m", .mapping [])]
        [.literal (.int 1), columnTest [.parameter "x"], .parameter "m"] =
          .missing := by
  have hCheck :
      parsesTo numberFirstTemplate (fun tree =>
        tree.parameterNames = ["x"] ∧
          ((listContext []).render tree).toOption =
            some "SELECT a\nFROM t\nWHERE b IN (1)") = true := by
    decide +kernel
  rcases exists_of_parse hCheck with ⟨tree, hParse, hNames, hText⟩
  refine ⟨⟨tree, hParse, hNames, eq_ok_of_toOption hText⟩, ?_⟩
  decide +kernel

/-
  A membership test is judged by the first member of its list, a
  parameter in place of the list being its only member.  If that
  is an unbound parameter, it is missing; exactly if it is a
  parameter bound to an empty collection, the test comes to the
  result of an empty list; and otherwise the test is written with
  the members that are present.  Where values are written into
  the text, a parameter without a value is not one of these.  The
  order of the members does not matter if the one that comes
  first is judged alike, unless members raise errors of their own.
-/
theorem membership_is_judged_by_first_member
    {ctx : RenderContext}
    {op : BinaryOp}
    {left : Slot Node}
    {delimiter : String}
    {members : List (Option Node)}
    (hOp : op.isMembership = true) :
    (∀ (n : Node) (depth : Nat) (indent : Int),
        n.isParameter = true →
          (Node.binary op left (.one n)).render ctx depth indent =
            (Node.memberTest op left " " [some n]).render
              ctx depth indent) ∧
      (∀ (depth : Nat) (indent : Int),
        ctx.isTooDeep depth = false → left.isVacant = false →
          let result :=
            (Node.memberTest op left delimiter members).render
              ctx depth indent
          (ctx.judgement members = .unbound →
            ∃ name, firstParameter? members = some name ∧
              result = .error (.unboundMember op.symbol name)) ∧
          (result = .ok (some emptyListResult) ↔
            ctx.judgement members = .empty) ∧
          (ctx.judgement members = .ordinary →
            result =
              Rendered.pair
                (Node.renderSlot ctx (depth + 1) indent " " left)
                (ctx.grouped (depth + 1)
                  (Node.renderSlot ctx (depth + 2) indent delimiter
                    (.many members)))
                (binaryText op))) ∧
      (∀ (name : String) (others : List (Option Node)) (depth : Nat)
          (indent : Int),
        ctx.inline = true → ctx.isTooDeep (depth + 2) = false →
          members ≠ [] → ctx.bindings.fills name = false →
            (Node.memberTest op left delimiter
                (members ++ some (.parameter name) :: others)).render
                  ctx depth indent =
              (Node.memberTest op left delimiter
                (members ++ others)).render ctx depth indent) ∧
      ∀ (others : List (Option Node)) (depth : Nat) (indent : Int),
        members.Perm others →
          ctx.judgement members = ctx.judgement others →
            let result :=
              (Node.memberTest op left delimiter members).render
                ctx depth indent
            let otherResult :=
              (Node.memberTest op left delimiter others).render
                ctx depth indent
            Verdict.of result = Verdict.of otherResult ∨
              ∃ e e', result = .error e ∧ otherResult = .error e' ∧
                Members.Raise ctx (depth + 2) indent members e ∧
                  Members.Raise ctx (depth + 2) indent members e' := by
  refine ⟨?_, ?_, ?_, ?_⟩
  · intro n depth indent hParameter
    exact render_bare_memberTest hOp hParameter depth indent
  · intro depth indent hDeep hLeft
    refine ⟨memberTest_of_unbound hOp hDeep hLeft,
      memberTest_eq_false_iff hOp hDeep hLeft, ?_⟩
    intro hJudged
    rw [← listText_eq]
    exact memberTest_of_ordinary hOp hDeep hLeft hJudged
  · intro name others depth indent hInline hDeep hMembers hFills
    exact memberTest_of_not_fills hInline hDeep hMembers hFills
  · intro others depth indent hPerm hJudged
    exact verdict_perm hOp hPerm hJudged

theorem membership_is_judged_by_first_member_of_columns :
    let ctx := listContext [("e", .collection .list [])]
    let column := Slot.one (Node.column "b" none none)
    (Node.binary .isIn column (.one (.parameter "e"))).render ctx 1 0 =
        (Node.memberTest .isIn column " " [some (.parameter "e")]).render
          ctx 1 0 ∧
      (columnTest [.parameter "x", .literal (.int 1)]).render ctx 1 0 =
        .error (.unboundMember "IN" "x") ∧
      (columnTest [.parameter "e", .literal (.int 1)]).render ctx 1 0 =
        .ok (some emptyListResult) ∧
      (columnTest [.literal (.int 1)]).render ctx 1 0 =
        .ok (some "b IN (1)") ∧
      (columnTest [.literal (.int 1), .parameter "x",
            .literal (.int 2)]).render ctx 1 0 =
        (columnTest [.literal (.int 1), .literal (.int 2)]).render ctx 1 0 ∧
      columnVerdict [("e", .collection .list [])]
          [.literal (.int 1), .parameter "x", .literal (.int 2)] =
        columnVerdict [("e", .collection .list [])]
          [.literal (.int 2), .literal (.int 1), .parameter "x"] := by
  intro ctx column
  have hJudged (members : List Node) :=
    @membership_is_judged_by_first_member ctx .isIn column ", "
      (members.map some) rfl
  refine ⟨?_, ?_, ?_, ?_, ?_, ?_⟩
  · exact (hJudged []).1 (.parameter "e") 1 0 rfl
  · rcases ((hJudged [.parameter "x", .literal (.int 1)]).2.1 1 0
      rfl rfl).1 rfl with ⟨name, hName, hError⟩
    cases Option.some.inj hName
    exact hError
  · exact ((hJudged [.parameter "e", .literal (.int 1)]).2.1 1 0
      rfl rfl).2.1.mpr rfl
  · have hTest := ((hJudged [.literal (.int 1)]).2.1 1 0 rfl rfl).2.2 rfl
    rw [columnTest, hTest]
    exact eq_ok_of_toOption (by decide +kernel)
  · exact (hJudged [.literal (.int 1)]).2.2.1 "x"
      [some (.literal (.int 2))] 1 0 rfl rfl (List.cons_ne_nil _ _) rfl
  · have hOrder := List.perm_append_singleton
      (some (Node.literal (.int 2)))
      [some (.literal (.int 1)), some (.parameter "x")]
    rcases (hJudged [.literal (.int 1), .parameter "x",
      .literal (.int 2)]).2.2.2 _ 1 0 hOrder rfl with
      hSame | ⟨e, _, hError, _⟩
    · exact hSame
    · have hWritten : columnVerdict [("e", .collection .list [])]
          [.literal (.int 1), .parameter "x", .literal (.int 2)] =
            .test := by
        decide +kernel
      change Verdict.of _ = .test at hWritten
      rw [columnTest, hError] at hWritten
      cases e <;> cases hWritten

end SqlTemplate
