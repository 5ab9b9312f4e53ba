import SqlTemplate.Proofs.Rendering.Dependence
import SqlTemplate.Proofs.Rendering.Places
import SqlTemplate.Proofs.Rendering.Substitution

/-
  More values take nothing away.  If bindings extend others by
  scalars, then pruning leaves every fragment that it left
  before, and whatever stood in the text of a template stands in
  it again, although not always in the same form.

  Key definitions include:
    * `Bindings.Extends`

  Correctness is proven by:
    * `Node.remains`
    * `ownText?_of_extends`
    * `outlet?_of_extends`
    * `textAt?_of_extends`
    * `more_values_keep_fragments`
-/

------------------------------------------------------------
-- More Values
------------------------------------------------------------

namespace SqlTemplate

/-
  Bindings extend others: what is bound stays as it is, and no
  other name is bound to a collection.
-/
structure Bindings.Extends (q p : Bindings) : Prop where
  same : ∀ name, p.isBound name = true → q name = p name
  scalar :
    ∀ name, p.isBound name = false → (q name).isCollection = false

variable {p q : Bindings}

theorem eq_null_of_unbound
    {name : String}
    (hUnbound : p.isBound name = false) :
    p name = .null := by
  rw [Bindings.isBound, Option.isSome_eq_false_iff,
    Option.isNone_iff_eq_none] at hUnbound
  exact Bindings.value?_eq_none.mp hUnbound

namespace Bindings.Extends

theorem isBound
    {name : String}
    (hExtends : q.Extends p)
    (hBound : p.isBound name = true) :
    q.isBound name = true := by
  rw [Bindings.isBound, Bindings.value?, hExtends.same name hBound]
  exact hBound

theorem fills
    {name : String}
    (hExtends : q.Extends p)
    (hFills : p.fills name = true) :
    q.fills name = true := by
  rcases value_of_fills hFills with ⟨v, hValue, _⟩
  have hBound : p.isBound name = true := by
    rw [Bindings.isBound, hValue]
    rfl
  rw [Bindings.fills, Bindings.value?, hExtends.same name hBound]
  exact hFills

/- A name that is bound anew has a value to be written. -/
theorem fills_of_unbound
    {name : String}
    (hExtends : q.Extends p)
    (hUnbound : p.isBound name = false)
    (hBound : q.isBound name = true) :
    q.fills name = true := by
  rcases Option.isSome_iff_exists.mp hBound with ⟨v, hValue⟩
  have hScalar := hExtends.scalar name hUnbound
  rw [Bindings.value?_eq_some hValue] at hScalar
  rw [fills_of_value? hValue, isEmptyCollection_of_scalar hScalar]
  rfl

/- No list is decided about that was not before. -/
theorem empties_eq
    (hExtends : q.Extends p)
    (list : Slot Node) :
    q.empties list = p.empties list := by
  unfold Bindings.empties
  split
  next name _ =>
    cases hBound : p.isBound name with
    | true => rw [hExtends.same name hBound]
    | false =>
        rw [isEmptyCollection_of_scalar (hExtends.scalar name hBound),
          eq_null_of_unbound hBound]
        rfl
  next => rfl

theorem leavesOpen
    {slot : Slot Node}
    (hExtends : q.Extends p)
    (hClosed : p.leavesOpen slot = false) :
    q.leavesOpen slot = false := by
  unfold Bindings.leavesOpen at hClosed ⊢
  cases hBare : slot.bareParameter? with
  | none => rfl
  | some name =>
      rw [hBare] at hClosed
      simp only [Bool.not_eq_false'] at hClosed ⊢
      exact hExtends.isBound hClosed

end Bindings.Extends

/- Entries are extended by further ones that are no collections. -/
theorem extends_ofList
    {entries more : List (String × Value)}
    (hScalars : ∀ entry ∈ more, entry.2.isCollection = false) :
    (Bindings.ofList (entries ++ more)).Extends (.ofList entries) := by
  constructor
  · intro name hBound
    cases hEntry : entries.lookup name with
    | none =>
        simp only [Bindings.isBound, Bindings.value?, Bindings.ofList,
          hEntry] at hBound
        cases hBound
    | some v => simp [Bindings.ofList, List.lookup_append, hEntry]
  · intro name hUnbound
    cases hEntry : entries.lookup name with
    | some v =>
        have hNull := eq_null_of_unbound hUnbound
        simp only [Bindings.ofList, List.lookup_append, hEntry,
          Option.some_or, Option.getD_some] at hNull ⊢
        rw [hNull]
        rfl
    | none =>
        rw [Bindings.ofList, List.lookup_append, hEntry, Option.none_or]
        cases hMore : more.lookup name with
        | none => rfl
        | some v =>
            rcases List.lookup_eq_some_iff.mp hMore with
              ⟨before, after, hSplit, _⟩
            exact hScalars (name, v) (by simp [hSplit])

------------------------------------------------------------
-- Fragments That Remain
------------------------------------------------------------

/- A parameter that is no longer left open is not pruned. -/
theorem remains_of_closed
    {slot : Slot Node}
    (hExtends : q.Extends p)
    (hOpen : p.leavesOpen slot = true)
    (hClosed : q.leavesOpen slot = false) :
    (Node.prunedSlot q slot).isVacant = false := by
  unfold Bindings.leavesOpen at hOpen hClosed
  cases hBare : slot.bareParameter? with
  | none =>
      rw [hBare] at hOpen
      cases hOpen
  | some name =>
      rw [hBare] at hOpen hClosed
      simp only [Bool.not_eq_true', Bool.not_eq_false'] at hOpen hClosed
      have hFills := hExtends.fills_of_unbound hOpen hClosed
      cases slot with
      | vacant | many => cases hBare
      | one n =>
          cases n with
          | parameter own | numeral own =>
              cases hBare
              rw [Node.prunedSlot, Node.pruned, if_pos hFills]
              rfl
          | _ => cases hBare

theorem isSome_map_given?
    {α β : Type}
    {slot : Slot α}
    {f : Slot α → β} :
    (slot.given?.map f).isSome = true ↔ slot.isVacant = false := by
  rw [Option.isSome_map, Slot.given?]
  cases slot.isVacant <;> simp

theorem isSome_bind_given?
    {α β : Type}
    {left right : Slot α}
    {f : Slot α → Slot α → β} :
    (do
        let left ← left.given?
        let right ← right.given?
        return f left right : Option β).isSome = true ↔
      left.isVacant = false ∧ right.isVacant = false := by
  simp only [Slot.given?]
  cases left.isVacant <;> cases right.isVacant <;> simp

theorem isVacant_ofOption
    {α : Type}
    {item : Option α} :
    (Slot.ofOption item).isVacant = false ↔ item.isSome = true := by
  cases item <;> simp [Slot.ofOption, Slot.isVacant]

theorem isVacant_ofPresent
    {α : Type}
    {items : List α} :
    (Slot.ofPresent items).isVacant = false ↔ items ≠ [] := by
  cases items <;> simp [Slot.ofPresent, Slot.ofList, Slot.isVacant]

/- A range test remains with its operand and one of its bounds. -/
theorem isSome_pruned_between
    {operand low high : Slot Node} :
    ((Node.between operand low high).pruned p).isSome = true ↔
      (Node.prunedSlot p operand).isVacant = false ∧
        ((Node.prunedSlot p low).isVacant = false ∨
          (Node.prunedSlot p high).isVacant = false) := by
  rw [Node.pruned, Slot.given?]
  cases (Node.prunedSlot p operand).isVacant with
  | true => simp
  | false =>
      cases Node.prunedSlot p low <;> cases Node.prunedSlot p high <;>
        simp [Node.ranged, Slot.isVacant]

theorem prunedMembers_ne_nil
    {n : Node}
    {members : List (Option Node)} :
    Node.prunedMembers p (some n :: members) ≠ [] ↔
      (n.pruned p).isSome = true ∨ Node.prunedMembers p members ≠ [] := by
  rw [Node.prunedMembers]
  cases n.pruned p <;> simp

theorem isSome_prunedArgs
    {n : Node}
    {args : List (Option Node)} :
    (Node.prunedArgs p (some n :: args)).isSome = true ↔
      (n.pruned p).isSome = true ∧
        (Node.prunedArgs p args).isSome = true := by
  rw [Node.prunedArgs]
  cases n.pruned p <;> cases Node.prunedArgs p args <;> simp

/- An operator with two operands does not become a null test. -/
theorem not_nullTest
    {op : BinaryOp}
    {right : Slot Node}
    (hExtends : q.Extends p)
    (hOperands : ¬(op.isNullLenient && p.leavesOpen right) = true) :
    ¬(op.isNullLenient && q.leavesOpen right) = true := by
  intro hNow
  rcases Bool.and_eq_true_iff.mp hNow with ⟨hLenient, hOpen⟩
  rw [hLenient, Bool.true_and] at hOperands
  rw [hExtends.leavesOpen (Bool.eq_false_of_not_eq_true hOperands)] at hOpen
  cases hOpen

/- An operator remains as a null test, a decision or both operands. -/
theorem remains_binary
    {op : BinaryOp}
    {left right : Slot Node}
    (hExtends : q.Extends p)
    (hLeft :
      (Node.prunedSlot p left).isVacant = false →
        (Node.prunedSlot q left).isVacant = false)
    (hRight :
      (Node.prunedSlot p right).isVacant = false →
        (Node.prunedSlot q right).isVacant = false)
    (hRemains : ((Node.binary op left right).pruned p).isSome = true) :
    ((Node.binary op left right).pruned q).isSome = true := by
  rw [Node.pruned] at hRemains ⊢
  rw [hExtends.empties_eq]
  split at hRemains
  next hNullTest =>
    rw [isSome_map_given?] at hRemains
    have hLeftNow := hLeft hRemains
    rcases Bool.and_eq_true_iff.mp hNullTest with ⟨hLenient, hOpen⟩
    split
    next => exact isSome_map_given?.mpr hLeftNow
    next hOperands =>
      -- What was a null test compares with the new value.
      rw [hLenient, Bool.true_and] at hOperands
      rw [BinaryOp.isMembership_of_isNullLenient hLenient, Bool.false_and,
        if_neg Bool.noConfusion, isSome_bind_given?]
      exact ⟨hLeftNow, remains_of_closed hExtends hOpen
        (Bool.eq_false_of_not_eq_true hOperands)⟩
  next hOperands =>
    rw [if_neg (not_nullTest hExtends hOperands)]
    split
    next => rfl
    next hJudged =>
      rw [if_neg hJudged, isSome_bind_given?] at hRemains
      rw [isSome_bind_given?]
      exact ⟨hLeft hRemains.1, hRight hRemains.2⟩

mutual

/- What pruning leaves of a tree it leaves under more values. -/
theorem Node.remains
    (hExtends : q.Extends p) :
    ∀ n : Node, (n.pruned p).isSome = true → (n.pruned q).isSome = true
| .column .., _ | .literal _, _ | .raw _, _ | .foreign _, _ => rfl
| .table .., _ | .select _, _ | .subquery .., _ => rfl
| .parameter name, hRemains | .numeral name, hRemains => by
    rw [Node.pruned] at hRemains ⊢
    split at hRemains
    next hFills =>
      rw [if_pos (hExtends.fills hFills)]
      rfl
    next => cases hRemains
| .group members _ _, hRemains =>
    isSome_map_given?.mpr
      (members.remains hExtends (isSome_map_given?.mp hRemains))
| .binary _ left right, hRemains =>
    remains_binary hExtends (left.remains hExtends)
      (right.remains hExtends) hRemains
| .connective _ operands, hRemains =>
    isSome_map_given?.mpr
      (operands.remains hExtends (isSome_map_given?.mp hRemains))
| .unary _ operand, hRemains =>
    isSome_map_given?.mpr
      (operand.remains hExtends (isSome_map_given?.mp hRemains))
| .between operand low high, hRemains => by
    rcases isSome_pruned_between.mp hRemains with ⟨hOperand, hBounds⟩
    exact isSome_pruned_between.mpr ⟨operand.remains hExtends hOperand,
      hBounds.imp (low.remains hExtends) (high.remains hExtends)⟩
| .call _ (.many args) _, hRemains => by
    rw [Node.pruned, Option.isSome_map] at hRemains ⊢
    exact Arguments.remain hExtends args hRemains
| .call _ (.one arg) _, hRemains => by
    rw [Node.pruned, Option.isSome_map] at hRemains ⊢
    exact arg.remains hExtends hRemains
| .call _ .vacant _, _ => rfl
| .alias node _, hRemains =>
    isSome_map_given?.mpr
      (node.remains hExtends (isSome_map_given?.mp hRemains))
| .orderBy node _, hRemains =>
    isSome_map_given?.mpr
      (node.remains hExtends (isSome_map_given?.mp hRemains))
termination_by structural n => n

theorem Slot.remains
    (hExtends : q.Extends p) :
    ∀ slot : Slot Node, (Node.prunedSlot p slot).isVacant = false →
      (Node.prunedSlot q slot).isVacant = false
| .vacant, hRemains => hRemains
| .one n, hRemains =>
    isVacant_ofOption.mpr
      (n.remains hExtends (isVacant_ofOption.mp hRemains))
| .many members, hRemains =>
    isVacant_ofPresent.mpr
      (Members.remain hExtends members (isVacant_ofPresent.mp hRemains))
termination_by structural slot => slot

theorem Members.remain
    (hExtends : q.Extends p) :
    ∀ members : List (Option Node), Node.prunedMembers p members ≠ [] →
      Node.prunedMembers q members ≠ []
| [], hRemain => hRemain
| none :: members, hRemain => Members.remain hExtends members hRemain
| some n :: members, hRemain =>
    prunedMembers_ne_nil.mpr
      ((prunedMembers_ne_nil.mp hRemain).imp (n.remains hExtends)
        (Members.remain hExtends members))
termination_by structural members => members

theorem Arguments.remain
    (hExtends : q.Extends p) :
    ∀ args : List (Option Node), (Node.prunedArgs p args).isSome = true →
      (Node.prunedArgs q args).isSome = true
| [], _ => rfl
| none :: _, hRemain => hRemain
| some n :: args, hRemain =>
    isSome_prunedArgs.mpr
      ((isSome_prunedArgs.mp hRemain).imp (n.remains hExtends)
        (Arguments.remain hExtends args))
termination_by structural args => args

end

------------------------------------------------------------
-- Texts That Remain
------------------------------------------------------------

variable {ctx : RenderContext} {depth : Nat} {indent : Int}

theorem Node.IsFragment.prunes
    {n : Node}
    (hInline : ctx.inline = true)
    (hFragment : n.IsFragment) :
    n.Prunes ctx := by
  rcases hFragment with hShaped | hLimit
  · exact n.prunes hInline hShaped
  · rcases eq_of_isLimit hLimit with ⟨count, rfl⟩ | ⟨name, rfl⟩
    · exact prunes_literal _
    · exact prunes_numeral name hInline

/- A fragment is present where it is written, unless it is pruned. -/
theorem isSome_ownText?
    {n : Node}
    {separator : String}
    {text : Option String}
    (hPrunes : n.Prunes ctx)
    (hRemains : (n.pruned ctx.bindings).isSome = true)
    (hRender :
      Node.renderSlot ctx depth indent separator (.one n) = .ok text) :
    ∃ s, n.ownText? ctx depth indent = some s := by
  have hAgrees := prunes_one hPrunes _ _ _ _ hRender
  have hGiven := isVacant_ofOption.mpr hRemains
  rw [← Node.prunedSlot, hAgrees.vacant] at hGiven
  rcases Option.isSome_iff_exists.mp
    (Option.isNone_eq_false_iff.mp hGiven) with ⟨s, rfl⟩
  exact ⟨s, ownText?_eq_some.mpr hRender⟩

/- A fragment that is present is so again if it is written at all. -/
theorem ownText?_of_extends
    {n : Node}
    {s separator : String}
    {text : Option String}
    (hInline : ctx.inline = true)
    (hExtends : q.Extends ctx.bindings)
    (hFragment : n.IsFragment)
    (hOwn : n.ownText? ctx depth indent = some s)
    (hRender :
      Node.renderSlot (ctx.rebound q) depth indent separator (.one n) =
        .ok text) :
    ∃ t, n.ownText? (ctx.rebound q) depth indent = some t := by
  rcases render_of_ownText? hOwn with ⟨hBefore, hText⟩
  have hRemains := n.remains hExtends
    (isSome_pruned (hFragment.prunes hInline) hBefore hText)
  have hStillInline : (ctx.rebound q).inline = true := hInline
  exact isSome_ownText? (hFragment.prunes hStillInline) hRemains hRender

/- What a slot holds is written where it was. -/
theorem outlet?_of_extends
    {n : Node}
    {slot : Nat}
    {outlet : Nat × Int}
    (hExtends : q.Extends ctx.bindings)
    (hOutlet : n.outlet? ctx depth indent slot = some outlet) :
    n.outlet? (ctx.rebound q) depth indent slot = some outlet := by
  cases n with
  | binary op left right =>
      have hNow : (ctx.rebound q).bindings = q := rfl
      rw [Node.outlet?] at hOutlet ⊢
      rw [hNow, hExtends.empties_eq]
      split at hOutlet
      next hNullTest =>
        split at hOutlet
        next hFirst =>
          subst hFirst
          have hOrdinary : op.isMembership = false :=
            BinaryOp.isMembership_of_isNullLenient
              (Bool.and_eq_true_iff.mp hNullTest).1
          simpa [hOrdinary] using hOutlet
        next => cases hOutlet
      next hOperands =>
        rw [if_neg (not_nullTest hExtends hOperands)]
        exact hOutlet
  | _ => exact hOutlet

/-
  A node that is present in a place is present in it under more
  values, if the tree is written under them.
-/
theorem textAt?_of_extends
    {n m : Node}
    {place : Place}
    {s separator : String}
    {text : Option String}
    (hInline : ctx.inline = true)
    (hExtends : q.Extends ctx.bindings)
    (hFragment : n.IsFragment)
    (hAt : n.textAt? ctx place depth indent = some (m, s))
    (hRender :
      Node.renderSlot (ctx.rebound q) depth indent separator (.one n) =
        .ok text) :
    ∃ t, n.textAt? (ctx.rebound q) place depth indent = some (m, t) := by
  induction place generalizing n depth indent separator text with
  | nil =>
      rcases Option.map_eq_some_iff.mp hAt with ⟨_, hOwn, hSame⟩
      cases hSame
      rcases ownText?_of_extends hInline hExtends hFragment hOwn hRender with
        ⟨t, hNow⟩
      exact ⟨t, Option.map_eq_some_iff.mpr ⟨t, hNow, rfl⟩⟩
  | cons step place ih =>
      rcases textAt?_cons.mp hAt with
        ⟨_, outlet, child, hOwn, hOutlet, hChild, hBelow⟩
      rcases ownText?_of_extends hInline hExtends hFragment hOwn hRender with
        ⟨u, hNow⟩
      have hStill := outlet?_of_extends hExtends hOutlet
      have hStillInline : (ctx.rebound q).inline = true := hInline
      rcases writtenIn_child hStillInline hFragment hNow hStill hChild with
        ⟨_, _, hChildRender, _⟩
      rcases ih (hFragment.child hChild) hBelow hChildRender with ⟨t, hFound⟩
      exact ⟨t, textAt?_cons.mpr
        ⟨u, outlet, child, hNow, hStill, hChild, hFound⟩⟩

------------------------------------------------------------
-- Templates
------------------------------------------------------------

/- The text of a template is that of its tree. -/
theorem ownText?_of_build
    {d : Dialect}
    {b : Bindings}
    {maxDepth : Int}
    {sql text : String}
    {tree : Node}
    (hParse : parse sql = .ok tree)
    (hBuild : build d b maxDepth sql = .ok text) :
    tree.ownText? ⟨d, b, true, maxDepth⟩ 1 0 = some text := by
  rcases renderTemplate_eq_ok.mp hBuild with ⟨_, hSame, hRender⟩
  cases hParse.symm.trans hSame
  rcases map_eq_ok.mp hRender with ⟨slotText, hSlot, rfl⟩
  have hRemains : (tree.pruned b).isSome = true := by
    rcases select_of_parse hParse with ⟨query, rfl⟩
    rfl
  rcases isSome_ownText? (tree.prunes rfl (shaped_of_parse hParse)) hRemains
    hSlot with ⟨s, hOwn⟩
  cases hSlot.symm.trans (ownText?_eq_some.mp hOwn)
  exact hOwn

/-
  More values take no fragment away.  If a template can be built
  with some values and with others that extend them by scalars,
  then each node that is present in its place with the first has
  a text in the template with the second as well.
-/
theorem more_values_keep_fragments
    {d : Dialect}
    {maxDepth : Int}
    {sql text text' : String}
    {tree : Node}
    (hExtends : q.Extends p)
    (hParse : parse sql = .ok tree)
    (hBuild : build d p maxDepth sql = .ok text)
    (hExtended : build d q maxDepth sql = .ok text') :
    ∀ place m s,
      tree.textAt? ⟨d, p, true, maxDepth⟩ place 1 0 = some (m, s) →
        (s ≠ "" ∧ Text.IsPart s text) ∧
          ∃ t, tree.textAt? ⟨d, q, true, maxDepth⟩ place 1 0 =
            some (m, t) ∧ t ≠ "" ∧ Text.IsPart t text' := by
  intro place m s hAt
  have hFragment : tree.IsFragment := .inl (shaped_of_parse hParse)
  have hOwn := ownText?_of_build hParse hBuild
  have hNow := ownText?_of_build hParse hExtended
  rcases textAt?_of_extends rfl hExtends hFragment hAt
    (ownText?_eq_some.mp hNow) with ⟨t, hFound⟩
  rcases isPart_of_textAt? rfl hFragment hAt with ⟨hText, u, hRoot, hPart⟩
  rcases isPart_of_textAt? rfl hFragment hFound with
    ⟨hText', u', hRoot', hPart'⟩
  cases hOwn.symm.trans hRoot
  cases hNow.symm.trans hRoot'
  exact ⟨⟨hText, hPart⟩, t, hFound, hText', hPart'⟩

/- Values for one bound of a range and for a limit. -/
def fewEntries : List (String × Value) :=
  [("low", .int 1), ("n", .int 5)]

/- Values for all other parameters. -/
def moreEntries : List (String × Value) :=
  [("x", .int 2), ("high", .int 9), ("y", .int 3), ("m", .int 10)]

/- A template whose tests change their form as values are added. -/
def growingTemplate : String :=
  "SELECT a FROM t WHERE b = :x AND c BETWEEN :low AND :high" ++
    " AND d IN (1, :y) LIMIT :n OFFSET :m"

/- The text that the template has with all values. -/
def grownText : String :=
  "SELECT a\nFROM t\nWHERE b = 2 AND c BETWEEN 1 AND 9" ++
    " AND d IN (1, 3)\nLIMIT 5 OFFSET 10"

theorem more_values_keep_fragments_of_range :
    ∃ tree range s,
      parse growingTemplate = .ok tree ∧
        tree.textAt? ⟨.postgresql, .ofList fewEntries, true, 100⟩
            [(2, 0), (0, 1)] 1 0 = some (range, "c >= 1") ∧
          tree.textAt?
              ⟨.postgresql, .ofList (fewEntries ++ moreEntries), true, 100⟩
              [(2, 0), (0, 1)] 1 0 = some (range, s) ∧
            Text.IsPart s grownText := by
  have hTree :
      parsesTo growingTemplate
        (fun tree =>
          (tree.textAt? ⟨.postgresql, .ofList fewEntries, true, 100⟩
            [(2, 0), (0, 1)] 1 0).map Prod.snd = some "c >= 1") = true := by
    decide +kernel
  have hFew :
      (build .postgresql (.ofList fewEntries) 100 growingTemplate).toOption =
        some ("SELECT a\nFROM t\nWHERE b IS null AND c >= 1" ++
          " AND d IN (1)\nLIMIT 5") := by
    decide +kernel
  have hMore :
      (build .postgresql (.ofList (fewEntries ++ moreEntries)) 100
          growingTemplate).toOption = some grownText := by
    decide +kernel
  rcases exists_of_parse hTree with ⟨tree, hParse, hText⟩
  rcases Option.map_eq_some_iff.mp hText with ⟨⟨range, s⟩, hAt, rfl⟩
  rcases more_values_keep_fragments (extends_ofList (by decide)) hParse
    (eq_ok_of_toOption hFew) (eq_ok_of_toOption hMore) _ _ _ hAt with
    ⟨_, t, hNow, _, hPart⟩
  exact ⟨tree, range, t, hParse, hAt, hNow, hPart⟩

end SqlTemplate
