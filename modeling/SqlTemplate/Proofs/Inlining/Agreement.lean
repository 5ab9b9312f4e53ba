import SqlTemplate.Node.Everywhere
import SqlTemplate.Proofs.Inlining.Values

/-
  What is written for a fragment with values inlined has the
  tokens of what is written with placeholders, once each
  placeholder is replaced by the tokens of its value.

  Key definitions include:
    * `RenderContext.prepared`
    * `Rendered.Inlines`
    * `Node.Inlined`
    * `Slot.Inlined`
-/

------------------------------------------------------------
-- Renderings
------------------------------------------------------------

namespace SqlTemplate

/- The same context with placeholders left for the values. -/
def RenderContext.prepared (ctx : RenderContext) : RenderContext :=
  { ctx with inline := false }

namespace Rendered

/-
  If a rendering succeeds, then so does the one with
  placeholders, and both are absent or have related texts.
-/
def Inlines
    (d : Dialect)
    (b : Bindings)
    (r r' : Rendered) : Prop :=
  ∀ text, r = .ok text →
    ∃ text', r' = .ok text' ∧ Option.Rel (SqlTemplate.Inlines d b) text text'

variable {d : Dialect} {b : Bindings} {r r' : Rendered}

theorem inlines_error
    (e : RenderError) :
    Inlines d b (.error e) r' :=
  nofun

theorem inlines_constant
    (hConstant : ∀ text, r = .ok text → ∀ s ∈ text, d.IsConstant s) :
    Inlines d b r r := by
  intro text hText
  refine ⟨text, hText, ?_⟩
  cases text with
  | none => exact .none
  | some s => exact .some (.of_constant b (hConstant _ hText s rfl))

/- A fragment that is made of one part is inlined if the part is. -/
theorem Inlines.map
    {f : String → String}
    (hPart : Inlines d b r r')
    (hText :
      ∀ {s s'}, SqlTemplate.Inlines d b s s' →
        SqlTemplate.Inlines d b (f s) (f s')) :
    Inlines d b (r.map (·.map f)) (r'.map (·.map f)) := by
  intro text hMap
  rcases map_eq_ok.mp hMap with ⟨inner, hInner, rfl⟩
  rcases hPart inner hInner with ⟨inner', rfl, hRel⟩
  refine ⟨_, rfl, ?_⟩
  cases hRel with
  | none => exact .none
  | some hSame => exact .some (hText hSame)

/- A fragment of two parts is inlined if both parts are. -/
theorem Inlines.pair
    {first first' second second' : Rendered}
    {f : String → String → String}
    (hFirst : Inlines d b first first')
    (hSecond : Inlines d b second second')
    (hText :
      ∀ {s s' t t'}, SqlTemplate.Inlines d b s s' →
        SqlTemplate.Inlines d b t t' →
          SqlTemplate.Inlines d b (f s t) (f s' t')) :
    Inlines d b (Rendered.pair first second f)
      (Rendered.pair first' second' f) := by
  intro text hPair
  rcases pair_eq_ok hPair with ⟨hNone, rfl⟩ | ⟨s, hSome, other, hOther, rfl⟩
  · rcases hFirst _ hNone with ⟨text', rfl, hRel⟩
    cases hRel
    exact ⟨none, rfl, .none⟩
  · rcases hFirst _ hSome with ⟨text', rfl, hRel⟩
    rcases hSecond _ hOther with ⟨other', rfl, hOtherRel⟩
    cases hRel with
    | some hLeft =>
        cases hOtherRel with
        | none => exact ⟨none, rfl, .none⟩
        | some hRight => exact ⟨_, rfl, .some (hText hLeft hRight)⟩

/- A range test is inlined if its operand and its bounds are. -/
theorem Inlines.range
    {operand operand' low low' high high' : Rendered}
    (hOperand : Inlines d b operand operand')
    (hLow : Inlines d b low low')
    (hHigh : Inlines d b high high') :
    Inlines d b (Rendered.range operand low high)
      (Rendered.range operand' low' high') := by
  intro text hRange
  rcases range_eq_ok hRange with
    ⟨hNone, rfl⟩ | ⟨s, lowText, highText, hSome, hLowText, hHighText, rfl⟩
  · rcases hOperand _ hNone with ⟨text', rfl, hRel⟩
    cases hRel
    exact ⟨none, rfl, .none⟩
  · rcases hOperand _ hSome with ⟨text', rfl, hRel⟩
    rcases hLow _ hLowText with ⟨lowText', rfl, hLowRel⟩
    rcases hHigh _ hHighText with ⟨highText', rfl, hHighRel⟩
    cases hRel with
    | some hText =>
        exact ⟨_, rfl, hText.betweenText hLowRel hHighRel⟩

end Rendered

------------------------------------------------------------
-- Fragments
------------------------------------------------------------

/- A node is inlined wherever it is written. -/
def Node.Inlined
    (ctx : RenderContext)
    (n : Node) : Prop :=
  ∀ (depth : Nat) (indent : Int),
    Rendered.Inlines ctx.dialect ctx.bindings (n.render ctx depth indent)
      (n.render ctx.prepared depth indent)

/- A slot is inlined wherever it is written. -/
def Slot.Inlined
    (ctx : RenderContext)
    (slot : Slot Node) : Prop :=
  ∀ (depth : Nat) (indent : Int) (separator : String),
    ctx.dialect.IsGlue separator →
      Rendered.Inlines ctx.dialect ctx.bindings
        (Node.renderSlot ctx depth indent separator slot)
        (Node.renderSlot ctx.prepared depth indent separator slot)

variable {ctx : RenderContext}

/- Only fragments at an allowed depth are written. -/
theorem inlined_of_allowed
    {n : Node}
    (hAllowed :
      ∀ (depth : Nat) (indent : Int),
        ctx.isTooDeep depth = false →
          ctx.prepared.isTooDeep depth = false →
            Rendered.Inlines ctx.dialect ctx.bindings
              (n.render ctx depth indent)
              (n.render ctx.prepared depth indent)) :
    n.Inlined ctx := by
  intro depth indent text hRender
  have hDeep := not_tooDeep_of_render hRender
  exact hAllowed depth indent hDeep hDeep text hRender

theorem inlined_vacant : (Slot.vacant : Slot Node).Inlined ctx := by
  intro depth indent separator _ text hRender
  cases hRender
  exact ⟨none, rfl, .none⟩

/- A text of a fragment is never empty. -/
theorem rel_present
    {d : Dialect}
    {b : Bindings}
    {text text' : Option String}
    (hRel : Option.Rel (Inlines d b) text text') :
    Option.Rel (Inlines d b) (text.bind present) (text'.bind present) := by
  cases hRel with
  | none => exact .none
  | @some s s' hSame =>
      have hInlined : (some s).bind present = some s :=
        present_of_ne_empty hSame.inlined.present
      have hPrepared : (some s').bind present = some s' :=
        present_of_ne_empty hSame.prepared.present
      rw [hInlined, hPrepared]
      exact .some hSame

theorem inlined_one
    {n : Node}
    (hNode : n.Inlined ctx) :
    (Slot.one n).Inlined ctx := by
  intro depth indent separator _ text hRender
  rw [Node.renderSlot] at hRender
  rcases map_eq_ok.mp hRender with ⟨inner, hInner, rfl⟩
  rcases hNode depth indent inner hInner with ⟨inner', hPrepared, hRel⟩
  rw [Node.renderSlot, hPrepared]
  exact ⟨_, rfl, rel_present hRel⟩

/- The members of a list are inlined one by one. -/
def Members.Inlined
    (ctx : RenderContext)
    (members : List (Option Node)) : Prop :=
  ∀ (depth : Nat) (indent : Int) (texts : List String),
    Node.renderMembers ctx depth indent members = .ok texts →
      ∃ texts',
        Node.renderMembers ctx.prepared depth indent members =
            .ok texts' ∧
          List.Forall₂ (Inlines ctx.dialect ctx.bindings) texts texts'

theorem inlined_many
    {members : List (Option Node)}
    (hMembers : Members.Inlined ctx members) :
    (Slot.many members).Inlined ctx := by
  intro depth indent separator hGlue text hRender
  rw [Node.renderSlot] at hRender
  rcases map_eq_ok.mp hRender with ⟨texts, hTexts, rfl⟩
  rcases hMembers depth indent texts hTexts with ⟨texts', hPrepared, hForall⟩
  rw [Node.renderSlot, hPrepared]
  refine ⟨_, rfl, ?_⟩
  cases hForall with
  | nil => exact .none
  | cons hFirst hRest =>
      exact .some (.intercalate hGlue (.cons hFirst hRest)
        (List.cons_ne_nil _ _))

theorem inlined_nil : Members.Inlined ctx [] := by
  intro depth indent texts hRender
  cases hRender
  exact ⟨[], rfl, .nil⟩

theorem inlined_cons
    {n : Node}
    {members : List (Option Node)}
    (hNode : n.Inlined ctx)
    (hMembers : Members.Inlined ctx members) :
    Members.Inlined ctx (some n :: members) := by
  intro depth indent texts hRender
  rcases renderMembers_some_eq_ok.mp hRender with
    ⟨text, others, hText, hOthers, rfl⟩
  rcases hNode depth indent text hText with ⟨text', hPrepared, hRel⟩
  rcases hMembers depth indent others hOthers with
    ⟨others', hOthersPrepared, hForall⟩
  rw [Node.renderMembers, hPrepared, hOthersPrepared]
  refine ⟨_, rfl, ?_⟩
  have hFirst :
      List.Forall₂ (Inlines ctx.dialect ctx.bindings)
        (text.bind present).toList (text'.bind present).toList := by
    have hKept := rel_present hRel
    generalize text'.bind present = kept' at hKept
    generalize text.bind present = kept at hKept
    cases hKept with
    | none => exact .nil
    | some hSame => exact .cons hSame .nil
  exact List.rel_append hFirst hForall

/- Arguments are inlined one by one, if all of them are there. -/
def Arguments.Inlined
    (ctx : RenderContext)
    (args : List (Option Node)) : Prop :=
  ∀ (depth : Nat) (indent : Int) (texts : Option (List String)),
    Node.renderArgs ctx depth indent args = .ok texts →
      ∃ texts',
        Node.renderArgs ctx.prepared depth indent args = .ok texts' ∧
          Option.Rel (List.Forall₂ (Inlines ctx.dialect ctx.bindings))
            texts texts'

theorem inlinedArgs_nil : Arguments.Inlined ctx [] := by
  intro depth indent texts hRender
  cases hRender
  exact ⟨_, rfl, .some .nil⟩

theorem inlinedArgs_none
    (args : List (Option Node)) :
    Arguments.Inlined ctx (none :: args) := by
  intro depth indent texts hRender
  cases hRender
  exact ⟨_, rfl, .none⟩

theorem inlinedArgs_cons
    {n : Node}
    {args : List (Option Node)}
    (hNode : n.Inlined ctx)
    (hArgs : Arguments.Inlined ctx args) :
    Arguments.Inlined ctx (some n :: args) := by
  intro depth indent texts hRender
  rw [Node.renderArgs] at hRender
  rcases bind_eq_ok.mp hRender with ⟨text, hText, hRest⟩
  rcases hNode depth indent text hText with ⟨text', hPrepared, hRel⟩
  have hKept := rel_present hRel
  rw [Node.renderArgs, hPrepared]
  dsimp only [bind, Except.bind]
  generalize text'.bind present = kept' at hKept
  generalize text.bind present = kept at hKept hRest
  cases hKept with
  | none =>
      cases hRest
      exact ⟨_, rfl, .none⟩
  | some hSame =>
      rcases bind_eq_ok.mp hRest with ⟨others, hOthers, hTexts⟩
      cases hTexts
      rcases hArgs depth indent others hOthers with
        ⟨others', hOthersPrepared, hOthersRel⟩
      dsimp only
      rw [hOthersPrepared]
      refine ⟨_, rfl, ?_⟩
      cases hOthersRel with
      | none => exact .none
      | some hForall => exact .some (.cons hSame hForall)

end SqlTemplate
