import SqlTemplate.Node.Everywhere
import SqlTemplate.Proofs.Preparing.ColonNames
import SqlTemplate.Proofs.Text.Letters
import SqlTemplate.Rendering.Placeholders

/-
  The placeholders of a tree and the names that follow colons in
  its text.  Every placeholder is such a name, and such a name
  is a placeholder unless it stands in a literal, in a name or
  in the name of a function.

  Key definitions include:
    * `Node.SilentAbout`
    * `Accounts`
    * `Node.Accounted`
  Correctness is proven by:
    * `accounted_binary`
    * `accounted_query`
    * `Node.accounted`
-/

------------------------------------------------------------
-- Texts of Nodes
------------------------------------------------------------

namespace SqlTemplate

/-
  The literals and names of a node, as they are written, do not
  have the given name after a colon.  The nodes below it are not
  looked at.
-/
def Node.SilentAbout
    (ctx : RenderContext)
    (name : String) : Node → Prop
| .column own owner database =>
    ∀ s ∈ (ctx.qualified [database, owner, some own]).toOption,
      name ∉ Text.colonNames s
| .literal v => ∀ s ∈ (ctx.literal v).toOption, name ∉ Text.colonNames s
| .raw text => name ∉ Text.colonNames text
| .call function _ _ => name ∉ Text.colonNames function
| .alias _ label =>
    ∀ s ∈ (ctx.name label).toOption, name ∉ Text.colonNames s
| .table own label database _ _ =>
    (∀ s ∈ (ctx.qualified [database, some own]).toOption,
      name ∉ Text.colonNames s) ∧
      ∀ s ∈ (ctx.name? label).toOption, name ∉ namesIn s
| .subquery _ label =>
    ∀ s ∈ (ctx.name? label).toOption, name ∉ namesIn s
| _ => True

instance
    (ctx : RenderContext)
    (name : String) : DecidablePred (Node.SilentAbout ctx name)
| .column .. | .literal _ | .alias .. | .subquery .. =>
    Option.decidableForallMem _
| .raw _ | .call .. => instDecidableNot
| .table .. => instDecidableAnd
| .parameter _ | .numeral _ | .group .. | .binary .. | .connective ..
| .unary .. | .between .. | .orderBy .. | .select _ | .foreign _ =>
    .isTrue trivial

theorem mem_toOption
    {α : Type}
    {result : Except RenderError α}
    {a : α}
    (hOk : result = .ok a) :
    a ∈ result.toOption := by
  rw [hOk]
  rfl

------------------------------------------------------------
-- Accounts
------------------------------------------------------------

/-
  The placeholders of a fragment account for the names found in
  its text: each is found there, and the name that is asked
  about is found only as one of them, if the fragment is silent
  about it otherwise.
-/
structure Accounts
    (silent : Prop)
    (name : String)
    (names found : List String) : Prop where
  included : names ⊆ found
  placed : silent → name ∈ found → name ∈ names

namespace Accounts

variable {silent silent' : Prop} {name : String}
variable {names names' found found' : List String}

theorem nothing : Accounts silent name [] [] :=
  ⟨List.nil_subset _, fun _ hFound => hFound⟩

/- A text of a silent fragment without placeholders. -/
theorem quiet
    (hSilent : silent → name ∉ found) :
    Accounts silent name [] found :=
  ⟨List.nil_subset _, fun hOwn hFound => absurd hFound (hSilent hOwn)⟩

theorem weaken
    (hAll : Accounts silent name names found)
    (hLess : silent' → silent) :
    Accounts silent' name names found :=
  ⟨hAll.included, fun hOwn => hAll.placed (hLess hOwn)⟩

theorem append
    (hFirst : Accounts silent name names found)
    (hSecond : Accounts silent name names' found') :
    Accounts silent name (names ++ names') (found ++ found') := by
  refine ⟨?_, ?_⟩
  · intro other hMember
    rcases List.mem_append.mp hMember with hLeft | hRight
    · exact List.mem_append_left _ (hFirst.included hLeft)
    · exact List.mem_append_right _ (hSecond.included hRight)
  · intro hOwn hMember
    rcases List.mem_append.mp hMember with hLeft | hRight
    · exact List.mem_append_left _ (hFirst.placed hOwn hLeft)
    · exact List.mem_append_right _ (hSecond.placed hOwn hRight)

/- A text of the fragment itself after the texts below it. -/
theorem append_quiet
    (hAll : Accounts silent name names found)
    (hSilent : silent → name ∉ found') :
    Accounts silent name names (found ++ found') := by
  have hBoth := hAll.append (quiet hSilent)
  rw [List.append_nil] at hBoth
  exact hBoth

theorem quiet_append
    (hSilent : silent → name ∉ found')
    (hAll : Accounts silent name names found) :
    Accounts silent name names (found' ++ found) :=
  (quiet hSilent).append hAll

theorem of_mem_iff
    (hAll : Accounts silent name names found)
    (hSame : ∀ other, other ∈ found' ↔ other ∈ found) :
    Accounts silent name names found' :=
  ⟨fun other hMember => (hSame other).mpr (hAll.included hMember),
    fun hOwn hFound => hAll.placed hOwn ((hSame name).mp hFound)⟩

end Accounts

------------------------------------------------------------
-- Fragments
------------------------------------------------------------

section

variable (ctx : RenderContext) (name : String)

/- The placeholders of a node account for its text. -/
def Node.Accounted (n : Node) : Prop :=
  ∀ (depth : Nat) (indent : Int) (text : Option String),
    n.render ctx depth indent = .ok text →
      Accounts (n.Everywhere (Node.SilentAbout ctx name)) name
        (n.placeholders ctx depth indent) (namesIn text)

/- The same of the content of a slot. -/
def Slot.Accounted (slot : Slot Node) : Prop :=
  ∀ (depth : Nat) (indent : Int) (separator : String)
    (text : Option String), Text.IsGlue separator →
      Node.renderSlot ctx depth indent separator slot = .ok text →
        Accounts (slot.Everywhere (Node.SilentAbout ctx name)) name
          (Node.slotPlaceholders ctx depth indent slot) (namesIn text)

/- The same of the members of a list. -/
def Members.Accounted (members : List (Option Node)) : Prop :=
  ∀ (depth : Nat) (indent : Int) (texts : List String),
    Node.renderMembers ctx depth indent members = .ok texts →
      Accounts (Members.Everywhere (Node.SilentAbout ctx name) members) name
        (Node.memberPlaceholders ctx depth indent members)
        (texts.flatMap Text.colonNames)

/- The same of the arguments of a call, if none is absent. -/
def Arguments.Accounted (args : List (Option Node)) : Prop :=
  ∀ (depth : Nat) (indent : Int) (texts : List String),
    Node.renderArgs ctx depth indent args = .ok (some texts) →
      Accounts (Members.Everywhere (Node.SilentAbout ctx name) args) name
        (Node.memberPlaceholders ctx depth indent args)
        (texts.flatMap Text.colonNames)

/- The same of a query. -/
def Query.Accounted (query : Query Node) : Prop :=
  ∀ (depth : Nat) (indent : Int) (s : String),
    Node.renderQuery ctx depth indent query = .ok s →
      Accounts (query.Everywhere (Node.SilentAbout ctx name)) name
        (Node.queryPlaceholders ctx depth indent query)
        (Text.colonNames s)

end

variable {ctx : RenderContext} {name : String}

/- Only the placeholders of a node that is present are accounted for. -/
theorem accounted_of_present
    {n : Node}
    (hNode : ∀ (depth : Nat) (indent : Int) (s : String),
      ctx.isTooDeep depth = false →
        n.render ctx depth indent = .ok (some s) →
          Accounts (n.Everywhere (Node.SilentAbout ctx name)) name
            (n.placeholders ctx depth indent) (Text.colonNames s)) :
    n.Accounted ctx name := by
  intro depth indent text hRender
  cases text with
  | none =>
      have hAbsent : (n.render ctx depth indent).isPresent = false := by
        rw [hRender]
        rfl
      rw [Node.placeholders_of_absent hAbsent]
      exact .nothing
  | some s =>
      rw [namesIn_some]
      exact hNode depth indent s (not_tooDeep_of_render hRender) hRender

theorem isPresent_of_render
    {n : Node}
    {depth : Nat}
    {indent : Int}
    {s : String}
    (hRender : n.render ctx depth indent = .ok (some s)) :
    (n.render ctx depth indent).isPresent = true := by
  rw [hRender]
  rfl

/- A present text of a fragment that is made of another one. -/
theorem some_of_map
    {result : Rendered}
    {f : String → String}
    {s : String}
    (hText : result.map (·.map f) = .ok (some s)) :
    ∃ t, result = .ok (some t) ∧ f t = s := by
  rcases map_eq_ok.mp hText with ⟨text, hResult, hSome⟩
  rcases Option.map_eq_some_iff.mp hSome with ⟨t, rfl, hSame⟩
  exact ⟨t, hResult, hSame⟩

------------------------------------------------------------
-- Names, Literals and Parameters
------------------------------------------------------------

theorem accounted_column
    (own : String)
    (owner database : Option String) :
    (Node.column own owner database).Accounted ctx name := by
  apply accounted_of_present
  intro depth indent s hDeep hRender
  rw [Node.placeholders.eq_def, if_pos (isPresent_of_render hRender)]
  dsimp only
  simp only [Node.render, hDeep, Bool.false_eq_true, if_false] at hRender
  rcases map_eq_ok.mp hRender with ⟨t, hName, hSome⟩
  cases hSome
  exact .quiet fun hSilent => hSilent s (mem_toOption hName)

theorem accounted_literal
    (v : Value) :
    (Node.literal v).Accounted ctx name := by
  apply accounted_of_present
  intro depth indent s hDeep hRender
  rw [Node.placeholders.eq_def, if_pos (isPresent_of_render hRender)]
  dsimp only
  simp only [Node.render, hDeep, Bool.false_eq_true, if_false] at hRender
  rcases map_eq_ok.mp hRender with ⟨t, hLiteral, hSome⟩
  cases hSome
  exact .quiet fun hSilent => hSilent s (mem_toOption hLiteral)

/- The name of a parameter has only word characters. -/
theorem isWord_of_isBareName
    {own : String}
    (hName : IsBareName own) :
    own.toList.all Text.isWord = true := by
  rcases hName with ⟨c, cs, hChars, hStart, hWord⟩
  rw [hChars, List.all_cons, isWord_of_isNameStart hStart, hWord]
  rfl

theorem accounted_parameter
    {own : String}
    (hInline : ctx.inline = false)
    (hName : IsBareName own) :
    (Node.parameter own).Accounted ctx name := by
  apply accounted_of_present
  intro depth indent s hDeep hRender
  rw [Node.placeholders.eq_def, if_pos (isPresent_of_render hRender)]
  dsimp only
  simp only [Node.render, hDeep, Bool.false_eq_true, if_false,
    RenderContext.parameter, hInline] at hRender
  cases hRender
  rw [colonNames_placeholder (isWord_of_isBareName hName),
    RenderContext.parameterPlaceholders, hInline]
  exact ⟨List.Subset.refl _, fun _ hFound => hFound⟩

------------------------------------------------------------
-- Operators
------------------------------------------------------------

/- The operands of a membership test are written, or it is false. -/
theorem written_of_unlessEmptyList
    {op : BinaryOp}
    {list : Slot Node}
    {text : Rendered}
    {s : String}
    (hText : ctx.unlessEmptyList op list text = .ok (some s)) :
    (ctx.writesOperands op list = false ∧ s = emptyListResult) ∨
      (ctx.writesOperands op list = true ∧ text = .ok (some s)) := by
  unfold RenderContext.unlessEmptyList at hText
  unfold RenderContext.writesOperands
  split at hText
  next hOp =>
    split at hText
    next => cases hText
    next hJudged =>
      cases hText
      left
      simp [hOp, hJudged]
    next hJudged =>
      right
      simp [hOp, hJudged, hText]
  next hOp =>
    right
    simp [hOp, hText]

theorem namesIn_joined
    {separator : String}
    (hGlue : Text.IsGlue separator)
    (texts : List String) :
    namesIn (joined separator texts) =
      texts.flatMap Text.colonNames := by
  unfold joined
  cases texts with
  | nil => rfl
  | cons s texts =>
      rw [List.isEmpty_cons, if_neg Bool.false_ne_true, namesIn_some,
        Text.colonNames_intercalate hGlue]

theorem accounted_group
    {members : Slot Node}
    {delimiter : String}
    (brackets : Bool)
    (hGlue : Text.IsGlue delimiter)
    (hMembers : members.Accounted ctx name) :
    (Node.group members brackets delimiter).Accounted ctx name := by
  apply accounted_of_present
  intro depth indent s hDeep hRender
  rw [Node.placeholders.eq_def, if_pos (isPresent_of_render hRender)]
  dsimp only
  simp only [Node.render, hDeep, Bool.false_eq_true, if_false] at hRender
  rcases some_of_map hRender with ⟨t, hText, rfl⟩
  rw [colonNames_enclose, ← namesIn_some]
  exact (hMembers _ _ _ _ hGlue hText).weaken And.right

theorem accounted_binary
    {left right : Slot Node}
    (op : BinaryOp)
    (hLeft : left.Accounted ctx name)
    (hRight : right.Accounted ctx name) :
    (Node.binary op left right).Accounted ctx name := by
  apply accounted_of_present
  intro depth indent s hDeep hRender
  rw [Node.placeholders.eq_def, if_pos (isPresent_of_render hRender)]
  dsimp only
  simp only [Node.render, hDeep, Bool.false_eq_true, if_false] at hRender
  split at hRender
  next => cases hRender
  split at hRender
  next hLenient =>
    rcases some_of_map hRender with ⟨t, hText, rfl⟩
    rw [if_pos hLenient, colonNames_nullTest, ← namesIn_some]
    exact (hLeft _ _ _ _ (by decide) hText).weaken (·.2.1)
  next hLenient =>
    rw [if_neg hLenient]
    -- The list decides whether the operands are written.
    rcases written_of_unlessEmptyList hRender with
      ⟨hWrites, rfl⟩ | ⟨hWrites, hOperands⟩
    · rw [hWrites]
      exact .nothing
    · rw [hWrites, if_pos rfl]
      rcases pair_eq_ok hOperands with ⟨_, hNone⟩ | ⟨t, hFirst, hRest⟩
      · cases hNone
      rcases hRest with ⟨other, hSecond, hSome⟩
      rcases Option.map_eq_some_iff.mp hSome.symm with ⟨t', rfl, rfl⟩
      rw [colonNames_binaryText, ← namesIn_some, ← namesIn_some]
      have hFirst := hLeft _ _ _ _ (by decide) hFirst
      apply (hFirst.weaken (·.2.1)).append
      split at hSecond
      next hBare =>
        rw [if_pos hBare]
        rcases grouped_eq_ok hSecond with ⟨_, inner, hInner, hSame⟩
        rcases Option.map_eq_some_iff.mp hSame with ⟨t, rfl, rfl⟩
        rw [namesIn_some, colonNames_enclose, ← namesIn_some]
        exact (hRight _ _ _ _ (by decide) hInner).weaken (·.2.2)
      next hBare =>
        rw [if_neg hBare]
        exact (hRight _ _ _ _ (by decide) hSecond).weaken (·.2.2)

theorem accounted_connective
    {operands : Slot Node}
    (op : ConnectiveOp)
    (hOperands : operands.Accounted ctx name) :
    (Node.connective op operands).Accounted ctx name := by
  have hGlue : Text.IsGlue (" " ++ op.symbol ++ " ") := by
    cases op <;> decide
  apply accounted_of_present
  intro depth indent s hDeep hRender
  rw [Node.placeholders.eq_def, if_pos (isPresent_of_render hRender)]
  dsimp only
  simp only [Node.render, hDeep, Bool.false_eq_true, if_false] at hRender
  rw [← namesIn_some]
  exact (hOperands _ _ _ _ hGlue hRender).weaken And.right

theorem accounted_unary
    {operand : Slot Node}
    (op : UnaryOp)
    (hOperand : operand.Accounted ctx name) :
    (Node.unary op operand).Accounted ctx name := by
  apply accounted_of_present
  intro depth indent s hDeep hRender
  rw [Node.placeholders.eq_def, if_pos (isPresent_of_render hRender)]
  dsimp only
  simp only [Node.render, hDeep, Bool.false_eq_true, if_false] at hRender
  split at hRender
  next => cases hRender
  next =>
    rcases some_of_map hRender with ⟨t, hText, rfl⟩
    rw [colonNames_unaryText, ← namesIn_some]
    exact (hOperand _ _ _ _ (by decide) hText).weaken And.right

theorem accounted_between
    {operand low high : Slot Node}
    (hOperand : operand.Accounted ctx name)
    (hLow : low.Accounted ctx name)
    (hHigh : high.Accounted ctx name) :
    (Node.between operand low high).Accounted ctx name := by
  apply accounted_of_present
  intro depth indent s hDeep hRender
  rw [Node.placeholders.eq_def, if_pos (isPresent_of_render hRender)]
  dsimp only
  simp only [Node.render, hDeep, Bool.false_eq_true, if_false] at hRender
  split at hRender
  next => cases hRender
  next =>
    rcases range_eq_ok hRender with
      ⟨_, hNone⟩ | ⟨t, lower, upper, hText, hLower, hUpper, hSome⟩
    · cases hNone
    · rw [colonNames_betweenText hSome.symm, ← namesIn_some]
      have hText := hOperand _ _ _ _ (by decide) hText
      have hLower := hLow _ _ _ _ (by decide) hLower
      have hUpper := hHigh _ _ _ _ (by decide) hUpper
      exact ((hText.weaken (·.2.1)).append
        (hLower.weaken (·.2.2.1))).append (hUpper.weaken (·.2.2.2))

------------------------------------------------------------
-- Calls, Columns and Keys
------------------------------------------------------------

theorem accounted_call
    {args : List (Option Node)}
    (function : String)
    (distinct : Bool)
    (hArgs : Arguments.Accounted ctx name args) :
    (Node.call function (.many args) distinct).Accounted ctx name := by
  apply accounted_of_present
  intro depth indent s hDeep hRender
  rw [Node.placeholders.eq_def, if_pos (isPresent_of_render hRender)]
  dsimp only
  simp only [Node.render, hDeep, Bool.false_eq_true, if_false] at hRender
  rcases map_eq_ok.mp hRender with ⟨texts?, hTexts, hSome⟩
  rcases Option.map_eq_some_iff.mp hSome with ⟨texts, rfl, rfl⟩
  rw [colonNames_callText]
  exact .quiet_append (fun hSilent => hSilent.1)
    ((hArgs _ _ _ hTexts).weaken And.right)

theorem accounted_alias
    {node : Slot Node}
    (label : String)
    (hNode : node.Accounted ctx name) :
    (Node.alias node label).Accounted ctx name := by
  apply accounted_of_present
  intro depth indent s hDeep hRender
  rw [Node.placeholders.eq_def, if_pos (isPresent_of_render hRender)]
  dsimp only
  simp only [Node.render, hDeep, Bool.false_eq_true, if_false] at hRender
  split at hRender
  next => cases hRender
  next =>
    rcases pair_eq_ok hRender with ⟨_, hNone⟩ | ⟨t, hText, hRest⟩
    · cases hNone
    rcases hRest with ⟨other, hOther, hSome⟩
    rcases map_eq_ok.mp hOther with ⟨labelText, hLabel, rfl⟩
    cases hSome
    rw [Text.colonNames_glued (by decide), ← namesIn_some]
    exact ((hNode _ _ _ _ (by decide) hText).weaken And.right).append_quiet
      fun hSilent => hSilent.1 _ (mem_toOption hLabel)

theorem accounted_orderBy
    {node : Slot Node}
    {direction : Option String}
    (hDirection : ∀ word ∈ direction, word ∈ sortDirections)
    (hNode : node.Accounted ctx name) :
    (Node.orderBy node direction).Accounted ctx name := by
  apply accounted_of_present
  intro depth indent s hDeep hRender
  rw [Node.placeholders.eq_def, if_pos (isPresent_of_render hRender)]
  dsimp only
  simp only [Node.render, hDeep, Bool.false_eq_true, if_false] at hRender
  rcases some_of_map hRender with ⟨t, hText, rfl⟩
  rw [colonNames_orderText t hDirection, ← namesIn_some]
  exact (hNode _ _ _ _ (by decide) hText).weaken And.right

theorem accounted_table
    {condition : Slot Node}
    {join : Option String}
    (own : String)
    (label database : Option String)
    (hJoin : ∀ words ∈ join, words ∈ joinKinds)
    (hCondition : condition.Accounted ctx name) :
    (Node.table own label database join condition).Accounted ctx name := by
  apply accounted_of_present
  intro depth indent s hDeep hRender
  rw [Node.placeholders.eq_def, if_pos (isPresent_of_render hRender)]
  dsimp only
  simp only [Node.render, hDeep, Bool.false_eq_true, if_false] at hRender
  rcases bind_eq_ok.mp hRender with ⟨nameText, hName, hRest⟩
  rcases bind_eq_ok.mp hRest with ⟨labelText, hLabel, hRest⟩
  rcases bind_eq_ok.mp hRest with ⟨conditionText, hText, hTable⟩
  cases hTable
  rw [colonNames_tableText nameText labelText conditionText hJoin,
    List.append_assoc]
  exact .quiet_append
    (fun hSilent => hSilent.1.1 _ (mem_toOption hName))
    (.quiet_append (fun hSilent => hSilent.1.2 _ (mem_toOption hLabel))
      ((hCondition _ _ _ _ (by decide) hText).weaken And.right))

------------------------------------------------------------
-- Queries
------------------------------------------------------------

theorem accounted_select
    {query : Query Node}
    (hQuery : query.Accounted ctx name) :
    (Node.select query).Accounted ctx name := by
  apply accounted_of_present
  intro depth indent s hDeep hRender
  rw [Node.placeholders.eq_def, if_pos (isPresent_of_render hRender)]
  dsimp only
  simp only [Node.render, hDeep, Bool.false_eq_true, if_false] at hRender
  rcases map_eq_ok.mp hRender with ⟨t, hText, hSome⟩
  cases hSome
  exact (hQuery _ _ _ hText).weaken And.right

/- A subquery is written like the query in its slot. -/
theorem accounted_subquery
    {slot : Slot Node}
    (label : Option String)
    (hSlot : slot.Accounted ctx name) :
    (Node.subquery slot label).Accounted ctx name := by
  apply accounted_of_present
  intro depth indent s hDeep hRender
  rw [Node.placeholders.eq_def, if_pos (isPresent_of_render hRender)]
  cases slot with
  | vacant | many =>
      simp only [Node.render, hDeep, Bool.false_eq_true, if_false] at hRender
      cases hRender
  | one n =>
      cases n with
      | select query =>
          dsimp only
          simp only [Node.render, hDeep, Bool.false_eq_true, if_false]
            at hRender
          rcases bind_eq_ok.mp hRender with ⟨t, hQuery, hRest⟩
          rcases bind_eq_ok.mp hRest with ⟨labelText, hLabel, hSubquery⟩
          cases hSubquery
          have hNode :
              (Node.select query).render ctx depth (indent + indentWidth) =
                .ok (some t) := by
            simp only [Node.render, hDeep, Bool.false_eq_true, if_false,
              hQuery]
            rfl
          have hInner := hSlot depth (indent + indentWidth) " " _ (by decide)
            ((renderSlot_select hDeep (renderQuery_ne_empty hQuery)).mpr
              hQuery)
          rw [Node.slotPlaceholders, Node.placeholders.eq_def,
            if_pos (isPresent_of_render hNode)] at hInner
          rw [colonNames_subqueryText, ← namesIn_some]
          exact (hInner.weaken And.right).append_quiet
            fun hSilent => hSilent.1 _ (mem_toOption hLabel)
      | _ =>
          simp only [Node.render, hDeep, Bool.false_eq_true, if_false]
            at hRender
          cases hRender

/- Digits mention nothing. -/
theorem colonNames_of_digits
    {s : String}
    (hDigits : IsDigits s.toList) :
    Text.colonNames s = [] := by
  apply Text.colonNames_of_plain
  intro hColon
  exact absurd (hDigits.2 ':' hColon) (by decide)

/- Numerals, and so a limit with a value, mention nothing. -/
theorem colonNames_numerals
    {own : String}
    {v : Value}
    {s : String}
    (hNumerals : RenderContext.numerals own v = .ok s) :
    Text.colonNames s = [] := by
  rcases runs_of_numerals hNumerals with ⟨runs, _, hDigits, rfl⟩
  rw [Text.colonNames_intercalate (by decide), List.flatMap_eq_nil_iff]
  exact fun run hRun => colonNames_of_digits (hDigits run hRun)

section

variable (name : String)
variable {depth : Nat} {indent : Int} {text : Option String}

/- A limit that is a number has no placeholder. -/
theorem accounted_limit_int
    {n : Int}
    (hInline : ctx.inline = false)
    (hRender :
      Node.renderSlot ctx depth indent " " (.one (.literal (.int n))) =
        .ok text) :
    Accounts ((Slot.one (.literal (.int n))).Everywhere
        (Node.SilentAbout ctx name)) name
      (ctx.limitPlaceholders (.one (.literal (.int n))) (.ok text)
        (Node.slotPlaceholders ctx depth indent (.one (.literal (.int n)))))
      (namesIn (ctx.resolve (.one (.literal (.int n))) text)) := by
  have hKept : ctx.resolve (.one (.literal (.int n))) text = text := by
    simp [RenderContext.resolve, hInline]
  have hOwn : (Node.literal (.int n)).placeholders ctx depth indent = [] := by
    rw [Node.placeholders.eq_def]
    exact ite_self []
  rw [Node.renderSlot] at hRender
  rcases map_eq_ok.mp hRender with ⟨nodeText, hText, rfl⟩
  have hNode : (Node.literal (.int n)).Accounted ctx name :=
    accounted_literal _
  have hNames := hNode depth indent nodeText hText
  rw [hOwn] at hNames
  rw [RenderContext.limitPlaceholders, hKept, namesIn_present,
    Node.slotPlaceholders, hOwn, ite_self]
  exact hNames

/-
  The placeholder of a limit that is a numeral parameter is not
  written, since only a bound one comes to anything, and of that
  the value is.
-/
theorem accounted_limit_numeral
    {own : String}
    (hInline : ctx.inline = false)
    (hRender :
      Node.renderSlot ctx depth indent " " (.one (.numeral own)) =
        .ok text) :
    Accounts ((Slot.one (.numeral own)).Everywhere
        (Node.SilentAbout ctx name)) name
      (ctx.limitPlaceholders (.one (.numeral own)) (.ok text)
        (Node.slotPlaceholders ctx depth indent (.one (.numeral own))))
      (namesIn (ctx.resolve (.one (.numeral own)) text)) := by
  cases hBound : ctx.bindings.value? own with
  | none =>
      have hGone : ctx.resolve (.one (.numeral own)) text = none := by
        simp [RenderContext.resolve, hInline, Bindings.isBound, hBound]
      rw [RenderContext.limitPlaceholders, hGone]
      exact .nothing
  | some v =>
      have hIsBound : ctx.bindings.isBound own = true := by
        rw [Bindings.isBound, hBound]
        rfl
      have hKept : ctx.resolve (.one (.numeral own)) text = text := by
        simp [RenderContext.resolve, hInline, hIsBound]
      have hOwn : (Node.numeral own).placeholders ctx depth indent = [] := by
        rw [Node.placeholders.eq_def]
        dsimp only
        rw [RenderContext.numeralPlaceholders, hIsBound, Bool.or_true,
          if_pos rfl, ite_self]
      have hValue : namesIn text = [] := by
        rw [Node.renderSlot] at hRender
        rcases map_eq_ok.mp hRender with ⟨nodeText, hText, rfl⟩
        have hDeep := not_tooDeep_of_render hText
        simp only [Node.render, hDeep, Bool.false_eq_true, if_false,
          RenderContext.numeral, hBound] at hText
        rcases map_eq_ok.mp hText with ⟨s, hNumerals, rfl⟩
        rw [namesIn_present, namesIn_some, colonNames_numerals hNumerals]
      rw [RenderContext.limitPlaceholders, Node.slotPlaceholders, hOwn, hKept,
        hValue, ite_self]
      exact .nothing

/- A limit or an offset, as far as it comes to anything. -/
theorem accounted_limit
    {slot : Slot Node}
    (hInline : ctx.inline = false)
    (hLimit : slot.IsLimit)
    (hRender : Node.renderSlot ctx depth indent " " slot = .ok text) :
    Accounts (slot.Everywhere (Node.SilentAbout ctx name)) name
      (ctx.limitPlaceholders slot
        (Node.renderSlot ctx depth indent " " slot)
        (Node.slotPlaceholders ctx depth indent slot))
      (namesIn (ctx.resolve slot text)) := by
  rw [hRender]
  unfold Slot.IsLimit at hLimit
  split at hLimit
  next =>
    cases hRender
    exact .nothing
  next => exact accounted_limit_int name hInline hRender
  next => exact accounted_limit_numeral name hInline hRender
  next => exact hLimit.elim

end

/- The names in the last line of a query are those of its parts. -/
theorem mem_namesIn_limitLine
    {limit offset line : Option String}
    (hLine : ctx.limitLine limit offset = .ok line)
    (other : String) :
    other ∈ namesIn line ↔ other ∈ namesIn limit ++ namesIn offset := by
  cases limit with
  | some s =>
      cases hLine
      rw [namesIn_some, mem_colonNames_limitLine, List.mem_append,
        namesIn_some]
  | none =>
      cases offset with
      | some s => cases hLine
      | none =>
          cases hLine
          rfl

/- The names in a query without options are those of its parts. -/
theorem colonNames_written
    {query : Query Node}
    (indent : Int)
    (texts : QueryTexts)
    (line : Option String)
    (hOptions : query.options = []) :
    Text.colonNames (query.written indent texts line) =
      namesIn texts.columns ++ namesIn texts.source ++
        namesIn texts.filter ++ namesIn texts.groups ++
          namesIn texts.having ++ namesIn texts.order ++ namesIn line := by
  have hKeywords :
      ∀ keyword ∈ ["FROM", "WHERE", "GROUP BY", "HAVING", "ORDER BY"],
        Text.IsPlain (keyword ++ " ") := by
    decide
  have hHead :
      Text.colonNames (" ".intercalate
          ("SELECT" :: (if query.distinct then ["DISTINCT"] else []) ++
            texts.columns.toList)) =
        namesIn texts.columns := by
    rw [Text.colonNames_intercalate (by decide), List.flatMap_append]
    cases query.distinct <;> rfl
  have hClauses := flatMap_clauses
    [("FROM", texts.source), ("WHERE", texts.filter),
      ("GROUP BY", texts.groups), ("HAVING", texts.having),
      ("ORDER BY", texts.order)]
    hKeywords
  rw [Query.written, colonNames_layLines, queryLines, hOptions,
    List.isEmpty_nil, if_pos rfl, List.flatMap_append, List.flatMap_append,
    List.flatMap_singleton, hHead, hClauses]
  simp [namesIn]

theorem accounted_query
    {columns source filter groups having order limit offset : Slot Node}
    {distinct : Bool}
    {options : List String}
    (hInline : ctx.inline = false)
    (hColumns : columns.Accounted ctx name)
    (hSource : source.Accounted ctx name)
    (hFilter : filter.Accounted ctx name)
    (hGroups : groups.Accounted ctx name)
    (hHaving : having.Accounted ctx name)
    (hOrder : order.Accounted ctx name)
    (hLimit : limit.IsLimit)
    (hOffset : offset.IsLimit)
    (hOptions : options = []) :
    Query.Accounted ctx name
      ⟨columns, source, filter, groups, having, order, limit, offset,
        distinct, options⟩ := by
  intro depth indent s hRender
  rcases renderQuery_eq_ok.mp hRender with
    ⟨_, texts, line, hTexts, hLine, rfl⟩
  dsimp only at hLine
  have hFirst := hColumns _ _ _ _ (by decide) hTexts.columns
  have hSecond := hSource _ _ _ _ (by decide) hTexts.source
  have hThird := hFilter _ _ _ _ (by decide) hTexts.filter
  have hFourth := hGroups _ _ _ _ (by decide) hTexts.groups
  have hFifth := hHaving _ _ _ _ (by decide) hTexts.having
  have hSixth := hOrder _ _ _ _ (by decide) hTexts.order
  have hCount := accounted_limit name hInline hLimit hTexts.limit
  have hStart := accounted_limit name hInline hOffset hTexts.offset
  rw [colonNames_written indent texts line hOptions, Node.queryPlaceholders]
  refine .of_mem_iff
    ((((((((hFirst.weaken (·.1)).append
      (hSecond.weaken (·.2.1))).append
        (hThird.weaken (·.2.2.1))).append
          (hFourth.weaken (·.2.2.2.1))).append
            (hFifth.weaken (·.2.2.2.2.1))).append
              (hSixth.weaken (·.2.2.2.2.2.1))).append
                (hCount.weaken (·.2.2.2.2.2.2.1))).append
                  (hStart.weaken (·.2.2.2.2.2.2.2))) ?_
  intro other
  simp only [List.mem_append, mem_namesIn_limitLine hLine, or_assoc]

------------------------------------------------------------
-- Slots and Lists
------------------------------------------------------------

theorem accounted_one
    {n : Node}
    (hNode : n.Accounted ctx name) :
    (Slot.one n).Accounted ctx name := by
  intro depth indent separator text _ hRender
  rw [Node.renderSlot] at hRender
  rcases map_eq_ok.mp hRender with ⟨nodeText, hText, rfl⟩
  rw [Node.slotPlaceholders, namesIn_present]
  exact hNode depth indent nodeText hText

theorem accounted_many
    {members : List (Option Node)}
    (hMembers : Members.Accounted ctx name members) :
    (Slot.many members).Accounted ctx name := by
  intro depth indent separator text hGlue hRender
  rw [Node.renderSlot] at hRender
  rcases map_eq_ok.mp hRender with ⟨texts, hTexts, rfl⟩
  rw [Node.slotPlaceholders, namesIn_joined hGlue]
  exact hMembers depth indent texts hTexts

theorem accounted_members_cons
    {n : Node}
    {members : List (Option Node)}
    (hNode : n.Accounted ctx name)
    (hMembers : Members.Accounted ctx name members) :
    Members.Accounted ctx name (some n :: members) := by
  intro depth indent texts hRender
  rcases renderMembers_some_eq_ok.mp hRender with
    ⟨text, rest, hText, hRest, rfl⟩
  rw [Node.memberPlaceholders, List.flatMap_append, ← namesIn,
    namesIn_present]
  exact ((hNode _ _ _ hText).weaken And.left).append
    ((hMembers _ _ _ hRest).weaken And.right)

theorem accounted_arguments_cons
    {n : Node}
    {args : List (Option Node)}
    (hNode : n.Accounted ctx name)
    (hArgs : Arguments.Accounted ctx name args) :
    Arguments.Accounted ctx name (some n :: args) := by
  intro depth indent texts hRender
  rw [Node.renderArgs] at hRender
  rcases bind_eq_ok.mp hRender with ⟨text, hText, hRender⟩
  cases hPresent : text.bind present with
  | none =>
      rw [hPresent] at hRender
      cases hRender
  | some s =>
      rw [hPresent] at hRender
      rcases bind_eq_ok.mp hRender with ⟨rest?, hRest, hTexts⟩
      cases rest? with
      | none => cases hTexts
      | some rest =>
          cases hTexts
          have hOwn := (hNode _ _ _ hText).weaken
            (And.left
              (b := Members.Everywhere (Node.SilentAbout ctx name) args))
          rw [← namesIn_present, hPresent, namesIn_some] at hOwn
          rw [Node.memberPlaceholders, List.flatMap_cons]
          exact hOwn.append ((hArgs _ _ _ hRest).weaken And.right)

------------------------------------------------------------
-- Trees
------------------------------------------------------------

mutual

/- In a tree that was parsed placeholders account for the text. -/
theorem Node.accounted
    (hInline : ctx.inline = false) :
    ∀ n : Node, n.Shaped → n.Accounted ctx name
| .column own owner database, _ => accounted_column own owner database
| .literal v, _ => accounted_literal v
| .raw _, hShape => hShape.elim
| .parameter _, hShape => accounted_parameter hInline hShape
| .numeral _, hShape => hShape.elim
| .group members brackets delimiter, hShape =>
    have hGlue : Text.IsGlue delimiter := by
      rcases hShape.1 with rfl | rfl <;> decide
    accounted_group brackets hGlue (members.accounted hInline hShape.2)
| .binary op left right, hShape =>
    accounted_binary op (left.accounted hInline hShape.1)
      (right.accounted hInline hShape.2)
| .connective op operands, hShape =>
    accounted_connective op (operands.accounted hInline hShape)
| .unary op operand, hShape =>
    accounted_unary op (operand.accounted hInline hShape)
| .between operand low high, hShape =>
    accounted_between (operand.accounted hInline hShape.1)
      (low.accounted hInline hShape.2.1) (high.accounted hInline hShape.2.2)
| .call function (.many args) distinct, hShape =>
    accounted_call function distinct (Arguments.accounted hInline args hShape)
| .call _ .vacant _, _ =>
    accounted_of_present fun depth indent s hDeep hRender => by
      simp only [Node.render, hDeep, Bool.false_eq_true, if_false] at hRender
      cases hRender
| .call _ (.one _) _, _ =>
    accounted_of_present fun depth indent s hDeep hRender => by
      simp only [Node.render, hDeep, Bool.false_eq_true, if_false] at hRender
      cases hRender
| .alias node label, hShape =>
    accounted_alias label (node.accounted hInline hShape)
| .orderBy node _, hShape =>
    accounted_orderBy hShape.1 (node.accounted hInline hShape.2)
| .table own label database _ condition, hShape =>
    accounted_table own label database hShape.1
      (condition.accounted hInline hShape.2)
| .select query, hShape => accounted_select (query.accounted hInline hShape)
| .subquery slot label, hShape =>
    accounted_subquery label (slot.accounted hInline hShape)
| .foreign _, hShape => hShape.elim
termination_by structural n => n

theorem Slot.accounted
    (hInline : ctx.inline = false) :
    ∀ slot : Slot Node, slot.Shaped → slot.Accounted ctx name
| .vacant, _ => fun depth indent separator text _ hRender => by
    rw [Node.renderSlot] at hRender
    cases hRender
    exact .nothing
| .one n, hShape => accounted_one (n.accounted hInline hShape)
| .many members, hShape =>
    accounted_many (Members.accounted hInline members hShape)
termination_by structural slot => slot

theorem Members.accounted
    (hInline : ctx.inline = false) :
    ∀ members : List (Option Node),
      Members.Shaped members → Members.Accounted ctx name members
| [], _ => fun depth indent texts hRender => by
    rw [Node.renderMembers] at hRender
    cases hRender
    exact .nothing
| none :: members, hShape =>
    have hMembers := Members.accounted hInline members hShape
    fun depth indent texts hRender => by
      rw [Node.renderMembers] at hRender
      exact hMembers depth indent texts hRender
| some n :: members, hShape =>
    accounted_members_cons (n.accounted hInline hShape.1)
      (Members.accounted hInline members hShape.2)
termination_by structural members => members

theorem Arguments.accounted
    (hInline : ctx.inline = false) :
    ∀ args : List (Option Node),
      Members.Shaped args → Arguments.Accounted ctx name args
| [], _ => fun depth indent texts hRender => by
    rw [Node.renderArgs] at hRender
    cases hRender
    exact .nothing
| none :: args, _ => fun depth indent texts hRender => by
    rw [Node.renderArgs] at hRender
    cases hRender
| some n :: args, hShape =>
    accounted_arguments_cons (n.accounted hInline hShape.1)
      (Arguments.accounted hInline args hShape.2)
termination_by structural args => args

theorem Query.accounted
    (hInline : ctx.inline = false) :
    ∀ query : Query Node, query.Shaped → query.Accounted ctx name
| ⟨columns, source, filter, groups, having, order, _, _, _, _⟩,
    ⟨hColumns, hSource, hFilter, hGroups, hHaving, hOrder, hLimit,
      hOffset, hOptions⟩ =>
    accounted_query hInline (columns.accounted hInline hColumns)
      (source.accounted hInline hSource) (filter.accounted hInline hFilter)
      (groups.accounted hInline hGroups) (having.accounted hInline hHaving)
      (order.accounted hInline hOrder) hLimit hOffset hOptions
termination_by structural query => query

end

end SqlTemplate
