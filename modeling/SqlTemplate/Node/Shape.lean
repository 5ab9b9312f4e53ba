import SqlTemplate.Node
import SqlTemplate.Text.CharClass

/-
  The shape of the trees that templates are parsed to.  They
  hold no raw texts, parameters have names that are words, and
  bare numbers stand only where a limit is.

  Key definitions include:
    * `IsBareName`
    * `Slot.IsLimit`
    * `Node.Shaped`
    * `Query.Shaped`
-/

------------------------------------------------------------
-- Names and Limits
------------------------------------------------------------

namespace SqlTemplate

/- A name that can stand in a template without quotes: a word. -/
def IsBareName (name : String) : Prop :=
  ∃ c cs, name.toList = c :: cs ∧ Text.isNameStart c = true ∧
    cs.all Text.isWord = true

instance (name : String) : Decidable (IsBareName name) :=
  decidable_of_iff
    ((match name.toList with
      | [] => false
      | c :: cs => Text.isNameStart c && cs.all Text.isWord) = true) (by
    unfold IsBareName
    cases name.toList with
    | nil => simp
    | cons c cs =>
        rw [Bool.and_eq_true]
        constructor
        · intro hBoth
          exact ⟨c, cs, rfl, hBoth⟩
        · rintro ⟨_, _, hSame, hBoth⟩
          cases hSame
          exact hBoth)

/- The directions of sort keys. -/
def sortDirections : List String :=
  ["ASC", "DESC"]

/- The words before a table that is joined to others. -/
def joinKinds : List String :=
  ["JOIN", "INNER JOIN", "LEFT JOIN", "RIGHT JOIN", "CROSS JOIN"]

/- A limit or an offset: a whole number or a numeral parameter. -/
def Slot.IsLimit : Slot Node → Prop
| .vacant => True
| .one (.literal (.int n)) => 0 ≤ n
| .one (.numeral name) => IsBareName name
| _ => False

------------------------------------------------------------
-- Shapes
------------------------------------------------------------

mutual

/- A tree as templates are parsed to. -/
def Node.Shaped : Node → Prop
| .column .. => True
| .literal _ => True
| .raw _ => False
| .parameter name => IsBareName name
| .numeral _ => False
| .group members _ delimiter =>
    (delimiter = " " ∨ delimiter = ", ") ∧ members.Shaped
| .binary _ left right => left.Shaped ∧ right.Shaped
| .connective _ operands => operands.Shaped
| .unary _ operand => operand.Shaped
| .between operand low high =>
    operand.Shaped ∧ low.Shaped ∧ high.Shaped
| .call _ args _ => args.Shaped
| .alias node _ => node.Shaped
| .orderBy node direction =>
    (∀ word ∈ direction, word ∈ sortDirections) ∧ node.Shaped
| .table _ _ _ join condition =>
    (∀ words ∈ join, words ∈ joinKinds) ∧ condition.Shaped
| .select query => query.Shaped
| .subquery query _ => query.Shaped
| .foreign _ => False

/- The same of the content of a slot. -/
def Slot.Shaped : Slot Node → Prop
| .vacant => True
| .one n => n.Shaped
| .many members => Members.Shaped members

/- The same of the members of a list that are there. -/
def Members.Shaped : List (Option Node) → Prop
| [] => True
| none :: members => Members.Shaped members
| some n :: members => n.Shaped ∧ Members.Shaped members

/- The same of a query. -/
def Query.Shaped : Query Node → Prop
| ⟨columns, source, filter, groups, having, order, limit, offset, _,
    options⟩ =>
    columns.Shaped ∧ source.Shaped ∧ filter.Shaped ∧ groups.Shaped ∧
      having.Shaped ∧ order.Shaped ∧ limit.IsLimit ∧ offset.IsLimit ∧
        options = []

end

end SqlTemplate
