import SqlTemplate.Node.Shape
import SqlTemplate.Template

/-
  Trees whose text tells them apart.  Names and literals are
  written so that the grammar of templates reads them as what
  they stand for, functions are called by words, and nothing
  waits for a value.

  Key definitions include:
    * `Query.ofColumn`
    * `Dialect.KeepsName`
    * `Dialect.KeepsLiteral`
    * `IsCallable`
    * `Node.Legible`
    * `Query.Legible`
-/

------------------------------------------------------------
-- Names and Literals
------------------------------------------------------------

namespace SqlTemplate

/- A query for one column and nothing else. -/
def Query.ofColumn (n : Node) : Query Node :=
  { columns := .ofList [n]
    source := .vacant
    filter := .vacant
    groups := .vacant
    having := .vacant
    order := .vacant
    limit := .vacant
    offset := .vacant
    distinct := false
    options := [] }

namespace Dialect

/-
  A name is no keyword, and what the dialect writes for it is
  one token, a name that denotes it.
-/
def KeepsName
    (d : Dialect)
    (name : String) : Prop :=
  Token.keyword? name.toList = none ∧
    ∃ text, d.identifier name = .ok text ∧
      ⟨.name, text.toList⟩ ∈ Token.candidates text.toList ∧
        Token.nameOf text.toList = name

/- What the dialect writes for a value is selected as that value. -/
def KeepsLiteral
    (d : Dialect)
    (v : Value) : Prop :=
  ∃ text, d.literal v = .ok text ∧
    parse ("SELECT " ++ text) =
      .ok (.select (Query.ofColumn (.literal v)))

/- The names that are given are kept. -/
def KeepsNames
    (d : Dialect)
    (names : List (Option String)) : Prop :=
  ∀ name ∈ names, ∀ s ∈ name, d.KeepsName s

instance
    (d : Dialect)
    (name : String) : Decidable (d.KeepsName name) :=
  match hText : d.identifier name with
  | .error _ => .isFalse fun ⟨_, _, hSame, _⟩ => by
      rw [hText] at hSame
      cases hSame
  | .ok text =>
      decidable_of_iff
        (Token.keyword? name.toList = none ∧
          ⟨.name, text.toList⟩ ∈ Token.candidates text.toList ∧
            Token.nameOf text.toList = name) (by
        constructor
        · rintro ⟨hKeyword, hToken⟩
          exact ⟨hKeyword, text, hText, hToken⟩
        · rintro ⟨hKeyword, text', hSame, hToken⟩
          cases hText.symm.trans hSame
          exact ⟨hKeyword, hToken⟩)

instance
    (d : Dialect)
    (names : List (Option String)) : Decidable (d.KeepsNames names) :=
  inferInstanceAs
    (Decidable (∀ name ∈ names, ∀ s ∈ name, d.KeepsName s))

end Dialect

/- A function is called by a word that is no keyword. -/
def IsCallable (name : String) : Prop :=
  Token.keyword? name.toList = none ∧ IsBareName name

instance (name : String) : Decidable (IsCallable name) :=
  inferInstanceAs
    (Decidable (Token.keyword? name.toList = none ∧ IsBareName name))

/- The star of all columns, or of all columns of a table. -/
def Node.IsStar
    (d : Dialect) : Node → Prop
| .column name owner none => name = "*" ∧ d.KeepsNames [owner]
| _ => False

/- The star that a function is called with. -/
def Slot.IsStar : Slot Node → Prop
| .many [some (.column name none none)] => name = "*"
| _ => False

------------------------------------------------------------
-- Legible Trees
------------------------------------------------------------

mutual

/-
  A tree without parameters whose names, functions and literals
  are read as what they stand for.  A star stands only for
  columns of a query or as the argument of a function.
-/
def Node.Legible
    (d : Dialect) : Node → Prop
| .column name owner database =>
    d.KeepsNames [database, owner, some name]
| .literal v => d.KeepsLiteral v
| .raw _ => False
| .parameter _ => False
| .numeral _ => False
| .group members _ _ => members.Legible d
| .binary _ left right => left.Legible d ∧ right.Legible d
| .connective _ operands => operands.Legible d
| .unary _ operand => operand.Legible d
| .between operand low high =>
    operand.Legible d ∧ low.Legible d ∧ high.Legible d
| .call name args distinct =>
    IsCallable name ∧ (args.Legible d ∨ distinct = false ∧ args.IsStar)
| .alias node label => d.KeepsName label ∧ node.Legible d
| .orderBy node _ => node.Legible d
| .table name label database _ condition =>
    d.KeepsNames [database, some name, label] ∧ condition.Legible d
| .select query => query.Legible d
| .subquery query label => d.KeepsNames [label] ∧ query.Legible d
| .foreign _ => False

/- The same of the content of a slot. -/
def Slot.Legible
    (d : Dialect) : Slot Node → Prop
| .vacant => True
| .one n => n.Legible d
| .many members => Members.Legible d members

/- The same of the members of a list that are there. -/
def Members.Legible
    (d : Dialect) : List (Option Node) → Prop
| [] => True
| none :: members => Members.Legible d members
| some n :: members => n.Legible d ∧ Members.Legible d members

/- The same of the columns of a query, which can be stars. -/
def Slot.LegibleColumns
    (d : Dialect) : Slot Node → Prop
| .vacant => True
| .one n => n.IsStar d ∨ n.Legible d
| .many members => Members.LegibleColumns d members

/- The same of a list of columns. -/
def Members.LegibleColumns
    (d : Dialect) : List (Option Node) → Prop
| [] => True
| none :: members => Members.LegibleColumns d members
| some n :: members =>
    (n.IsStar d ∨ n.Legible d) ∧ Members.LegibleColumns d members

/- The same of a query. -/
def Query.Legible
    (d : Dialect) : Query Node → Prop
| ⟨columns, source, filter, groups, having, order, limit, offset, _, _⟩ =>
    columns.LegibleColumns d ∧ source.Legible d ∧ filter.Legible d ∧
      groups.Legible d ∧ having.Legible d ∧ order.Legible d ∧
        limit.Legible d ∧ offset.Legible d

end

end SqlTemplate
