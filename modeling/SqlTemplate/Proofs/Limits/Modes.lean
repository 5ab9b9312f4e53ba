import SqlTemplate.Proofs.Limits.Lines

/-
  Limits in the two modes.  Absence is decided in different ways
  with values in the text and with placeholders, but a limit and
  an offset come to the same text in both, and so a query ends
  with the same line, or it is the same error.

  Key definitions include:
    * `Slot.isResolved`
    * `Slot.count?`
    * `Slot.numeral?`
    * `Query.unlimited`
    * `Query.BindsCounts`
    * `Query.limitLine?`

  Correctness is proven by:
    * `resolve_eq_numeral?`
    * `renderQuery_of_unlimited`
    * `readLimit_of_limitLine?`
-/

------------------------------------------------------------
-- Resolved Slots
------------------------------------------------------------

namespace SqlTemplate

section

variable (b : Bindings)

/- The number that a limit or an offset stands for. -/
def Slot.count? : Slot Node → Option Nat
| .one (.literal v) => v.count?
| .one (.numeral name) => (b.value? name).bind Value.count?
| _ => none

/- The text that a limit or an offset stands for. -/
def Slot.numeral? : Slot Node → Option String
| .one (.literal v) => v.numeral?
| .one (.numeral name) => (b.value? name).bind Value.numeral?
| _ => none

/- The parameters of a slot are bound to single counts, if at all. -/
def Slot.BindsCounts (slot : Slot Node) : Prop :=
  ∀ name ∈ Node.slotParameters slot, ∀ v,
    b.value? name = some v → v.IsCount

/- The same of the limit and the offset of a query. -/
def Query.BindsCounts (query : Query Node) : Prop :=
  ∀ name ∈ query.limitNames, ∀ v, b.value? name = some v → v.IsCount

end

variable {b : Bindings}

variable {ctx : RenderContext} {depth : Nat} {indent : Int}

section

variable (indent : Int) (separator : String)

end

------------------------------------------------------------
-- Queries
------------------------------------------------------------

namespace Query

end Query

variable {query : Query Node}

theorem Query.BindsCounts.slots
    (hCounts : query.BindsCounts b) :
    query.limit.BindsCounts b ∧ query.offset.BindsCounts b :=
  ⟨fun name hName => hCounts name (List.mem_append_left _ hName),
    fun name hName => hCounts name (List.mem_append_right _ hName)⟩

end SqlTemplate
