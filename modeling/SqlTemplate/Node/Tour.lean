import SqlTemplate.Node.Walk

/-
  The course of a walk.  A tour is a tree of visits: a visit
  holds the question on entering a node, the visits below it and
  the question on leaving the node.  A tour is orderly if each
  visit does what its answers ask for and the visits below it
  are those of the nodes in the slots, in their order.

  Key definitions include:
    * `Node.slots`
    * `Node.withSlots`
    * `VisitEvent`
    * `Visit.walked?`
    * `Visit.placed`
    * `Visitor.Answers`
    * `Tour`
    * `Tour.events`
    * `Tour.outcome`
    * `SlotsToured`
    * `Tour.Orderly`
-/

------------------------------------------------------------
-- Slots of a Node
------------------------------------------------------------

namespace SqlTemplate

namespace Node

/- The slots below a node, in the order of its fields. -/
def slots : Node → List (Slot Node)
| .group members _ _ => [members]
| .binary _ left right => [left, right]
| .connective _ operands => [operands]
| .unary _ operand => [operand]
| .between operand low high => [operand, low, high]
| .call _ args _ => [args]
| .alias node _ => [node]
| .orderBy node _ => [node]
| .table _ _ _ _ condition => [condition]
| .select query =>
    [query.columns, query.source, query.filter, query.groups,
      query.having, query.order, query.limit, query.offset]
| .subquery query _ => [query]
| _ => []

/- A node with other contents in its slots. -/
def withSlots : Node → List (Slot Node) → Node
| .group _ brackets delimiter, [members] =>
    .group members brackets delimiter
| .binary op _ _, [left, right] => .binary op left right
| .connective op _, [operands] => .connective op operands
| .unary op _, [operand] => .unary op operand
| .between _ _ _, [operand, low, high] => .between operand low high
| .call name _ distinct, [args] => .call name args distinct
| .alias _ label, [node] => .alias node label
| .orderBy _ direction, [node] => .orderBy node direction
| .table name label database join _, [condition] =>
    .table name label database join condition
| .select query,
    [columns, source, filter, groups, having, order, limit, offset] =>
    .select { query with columns, source, filter, groups, having, order,
                         limit, offset }
| .subquery _ label, [query] => .subquery query label
| n, _ => n

@[simp]
theorem withSlots_slots (n : Node) : n.withSlots n.slots = n := by
  cases n <;> rfl

end Node

------------------------------------------------------------
-- Questions and Answers
------------------------------------------------------------

/- A question that a visitor was asked, and its answer. -/
structure VisitEvent where
  phase : VisitPhase
  node : Node
  answer : Visit

namespace Visit

/- The node that is walked if the answer has a meaning on entering. -/
def walked? : Visit → Node → Option Node
| .keep, n => some n
| .skipChildren, n => some n
| .replace r, _ => some r
| _, _ => none

/- The answer has a meaning on leaving. -/
def concludes : Visit → Bool
| .keep | .remove | .replace _ => true
| _ => false

/- What the answer on leaving a node puts in its place. -/
def placed : Visit → Node → Option Node
| .keep, n => some n
| .replace r, _ => some r
| _, _ => none

end Visit

namespace Visitor

variable {σ : Type}

/- Ask a visitor one of the two questions. -/
def ask (v : Visitor σ) : VisitPhase → Node → σ → Visit × σ
| .enter => v.enter
| .leave => v.leave

/-
  A visitor passes from one state to another by being asked the
  questions of a list, one after the other and no others, and
  gives the answers that stand in the list.
-/
def Answers (v : Visitor σ) : List VisitEvent → σ → σ → Prop
| [], s, t => s = t
| e :: events, s, t =>
    (v.ask e.phase e.node s).1 = e.answer ∧
      v.Answers events (v.ask e.phase e.node s).2 t

/- A visitor that notes down the questions it is asked. -/
def recorded (v : Visitor σ) : Visitor (σ × List VisitEvent) where
  enter n s :=
    let (answer, visitor) := v.enter n s.1
    (answer, visitor, s.2 ++ [⟨.enter, n, answer⟩])
  leave n s :=
    let (answer, visitor) := v.leave n s.1
    (answer, visitor, s.2 ++ [⟨.leave, n, answer⟩])

end Visitor

------------------------------------------------------------
-- Tours
------------------------------------------------------------

/-
  A tour of the tree below a node.  The walk meets a node,
  enters it as the edit leaves it, and is answered; it walks
  the slots of the node or of the one that replaces it, leaves
  what the slots have become, and is answered again.
-/
structure Tour where
  met : Node
  entered : Node
  answer : Visit
  walked : Node
  inner : List Tour
  left : Node
  reply : Visit

namespace Tour

mutual

/-
  The questions of a tour: entering comes before everything
  below, and leaving after it.
-/
def events : Tour → List VisitEvent
| ⟨_, entered, answer, _, inner, left, reply⟩ =>
    ⟨.enter, entered, answer⟩ ::
      (eventsOfAll inner ++ [⟨.leave, left, reply⟩])

/- The questions of tours that follow one another. -/
def eventsOfAll : List Tour → List VisitEvent
| [] => []
| tour :: tours => tour.events ++ eventsOfAll tours

end

/- The node with the edits that a tour makes in it. -/
def edited (tour : Tour) : Node :=
  match tour.answer with
  | .replace _ => tour.entered
  | _ => tour.left

/- What takes the place of the node that a tour meets. -/
def result (tour : Tour) : Option Node :=
  tour.reply.placed tour.left

/- What a tour comes to. -/
def outcome (tour : Tour) : Walked :=
  ⟨tour.edited, tour.result⟩

end Tour

------------------------------------------------------------
-- Orderly Tours
------------------------------------------------------------

/-
  There is one tour for each node of a list, in their order, and
  the nodes make room for the results of the tours.  Empty
  places stay.
-/
inductive MembersToured :
    List (Option Node) → List Tour → List (Option Node) → Prop where
| nil : MembersToured [] [] []
| gap {members tours results} :
    MembersToured members tours results →
    MembersToured (none :: members) tours (none :: results)
| node (tour : Tour) {members tours results} :
    MembersToured members tours results →
    MembersToured (some tour.met :: members) (tour :: tours)
      ((tour.result.map some).toList ++ results)

/- There is one tour for each node in a slot, in their order. -/
inductive Slot.Toured : Slot Node → List Tour → Slot Node → Prop where
| vacant : Toured .vacant [] .vacant
| one (tour : Tour) :
    Toured (.one tour.met) [tour] (.ofOption tour.result)
| many {members tours results} :
    MembersToured members tours results →
    Toured (.many members) tours (.many results)

/- There is one tour for each node in the slots, in their order. -/
inductive SlotsToured :
    List (Slot Node) → List Tour → List (Slot Node) → Prop where
| nil : SlotsToured [] [] []
| cons {slot tours result slots later results} :
    slot.Toured tours result →
    SlotsToured slots later results →
    SlotsToured (slot :: slots) (tours ++ later) (result :: results)

/-
  The slots of the walked node are toured, unless the answer on
  entering was to skip them, and it is left with their results.
-/
def Tour.Descends (tour : Tour) : Prop :=
  match tour.answer with
  | .keep | .replace _ =>
      ∃ results, SlotsToured tour.walked.slots tour.inner results ∧
        tour.left = tour.walked.withSlots results
  | .skipChildren => tour.inner = [] ∧ tour.left = tour.walked
  | _ => False

/- Each visit of a tour does what its answers ask for. -/
inductive Tour.Orderly (edit : Node → Node) : Tour → Prop where
| intro {tour : Tour}
    (hEntered : tour.entered = edit tour.met)
    (hWalked : tour.answer.walked? tour.entered = some tour.walked)
    (hDescends : tour.Descends)
    (hConcludes : tour.reply.concludes = true)
    (hInner : ∀ visit ∈ tour.inner, visit.Orderly edit) :
    Orderly edit tour

end SqlTemplate
