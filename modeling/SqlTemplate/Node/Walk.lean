import SqlTemplate.Node
import SqlTemplate.Report
import SqlTemplate.Value.Shown

/-
  Walks through a tree, from the root downward, with a visitor
  that is asked on entering and on leaving each node.  Its
  answers keep, replace or remove nodes, and the tree is edited
  in place: a list takes on its new members once all of them
  have been walked, a single node at once.  A walk that fails
  leaves the tree as far as it was edited.

  Key definitions include:
    * `Visit`
    * `Visitor`
    * `VisitError`
    * `VisitError.report`
    * `WalkState`
    * `Walked`
    * `walkSlot`
    * `Node.walkChildren`
    * `Node.walkEditing`
    * `Node.walk`
    * `Node.walkFrom`
-/

------------------------------------------------------------
-- Visitors
------------------------------------------------------------

namespace SqlTemplate

/-
  What a visitor answers.  Anything that is no instruction
  counts as a foreign answer.
-/
inductive Visit where
| keep
| skipChildren
| remove
| replace (n : Node)
| foreign (v : Value)
deriving Inhabited

/- A visitor answers according to the node and its own state. -/
structure Visitor (σ : Type) where
  enter : Node → σ → Visit × σ
  leave : Node → σ → Visit × σ

------------------------------------------------------------
-- Failed Walks
------------------------------------------------------------

/- The two times at which a visitor is asked. -/
inductive VisitPhase where
| enter
| leave
deriving DecidableEq, Repr, Inhabited

/-
  Why a walk ends early: the answer has no meaning at this
  point, or the tree became deeper than the walk may go.
-/
inductive VisitError where
| invalid (phase : VisitPhase) (answer : Visit) (typeName : String)
| tooDeep
deriving Inhabited

/- The form in which messages show an answer. -/
def Visit.shown : Visit → String
| .keep => "None"
| .skipChildren => "<Action.SKIP_CHILDREN: 'skip_children'>"
| .remove => "<Action.REMOVE: 'remove'>"
| .replace n => "Replace(node=" ++ n.typeName ++ ")"
| .foreign v => v.shown

/- The name of the question that was answered. -/
def VisitPhase.question : VisitPhase → String
| .enter => "enter_node"
| .leave => "leave_node"

/- What is reported about a failed walk. -/
def VisitError.report : VisitError → Report
| .invalid phase answer typeName =>
    .of .invalidVisit "invalid visitor result"
      (phase.question ++ " returned " ++ answer.shown ++ " for " ++
        typeName)
| .tooDeep => .of .tooDeep "maximum walk depth exceeded" ""

------------------------------------------------------------
-- State of a Walk
------------------------------------------------------------

/- The state of the visitor, and the failure that ended the walk. -/
structure WalkState (σ : Type) where
  visitor : σ
  failure : Option VisitError

/-
  A walked node: the node with the edits made in it, and what
  takes its place, which is nothing if it is removed.
-/
structure Walked where
  edited : Node
  result : Option Node

/- A walk of one node. -/
abbrev WalkStep (σ : Type) :=
  Node → WalkState σ → Walked × WalkState σ

namespace WalkState

variable {σ : Type}

/- End the walk with a failure. -/
def fail
    (s : WalkState σ)
    (e : VisitError) : WalkState σ :=
  { s with failure := some e }

end WalkState

------------------------------------------------------------
-- Slots below a Node
------------------------------------------------------------

section Slots

variable {σ : Type}
variable (step : WalkStep σ)

/-
  Walk the members of a list.  The first list holds the members
  with the edits made in them, the second one what takes their
  place, without the removed ones.
-/
def walkMembers :
    List (Option Node) →
      StateM (WalkState σ) (List (Option Node) × List (Option Node))
| [] => fun s => (([], []), s)
| none :: members => fun s =>
    let ((edited, results), s) := walkMembers members s
    ((none :: edited, none :: results), s)
| some n :: members => fun s =>
    match s.failure with
    | some _ => ((some n :: members, []), s)
    | none =>
        let (walked, s) := step n s
        let ((edited, results), s) := walkMembers members s
        ((some walked.edited :: edited,
          (walked.result.map some).toList ++ results), s)

/-
  Walk the content of a slot, unless a failure has ended the
  walk.  A list changes only when no member fails, and a slot
  in which the walk fails holds the node it held.
-/
def walkSlot
    (slot : Slot Node) : StateM (WalkState σ) (Slot Node) :=
  fun s =>
    match s.failure, slot with
    | some _, _ => (slot, s)
    | none, .vacant => (slot, s)
    | none, .one n =>
        let (walked, s) := step n s
        match s.failure with
        | some _ => (.one walked.edited, s)
        | none => (.ofOption walked.result, s)
    | none, .many members =>
        let ((edited, results), s) := walkMembers step members s
        match s.failure with
        | some _ => (.many edited, s)
        | none => (.many results, s)

/- Walk the slots of a query in order. -/
def walkQuery
    (q : Query Node) : StateM (WalkState σ) (Query Node) := do
  let columns ← walkSlot step q.columns
  let source ← walkSlot step q.source
  let filter ← walkSlot step q.filter
  let groups ← walkSlot step q.groups
  let having ← walkSlot step q.having
  let order ← walkSlot step q.order
  let limit ← walkSlot step q.limit
  let offset ← walkSlot step q.offset
  return { q with columns, source, filter, groups, having, order,
                  limit, offset }

/- Walk the slots below a node in order. -/
def Node.walkChildren : Node → StateM (WalkState σ) Node
| .group members brackets delimiter =>
    return .group (← walkSlot step members) brackets delimiter
| .binary op left right =>
    return .binary op (← walkSlot step left) (← walkSlot step right)
| .connective op operands =>
    return .connective op (← walkSlot step operands)
| .unary op operand => return .unary op (← walkSlot step operand)
| .between operand low high =>
    return .between (← walkSlot step operand) (← walkSlot step low)
      (← walkSlot step high)
| .call name args distinct =>
    return .call name (← walkSlot step args) distinct
| .alias node label => return .alias (← walkSlot step node) label
| .orderBy node direction =>
    return .orderBy (← walkSlot step node) direction
| .table name label database join condition =>
    return .table name label database join (← walkSlot step condition)
| .select query => return .select (← walkQuery step query)
| .subquery query label =>
    return .subquery (← walkSlot step query) label
| n => return n

end Slots

------------------------------------------------------------
-- Walks
------------------------------------------------------------

namespace Node

variable {σ : Type}

/- Ask the visitor about a node that its slots are done with. -/
def leaveWith
    (v : Visitor σ)
    (n : Node)
    (s : WalkState σ) : Option Node × WalkState σ :=
  let (answer, visitor) := v.leave n s.visitor
  let s := { s with visitor }
  match answer with
  | .keep => (some n, s)
  | .replace r => (some r, s)
  | .remove => (none, s)
  | .skipChildren => (some n, s.fail (.invalid .leave answer n.typeName))
  | .foreign _ => (some n, s.fail (.invalid .leave answer n.typeName))

/- Leave a node, unless a failure has ended the walk. -/
def finish
    (v : Visitor σ)
    (n : Node)
    (s : WalkState σ) : Option Node × WalkState σ :=
  match s.failure with
  | some _ => (some n, s)
  | none => n.leaveWith v s

/-
  Walk a node: edit it, enter it, walk its slots unless told to
  skip them, and leave it.  A node that replaces it on entering
  is walked in its stead and leaves it untouched.  At most
  `levels` levels of nodes are walked.
-/
def walkEditing
    (edit : Node → Node)
    (v : Visitor σ) : Nat → WalkStep σ
| 0, n, s => (⟨n, some n⟩, s.fail .tooDeep)
| levels + 1, n, s =>
    let n := edit n
    let (answer, visitor) := v.enter n s.visitor
    let s := { s with visitor }
    match answer with
    | .keep =>
        let (n, s) := walkChildren (walkEditing edit v levels) n s
        let (result, s) := n.finish v s
        (⟨n, result⟩, s)
    | .skipChildren =>
        let (result, s) := n.finish v s
        (⟨n, result⟩, s)
    | .replace r =>
        let (r, s) := walkChildren (walkEditing edit v levels) r s
        let (result, s) := r.finish v s
        (⟨n, result⟩, s)
    | .remove =>
        (⟨n, some n⟩, s.fail (.invalid .enter answer n.typeName))
    | .foreign _ =>
        (⟨n, some n⟩, s.fail (.invalid .enter answer n.typeName))

/- Walk a node whose fragments only the visitor's answers change. -/
def walk
    (v : Visitor σ)
    (levels : Nat) : WalkStep σ :=
  walkEditing id v levels

/- Walk a whole tree from the first state of a visitor. -/
def walkFrom
    (v : Visitor σ)
    (levels : Nat)
    (n : Node)
    (start : σ) : Walked × WalkState σ :=
  n.walk v levels ⟨start, none⟩

end Node

end SqlTemplate
