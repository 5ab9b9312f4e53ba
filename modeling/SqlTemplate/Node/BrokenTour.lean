import Mathlib.Data.List.Forall2
import SqlTemplate.Node.Tour

/-
  Tours that break off.  An answer without a meaning ends a walk
  at once, on entering a node or on leaving it.  What is left of
  the tree is made of the tours that were finished by then, and
  of the nodes on the way to the one that was being visited.

  Key definitions include:
    * `BrokenTour`
    * `Visit.edited`
    * `BrokenTour.edited`
    * `BrokenTour.events`
    * `BrokenTour.error`
    * `MembersEdited`
    * `Slot.Broken`
    * `BrokenTour.Orderly`
    * `BrokenTour.path`
    * `Node.HoldsOn`
-/

------------------------------------------------------------
-- Broken Tours
------------------------------------------------------------

namespace SqlTemplate

/-
  A tour of the tree below a node that ends too early: on
  entering the node, in one of the slots of the node or of the
  one that replaces it, after some tours there are finished, or
  on leaving what the slots have become.
-/
inductive BrokenTour where
| entering (met : Node) (answer : Visit)
| inside (met : Node) (answer : Visit) (walked : Node)
    (finished : List Tour) (inner : BrokenTour) (left : Node)
| leaving (tour : Tour)

/-
  A node after some of the walk below it, given what the walked
  node has become.  A node that replaces it on entering has not
  taken its place yet.
-/
def Visit.edited (answer : Visit) (met left : Node) : Node :=
  match answer with
  | .replace _ => met
  | _ => left

namespace BrokenTour

/- The node that a broken tour starts at. -/
def met : BrokenTour → Node
| .entering met _ => met
| .inside met _ _ _ _ _ => met
| .leaving tour => tour.met

/- The node with the edits that a broken tour makes in it. -/
def edited : BrokenTour → Node
| .entering met _ => met
| .inside met answer _ _ _ left => answer.edited met left
| .leaving tour => tour.edited

/- The questions up to the one whose answer ends the walk. -/
def events : BrokenTour → List VisitEvent
| .entering met answer => [⟨.enter, met, answer⟩]
| .inside met answer _ finished inner _ =>
    ⟨.enter, met, answer⟩ ::
      (Tour.eventsOfAll finished ++ inner.events)
| .leaving tour => tour.events

/- The question whose answer ends the walk. -/
def last : BrokenTour → VisitEvent
| .entering met answer => ⟨.enter, met, answer⟩
| .inside _ _ _ _ inner _ => inner.last
| .leaving tour => ⟨.leave, tour.left, tour.reply⟩

/- Why the walk ends. -/
def error (broken : BrokenTour) : VisitError :=
  .invalid broken.last.phase broken.last.answer
    broken.last.node.typeName

/-
  The nodes whose slots the walk was in when it ended, from the
  root downward, each with what is left of it.
-/
def path : BrokenTour → List (Node × Node)
| .entering _ _ => []
| .inside _ _ walked _ inner left => (walked, left) :: inner.path
| .leaving _ => []

end BrokenTour

------------------------------------------------------------
-- Orderly Broken Tours
------------------------------------------------------------

/-
  The members of a list have been toured one after the other, but
  are still in their places, with the edits made in them.
-/
inductive MembersEdited :
    List (Option Node) → List Tour → List (Option Node) → Prop where
| nil : MembersEdited [] [] []
| gap {members tours edited} :
    MembersEdited members tours edited →
    MembersEdited (none :: members) tours (none :: edited)
| node (tour : Tour) {members tours edited} :
    MembersEdited members tours edited →
    MembersEdited (some tour.met :: members) (tour :: tours)
      (some tour.edited :: edited)

/-
  A tour breaks off in a slot.  The slot keeps the node that it
  holds, or the members of its list; those after the one at which
  the tour breaks off are as they were.
-/
inductive Slot.Broken :
    Slot Node → List Tour → BrokenTour → Slot Node → Prop where
| one (broken : BrokenTour) :
    Broken (.one broken.met) [] broken (.one broken.edited)
| many {before tours edited} (broken : BrokenTour)
    (after : List (Option Node)) :
    MembersEdited before tours edited →
    Broken (.many (before ++ some broken.met :: after)) tours broken
      (.many (edited ++ some broken.edited :: after))

/-
  Each visit of a broken tour does what its answers ask for, up
  to an answer that has no meaning.  Where the tour breaks off in
  a slot, the slots before it have their results, and the slots
  after it are as they were.
-/
inductive BrokenTour.Orderly : BrokenTour → Prop where
| entering {met : Node} {answer : Visit}
    (hRefused : answer.walked? met = none) :
    Orderly (.entering met answer)
| inside {met walked : Node} {answer : Visit} {inner : BrokenTour}
    {before results after : List (Slot Node)} {held left : Slot Node}
    {passed tours : List Tour}
    (hWalked : answer.walked? met = some walked)
    (hDescends : answer ≠ .skipChildren)
    (hSlots : walked.slots = before ++ held :: after)
    (hPassed : SlotsToured before passed results)
    (hHeld : held.Broken tours inner left)
    (hFinished : ∀ tour ∈ passed ++ tours, tour.Orderly id)
    (hInner : inner.Orderly) :
    Orderly (.inside met answer walked (passed ++ tours) inner
      (walked.withSlots (results ++ left :: after)))
| leaving {tour : Tour}
    (hEntered : tour.entered = tour.met)
    (hWalked : tour.answer.walked? tour.entered = some tour.walked)
    (hDescends : tour.Descends)
    (hRefused : tour.reply.concludes = false)
    (hInner : ∀ visit ∈ tour.inner, visit.Orderly id) :
    Orderly (.leaving tour)

------------------------------------------------------------
-- What a Path Holds
------------------------------------------------------------

/- A node, possibly with other contents in its slots. -/
def Node.IsEdited (n n' : Node) : Prop :=
  ∃ slots, n' = n.withSlots slots

/- A slot holds the nodes that another one holds, in their places. -/
inductive Slot.HoldsSame : Slot Node → Slot Node → Prop where
| vacant : HoldsSame .vacant .vacant
| one {n n'} : n.IsEdited n' → HoldsSame (.one n) (.one n')
| many {members members'} :
    List.Forall₂ (Option.Rel Node.IsEdited) members members' →
    HoldsSame (.many members) (.many members')

/-
  What is left of a node holds the same nodes as the node in one
  of its slots.  The slots before it have the results of finished
  tours, and the slots after it are as they were.
-/
def Node.HoldsOn (n n' : Node) : Prop :=
  ∃ before held after tours results left,
    n.slots = before ++ held :: after ∧
      n' = n.withSlots (results ++ left :: after) ∧
        held.HoldsSame left ∧
          SlotsToured before tours results ∧
            ∀ tour ∈ tours, tour.Orderly id

end SqlTemplate
