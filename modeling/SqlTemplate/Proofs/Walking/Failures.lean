import SqlTemplate.Node.BrokenTour
import SqlTemplate.Proofs.Walking.Tours

/-
  Every walk that an answer ends is an orderly broken tour.  The
  nodes on the way to the one that was being visited still hold
  the nodes that they held, so no failed walk loses any of them.

  Key definitions include:
    * `Visitor.BreaksOff`
    * `Breaks`
    * `WalkStep.Breaks`

  Correctness is proven by:
    * `walkMembers_breaks`
    * `walkSlot_breaks`
    * `walkSlots_breaks`
    * `Node.walkChildren_breaks`
    * `Node.walk_breaks`
    * `BrokenTour.Orderly.holdsOn`
    * `failed_walks_keep_their_path`
-/

------------------------------------------------------------
-- Computations that Break Off
------------------------------------------------------------

namespace SqlTemplate

section

variable {σ α : Type}

/-
  The visitor passes between two states by the questions of some
  finished tours and of one that breaks off, all of them orderly.
-/
structure Visitor.BreaksOff
    (v : Visitor σ)
    (finished : List Tour)
    (broken : BrokenTour)
    (s t : σ) : Prop where
  finished_orderly : ∀ tour ∈ finished, tour.Orderly id
  broken_orderly : broken.Orderly
  answers : v.Answers (Tour.eventsOfAll finished ++ broken.events) s t

/-
  If an answer ends a walk during a computation, then after
  finished tours one has broken off for that reason, and they fit
  what is left.
-/
def Breaks
    (v : Visitor σ)
    (P : α → List Tour → BrokenTour → Prop)
    (m : StateM (WalkState σ) α) : Prop :=
  ∀ s e, s.failure = none → (m s).2.failure = some e → e ≠ .tooDeep →
    ∃ finished broken,
      v.BreaksOff finished broken s.visitor (m s).2.visitor ∧
        e = broken.error ∧ P (m s).1 finished broken

/- The walk of a node breaks off a tour that starts at the node. -/
def WalkStep.Breaks
    (v : Visitor σ)
    (step : WalkStep σ) : Prop :=
  ∀ n, SqlTemplate.Breaks v
    (fun walked finished broken =>
      finished = [] ∧ broken.met = n ∧ walked.edited = broken.edited)
    (step n)

variable {v : Visitor σ} {broken : BrokenTour} {s t u : σ}

/- The question on entering a node, before others. -/
theorem Visitor.Answers.entered
    {n : Node}
    {answer : Visit}
    {events : List VisitEvent}
    (hEnter : v.enter n s = (answer, t))
    (hEvents : v.Answers events t u) :
    v.Answers (⟨.enter, n, answer⟩ :: events) s u := by
  refine ⟨congrArg Prod.fst hEnter, ?_⟩
  change v.Answers events (v.enter n s).2 u
  rwa [hEnter]

/- A tour that breaks off before any other one is finished. -/
theorem Visitor.BreaksOff.first
    (hBroken : broken.Orderly)
    (hAnswers : v.Answers broken.events s t) :
    v.BreaksOff [] broken s t :=
  ⟨List.forall_mem_nil _, hBroken, hAnswers⟩

/- Tours before others that break off. -/
theorem Visitor.BreaksOff.after
    {tours finished : List Tour}
    (hBroken : v.BreaksOff finished broken t u)
    (hTours : v.Makes id tours s t) :
    v.BreaksOff (tours ++ finished) broken s u where
  finished_orderly :=
    List.forall_mem_append.mpr ⟨hTours.1, hBroken.finished_orderly⟩
  broken_orderly := hBroken.broken_orderly
  answers := by
    rw [Tour.eventsOfAll_append, List.append_assoc]
    exact hTours.2.append hBroken.answers

end

------------------------------------------------------------
-- Slots
------------------------------------------------------------

section Slots

variable {σ : Type} {v : Visitor σ} {step : WalkStep σ}
variable {s : WalkState σ} {e : VisitError}

/- Nothing is walked any more once a walk has failed. -/
theorem walkMembers_of_failure
    (step : WalkStep σ)
    (hFailure : s.failure = some e)
    (members : List (Option Node)) :
    (walkMembers step members s).1.1 = members ∧
      (walkMembers step members s).2 = s := by
  induction members with
  | nil => exact ⟨rfl, rfl⟩
  | cons member members ih =>
      cases member with
      | none => exact ⟨congrArg (none :: ·) ih.1, ih.2⟩
      | some n =>
          simp only [walkMembers, hFailure]
          exact ⟨trivial, trivial⟩

theorem walkSlots_of_failure
    (step : WalkStep σ)
    (hFailure : s.failure = some e)
    (slots : List (Slot Node)) :
    walkSlots step slots s = (slots, s) := by
  induction slots with
  | nil => rfl
  | cons slot slots ih =>
      have hSlot : walkSlot step slot s = (slot, s) := by
        simp only [walkSlot, hFailure]
      simp only [walkSlots, bind, StateT.bind, hSlot, ih]
      rfl

variable (hTours : step.Tours v id) (hBreaks : step.Breaks v)

include hTours hBreaks

/-
  The members before the one at which a walk of a list fails are
  edited, and the ones after it are as they were.
-/
theorem walkMembers_breaks
    (members : List (Option Node)) :
    Breaks v
      (fun lists finished broken =>
        ∃ before edited after, MembersEdited before finished edited ∧
          members = before ++ some broken.met :: after ∧
            lists.1 = edited ++ some broken.edited :: after)
      (walkMembers step members) := by
  induction members with
  | nil =>
      intro s e hStart hEnd
      cases hStart.symm.trans hEnd
  | cons member members ih =>
      intro s e hStart hEnd hAnswer
      cases member with
      | none =>
          rcases ih s e hStart hEnd hAnswer with ⟨finished, broken, hBroken,
            hError, before, edited, after, hEdited, rfl, hLeft⟩
          exact ⟨finished, broken, hBroken, hError, none :: before,
            none :: edited, after, hEdited.gap, rfl,
            congrArg (none :: ·) hLeft⟩
      | some n =>
          rcases hOutcome : step n s with ⟨walked, s'⟩
          rcases hMembers : walkMembers step members s' with
            ⟨⟨rest, results⟩, s''⟩
          simp only [walkMembers, hStart, hOutcome, hMembers] at hEnd ⊢
          -- Either this member fails, or it is toured and a later one fails.
          cases hFailure : s'.failure with
          | some e' =>
              have hRest := walkMembers_of_failure step hFailure members
              rw [hMembers] at hRest
              rcases hRest with ⟨rfl, rfl⟩
              have hNode := hBreaks n s e hStart
              rw [hOutcome] at hNode
              rcases hNode hEnd hAnswer with ⟨_, broken, hBroken, hError,
                rfl, rfl, hLeft⟩
              rw [hLeft]
              exact ⟨[], broken, hBroken, hError, [], [], _, .nil, rfl, rfl⟩
          | none =>
              have hNode := hTours n s
              rw [hOutcome] at hNode
              rcases hNode hFailure with ⟨_, _, hMakes, tour, rfl, rfl, rfl⟩
              have hRest := ih s' e hFailure
              rw [hMembers] at hRest
              rcases hRest hEnd hAnswer with ⟨finished, broken, hBroken,
                hError, before, edited, after, hEdited, rfl, rfl⟩
              exact ⟨tour :: finished, broken, hBroken.after hMakes, hError,
                some tour.met :: before, some tour.edited :: edited, after,
                hEdited.node tour, rfl, rfl⟩

theorem walkSlot_breaks
    (slot : Slot Node) :
    Breaks v
      (fun left finished broken => slot.Broken finished broken left)
      (walkSlot step slot) := by
  intro s e hStart hEnd hAnswer
  cases slot with
  | vacant =>
      simp only [walkSlot, hStart] at hEnd
      cases hEnd
  | one n =>
      have hNode := hBreaks n s e hStart
      rcases hOutcome : step n s with ⟨walked, s'⟩
      rw [hOutcome] at hNode
      simp only [walkSlot, hStart, hOutcome] at hEnd ⊢
      cases hFailure : s'.failure with
      | none =>
          simp only [hFailure] at hEnd
          cases hEnd
      | some e' =>
          simp only [hFailure] at hEnd ⊢
          cases hEnd
          rcases hNode hFailure hAnswer with ⟨_, broken, hBroken, hError,
            rfl, rfl, hLeft⟩
          rw [hLeft]
          exact ⟨[], broken, hBroken, hError, .one broken⟩
  | many members =>
      have hMembers := walkMembers_breaks hTours hBreaks members s e hStart
      rcases hOutcome : walkMembers step members s with
        ⟨⟨edited, results⟩, s'⟩
      rw [hOutcome] at hMembers
      simp only [walkSlot, hStart, hOutcome] at hEnd ⊢
      cases hFailure : s'.failure with
      | none =>
          simp only [hFailure] at hEnd
          cases hEnd
      | some e' =>
          simp only [hFailure] at hEnd ⊢
          cases hEnd
          rcases hMembers hFailure hAnswer with ⟨finished, broken, hBroken,
            hError, before, first, after, hEdited, rfl, rfl⟩
          exact ⟨finished, broken, hBroken, hError,
            .many broken after hEdited⟩

/-
  The slots before the one in which a walk fails have their
  results, and the ones after it are as they were.
-/
theorem walkSlots_breaks
    (slots : List (Slot Node)) :
    Breaks v
      (fun lefts finished broken =>
        ∃ before results held left after passed tours,
          finished = passed ++ tours ∧
            slots = before ++ held :: after ∧
              lefts = results ++ left :: after ∧
                SlotsToured before passed results ∧
                  held.Broken tours broken left)
      (walkSlots step slots) := by
  induction slots with
  | nil =>
      intro s e hStart hEnd
      cases hStart.symm.trans hEnd
  | cons slot slots ih =>
      intro s e hStart hEnd hAnswer
      rcases hSlot : walkSlot step slot s with ⟨result, s'⟩
      rcases hSlots : walkSlots step slots s' with ⟨results, s''⟩
      rw [walkSlots_cons hSlot hSlots] at hEnd ⊢
      cases hFailure : s'.failure with
      | some e' =>
          rw [walkSlots_of_failure step hFailure] at hSlots
          cases hSlots
          have hFirst := walkSlot_breaks hTours hBreaks slot s e hStart
          rw [hSlot] at hFirst
          rcases hFirst hEnd hAnswer with ⟨tours, broken, hBroken, hError,
            hHeld⟩
          exact ⟨tours, broken, hBroken, hError, [], [], slot, result,
            slots, [], tours, rfl, rfl, rfl, .nil, hHeld⟩
      | none =>
          have hFirst := walkSlot_tours hTours slot s
          rw [hSlot] at hFirst
          rcases hFirst hFailure with ⟨_, first, hMakes, hToured⟩
          have hRest := ih s' e hFailure
          rw [hSlots] at hRest
          rcases hRest hEnd hAnswer with ⟨_, broken, hBroken, hError, before,
            lefts, held, left, after, passed, tours, rfl, rfl, rfl, hPassed,
            hHeld⟩
          exact ⟨first ++ (passed ++ tours), broken, hBroken.after hMakes,
            hError, slot :: before, result :: lefts, held, left, after,
            first ++ passed, tours, (List.append_assoc ..).symm, rfl, rfl,
            .cons hToured hPassed, hHeld⟩

/- The walk of the slots below a node breaks off in one of them. -/
theorem Node.walkChildren_breaks
    (n : Node) :
    Breaks v
      (fun left finished broken =>
        ∃ before results held inner after passed tours,
          finished = passed ++ tours ∧
            n.slots = before ++ held :: after ∧
              left = n.withSlots (results ++ inner :: after) ∧
                SlotsToured before passed results ∧
                  held.Broken tours broken inner)
      (n.walkChildren step) := by
  intro s e hStart hEnd hAnswer
  rw [n.walkChildren_eq] at hEnd ⊢
  rcases walkSlots_breaks hTours hBreaks n.slots s e hStart hEnd hAnswer with
    ⟨finished, broken, hBroken, hError, before, results, held, inner, after,
      passed, tours, hFinished, hSlots, hLeft, hPassed, hHeld⟩
  exact ⟨finished, broken, hBroken, hError, before, results, held, inner,
    after, passed, tours, hFinished, hSlots,
    congrArg (fun slots => n.withSlots slots) hLeft, hPassed, hHeld⟩

end Slots

------------------------------------------------------------
-- Walks of Any Number of Levels
------------------------------------------------------------

section Walks

variable {σ : Type} {v : Visitor σ} {s : WalkState σ} {e : VisitError}

/- A walk fails on leaving a node only for the answer it gets there. -/
theorem Node.finish_fails
    {n : Node}
    (hStart : s.failure = none)
    (hEnd : (n.finish v s).2.failure = some e) :
    (v.leave n s.visitor).1.concludes = false ∧
      (n.finish v s).2.visitor = (v.leave n s.visitor).2 ∧
        e = .invalid .leave (v.leave n s.visitor).1 n.typeName := by
  rcases s with ⟨visitor, failure⟩
  cases hStart
  unfold Node.finish Node.leaveWith at hEnd ⊢
  rcases hLeave : v.leave n visitor with ⟨reply, visitor'⟩
  simp only [hLeave] at hEnd ⊢
  cases reply with
  | keep | remove | replace r => cases hEnd
  | skipChildren | foreign x =>
      cases hEnd
      exact ⟨rfl, rfl, rfl⟩

/- A node is not left any more once a walk has failed. -/
theorem Node.finish_of_failure
    (hFailure : s.failure = some e)
    (n : Node) :
    n.finish v s = (some n, s) := by
  unfold Node.finish
  rw [hFailure]

/-
  A walk that goes through all slots of a node breaks off on
  leaving it, if it does.
-/
theorem Node.finish_breaks
    {n walked left : Node}
    {answer : Visit}
    {inner : List Tour}
    {start visitor : σ}
    (hEnter : v.enter n start = (answer, visitor))
    (hWalked : answer.walked? n = some walked)
    (hInner : v.Makes id inner visitor s.visitor)
    (hDescends : ∀ reply,
      Tour.Descends ⟨n, n, answer, walked, inner, left, reply⟩)
    (hStart : s.failure = none)
    (hEnd : (left.finish v s).2.failure = some e) :
    ∃ reply,
      v.BreaksOff []
          (.leaving ⟨n, n, answer, walked, inner, left, reply⟩) start
          (left.finish v s).2.visitor ∧
        e = .invalid .leave reply left.typeName := by
  rcases Node.finish_fails hStart hEnd with ⟨hRefused, hVisitor, hError⟩
  rw [hVisitor]
  refine ⟨(v.leave left s.visitor).1, .first ?_ ?_, hError⟩
  · exact .leaving rfl hWalked (hDescends _) hRefused hInner.1
  · exact .entered hEnter (hInner.2.append ⟨rfl, rfl⟩)

/-
  The walk of a node that is entered, or of the one that replaces
  it, breaks off in a slot or on leaving.
-/
theorem Node.walkBelow_breaks
    {step : WalkStep σ}
    (hTours : step.Tours v id)
    (hBreaks : step.Breaks v)
    {n walked : Node}
    {answer : Visit}
    {start visitor : σ}
    (hEnter : v.enter n start = (answer, visitor))
    (hWalked : answer.walked? n = some walked)
    (hEnters : answer ≠ .skipChildren)
    (hEnd :
      let below := walked.walkChildren step ⟨visitor, none⟩
      (below.1.finish v below.2).2.failure = some e)
    (hAnswer : e ≠ .tooDeep) :
    let below := walked.walkChildren step ⟨visitor, none⟩
    ∃ broken : BrokenTour,
      v.BreaksOff [] broken start (below.1.finish v below.2).2.visitor ∧
        e = broken.error ∧ broken.met = n ∧
          broken.edited = answer.edited n below.1 := by
  intro below
  change (below.1.finish v below.2).2.failure = some e at hEnd
  cases hFailure : below.2.failure with
  | some e' =>
      rw [Node.finish_of_failure hFailure] at hEnd ⊢
      rcases Node.walkChildren_breaks hTours hBreaks walked _ e rfl hEnd
        hAnswer with ⟨_, broken, hBroken, hError, before, results, held,
          left, after, passed, tours, rfl, hSlots, hLeft, hPassed, hHeld⟩
      refine ⟨.inside n answer walked (passed ++ tours) broken
        (walked.withSlots (results ++ left :: after)), .first ?_ ?_,
        hError, rfl, ?_⟩
      · exact .inside hWalked hEnters hSlots hPassed hHeld
          hBroken.finished_orderly hBroken.broken_orderly
      · exact .entered hEnter hBroken.answers
      · rw [show below.1 = _ from hLeft]
        cases answer <;> rfl
  | none =>
      rcases Node.walkChildren_tours hTours walked _ hFailure with
        ⟨_, inner, hInner, hToured⟩
      have hDescends (reply : Visit) :
          Tour.Descends ⟨n, n, answer, walked, inner, below.1, reply⟩ := by
        cases answer with
        | keep | replace r => exact hToured
        | skipChildren => exact absurd rfl hEnters
        | remove | foreign x => cases hWalked
      rcases Node.finish_breaks hEnter hWalked hInner hDescends hFailure
        hEnd with ⟨reply, hBroken, hError⟩
      refine ⟨_, hBroken, hError, rfl, ?_⟩
      cases answer <;> rfl

/- A walk that an answer ends breaks off one tour. -/
theorem Node.walk_breaks
    (v : Visitor σ)
    (levels : Nat) :
    WalkStep.Breaks v (Node.walk v levels) := by
  induction levels with
  | zero =>
      intro n s e _ hEnd hAnswer
      cases hEnd
      exact absurd rfl hAnswer
  | succ levels ih =>
      -- Below the node some walks finish, and one of them breaks off.
      have hTours := Node.walkEditing_tours v id levels
      rintro n ⟨start, failure⟩ e ⟨⟩ hEnd hAnswer
      rw [Node.walk, Node.walkEditing] at hEnd ⊢
      rcases hEnter : v.enter n start with ⟨answer, visitor⟩
      simp only [id, hEnter] at hEnd ⊢
      cases answer with
      | keep =>
          have hEnters : Visit.keep ≠ .skipChildren := by
            rintro ⟨⟩
          rcases Node.walkBelow_breaks hTours ih hEnter rfl hEnters hEnd
            hAnswer with ⟨broken, hBroken, hError, hMet, hEdited⟩
          exact ⟨[], broken, hBroken, hError, rfl, hMet, hEdited.symm⟩
      | replace r =>
          have hEnters : Visit.replace r ≠ .skipChildren := by
            rintro ⟨⟩
          rcases Node.walkBelow_breaks hTours ih hEnter rfl hEnters hEnd
            hAnswer with ⟨broken, hBroken, hError, hMet, hEdited⟩
          exact ⟨[], broken, hBroken, hError, rfl, hMet, hEdited.symm⟩
      | skipChildren =>
          rcases Node.finish_breaks hEnter rfl (.nil visitor)
            (fun _ => ⟨rfl, rfl⟩) rfl hEnd with ⟨reply, hBroken, hError⟩
          exact ⟨[], _, hBroken, hError, rfl, rfl, rfl⟩
      | remove | foreign x =>
          cases hEnd
          exact ⟨[], .entering n _,
            .first (.entering rfl) (.entered hEnter rfl), rfl, rfl, rfl, rfl⟩

end Walks

------------------------------------------------------------
-- The Way to the Visited Node
------------------------------------------------------------

theorem Node.IsEdited.refl (n : Node) : n.IsEdited n :=
  ⟨n.slots, n.withSlots_slots.symm⟩

/- A tour edits the node that it meets, whatever replaces it. -/
theorem Tour.isEdited
    {tour : Tour}
    (hEntered : tour.entered = tour.met)
    (hWalked : tour.answer.walked? tour.entered = some tour.walked)
    (hDescends : tour.Descends) :
    tour.met.IsEdited tour.edited := by
  unfold Tour.Descends at hDescends
  unfold Tour.edited
  rw [hEntered] at hWalked ⊢
  cases hAnswer : tour.answer with
  | keep =>
      rw [hAnswer] at hWalked hDescends
      have hSame : tour.met = tour.walked := Option.some.inj hWalked
      rcases hDescends with ⟨results, _, hLeft⟩
      exact ⟨results, by rw [hLeft, hSame]⟩
  | skipChildren =>
      rw [hAnswer] at hWalked hDescends
      have hSame : tour.met = tour.walked := Option.some.inj hWalked
      rw [hDescends.2, ← hSame]
      exact .refl _
  | replace r => exact .refl _
  | remove | foreign x =>
      rw [hAnswer] at hWalked
      cases hWalked

theorem Tour.Orderly.isEdited
    {tour : Tour}
    (hOrderly : tour.Orderly id) :
    tour.met.IsEdited tour.edited := by
  rcases hOrderly with ⟨hEntered, hWalked, hDescends, _, _⟩
  exact Tour.isEdited hEntered hWalked hDescends

/- So does a tour that breaks off. -/
theorem BrokenTour.Orderly.isEdited
    {broken : BrokenTour}
    (hOrderly : broken.Orderly) :
    broken.met.IsEdited broken.edited := by
  cases hOrderly with
  | entering hRefused => exact .refl _
  | leaving hEntered hWalked hDescends hRefused hInner =>
      exact Tour.isEdited hEntered hWalked hDescends
  | @inside met walked answer inner before results after held left passed
      tours hWalked hEnters hSlots hPassed hHeld hFinished hInner =>
      cases answer with
      | keep =>
          cases hWalked
          exact ⟨_, rfl⟩
      | replace r => exact .refl _
      | skipChildren => exact absurd rfl hEnters
      | remove | foreign x => cases hWalked

/- Members that have been toured are still in their places. -/
theorem MembersEdited.same
    {members edited : List (Option Node)}
    {tours : List Tour}
    (hEdited : MembersEdited members tours edited)
    (hTours : ∀ tour ∈ tours, tour.Orderly id) :
    List.Forall₂ (Option.Rel Node.IsEdited) members edited := by
  induction hEdited with
  | nil => exact .nil
  | gap _ ih => exact .cons .none (ih hTours)
  | node tour _ ih =>
      rcases List.forall_mem_cons.mp hTours with ⟨hFirst, hRest⟩
      exact .cons (.some hFirst.isEdited) (ih hRest)

/- A slot in which a tour breaks off holds the nodes that it held. -/
theorem Slot.Broken.holdsSame
    {held left : Slot Node}
    {tours : List Tour}
    {broken : BrokenTour}
    (hHeld : held.Broken tours broken left)
    (hTours : ∀ tour ∈ tours, tour.Orderly id)
    (hBroken : broken.Orderly) :
    held.HoldsSame left := by
  cases hHeld with
  | one => exact .one hBroken.isEdited
  | many _ after hEdited =>
      have hAfter : List.Forall₂ (Option.Rel Node.IsEdited) after after :=
        List.forall₂_same.mpr fun member _ => by
          cases member with
          | none => exact .none
          | some n => exact .some (.refl n)
      exact .many (List.rel_append (hEdited.same hTours)
        (.cons (.some hBroken.isEdited) hAfter))

/-
  Every node on the way to the one at which a tour breaks off
  still holds its nodes in the slot that the way goes through.
-/
theorem BrokenTour.Orderly.holdsOn
    {broken : BrokenTour}
    (hOrderly : broken.Orderly) :
    ∀ step ∈ broken.path, step.1.HoldsOn step.2 := by
  induction hOrderly with
  | entering => exact nofun
  | leaving => exact nofun
  | inside hWalked hEnters hSlots hPassed hHeld hFinished hInner ih =>
      rw [List.forall_mem_append] at hFinished
      refine List.forall_mem_cons.mpr ⟨?_, ih⟩
      exact ⟨_, _, _, _, _, _, hSlots, rfl,
        hHeld.holdsSame hFinished.2 hInner, hPassed, hFinished.1⟩

------------------------------------------------------------
-- Correctness
------------------------------------------------------------

/-
  If an answer of the visitor ends a walk, then the walk is an
  orderly broken tour: the visitor was asked the questions of
  the tour and no others, the last of them is the one that the
  error is about, and the tree is left as the tour leaves it.
  Every node on the way to the visited one still holds the nodes
  that it held in the slot on the way, a list all its members in
  their order; the slots before that one have their results, and
  what comes after is as it was.
-/
theorem failed_walks_keep_their_path
    {σ : Type}
    (v : Visitor σ)
    (levels : Nat)
    (n : Node)
    (start : σ)
    {phase : VisitPhase}
    {answer : Visit}
    {typeName : String}
    (hFails :
      (n.walkFrom v levels start).2.failure =
        some (.invalid phase answer typeName)) :
    ∃ broken : BrokenTour,
      broken.met = n ∧
        broken.Orderly ∧
          v.Answers broken.events start
              (n.walkFrom v levels start).2.visitor ∧
            broken.error = .invalid phase answer typeName ∧
              (n.walkFrom v levels start).1.edited = broken.edited ∧
                n.IsEdited broken.edited ∧
                  ∀ step ∈ broken.path, step.1.HoldsOn step.2 := by
  rcases Node.walk_breaks v levels n ⟨start, none⟩ _ rfl hFails nofun with
    ⟨_, broken, hBroken, hError, rfl, rfl, hEdited⟩
  have hOrderly := hBroken.broken_orderly
  exact ⟨broken, rfl, hOrderly, hBroken.answers, hError.symm, hEdited,
    hOrderly.isEdited, hOrderly.holdsOn⟩

/-
  A visitor that takes out the columns of one name and gives an
  answer without a meaning on leaving those of another one.
-/
def columnBreaker (removed refused : String) : Visitor Unit where
  enter _ s := (.keep, s)
  leave n s :=
    match n with
    | .column column _ _ =>
        (if column = removed then .remove
          else if column = refused then .skipChildren else .keep, s)
    | _ => (.keep, s)

/-
  The walk ends at the second column, after the first one was to
  be removed from the list that the second one is nested in.
-/
theorem failed_walks_keep_their_path_of_removal :
    let column := fun name => Node.column name none none
    let members := Slot.ofList
      [column "a", .unary .not (.one (column "b")), column "c"]
    let root := Node.connective .and members
    let walk := root.walkFrom (columnBreaker "a" "b") 3 ()
    walk.2.failure = some (.invalid .leave .skipChildren "ColRef") ∧
      walk.1.edited = root ∧
        ∃ broken : BrokenTour,
          broken.met = root ∧ broken.Orderly ∧ broken.edited = root ∧
            ∀ step ∈ broken.path, step.1.HoldsOn step.2 := by
  intro column members root walk
  have hFails :
      walk.2.failure =
        some (.invalid .leave .skipChildren "ColRef") := rfl
  rcases failed_walks_keep_their_path (columnBreaker "a" "b") 3 root ()
    hFails with ⟨broken, hMet, hOrderly, _, _, hEdited, _, hHolds⟩
  exact ⟨hFails, rfl, broken, hMet, hOrderly, hEdited.symm, hHolds⟩

end SqlTemplate
