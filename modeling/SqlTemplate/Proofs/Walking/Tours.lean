import SqlTemplate.Node.Tour

/-
  Every walk that returns makes an orderly tour: the visitor is
  asked the questions of the tour and no others, whatever it
  answers, and the tree is edited as the tour says.

  Key definitions include:
    * `Visitor.Makes`
    * `Tours`
    * `WalkStep.Tours`
    * `walkSlots`
  Correctness is proven by:
    * `walkMembers_tours`
    * `walkSlot_tours`
    * `Node.walkChildren_tours`
    * `Node.walkEditing_tours`
    * `Tour.Orderly.kept`
    * `walks_are_tours`
-/

------------------------------------------------------------
-- Questions of Tours
------------------------------------------------------------

namespace SqlTemplate

section

variable {σ : Type} {v : Visitor σ} {edit : Node → Node}

theorem Visitor.Answers.append
    {events later : List VisitEvent}
    {s t u : σ}
    (hEvents : v.Answers events s t)
    (hLater : v.Answers later t u) :
    v.Answers (events ++ later) s u := by
  induction events generalizing s with
  | nil =>
      cases hEvents
      exact hLater
  | cons e events ih => exact ⟨hEvents.1, ih hEvents.2⟩

@[simp]
theorem Tour.eventsOfAll_append
    (tours later : List Tour) :
    Tour.eventsOfAll (tours ++ later) =
      Tour.eventsOfAll tours ++ Tour.eventsOfAll later := by
  induction tours with
  | nil => rfl
  | cons tour tours ih =>
      simp only [List.cons_append, Tour.eventsOfAll, ih,
        List.append_assoc]

/- The visitor passes between two states by the questions of orderly tours. -/
def Visitor.Makes
    (v : Visitor σ)
    (edit : Node → Node)
    (tours : List Tour)
    (s t : σ) : Prop :=
  (∀ tour ∈ tours, tour.Orderly edit) ∧
    v.Answers (Tour.eventsOfAll tours) s t

namespace Visitor.Makes

theorem nil
    (s : σ) :
    v.Makes edit [] s s :=
  ⟨List.forall_mem_nil _, rfl⟩

theorem append
    {tours later : List Tour}
    {s t u : σ}
    (hTours : v.Makes edit tours s t)
    (hLater : v.Makes edit later t u) :
    v.Makes edit (tours ++ later) s u := by
  refine ⟨List.forall_mem_append.mpr ⟨hTours.1, hLater.1⟩, ?_⟩
  rw [Tour.eventsOfAll_append]
  exact hTours.2.append hLater.2

end Visitor.Makes

end

------------------------------------------------------------
-- Computations that Make Tours
------------------------------------------------------------

section

variable {σ α : Type}

/-
  If a computation returns, the walk had not failed before, and
  the visitor has made tours that fit the result.
-/
def Tours
    (v : Visitor σ)
    (edit : Node → Node)
    (P : α → List Tour → Prop)
    (m : StateM (WalkState σ) α) : Prop :=
  ∀ s, (m s).2.failure = none →
    s.failure = none ∧
      ∃ tours, v.Makes edit tours s.visitor (m s).2.visitor ∧
        P (m s).1 tours

/- A computation that asks nothing makes no tours. -/
theorem Tours.pure
    {v : Visitor σ}
    {edit : Node → Node}
    {P : α → List Tour → Prop}
    {a : α}
    (hResult : P a []) :
    Tours v edit P (Pure.pure a) :=
  fun s hReturns => ⟨hReturns, [], .nil s.visitor, hResult⟩

/- The walk of a node makes one tour, which starts at the node. -/
def WalkStep.Tours
    (v : Visitor σ)
    (edit : Node → Node)
    (step : WalkStep σ) : Prop :=
  ∀ n, SqlTemplate.Tours v edit
    (fun walked tours =>
      ∃ tour : Tour, tours = [tour] ∧ tour.met = n ∧
        walked = tour.outcome)
    (step n)

end

------------------------------------------------------------
-- Slots
------------------------------------------------------------

section Slots

variable {σ : Type}

/- Walk slots one after another. -/
def walkSlots
    (step : WalkStep σ) :
    List (Slot Node) → StateM (WalkState σ) (List (Slot Node))
| [] => return []
| slot :: slots => do
    let result ← walkSlot step slot
    let results ← walkSlots step slots
    return result :: results

/- The slots below a node are walked in the order of its fields. -/
theorem Node.walkChildren_eq
    (step : WalkStep σ)
    (n : Node) :
    n.walkChildren step =
      (do return n.withSlots (← walkSlots step n.slots)) := by
  cases n <;>
    simp only [Node.walkChildren, Node.slots, walkSlots, walkQuery,
      Node.withSlots, bind_assoc, pure_bind]

/- The first slot is walked before the others. -/
theorem walkSlots_cons
    {step : WalkStep σ}
    {slot result : Slot Node}
    {slots results : List (Slot Node)}
    {s s' s'' : WalkState σ}
    (hSlot : walkSlot step slot s = (result, s'))
    (hSlots : walkSlots step slots s' = (results, s'')) :
    walkSlots step (slot :: slots) s = (result :: results, s'') := by
  simp only [walkSlots, bind, StateT.bind, hSlot, hSlots]
  rfl

variable {v : Visitor σ} {edit : Node → Node} {step : WalkStep σ}
variable (hStep : step.Tours v edit)

include hStep

/- Members are toured in the order of the list, even if some are removed. -/
theorem walkMembers_tours
    (members : List (Option Node)) :
    Tours v edit
      (fun lists tours => MembersToured members tours lists.2)
      (walkMembers step members) := by
  induction members with
  | nil => exact .pure .nil
  | cons member members ih =>
      intro s hReturns
      cases member with
      | none =>
          rcases ih s hReturns with ⟨hBefore, tours, hMakes, hToured⟩
          exact ⟨hBefore, tours, hMakes, hToured.gap⟩
      | some n =>
          rw [walkMembers] at hReturns ⊢
          cases hFailure : s.failure with
          | some e =>
              simp only [hFailure] at hReturns
              cases hReturns
          | none =>
              simp only [hFailure] at hReturns ⊢
              have hFirst := hStep n s
              rcases hOutcome : step n s with ⟨walked, s'⟩
              rw [hOutcome] at hFirst hReturns
              rcases ih s' hReturns with ⟨hBefore, later, hLater, hToured⟩
              rcases hFirst hBefore with ⟨_, _, hMakes, tour, rfl, rfl,
                rfl⟩
              exact ⟨trivial, tour :: later, hMakes.append hLater,
                hToured.node tour⟩

theorem walkSlot_tours
    (slot : Slot Node) :
    Tours v edit (fun result tours => slot.Toured tours result)
      (walkSlot step slot) := by
  intro s hReturns
  unfold walkSlot at hReturns ⊢
  cases hFailure : s.failure with
  | some e =>
      simp only [hFailure] at hReturns
      cases hReturns
  | none =>
      refine ⟨rfl, ?_⟩
      cases slot with
      | vacant => exact ⟨[], .nil s.visitor, .vacant⟩
      | one n =>
          have hNode := hStep n s
          rcases hOutcome : step n s with ⟨walked, s'⟩
          simp only [hFailure, hOutcome] at hReturns ⊢
          rw [hOutcome] at hNode
          cases hAfter : s'.failure with
          | some e =>
              simp only [hAfter] at hReturns
              cases hReturns
          | none =>
              rcases hNode hAfter with ⟨_, _, hMakes, tour, rfl, rfl, rfl⟩
              exact ⟨[tour], hMakes, .one tour⟩
      | many members =>
          have hMembers := walkMembers_tours hStep members s
          rcases hOutcome : walkMembers step members s with
            ⟨⟨edited, results⟩, s'⟩
          simp only [hFailure, hOutcome] at hReturns ⊢
          rw [hOutcome] at hMembers
          cases hAfter : s'.failure with
          | some e =>
              simp only [hAfter] at hReturns
              cases hReturns
          | none =>
              rcases hMembers hAfter with ⟨_, tours, hMakes, hToured⟩
              exact ⟨tours, hMakes, .many hToured⟩

theorem walkSlots_tours
    (slots : List (Slot Node)) :
    Tours v edit (fun results tours => SlotsToured slots tours results)
      (walkSlots step slots) := by
  induction slots with
  | nil => exact .pure .nil
  | cons slot slots ih =>
      intro s hReturns
      have hFirst := walkSlot_tours hStep slot s
      rcases hSlot : walkSlot step slot s with ⟨result, s'⟩
      rcases hSlots : walkSlots step slots s' with ⟨results, s''⟩
      rw [walkSlots_cons hSlot hSlots] at hReturns ⊢
      have hRest := ih s'
      rw [hSlots] at hRest
      rw [hSlot] at hFirst
      rcases hRest hReturns with ⟨hBefore, later, hLater, hToured⟩
      rcases hFirst hBefore with ⟨hStart, tours, hMakes, hFits⟩
      exact ⟨hStart, tours ++ later, hMakes.append hLater,
        .cons hFits hToured⟩

/- The nodes below a node are toured field by field. -/
theorem Node.walkChildren_tours
    (n : Node) :
    Tours v edit
      (fun left tours => ∃ results, SlotsToured n.slots tours results ∧
        left = n.withSlots results)
      (n.walkChildren step) := by
  intro s hReturns
  rw [n.walkChildren_eq] at hReturns ⊢
  rcases walkSlots_tours hStep n.slots s hReturns with ⟨hBefore, tours,
    hMakes, hToured⟩
  exact ⟨hBefore, tours, hMakes, _, hToured, rfl⟩

end Slots

------------------------------------------------------------
-- Walks of Any Number of Levels
------------------------------------------------------------

section Walks

variable {σ : Type} {v : Visitor σ}

/- A walk that goes on after leaving a node was told what takes its place. -/
theorem Node.finish_returns
    {n : Node}
    {s : WalkState σ}
    (hReturns : (n.finish v s).2.failure = none) :
    s.failure = none ∧
      (v.leave n s.visitor).1.concludes = true ∧
        n.finish v s =
          ((v.leave n s.visitor).1.placed n,
            ⟨(v.leave n s.visitor).2, none⟩) := by
  rcases s with ⟨visitor, failure⟩
  cases failure with
  | some e => cases hReturns
  | none =>
      unfold Node.finish Node.leaveWith at hReturns ⊢
      rcases hLeave : v.leave n visitor with ⟨reply, visitor'⟩
      simp only [hLeave] at hReturns ⊢
      cases reply with
      | keep | remove | replace r => exact ⟨trivial, rfl, rfl⟩
      | skipChildren | foreign x => cases hReturns

@[simp]
theorem Tour.events_eq (tour : Tour) :
    tour.events =
      ⟨.enter, tour.entered, tour.answer⟩ ::
        (Tour.eventsOfAll tour.inner ++
          [⟨.leave, tour.left, tour.reply⟩]) := by
  cases tour
  rfl

/-
  The two questions about a node stand around those about the
  nodes below it.
-/
theorem Node.finish_tours
    {edit : Node → Node}
    {n walked left : Node}
    {answer : Visit}
    {inner : List Tour}
    {start visitor : σ}
    {s : WalkState σ}
    (hEnter : v.enter (edit n) start = (answer, visitor))
    (hWalked : answer.walked? (edit n) = some walked)
    (hInner : v.Makes edit inner visitor s.visitor)
    (hDescends : ∀ reply,
      Tour.Descends ⟨n, edit n, answer, walked, inner, left, reply⟩)
    (hReturns : (left.finish v s).2.failure = none) :
    ∃ reply,
      v.Makes edit [⟨n, edit n, answer, walked, inner, left, reply⟩] start
          (left.finish v s).2.visitor ∧
        reply.placed left = (left.finish v s).1 := by
  rcases Node.finish_returns hReturns with ⟨_, hConcludes, hFinish⟩
  rw [hFinish]
  refine ⟨(v.leave left s.visitor).1, ⟨?_, ?_⟩, rfl⟩
  · rw [List.forall_mem_singleton]
    exact ⟨rfl, hWalked, hDescends _, hConcludes, hInner.1⟩
  · rw [Tour.eventsOfAll, Tour.eventsOfAll, List.append_nil,
      Tour.events_eq]
    refine ⟨congrArg Prod.fst hEnter, ?_⟩
    change v.Answers _ (v.enter (edit n) start).2 _
    rw [hEnter]
    exact hInner.2.append ⟨rfl, rfl⟩

/- A walk of any number of levels makes one tour. -/
theorem Node.walkEditing_tours
    (v : Visitor σ)
    (edit : Node → Node)
    (levels : Nat) :
    WalkStep.Tours v edit (Node.walkEditing edit v levels) := by
  induction levels with
  | zero =>
      intro n s hReturns
      cases hReturns
  | succ levels ih =>
      intro n s hReturns
      rw [Node.walkEditing] at hReturns ⊢
      rcases hEnter : v.enter (edit n) s.visitor with ⟨answer, visitor⟩
      simp only [hEnter] at hReturns ⊢
      cases answer with
      | keep =>
          rcases Node.walkChildren_tours ih (edit n) _
            (Node.finish_returns hReturns).1 with ⟨hBefore, inner, hInner,
              hDescends⟩
          rcases Node.finish_tours hEnter rfl hInner (fun _ => hDescends)
            hReturns with ⟨reply, hMakes, hPlaced⟩
          exact ⟨hBefore, _, hMakes, _, rfl, rfl,
            congrArg (Walked.mk _) hPlaced.symm⟩
      | skipChildren =>
          rcases Node.finish_tours hEnter rfl (.nil visitor)
            (fun _ => ⟨rfl, rfl⟩) hReturns with ⟨reply, hMakes, hPlaced⟩
          exact ⟨(Node.finish_returns hReturns).1, _, hMakes, _, rfl, rfl,
            congrArg (Walked.mk _) hPlaced.symm⟩
      | replace r =>
          rcases Node.walkChildren_tours ih r _
            (Node.finish_returns hReturns).1 with ⟨hBefore, inner, hInner,
              hDescends⟩
          rcases Node.finish_tours hEnter rfl hInner (fun _ => hDescends)
            hReturns with ⟨reply, hMakes, hPlaced⟩
          exact ⟨hBefore, _, hMakes, _, rfl, rfl,
            congrArg (Walked.mk _) hPlaced.symm⟩
      | remove => cases hReturns
      | foreign x => cases hReturns

end Walks

------------------------------------------------------------
-- Tours That Change Nothing
------------------------------------------------------------

@[simp]
theorem Tour.mem_eventsOfAll
    {tours : List Tour}
    {e : VisitEvent} :
    e ∈ Tour.eventsOfAll tours ↔ ∃ tour ∈ tours, e ∈ tour.events := by
  induction tours with
  | nil => simp [Tour.eventsOfAll]
  | cons tour tours ih =>
      simp only [Tour.eventsOfAll, List.mem_append, ih, List.mem_cons,
        exists_eq_or_imp]

section

variable {tours : List Tour}

theorem MembersToured.kept
    {members results : List (Option Node)}
    (hToured : MembersToured members tours results)
    (hKept : ∀ tour ∈ tours, tour.result = some tour.met) :
    results = members := by
  induction hToured with
  | nil => rfl
  | gap _ ih => rw [ih hKept]
  | node tour _ ih =>
      rw [List.forall_mem_cons] at hKept
      rw [ih hKept.2, hKept.1]
      rfl

theorem Slot.Toured.kept
    {slot result : Slot Node}
    (hToured : slot.Toured tours result)
    (hKept : ∀ tour ∈ tours, tour.result = some tour.met) :
    result = slot := by
  cases hToured with
  | vacant => rfl
  | one tour =>
      rw [hKept tour List.mem_cons_self]
      rfl
  | many hMembers => rw [hMembers.kept hKept]

theorem SlotsToured.kept
    {slots results : List (Slot Node)}
    (hToured : SlotsToured slots tours results)
    (hKept : ∀ tour ∈ tours, tour.result = some tour.met) :
    results = slots := by
  induction hToured with
  | nil => rfl
  | cons hSlot _ ih =>
      rw [List.forall_mem_append] at hKept
      rw [hSlot.kept hKept.1, ih hKept.2]

end

/- If every answer is to keep the node, the tree stays as it was. -/
theorem Tour.Orderly.kept
    {tour : Tour}
    (hOrderly : tour.Orderly id)
    (hKept : ∀ e ∈ tour.events, e.answer = .keep) :
    tour.outcome = ⟨tour.met, some tour.met⟩ := by
  induction hOrderly with
  | @intro tour hEntered hWalked hDescends hConcludes hInner ih =>
      rw [Tour.events_eq, List.forall_mem_cons, List.forall_mem_append,
        List.forall_mem_singleton] at hKept
      rcases hKept with ⟨hAnswer, hBelow, hReply⟩
      dsimp only at hAnswer hReply
      have hResults : ∀ visit ∈ tour.inner,
          visit.result = some visit.met := by
        intro visit hVisit
        have hOutcome := ih visit hVisit fun e hEvent =>
          hBelow e (Tour.mem_eventsOfAll.mpr ⟨visit, hVisit, hEvent⟩)
        exact congrArg Walked.result hOutcome
      unfold Tour.Descends at hDescends
      rw [hAnswer] at hWalked hDescends
      rcases hDescends with ⟨results, hToured, hLeft⟩
      have hSame : tour.entered = tour.walked := Option.some.inj hWalked
      rw [hToured.kept hResults, Node.withSlots_slots, ← hSame,
        hEntered] at hLeft
      rw [Tour.outcome, Tour.edited, Tour.result, hAnswer, hReply, hLeft]
      rfl

------------------------------------------------------------
-- Correctness
------------------------------------------------------------

section

variable {σ : Type} {v : Visitor σ}

theorem Visitor.ask_recorded
    (phase : VisitPhase)
    (n : Node)
    (s : σ × List VisitEvent) :
    (v.recorded.ask phase n s).2.2 =
      s.2 ++ [⟨phase, n, (v.recorded.ask phase n s).1⟩] := by
  cases phase <;> rfl

theorem Visitor.Answers.recorded
    {events : List VisitEvent}
    {s t : σ × List VisitEvent}
    (hAnswers : v.recorded.Answers events s t) :
    t.2 = s.2 ++ events := by
  induction events generalizing s with
  | nil =>
      cases hAnswers
      rw [List.append_nil]
  | cons e events ih =>
      rw [ih hAnswers.2, Visitor.ask_recorded, hAnswers.1,
        List.append_assoc]
      rfl

/- What a visitor notes down on a walk are the questions of a tour. -/
theorem walks_record_tours
    (levels : Nat)
    (n : Node)
    (start : σ)
    (hReturns :
      (n.walkFrom v.recorded levels (start, [])).2.failure = none) :
    ∃ tour : Tour,
      tour.met = n ∧ tour.Orderly id ∧
        (n.walkFrom v.recorded levels (start, [])).2.visitor.2 =
          tour.events := by
  rcases Node.walkEditing_tours v.recorded id levels n _ hReturns with
    ⟨_, _, hMakes, tour, rfl, hMet, _⟩
  refine ⟨tour, hMet, hMakes.1 tour List.mem_cons_self, ?_⟩
  have hEvents := hMakes.2.recorded
  rwa [Tour.eventsOfAll, Tour.eventsOfAll, List.append_nil] at hEvents

end

/-
  A walk that returns is an orderly tour of the tree: the
  visitor passes from its first to its last state by the
  questions of the tour, the walk comes to what the tour comes
  to, and answers that only keep nodes change nothing.
-/
theorem walks_are_tours
    {σ : Type}
    (v : Visitor σ)
    (levels : Nat)
    (n : Node)
    (start : σ)
    (hReturns : (n.walkFrom v levels start).2.failure = none) :
    ∃ tour : Tour,
      tour.met = n ∧
        tour.Orderly id ∧
          v.Answers tour.events start
              (n.walkFrom v levels start).2.visitor ∧
            (n.walkFrom v levels start).1 = tour.outcome ∧
              ((∀ e ∈ tour.events, e.answer = .keep) →
                (n.walkFrom v levels start).1 = ⟨n, some n⟩) := by
  rcases Node.walkEditing_tours v id levels n _ hReturns with
    ⟨_, _, hMakes, tour, rfl, rfl, hOutcome⟩
  have hOrderly := hMakes.1 tour List.mem_cons_self
  have hAnswers := hMakes.2
  rw [Tour.eventsOfAll, Tour.eventsOfAll, List.append_nil] at hAnswers
  refine ⟨tour, rfl, hOrderly, hAnswers, hOutcome, fun hKept => ?_⟩
  exact hOutcome.trans (hOrderly.kept hKept)

/- A visitor that takes out the columns of a name. -/
def columnRemover (name : String) : Visitor Unit where
  enter _ s := (.keep, s)
  leave n s :=
    match n with
    | .column column _ _ => (if column = name then .remove else .keep, s)
    | _ => (.keep, s)

theorem walks_are_tours_of_removal :
    let columns := Slot.ofList
      [Node.column "a" none none, .column "b" none none,
        .column "c" none none]
    let walk := (Node.connective .and columns).walkFrom
      (columnRemover "b") 2 ()
    walk.2.failure = none ∧
      ∃ tour : Tour, tour.Orderly id ∧ walk.1 = tour.outcome := by
  intro columns walk
  have hReturns : walk.2.failure = none := rfl
  rcases walks_are_tours (columnRemover "b") 2 (.connective .and columns) ()
    hReturns with ⟨tour, _, hOrderly, _, hOutcome, _⟩
  exact ⟨hReturns, tour, hOrderly, hOutcome⟩

end SqlTemplate
