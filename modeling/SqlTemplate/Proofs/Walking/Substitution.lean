import SqlTemplate.Proofs.Walking.Rewriting

/-
  Walks that write values into a tree.  Two of them come to one
  with the bindings of the first before those of the second.
  What they leave in the tree are the parameters without a
  scalar and all numeral parameters, in their order.

  Key definitions include:
    * `Node.substituted`
    * `Node.refilled`
    * `Node.IsSettled`

  Correctness is proven by:
    * `Node.substitute_eq`
    * `Node.substitute_substitute`
    * `Node.settled_of_substitute`
    * `Node.parameters_substitute`
    * `substitutor_rewrites`
    * `collector_rewrites`
    * `substitution_composes`
-/

------------------------------------------------------------
-- Bindings before Others
------------------------------------------------------------

namespace SqlTemplate

variable {p q : Bindings}

theorem Bindings.scalar?_congr
    {name : String}
    (hSame : p name = q name) :
    p.scalar? name = q.scalar? name := by
  rw [Bindings.scalar?, Bindings.value?, hSame]
  rfl

/- The first bindings that give a scalar come first. -/
theorem Bindings.scalar?_before
    (name : String) :
    (p.before q).scalar? name = (p.scalar? name).or (q.scalar? name) := by
  cases hScalar : p.scalar? name with
  | none =>
      refine Bindings.scalar?_congr ?_
      rw [Bindings.before, hScalar]
      rfl
  | some v =>
      rw [Option.some_or, ← hScalar]
      refine Bindings.scalar?_congr ?_
      rw [Bindings.before, hScalar]
      rfl

@[simp]
theorem Bindings.before_self : p.before p = p := by
  funext name
  exact ite_self _

theorem Node.scalar?_before (n : Node) :
    n.scalar? (p.before q) = (n.scalar? p).or (n.scalar? q) := by
  cases n with
  | parameter name => exact Bindings.scalar?_before name
  | _ => rfl

------------------------------------------------------------
-- Substitution Node by Node
------------------------------------------------------------

variable {b : Bindings}

/- A node in the place of another one, which is always filled. -/
def Node.substituted (b : Bindings) (n : Node) : Option Node :=
  some (n.substitute b)

theorem Node.substituteSlot_eq
    (slot : Slot Node) :
    Node.substituteSlot b slot = slot.placed (Node.substituted b) := by
  cases slot with
  | vacant => rfl
  | one n => rfl
  | many members =>
      rw [Node.substituteSlot, Slot.placed]
      congr 1
      induction members with
      | nil => rfl
      | cons member members ih =>
          cases member with
          | none =>
              rw [Node.substituteList, ih]
              rfl
          | some n =>
              rw [Node.substituteList, ih]
              rfl

theorem Node.substituteOperand_eq
    (op : BinaryOp)
    (right : Slot Node) :
    Node.substituteOperand b op.isMembership right =
      (if op.isMembership then right.bracketBare else right).placed
        (Node.substituted b) := by
  rw [← Node.substituteSlot_eq]
  cases op.isMembership with
  | false => cases right <;> rfl
  | true =>
      cases right with
      | vacant => rfl
      | many members => rfl
      | one n => cases n <;> rfl

/- What substitution puts in the place of a node without a scalar. -/
def Node.refilled (b : Bindings) (n : Node) : Node :=
  n.bracketList.withSlots
    (n.bracketList.slots.map (Slot.placed (Node.substituted b)))

/-
  A parameter for a scalar becomes a literal, and any other node
  has its list in brackets and other contents in its slots.
-/
theorem Node.substitute_eq (n : Node) :
    n.substitute b =
      ((n.scalar? b).map Node.literal).getD (n.refilled b) := by
  cases n with
  | parameter name =>
      rw [Node.substitute, Node.scalar?]
      cases b.scalar? name <;> rfl
  | binary op left right =>
      rw [Node.substitute, Node.substituteOperand_eq,
        Node.substituteSlot_eq]
      rfl
  | select query =>
      rcases query with ⟨columns, source, filter, groups, having, order,
        limit, offset, distinct, options⟩
      simp only [Node.substitute, Node.substituteQuery,
        Node.substituteSlot_eq]
      rfl
  | _ =>
      simp only [Node.substitute, Node.substituteSlot_eq]
      rfl

theorem Node.scalar?_refilled (n : Node) :
    (n.refilled p).scalar? q = n.scalar? q := by
  cases n <;> rfl

/- The list of a refilled test is in brackets. -/
theorem Node.bracketList_refilled (n : Node) :
    (n.refilled b).bracketList = n.refilled b := by
  cases n with
  | binary op left right =>
      change Node.binary op _ _ = Node.binary op _ _
      congr 1
      cases hMembership : op.isMembership with
      | false => rfl
      | true =>
          cases right with
          | vacant => rfl
          | many members => rfl
          | one n => cases n <;> rfl
  | _ => rfl

/- Two substitutions refill a node as one does that comes to both. -/
theorem Node.refilled_refilled
    {n : Node}
    {r : Bindings}
    (hBelow : ∀ m ∈ n.bracketList.children,
      (m.substitute p).substitute q = m.substitute r) :
    (n.refilled p).refilled q = n.refilled r := by
  rw [Node.refilled, Node.bracketList_refilled, Node.refilled,
    Node.slots_placed, Node.withSlots_placed, Node.refilled]
  congr 1
  apply List.map_congr_left
  intro slot hSlot
  rw [Function.comp_apply, Slot.placed_placed]
  apply Slot.placed_congr
  intro m hNode
  have hChild := List.mem_flatMap.mpr ⟨slot, hSlot, hNode⟩
  exact congrArg some (hBelow m hChild)

/-
  Two substitutions come to one with the first bindings before
  the second ones.
-/
theorem Node.substitute_substitute (n : Node) :
    (n.substitute p).substitute q = n.substitute (p.before q) := by
  induction n using Node.induction_of_children Node.bracketList
    Node.walkLevels_bracketList with
  | hStep n ih =>
      rw [n.substitute_eq, n.substitute_eq, n.scalar?_before]
      cases hFirst : n.scalar? p with
      | some v => rfl
      | none =>
          change (n.refilled p).substitute q = _
          rw [Node.substitute_eq, Node.scalar?_refilled,
            Node.refilled_refilled ih]
          rfl

------------------------------------------------------------
-- What Substitution Leaves
------------------------------------------------------------

/-
  A node has no place for a value: it is no parameter for a
  scalar, and no parameter stands on its own as its list.
-/
def Node.IsSettled (b : Bindings) (n : Node) : Prop :=
  n.scalar? b = none ∧ n.bracketList = n

theorem Node.settled_of_substitute
    {n m : Node}
    (hMem : m ∈ (n.substitute b).fragments) :
    m.IsSettled b := by
  induction n using Node.induction_of_children Node.bracketList
    Node.walkLevels_bracketList with
  | hStep n ih =>
      rw [n.substitute_eq] at hMem
      cases hScalar : n.scalar? b with
      | some v =>
          rw [hScalar] at hMem
          rw [List.mem_singleton.mp hMem]
          exact ⟨rfl, rfl⟩
      | none =>
          rw [hScalar, Option.map_none, Option.getD_none,
            Node.fragments_eq] at hMem
          rcases List.mem_cons.mp hMem with rfl | hBelow
          · exact ⟨n.scalar?_refilled.trans hScalar, n.bracketList_refilled⟩
          · rw [Node.refilled, Node.children_placed] at hBelow
            rcases List.mem_flatMap.mp hBelow with ⟨c', hChild', hFragment⟩
            rcases List.mem_filterMap.mp hChild' with ⟨c, hChild, hPlaced⟩
            cases hPlaced
            exact ih c hChild hFragment

/- Brackets around a list hold no other parameters than the list. -/
theorem Slot.leftOpen_bracketBare
    (slot : Slot Node) :
    (slot.bracketBare.nodes.flatMap Node.fragments).filter
        (Node.isLeftOpen b) =
      (slot.nodes.flatMap Node.fragments).filter (Node.isLeftOpen b) := by
  cases slot with
  | vacant => rfl
  | many members => rfl
  | one n => cases n <;> rfl

theorem Node.leftOpen_bracketList (n : Node) :
    (n.bracketList.children.flatMap Node.fragments).filter
        (Node.isLeftOpen b) =
      (n.children.flatMap Node.fragments).filter (Node.isLeftOpen b) := by
  cases n with
  | binary op left right =>
      have hRight := right.leftOpen_bracketBare (b := b)
      cases hMembership : op.isMembership with
      | false =>
          simp only [Node.bracketList, hMembership]
          rfl
      | true =>
          simpa [Node.bracketList, hMembership, Node.children, Node.slots]
            using hRight
  | _ => rfl

theorem Node.refilled_of_isParameter
    {n : Node}
    (hParameter : n.isParameter = true) :
    n.refilled b = n := by
  cases n with
  | parameter name => rfl
  | numeral name => rfl
  | _ => cases hParameter

theorem Node.isParameter_refilled (n : Node) :
    (n.refilled b).isParameter = n.isParameter := by
  cases n <;> rfl

/-
  The parameters that are left are those that substitution leaves
  in their places, in their order.
-/
theorem Node.parameters_substitute (n : Node) :
    (n.substitute b).fragments.filter Node.isParameter =
      n.fragments.filter (Node.isLeftOpen b) := by
  induction n using Node.induction_of_children Node.bracketList
    Node.walkLevels_bracketList with
  | hStep n ih =>
      rw [n.substitute_eq, n.fragments_eq, List.filter_cons,
        ← n.leftOpen_bracketList]
      cases hScalar : n.scalar? b with
      | some v =>
          cases n with
          | parameter name =>
              rw [Node.isLeftOpen, hScalar]
              rfl
          | _ => cases hScalar
      | none =>
          have hBelow :
              ((n.refilled b).children.flatMap Node.fragments).filter
                  Node.isParameter =
                (n.bracketList.children.flatMap Node.fragments).filter
                  (Node.isLeftOpen b) := by
            rw [Node.refilled, Node.children_placed,
              List.filterMap_eq_flatMap_toList, List.flatMap_assoc,
              List.filter_flatMap, List.filter_flatMap]
            refine List.flatMap_congr fun c hChild => ?_
            rw [← ih c hChild]
            exact congrArg _ (List.append_nil _)
          rw [Option.map_none, Option.getD_none, Node.fragments_eq,
            List.filter_cons, hBelow, n.isParameter_refilled,
            Node.isLeftOpen, hScalar, Option.isNone_none, Bool.and_true]
          split
          next hParameter => rw [Node.refilled_of_isParameter hParameter]
          next => rfl

/- Numeral parameters stay as they are. -/
theorem Node.numerals_substitute (n : Node) :
    (n.substitute b).fragments.filter Node.isNumeral =
      n.fragments.filter Node.isNumeral := by
  have hKept (m : Node) (hNumeral : m.isNumeral = true) :
      m.isParameter = true ∧ m.isLeftOpen b = true := by
    cases m with
    | numeral name => exact ⟨rfl, rfl⟩
    | _ => cases hNumeral
  have hFilter (nodes : List Node) (f : Node → Bool)
      (hHolds : ∀ m : Node, m.isNumeral = true → f m = true) :
      (nodes.filter f).filter Node.isNumeral =
        nodes.filter Node.isNumeral := by
    rw [List.filter_filter]
    refine List.filter_congr fun m _ => ?_
    cases hNumeral : m.isNumeral with
    | true => exact hHolds m hNumeral
    | false => rfl
  rw [← hFilter _ Node.isParameter fun m hNumeral => (hKept m hNumeral).1,
    n.parameters_substitute,
    hFilter _ (Node.isLeftOpen b) fun m hNumeral => (hKept m hNumeral).2]

/- The names of a tree are those of the parameters among its fragments. -/
theorem Node.parameterNames_eq (n : Node) :
    n.parameterNames =
      Node.distinctNames
        ((n.fragments.filter Node.isParameter).filterMap
          Node.parameterName?) := by
  rw [Node.parameterNames, n.parameterList_eq]
  congr 1
  rw [List.filterMap_filter]
  congr 1
  funext m
  cases m <;> rfl

------------------------------------------------------------
-- Walks
------------------------------------------------------------

theorem substitutor_rewrites :
    (substitutor b).RewritesBy Node.bracketList (Node.substituted b)
      (fun s _ => s) where
  enters _ _ := rfl
  leaves n s := by
    change ((substitutor b).leave (n.refilled b) _).1.concludes = true ∧
      ((substitutor b).leave (n.refilled b) _).1.placed (n.refilled b) =
        Node.substituted b n ∧ _
    simp only [substitutor, n.scalar?_refilled, Node.substituted,
      n.substitute_eq]
    cases n.scalar? b with
    | some v => exact ⟨rfl, rfl, trivial⟩
    | none => exact ⟨rfl, rfl, trivial⟩

theorem foldl_noted
    (names own : List String) :
    own.foldl noted names =
      names ++ (Node.distinctNames own).filter (· ∉ names) := by
  induction own generalizing names with
  | nil => exact (List.append_nil _).symm
  | cons name own ih =>
      rw [List.foldl_cons, ih, Node.distinctNames, noted]
      by_cases hName : name ∈ names
      · have hOther (other : String) (hNew : other ∉ names) :
            other ≠ name := fun hSame => hNew (hSame ▸ hName)
        rw [if_pos hName, List.filter_cons_of_neg (by simpa using hName),
          List.filter_filter]
        congr 1
        refine List.filter_congr fun other _ => ?_
        by_cases hNew : other ∈ names
        · simp [hNew]
        · simp [hNew, hOther other hNew]
      · rw [if_neg hName, List.filter_cons_of_pos (by simpa using hName),
          List.filter_filter, List.append_assoc]
        refine congrArg (names ++ name :: ·) ?_
        refine List.filter_congr fun other _ => ?_
        simp [not_or, bne, BEq.beq]

/- The parameters of a tree are the root, if it is one, and those below. -/
theorem Node.parameterList_eq_children (n : Node) :
    n.parameterList =
      n.parameterName?.toList ++
        n.children.flatMap Node.parameterList := by
  have hBelow :
      n.children.flatMap Node.parameterList =
        (n.children.flatMap Node.fragments).filterMap
          Node.parameterName? := by
    rw [List.filterMap_flatMap]
    exact List.flatMap_congr fun c _ => c.parameterList_eq
  rw [hBelow, n.parameterList_eq, n.fragments_eq, List.filterMap_cons]
  cases n.parameterName? <;> rfl

theorem collector_rewrites :
    collector.RewritesBy id some
      (fun names n => n.parameterList.foldl noted names) where
  enters _ _ := rfl
  leaves n names := by
    have hSame : Slot.placed some = id := funext Slot.placed_some
    refine ⟨rfl, ?_, ?_⟩
    · change some (n.withSlots (n.slots.map (Slot.placed some))) = some n
      rw [hSame, List.map_id, n.withSlots_slots]
    · change n.children.foldl _
        ((n.parameterName?.map (noted names)).getD names) = _
      rw [n.parameterList_eq_children, List.foldl_append,
        List.foldl_flatMap]
      cases n.parameterName? <;> rfl

/- A walk that substitutes puts the tree with the values in its place. -/
theorem walk_substitutes
    (b : Bindings)
    (n : Node)
    (levels : Nat)
    (hLevels : 2 * n.height ≤ levels) :
    let walk := n.walkEditing Node.bracketList (substitutor b) levels
      ⟨(), none⟩
    walk.2.failure = none ∧ walk.1.result = some (n.substitute b) := by
  intro walk
  have hEnough : n.walkLevels ≤ levels :=
    Nat.le_trans n.walkLevels_le hLevels
  rcases Node.walkEditing_rewrites substitutor_rewrites
    Node.walkLevels_bracketList levels n hEnough () with ⟨edited, hWalk⟩
  have hOutcome : walk = _ := hWalk
  rw [hOutcome]
  exact ⟨rfl, rfl⟩

/- A walk that collects notes down the names of the parameters. -/
theorem walk_collects
    (n : Node)
    (levels : Nat)
    (hLevels : 2 * n.height ≤ levels) :
    let walk := n.walkFrom collector levels []
    walk.2.failure = none ∧
      walk.1.result = some n ∧ walk.2.visitor = n.parameterNames := by
  intro walk
  have hEnough : n.walkLevels ≤ levels :=
    Nat.le_trans n.walkLevels_le hLevels
  rcases Node.walkEditing_rewrites collector_rewrites (fun _ => rfl)
    levels n hEnough [] with ⟨edited, hWalk⟩
  have hOutcome : walk = _ := hWalk
  rw [hOutcome]
  refine ⟨rfl, rfl, ?_⟩
  simp [foldl_noted, Node.parameterNames]

------------------------------------------------------------
-- Correctness
------------------------------------------------------------

/-
  Two substitutions come to one with the bindings of the first
  before those of the second, and so do two with the same
  bindings.  The walks that substitute come to the same.  What
  is left has no parameter for a scalar and no parameter on its
  own as the list of a test, its numeral parameters are those of
  the tree, and the names that a walk collects from it are those
  of the parameters that are left, each at its first place.
-/
theorem substitution_composes
    (n : Node)
    (p q : Bindings) :
    let r := p.before q
    (∀ (b : Bindings) (m : Node) (levels : Nat), 2 * m.height ≤ levels →
      let walk := m.walkEditing Node.bracketList (substitutor b) levels
        ⟨(), none⟩
      walk.2.failure = none ∧ walk.1.result = some (m.substitute b)) ∧
      (n.substitute p).substitute q = n.substitute r ∧
      (n.substitute p).substitute p = n.substitute p ∧
      (∀ name, .parameter name ∈ (n.substitute r).fragments →
        r.scalar? name = none) ∧
      (∀ op left right,
        .binary op left right ∈ (n.substitute r).fragments →
          op.isMembership = true → right.bareParameter? = none) ∧
      (n.substitute r).fragments.filter Node.isNumeral =
        n.fragments.filter Node.isNumeral ∧
      (n.substitute r).fragments.filter Node.isParameter =
        n.fragments.filter (Node.isLeftOpen r) ∧
      ∀ levels, 2 * (n.substitute r).height ≤ levels →
        let walk := (n.substitute r).walkFrom collector levels []
        walk.2.failure = none ∧
          walk.2.visitor =
            Node.distinctNames
              ((n.fragments.filter (Node.isLeftOpen r)).filterMap
                Node.parameterName?) := by
  intro r
  refine ⟨walk_substitutes, n.substitute_substitute, ?_, ?_, ?_,
    n.numerals_substitute, n.parameters_substitute, ?_⟩
  · rw [n.substitute_substitute, Bindings.before_self]
  · intro name hMem
    exact (Node.settled_of_substitute hMem).1
  · intro op left right hMem hMembership
    have hSettled := (Node.settled_of_substitute hMem).2
    rw [Node.bracketList, hMembership, if_pos rfl] at hSettled
    injection hSettled with _ _ hRight
    rw [← hRight, right.bareParameter?_bracketBare]
  · intro levels hLevels
    rcases walk_collects (n.substitute r) levels hLevels with
      ⟨hReturns, _, hNames⟩
    rw [Node.parameterNames_eq, n.parameters_substitute] at hNames
    exact ⟨hReturns, hNames⟩

/- A list and a scalar for one name, one after the other. -/
example :
    let names := Bindings.ofList
      [("x", .collection .list [.int 1]), ("y", .int 2)]
    let more := Bindings.ofList [("x", .int 3), ("y", .int 4)]
    let tree := Node.binary .isIn (.one (.parameter "y"))
      (.one (.parameter "x"))
    (tree.substitute names).substitute more =
      .binary .isIn (.one (.literal (.int 2)))
        (.one (Node.literal (.int 3)).bracketed) := rfl

end SqlTemplate
