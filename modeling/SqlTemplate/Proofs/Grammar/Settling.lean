import Mathlib.Algebra.GroupWithZero.Nat
import SqlTemplate.Proofs.Grammar.Lookahead
import SqlTemplate.Proofs.Grammar.Soundness

/-
  Rules are applied only so often.  Every rule that is applied
  lowers the potential of the stack, which the bound on the
  number of rules exceeds, so all rules that the next token asks
  for are applied before it is read.

  Key definitions include:
    * `Symbol.weight`
    * `Automaton.pending`
    * `Frame.potential`
  Correctness is proven by:
    * `Frame.potential_reduce`
    * `Frame.settle_reduce`
-/

------------------------------------------------------------
-- Weights
------------------------------------------------------------

namespace SqlTemplate

open Automaton

/-
  The weight of a phrase on the stack.  A phrase is lighter than
  another one that it can be made of alone, and a token is
  heavier than all phrases.
-/
def Nonterminal.weight : Nonterminal → Nat
| .statement | .rowKind | .columns | .sourceClause | .sources | .join
| .joinKind | .filterClause | .groupClause | .exprs | .havingClause
| .orderClause | .orderKeys | .limitClause | .limitValue
| .valueList => 1
| .query | .source | .orderKey => 2
| .table => 3
| .tableName => 4
| .column => 14
| .expr => 15
| .exclusive => 16
| .conjunction => 17
| .negation => 18
| .predicate => 19
| .bitOr => 20
| .bitXor => 21
| .bitAnd => 22
| .sum => 23
| .product => 24
| .signed => 25
| .atom => 26

/- The same of a symbol. -/
def Symbol.weight : Symbol → Nat
| .token _ => 64
| .phrase n => n.weight

/- The weight of a sequence of symbols. -/
def weights (ss : List Symbol) : Nat :=
  (ss.map Symbol.weight).sum

/-
  What is to come when a rule for a phrase that is left out can
  be applied: two for this phrase and for each of the following
  ones that can be left out as well.
-/
def Rule.skips : Rule → Nat
| .everyRow | .noLimit => 2
| .noOrder => 4
| .noHaving => 6
| .noGroups => 8
| .noFilter => 10
| .noSource => 12
| _ => 0

/- What is to come after a phrase. -/
def Nonterminal.pending : Nonterminal → Nat
| .columns => 12
| .sourceClause => 10
| .filterClause => 8
| .groupClause => 6
| .havingClause => 4
| .orderClause => 2
| _ => 0

/- A rule makes a phrase that is lighter than its parts. -/
theorem Rule.weight_lt (r : Rule) :
    r.lhs.weight + r.lhs.pending < weights r.rhs + r.skips := by
  cases r <;> decide

theorem Rule.skips_le (r : Rule) : r.skips ≤ 64 := by
  cases r <;> decide

theorem Symbol.weight_le (s : Symbol) : s.weight ≤ 64 := by
  cases s with
  | token t => exact Nat.le_refl 64
  | phrase n => cases n <;> decide

namespace Automaton

/- What is to come in a state. -/
def pending (state : Nat) : Nat :=
  match (row state).reduction with
  | some (r, _) => r.skips
  | none => 0

theorem pending_gotos :
    ((List.range rows.size).all fun state =>
      (row state).gotos.all fun goto =>
        pending goto.2 == goto.1.pending) = true := by
  decide +kernel

theorem pending_of_goto
    {state state' : Nat}
    {n : Nonterminal}
    (hGoto : (row state).gotos.lookup n = some state') :
    pending state' = n.pending :=
  beq_iff_eq.mp (holds_of_goto pending_gotos hGoto)

theorem pending_of_reductionOn
    {state : Nat}
    {next : Option Terminal}
    {r : Rule}
    (hRule : (row state).reductionOn? next = some r) :
    pending state = r.skips := by
  unfold Row.reductionOn? at hRule
  split at hRule
  next rule set hReduction =>
    split at hRule
    next =>
      cases hRule
      simp only [pending, hReduction]
    next => cases hRule
  next => cases hRule

theorem pending_le (state : Nat) : pending state ≤ 64 := by
  unfold pending
  split
  next r _ _ => exact r.skips_le
  next => exact Nat.zero_le 64

end Automaton

------------------------------------------------------------
-- Potentials of Stacks
------------------------------------------------------------

namespace Frame

/- The weight of all symbols of a stack. -/
def weight (stack : List Frame) : Nat :=
  weights (stack.map Frame.symbol)

/- How many rules can be applied to a stack at most. -/
def potential (stack : List Frame) : Nat :=
  weight stack + pending (top stack)

theorem weight_cons
    (frame : Frame)
    (stack : List Frame) :
    weight (frame :: stack) = frame.symbol.weight + weight stack := by
  simp [weight, weights]

theorem weight_le (stack : List Frame) :
    weight stack ≤ 64 * stack.length := by
  induction stack with
  | nil => exact Nat.le_refl 0
  | cons frame stack ih =>
      have hFrame := frame.symbol.weight_le
      rw [weight_cons, List.length_cons]
      omega

theorem potential_le (stack : List Frame) :
    potential stack ≤ 64 * (stack.length + 1) := by
  have hWeight := weight_le stack
  have hPending := pending_le (top stack)
  unfold potential
  omega

/- What is taken off a stack has the weight of its symbols. -/
theorem weight_pop :
    ∀ {ss : List Symbol} {stack rest : List Frame}
      {parts : Derivations ss},
      pop ss stack = some (parts, rest) →
        weight stack = weights ss + weight rest := by
  intro ss
  induction ss with
  | nil =>
      intro stack rest parts hPop
      cases hPop
      simp [weights]
  | cons s ss ih =>
      intro stack rest parts hPop
      rcases pop_cons_eq_some hPop with ⟨_, frame, rfl, hOthers, _⟩
      have hWeight := ih hOthers
      rw [weight_cons] at hWeight
      have hWeights :
          weights (frame.symbol :: ss) = frame.symbol.weight + weights ss := by
        simp [weights]
      omega

/- Applying a rule lowers the potential. -/
theorem potential_reduce
    {next : Option Terminal}
    {r : Rule}
    {stack stack' : List Frame}
    (hRule : (row (top stack)).reductionOn? next = some r)
    (hReduce : reduce r stack = some stack') :
    potential stack' < potential stack := by
  rw [reduce] at hReduce
  split at hReduce
  next => cases hReduce
  next parts rest hPop =>
    split at hReduce
    next => cases hReduce
    next state hGoto =>
      cases hReduce
      have hWeight := weight_pop hPop
      have hLower := r.weight_lt
      have hPending := pending_of_reductionOn hRule
      have hState : pending state = r.lhs.pending := pending_of_goto hGoto
      unfold potential
      rw [weight_cons, hWeight, hPending]
      change r.lhs.weight + weight rest + pending state <
        weights r.rhs + weight rest + r.skips
      omega

------------------------------------------------------------
-- Settling
------------------------------------------------------------

/- No rule can be applied to a stack without potential. -/
theorem reduceAll_of_potential
    (next : Option Terminal)
    (fuel : Nat)
    {stack : List Frame}
    (hPotential : potential stack = 0) :
    reduceAll next fuel stack = stack := by
  cases fuel with
  | zero => rfl
  | succ fuel =>
      rw [reduceAll]
      split
      next => rfl
      next r hRule =>
        split
        next => rfl
        next stack' hReduce =>
          have hLower := potential_reduce hRule hReduce
          omega

/-
  More rules than the potential allows make no difference, so
  the bound on their number does not matter.
-/
theorem reduceAll_eq
    (next : Option Terminal) :
    ∀ {fuel fuel' : Nat} {stack : List Frame},
      potential stack ≤ fuel → potential stack ≤ fuel' →
        reduceAll next fuel stack = reduceAll next fuel' stack := by
  intro fuel
  induction fuel with
  | zero =>
      intro fuel' stack hFuel hFuel'
      have hPotential : potential stack = 0 := Nat.le_zero.mp hFuel
      rw [reduceAll_of_potential next 0 hPotential,
        reduceAll_of_potential next fuel' hPotential]
  | succ fuel ih =>
      intro fuel' stack hFuel hFuel'
      cases fuel' with
      | zero =>
          have hPotential : potential stack = 0 := Nat.le_zero.mp hFuel'
          rw [reduceAll_of_potential next (fuel + 1) hPotential,
            reduceAll_of_potential next 0 hPotential]
      | succ fuel' =>
          rw [reduceAll, reduceAll]
          split
          next => rfl
          next r hRule =>
            split
            next => rfl
            next stack' hReduce =>
              have hLower := potential_reduce hRule hReduce
              exact ih (by omega) (by omega)

/- A stack whose state asks for no rule is settled. -/
theorem settle_of_none
    {next : Option Terminal}
    {stack : List Frame}
    (hNone : (row (top stack)).reductionOn? next = none) :
    settle next stack = stack := by
  rw [settle, Nat.mul_succ, reduceAll, hNone]

/- A rule that is asked for is applied first. -/
theorem settle_reduce
    {next : Option Terminal}
    {r : Rule}
    {stack stack' : List Frame}
    (hRule : (row (top stack)).reductionOn? next = some r)
    (hReduce : reduce r stack = some stack') :
    settle next stack = settle next stack' := by
  have hLower := potential_reduce hRule hReduce
  have hBound := potential_le stack
  have hFuel : reduceAll next (potential stack) stack =
      settle next stack :=
    reduceAll_eq next (Nat.le_refl _) hBound
  have hSteps : potential stack = (potential stack - 1) + 1 := by
    omega
  rw [← hFuel, hSteps, reduceAll, hRule]
  dsimp only
  rw [hReduce]
  exact reduceAll_eq next (by omega) (potential_le stack')

end Frame

end SqlTemplate
