import SqlTemplate.Proofs.Grammar.Settling

/-
  The automaton finds every derivation.  Whatever sequence of
  tokens is derived from a phrase, the automaton reads it from
  every state in which the phrase can begin and puts just this
  derivation on the stack.  As it does the same for the same
  tokens, no two derivations have the same tokens.

  Key definitions include:
    * `Reads`
    * `Recognition.recognize`
  Correctness is proven by:
    * `Derivation.reads`
    * `Recognition.recognize_tokens`
    * `Recognition.derivation_unique`
-/

------------------------------------------------------------
-- Reading Tokens
------------------------------------------------------------

namespace SqlTemplate

open Automaton

/-
  Reading some tokens, with a token of the given kind or the end
  after them, leads from one stack to another.  A rule is applied
  before the next token is put on the stack.
-/
inductive Reads
    (next : Option Terminal) :
    List Frame → List Token → List Frame → Prop where
| done {stack : List Frame} : Reads next stack [] stack
| reduce {stack stack' target : List Frame} {ts : List Token} {r : Rule}
    (hRule :
      (row (Frame.top stack)).reductionOn? (kindBefore next ts) = some r)
    (hReduce : Frame.reduce r stack = some stack')
    (hRest : Reads next stack' ts target) :
    Reads next stack ts target
| shift {stack stack' target : List Frame} {t : Token} {ts : List Token}
    (hNone : (row (Frame.top stack)).reductionOn? (some t.kind) = none)
    (hShift : Frame.shift t stack = some stack')
    (hRest : Reads next stack' ts target) :
    Reads next stack (t :: ts) target

/- Tokens are read one part after the other. -/
theorem Reads.append
    {next : Option Terminal}
    {stack middle target : List Frame}
    {ts ts' : List Token}
    (hFirst : Reads (kindBefore next ts') stack ts middle)
    (hSecond : Reads next middle ts' target) :
    Reads next stack (ts ++ ts') target := by
  induction hFirst with
  | done => exact hSecond
  | reduce hRule hReduce _ ih =>
      rw [← kindBefore_append] at hRule
      exact .reduce hRule hReduce (ih hSecond)
  | shift hNone hShift _ ih => exact .shift hNone hShift (ih hSecond)

------------------------------------------------------------
-- Reading Derivations
------------------------------------------------------------

mutual

/- Reading the tokens of a phrase puts its derivation on the stack. -/
theorem Derivation.reads :
    ∀ {s : Symbol} (d : Derivation s) {n : Nonterminal}
      (_ : s = .phrase n) {next : Option Terminal}
      {stack : List Frame} {state : Nat},
      (row (Frame.top stack)).gotos.lookup n = some state →
        (followAt (Frame.top stack) n).holds next = true →
          Reads next stack d.tokens (⟨state, s, d⟩ :: stack)
| _, .leaf t, _, hPhrase, _, _, _, _, _ => by cases hPhrase
| _, .node r parts, n, hPhrase, next, stack, state, hGoto, hNext => by
    injection hPhrase with hPhrase
    subst hPhrase
    rcases Derivations.reads parts (leads_of_goto hGoto) hNext with
      ⟨target, hReads, hPop, hRule⟩
    have hReduce :
        Frame.reduce r target =
          some (⟨state, .phrase r.lhs, .node r parts⟩ :: stack) := by
      rw [Frame.reduce, hPop]
      dsimp only
      rw [hGoto]
    have hLast :
        Reads next target []
          (⟨state, .phrase r.lhs, .node r parts⟩ :: stack) :=
      .reduce hRule hReduce .done
    have hAll :
        Reads next stack (parts.tokens ++ [])
          (⟨state, .phrase r.lhs, .node r parts⟩ :: stack) :=
      Reads.append hReads hLast
    rw [List.append_nil] at hAll
    exact hAll
termination_by structural _ d => d

/-
  Reading the tokens of the last symbols of a rule puts their
  derivations on the stack, and then the rule is applied.
-/
theorem Derivations.reads :
    ∀ {ss : List Symbol} (ds : Derivations ss) {r : Rule}
      {set : Lookaheads} {next : Option Terminal} {stack : List Frame},
      leads r set ss (Frame.top stack) = true →
        set.holds next = true →
          ∃ target, Reads next stack ds.tokens target ∧
            Frame.pop ss target = some (ds, stack) ∧
              (row (Frame.top target)).reductionOn? next = some r
| _, .nil, r, set, next, stack, hLeads, hNext => by
    refine ⟨stack, .done, rfl, ?_⟩
    rw [leads] at hLeads
    split at hLeads
    next r' set' hReduction =>
      rw [Bool.and_eq_true, beq_iff_eq] at hLeads
      rcases hLeads with ⟨rfl, hIn⟩
      unfold Row.reductionOn?
      rw [hReduction]
      exact if_pos (Lookaheads.holds_of_isIn hIn hNext)
    next => cases hLeads
| _, .cons (.leaf t) tail, r, set, next, stack, hLeads, hNext => by
    rw [leads] at hLeads
    split at hLeads
    next state hShift =>
      rw [Bool.and_eq_true, Option.isNone_iff_eq_none] at hLeads
      rcases hLeads with ⟨hNone, hLeads⟩
      let above : List Frame := ⟨state, .token t.kind, .leaf t⟩ :: stack
      have hPut : Frame.shift t stack = some above := by
        rw [Frame.shift, hShift]
        rfl
      have hLeads : leads r set _ (Frame.top above) = true := hLeads
      rcases Derivations.reads tail hLeads hNext with
        ⟨target, hReads, hPop, hRule⟩
      refine ⟨target, .shift hNone hPut hReads, ?_, hRule⟩
      rw [Frame.pop, hPop]
      exact dif_pos rfl
    next => cases hLeads
| _, .cons (.node r' parts) tail, r, set, next, stack, hLeads, hNext => by
    rw [leads] at hLeads
    split at hLeads
    next state hGoto =>
      rw [Bool.and_eq_true] at hLeads
      rcases hLeads with ⟨hIn, hLeads⟩
      have hFollow := Lookaheads.holds_of_isIn hIn
        (Derivations.startsBefore_holds tail hNext)
      have hHead := Derivation.reads (.node r' parts) rfl hGoto hFollow
      let above : List Frame :=
        ⟨state, .phrase r'.lhs, .node r' parts⟩ :: stack
      have hLeads : leads r set _ (Frame.top above) = true := hLeads
      rcases Derivations.reads tail hLeads hNext with
        ⟨target, hReads, hPop, hRule⟩
      refine ⟨target, hHead.append hReads, ?_, hRule⟩
      rw [Frame.pop, hPop]
      exact dif_pos rfl
    next => cases hLeads
termination_by structural _ ds => ds

end

------------------------------------------------------------
-- Recognition of Tokens
------------------------------------------------------------

namespace Recognition

/- The derivation of the tokens after those on a stack. -/
def recognize :
    List Frame → List Token → Option (Derivation (.phrase .statement))
| stack, [] => Frame.statement? (Frame.settle none stack)
| stack, t :: ts =>
    match Frame.shift t (Frame.settle (some t.kind) stack) with
    | none => none
    | some stack => recognize stack ts

/- Tokens are recognized as they are read. -/
theorem recognize_of_reads
    {stack target : List Frame}
    {ts : List Token}
    (hReads : Reads none stack ts target)
    (hEnd : (row (Frame.top target)).reductionOn? none = none) :
    recognize stack ts = Frame.statement? target := by
  induction hReads with
  | done => rw [recognize, Frame.settle_of_none hEnd]
  | @reduce stack stack' target ts r hRule hReduce _ ih =>
      have hSettle := Frame.settle_reduce hRule hReduce
      rw [← ih hEnd]
      cases ts with
      | nil =>
          change Frame.settle none stack = Frame.settle none stack'
            at hSettle
          rw [recognize, recognize, hSettle]
      | cons t ts =>
          change Frame.settle (some t.kind) stack =
            Frame.settle (some t.kind) stack' at hSettle
          rw [recognize, recognize, hSettle]
  | shift hNone hShift _ ih =>
      rw [recognize, Frame.settle_of_none hNone, hShift]
      exact ih hEnd

/- The tokens of a statement are recognized as its derivation. -/
theorem recognize_tokens
    (d : Derivation (.phrase .statement)) :
    recognize [] d.tokens = some d := by
  have hGoto : (row (Frame.top [])).gotos.lookup .statement = some 1 := by
    decide +kernel
  have hNext :
      (followAt (Frame.top []) .statement).holds none = true := by
    decide +kernel
  have hEnd : (row 1).reductionOn? none = none := by
    decide +kernel
  exact recognize_of_reads (d.reads rfl hGoto hNext) hEnd

/- A sequence of tokens has at most one derivation. -/
theorem derivation_unique
    {d d' : Derivation (.phrase .statement)}
    (hTokens : d.tokens = d'.tokens) :
    d = d' := by
  have hFound := recognize_tokens d
  rw [hTokens, recognize_tokens d'] at hFound
  exact (Option.some.inj hFound).symm

end Recognition

end SqlTemplate
