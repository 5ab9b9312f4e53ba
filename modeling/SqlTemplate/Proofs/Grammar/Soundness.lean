import SqlTemplate.Grammar.Recognition

/-
  What a text is read as was found in it.  The tokens on the
  stack are the ones read so far, in their order, whatever rules
  have been applied to them, so the derivation of a text builds
  on tokens that follow one another in the text.

  Key definitions include:
    * `Tokenizes`
    * `Frame.read`
  Correctness is proven by:
    * `Frame.read_reduce`
    * `Frame.read_settle`
    * `Recognition.tokenizes_of_derive`
-/

------------------------------------------------------------
-- Texts and Tokens
------------------------------------------------------------

namespace SqlTemplate

/-
  A text is a sequence of tokens with layout around them.  Each
  of them is one that the rest of the text can begin with.
-/
inductive Tokenizes : List Char → List Token → Prop where
| done {cs : List Char} (hEnd : skipLayout cs = []) :
    Tokenizes cs []
| next {cs : List Char} {t : Token} {ts : List Token}
    (hToken : t ∈ Token.candidates (skipLayout cs))
    (hRest : Tokenizes ((skipLayout cs).drop t.text.length) ts) :
    Tokenizes cs (t :: ts)

/- A token can be found at the start of some text. -/
def Token.IsScanned (t : Token) : Prop :=
  ∃ cs, t ∈ Token.candidates cs

theorem Tokenizes.isScanned
    {cs : List Char}
    {ts : List Token}
    (hTokens : Tokenizes cs ts) :
    ∀ t ∈ ts, t.IsScanned := by
  induction hTokens with
  | done _ =>
      intro t hMember
      cases hMember
  | next hToken _ ih =>
      intro t hMember
      rcases List.mem_cons.mp hMember with rfl | hRest
      · exact ⟨_, hToken⟩
      · exact ih t hRest

------------------------------------------------------------
-- Tokens on the Stack
------------------------------------------------------------

namespace Frame

/- The tokens that a stack builds on, in the order of the text. -/
def read : List Frame → List Token
| [] => []
| frame :: stack => read stack ++ frame.derivation.tokens

theorem tokens_cast
    {s s' : Symbol}
    (h : s = s')
    (d : Derivation s) :
    (h ▸ d).tokens = d.tokens := by
  subst h
  rfl

/- The first of several symbols is taken off the stack last. -/
theorem pop_cons_eq_some
    {s : Symbol}
    {ss : List Symbol}
    {stack rest : List Frame}
    {parts : Derivations (s :: ss)}
    (hPop : pop (s :: ss) stack = some (parts, rest)) :
    ∃ (others : Derivations ss) (frame : Frame) (h : frame.symbol = s),
      pop ss stack = some (others, frame :: rest) ∧
        parts = .cons (h ▸ frame.derivation) others := by
  rw [pop] at hPop
  split at hPop
  next others frame below hOthers =>
    split at hPop
    next hSymbol =>
      cases hPop
      exact ⟨others, frame, hSymbol, hOthers, rfl⟩
    next => cases hPop
  next => cases hPop

/- What is taken off a stack builds on its last tokens. -/
theorem read_pop :
    ∀ {ss : List Symbol} {stack rest : List Frame}
      {parts : Derivations ss},
      pop ss stack = some (parts, rest) →
        read stack = read rest ++ parts.tokens := by
  intro ss
  induction ss with
  | nil =>
      intro stack rest parts hPop
      cases hPop
      simp [Derivations.tokens]
  | cons s ss ih =>
      intro stack rest parts hPop
      rcases pop_cons_eq_some hPop with ⟨others, frame, _, hOthers, rfl⟩
      rw [ih hOthers, Derivations.tokens, tokens_cast, read,
        List.append_assoc]

/- Applying a rule changes nothing about the tokens read. -/
theorem read_reduce
    {r : Rule}
    {stack stack' : List Frame}
    (hReduce : reduce r stack = some stack') :
    read stack' = read stack := by
  rw [reduce] at hReduce
  split at hReduce
  next => cases hReduce
  next parts rest hPop =>
    split at hReduce
    next => cases hReduce
    next state hState =>
      cases hReduce
      rw [read_pop hPop, read, Derivation.tokens]

theorem read_reduceAll
    (next : Option Terminal)
    (fuel : Nat)
    (stack : List Frame) :
    read (reduceAll next fuel stack) = read stack := by
  induction fuel generalizing stack with
  | zero => rfl
  | succ fuel ih =>
      rw [reduceAll]
      split
      next => rfl
      next r hRule =>
        split
        next => rfl
        next stack' hReduce => rw [ih, read_reduce hReduce]

theorem read_settle
    (next : Option Terminal)
    (stack : List Frame) :
    read (settle next stack) = read stack :=
  read_reduceAll next _ stack

/- A token that is put on a stack is the last one read. -/
theorem read_shift
    {t : Token}
    {stack stack' : List Frame}
    (hShift : shift t stack = some stack') :
    read stack' = read stack ++ [t] := by
  rw [shift, Option.map_eq_some_iff] at hShift
  rcases hShift with ⟨state, _, rfl⟩
  rw [read, Derivation.tokens]

/- A statement alone on a stack builds on all its tokens. -/
theorem read_statement?
    {stack : List Frame}
    {d : Derivation (.phrase .statement)}
    (hStatement : statement? stack = some d) :
    read stack = d.tokens := by
  unfold statement? at hStatement
  split at hStatement
  next state derivation =>
    cases hStatement
    simp [read]
  next => cases hStatement

end Frame

------------------------------------------------------------
-- Soundness
------------------------------------------------------------

namespace Recognition

/-
  The tokens read before and the tokens of the rest of the text
  are the tokens of the statement.
-/
theorem tokenizes_of_run :
    ∀ (fuel : Nat) {stack : List Frame} {last cs : List Char}
      {d : Derivation (.phrase .statement)},
      run fuel stack last cs = .ok d →
        ∃ ts, Tokenizes cs ts ∧ d.tokens = Frame.read stack ++ ts := by
  intro fuel
  induction fuel with
  | zero =>
      intro stack last cs d hRun
      cases hRun
  | succ fuel ih =>
      intro stack last cs d hRun
      rw [run] at hRun
      split at hRun
      next hEnd =>
        split at hRun
        next d' hStatement =>
          cases hRun
          have hRead := Frame.read_statement? hStatement
          rw [Frame.read_settle] at hRead
          exact ⟨[], .done hEnd, by rw [hRead, List.append_nil]⟩
        next => cases hRun
      next c rest hText =>
        split at hRun
        next => cases hRun
        next t hScan =>
          split at hRun
          next => cases hRun
          next stack' hShift =>
            rcases ih hRun with ⟨ts, hTokens, hRead⟩
            rw [Frame.read_shift hShift, Frame.read_settle,
              List.append_assoc] at hRead
            have hToken := List.mem_of_find?_eq_some hScan
            rw [← hText] at hToken hTokens
            exact ⟨t :: ts, .next hToken hTokens, hRead⟩

/- The derivation of a text builds on tokens found in it. -/
theorem tokenizes_of_derive
    {cs : List Char}
    {d : Derivation (.phrase .statement)}
    (hDerive : derive cs = .ok d) :
    Tokenizes cs d.tokens := by
  rcases tokenizes_of_run _ hDerive with ⟨ts, hTokens, hRead⟩
  rw [hRead]
  exact hTokens

end Recognition

end SqlTemplate
