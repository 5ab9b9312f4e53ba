import SqlTemplate.Proofs.Grammar.Correctness
import SqlTemplate.Proofs.Grammar.Rescanning

/-
  Layout and the case of keywords make no difference.  Tokens of
  the same kinds lead the automaton through the same states, so
  the same kinds are accepted at every token of a text that is
  laid out anew, and every token is found again.

  Key definitions include:
    * `Frame.path`
  Correctness is proven by:
    * `Frame.path_settle`
    * `Recognition.run_of_relaid`
    * `parsing_ignores_layout`
-/

------------------------------------------------------------
-- Keywords in Other Cases
------------------------------------------------------------

namespace SqlTemplate

theorem upperChar_toLower (c : Char) :
    Text.upperChar c.toLower = Text.upperChar c := by
  by_cases hAscii : c.toNat < 128
  · apply forall_ascii (c := c) _ hAscii
    decide
  · rw [toLower_of_not_ascii (Nat.le_of_not_lt hAscii)]

theorem upper_eq_of_toLower
    {word word' : List Char}
    (hLetters : word'.map Char.toLower = word.map Char.toLower) :
    Text.upper (String.ofList word') = Text.upper (String.ofList word) := by
  have hUpper :
      ∀ cs : List Char,
        cs.flatMap Text.upperChar =
          (cs.map Char.toLower).flatMap Text.upperChar := by
    intro cs
    rw [List.flatMap_map]
    exact List.flatMap_congr fun c _ => (upperChar_toLower c).symm
  rw [Text.upper, Text.upper, String.toList_ofList, String.toList_ofList,
    hUpper word', hUpper word, hLetters]

/- No keyword contributes its letters, but for its upper case. -/
theorem Token.Recased.similar
    {t t' : Token}
    (hToken : t.Recased t') :
    t.Similar t' := by
  cases hToken with
  | same => exact ⟨rfl, Symbol.similar_refl _ _⟩
  | @keyword kind word word' hKeyword hLetters =>
      refine ⟨rfl, ?_⟩
      have hMember := mem_keywords hKeyword
      cases kind with
      | direction => exact (upper_eq_of_toLower hLetters).symm
      | name | number | string | parameter | comparison =>
          simp [keywords] at hMember
      | _ => exact trivial

------------------------------------------------------------
-- Paths of the Automaton
------------------------------------------------------------

namespace Frame

/- The states and symbols on a stack. -/
def path (stack : List Frame) : List (Nat × Symbol) :=
  stack.map fun frame => (frame.state, frame.symbol)

section

variable {stack stack' : List Frame} (hPath : path stack = path stack')

include hPath

theorem top_eq_of_path : top stack = top stack' := by
  cases stack with
  | nil =>
      cases stack' with
      | nil => rfl
      | cons frame stack' => cases hPath
  | cons frame stack =>
      cases stack' with
      | nil => cases hPath
      | cons frame' stack' =>
          exact congrArg Prod.fst (List.cons.inj hPath).1

/- What is below the symbols of a rule depends on the path only. -/
theorem path_pop
    (ss : List Symbol) :
    (pop ss stack).map (fun popped => path popped.2) =
      (pop ss stack').map (fun popped => path popped.2) := by
  induction ss with
  | nil => exact congrArg some hPath
  | cons s ss ih =>
      rw [pop, pop]
      cases hFirst : pop ss stack with
      | none =>
          rw [hFirst] at ih
          rw [Option.map_eq_none_iff.mp ih.symm]
      | some popped =>
          rw [hFirst] at ih
          rcases Option.map_eq_some_iff.mp ih.symm with
            ⟨popped', hSecond, hBelow⟩
          rw [hSecond]
          rcases popped with ⟨parts, below⟩
          rcases popped' with ⟨parts', below'⟩
          cases below with
          | nil =>
              cases below' with
              | nil => rfl
              | cons frame' below' => cases hBelow
          | cons frame below =>
              cases below' with
              | nil => cases hBelow
              | cons frame' below' =>
                  rcases List.cons.inj hBelow with ⟨hTop, hRest⟩
                  have hSymbol : frame'.symbol = frame.symbol :=
                    congrArg Prod.snd hTop
                  dsimp only
                  by_cases hSame : frame.symbol = s
                  · rw [dif_pos hSame, dif_pos (hSymbol.trans hSame)]
                    exact congrArg some hRest.symm
                  · rw [dif_neg hSame, dif_neg fun hOther =>
                      hSame (hSymbol.symm.trans hOther)]

theorem path_reduce
    (r : Rule) :
    (reduce r stack).map path = (reduce r stack').map path := by
  have hPop := path_pop hPath r.rhs
  rw [reduce, reduce]
  cases hFirst : pop r.rhs stack with
  | none =>
      rw [hFirst] at hPop
      rw [Option.map_eq_none_iff.mp hPop.symm]
  | some popped =>
      rw [hFirst] at hPop
      rcases Option.map_eq_some_iff.mp hPop.symm with
        ⟨popped', hSecond, hBelow⟩
      rw [hSecond]
      rcases popped with ⟨parts, below⟩
      rcases popped' with ⟨parts', below'⟩
      dsimp only at hBelow ⊢
      rw [top_eq_of_path hBelow]
      cases (Automaton.row (top below)).gotos.lookup r.lhs with
      | none => rfl
      | some state => exact congrArg (fun rest => some (_ :: rest)) hBelow.symm

end

theorem path_reduceAll
    (next : Option Terminal)
    (fuel : Nat)
    {stack stack' : List Frame}
    (hPath : path stack = path stack') :
    path (reduceAll next fuel stack) = path (reduceAll next fuel stack') := by
  induction fuel generalizing stack stack' with
  | zero => exact hPath
  | succ fuel ih =>
      rw [reduceAll, reduceAll, top_eq_of_path hPath]
      cases (Automaton.row (top stack')).reductionOn? next with
      | none => exact hPath
      | some r =>
          have hReduce := path_reduce hPath r
          dsimp only
          cases hFirst : reduce r stack with
          | none =>
              rw [hFirst] at hReduce
              rw [Option.map_eq_none_iff.mp hReduce.symm]
              exact hPath
          | some reduced =>
              rw [hFirst] at hReduce
              rcases Option.map_eq_some_iff.mp hReduce.symm with
                ⟨reduced', hSecond, hSame⟩
              rw [hSecond]
              exact ih hSame.symm

theorem path_settle
    (next : Option Terminal)
    {stack stack' : List Frame}
    (hPath : path stack = path stack') :
    path (settle next stack) = path (settle next stack') := by
  have hLength : stack.length = stack'.length := by
    simpa [path] using congrArg List.length hPath
  rw [settle, settle, hLength]
  exact path_reduceAll next _ hPath

/- Tokens of one kind lead to the same state. -/
theorem path_shift
    {t t' : Token}
    {stack stack' above above' : List Frame}
    (hKind : t'.kind = t.kind)
    (hPath : path stack = path stack')
    (hShift : shift t stack = some above)
    (hShift' : shift t' stack' = some above') :
    path above = path above' := by
  rw [shift, Option.map_eq_some_iff] at hShift hShift'
  rcases hShift with ⟨state, hState, rfl⟩
  rcases hShift' with ⟨state', hState', rfl⟩
  rw [hKind, ← top_eq_of_path hPath, hState] at hState'
  cases hState'
  rcases t' with ⟨kind, text'⟩
  cases hKind
  exact congrArg (_ :: ·) hPath

end Frame

------------------------------------------------------------
-- Texts Laid Out Anew
------------------------------------------------------------

theorem Relaid.recased
    {ts ts' : List Token}
    {cs cs' : List Char}
    (hText : Relaid ts ts' cs cs') :
    List.Forall₂ Token.Recased ts ts' := by
  induction hText with
  | done => exact .nil
  | next _ _ hToken _ ih => exact .cons hToken ih

namespace Recognition

open Automaton

/-
  A run that reads more tokens than those on its stack finds the
  next one of them and goes on after it.
-/
theorem step_of_run
    {fuel : Nat}
    {stack : List Frame}
    {last cs rest : List Char}
    {t : Token}
    {ts : List Token}
    {d : Derivation (.phrase .statement)}
    (hRun : run (fuel + 1) stack last cs = .ok d)
    (hRead : d.tokens = Frame.read stack ++ t :: ts)
    (hSkip : skipLayout cs = t.text ++ rest) :
    Token.scan (row (Frame.top stack)).accepts (t.text ++ rest) = some t ∧
      Tokenizes rest ts ∧
        ∃ above,
          Frame.shift t (Frame.settle (some t.kind) stack) = some above ∧
            d.tokens = Frame.read above ++ ts ∧
              ∃ last', run fuel above last' rest = .ok d := by
  rw [run, hSkip] at hRun
  cases hText : t.text ++ rest with
  | nil =>
      rw [hText] at hRun
      dsimp only at hRun
      split at hRun
      next d' hStatement =>
        cases hRun
        have hAll := Frame.read_statement? hStatement
        rw [Frame.read_settle, hRead, List.self_eq_append_right] at hAll
        cases hAll
      next => cases hRun
  | cons c more =>
      rw [hText] at hRun
      dsimp only at hRun
      split at hRun
      next => cases hRun
      next u hScan =>
        split at hRun
        next => cases hRun
        next above hShift =>
          rcases tokenizes_of_run _ hRun with ⟨us, hTokens, hAll⟩
          rw [Frame.read_shift hShift, Frame.read_settle, hRead,
            List.append_assoc, List.append_cancel_left_eq] at hAll
          cases hAll
          rw [← hText, List.drop_left] at hRun hTokens
          refine ⟨hScan, hTokens, above, hShift, ?_, _, hRun⟩
          rw [Frame.read_shift hShift, Frame.read_settle, hRead,
            List.append_assoc]
          rfl

/-
  A token that stands behind layout is put on the stack next, if
  there is a way on; otherwise the error is at this token.
-/
theorem run_token
    (fuel : Nat)
    {stack : List Frame}
    (last : List Char)
    {gap rest : List Char}
    {t : Token}
    (hGap : LayoutRun gap)
    (hStands : t.Stands (row (Frame.top stack)).accepts rest) :
    run (fuel + 1) stack last (gap ++ (t.text ++ rest)) =
      match Frame.shift t (Frame.settle (some t.kind) stack) with
      | none => .error (t.text ++ rest)
      | some above => run fuel above (t.text ++ rest) rest := by
  have hNotEmpty :=
    Token.ne_nil_of_mem (List.mem_of_find?_eq_some hStands.2)
  rw [run, hGap.skip, hStands.1]
  have hScan := hStands.2
  cases hText : t.text ++ rest with
  | nil => exact absurd (List.append_eq_nil_iff.mp hText).1 hNotEmpty
  | cons c more =>
      rw [hText] at hScan
      dsimp only
      rw [hScan, ← hText]
      dsimp only
      cases Frame.shift t (Frame.settle (some t.kind) stack) with
      | none => rfl
      | some above =>
          exact congrArg (run fuel above (t.text ++ rest)) List.drop_left

/- A token that can be put on the stack is read next. -/
theorem run_of_stands
    (fuel : Nat)
    {stack above : List Frame}
    (last : List Char)
    {gap rest : List Char}
    {t : Token}
    (hGap : LayoutRun gap)
    (hStands : t.Stands (row (Frame.top stack)).accepts rest)
    (hShift :
      Frame.shift t (Frame.settle (some t.kind) stack) = some above) :
    run (fuel + 1) stack last (gap ++ (t.text ++ rest)) =
      run fuel above (t.text ++ rest) rest := by
  rw [run_token fuel last hGap hStands, hShift]

/-
  If a text is read to its end, and other tokens of the same
  kinds are recognized, the text that is laid out anew with
  those is read as what they are recognized as.
-/
theorem run_of_relaid
    {ts ts' : List Token}
    {cs cs' : List Char}
    (hText : Relaid ts ts' cs cs') :
    ∀ {fuel fuel' : Nat} {stack stack' : List Frame}
      {last last' : List Char} {d d' : Derivation (.phrase .statement)},
      run fuel stack last cs = .ok d →
        d.tokens = Frame.read stack ++ ts →
          Frame.path stack = Frame.path stack' →
            recognize stack' ts' = some d' →
              cs'.length < fuel' →
                run fuel' stack' last' cs' = .ok d' := by
  induction hText with
  | done hEnd hGap =>
      intro fuel fuel' stack stack' last last' d d' _ _ _ hFound hFuel
      cases fuel' with
      | zero => cases hFuel
      | succ fuel' =>
          rw [run, hGap.skip_end hEnd]
          dsimp only
          rw [recognize] at hFound
          rw [hFound]
  | @next gap gap' rest rest' t t' ts ts' hSkip hGap hToken hRest ih =>
      intro fuel fuel' stack stack' last last' d d' hRun hRead hPath hFound
        hFuel
      cases fuel with
      | zero => cases hRun
      | succ fuel =>
          rcases step_of_run hRun hRead hSkip with
            ⟨hScan, hTokens, above, hShift, hReadAbove, last, hRun⟩
          have hNotEmpty :=
            Token.ne_nil_of_mem (List.mem_of_find?_eq_some hScan)
          have hLayout : LayoutRun gap :=
            layoutRun_of_skip hSkip (List.append_ne_nil_of_left_ne_nil
              hNotEmpty rest)
          rw [hLayout.skip] at hSkip
          have hAgain :=
            hToken.stands ⟨hSkip, hScan⟩ ⟨ts, hTokens⟩ hRest.goesOn
          rw [Frame.top_eq_of_path hPath] at hAgain
          rw [recognize] at hFound
          split at hFound
          next => cases hFound
          next above' hShift' =>
            have hAbove : Frame.path above = Frame.path above' := by
              have hKind := hToken.toLower_eq.1
              rw [hKind] at hShift'
              exact Frame.path_shift hKind (Frame.path_settle _ hPath)
                hShift hShift'
            cases fuel' with
            | zero => cases hFuel
            | succ fuel' =>
                rw [run_of_stands fuel' last' (hGap.run hLayout) hAgain
                  hShift']
                apply ih hRun hReadAbove hAbove hFound
                have hLength := List.length_pos_iff.mpr
                  (Token.ne_nil_of_mem
                    (List.mem_of_find?_eq_some hAgain.2))
                simp only [List.length_append] at hFuel
                omega

end Recognition

------------------------------------------------------------
-- Correctness
------------------------------------------------------------

/-
  A text that is parsed, laid out anew with other layout between
  its tokens and other cases of the letters of its keywords, is
  parsed to the same tree.
-/
theorem parsing_ignores_layout
    {sql sql' : String}
    {tree : Node}
    {d : Derivation (.phrase .statement)}
    {ts : List Token}
    (hParse : parse sql = .ok tree)
    (hDerive : Recognition.derive sql.toList = .ok d)
    (hText : Relaid d.tokens ts sql.toList sql'.toList) :
    parse sql' = .ok tree := by
  have hTokens := hText.recased.imp fun _ _ hToken => hToken.similar
  rcases d.similar hTokens with ⟨d', rfl, hMeaning, hNumerals⟩
  have hRun : Recognition.derive sql'.toList = .ok d' :=
    Recognition.run_of_relaid hText hDerive rfl rfl
      (Recognition.recognize_tokens d') (Nat.lt_succ_self _)
  rw [parse, parse_of_derive hDerive] at hParse
  rw [parse, parse_of_derive hRun, hNumerals,
    show d'.meaning = d.meaning from hMeaning.symm]
  exact hParse

/- The tokens of a short query, and the same in other cases. -/
def queryTokens : List Token := [
  ⟨.SELECT, "SELECT".toList⟩, ⟨.number, ['1']⟩, ⟨.FROM, "from".toList⟩,
  ⟨.name, ['t']⟩]

def recasedTokens : List Token := [
  ⟨.SELECT, "Select".toList⟩, ⟨.number, ['1']⟩, ⟨.FROM, "FROM".toList⟩,
  ⟨.name, ['t']⟩]

theorem relaid_query :
    Relaid queryTokens recasedTokens "SELECT 1from t".toList
      "Select\t1 --from\nFROM t\n".toList := by
  have hBlank : ∀ c ∈ [' ', '\t', '\n'], Spacing [c] := by
    intro c hMember
    exact .intro (by revert c; decide) .nil
  have hComment : Spacing (' ' :: '-' :: '-' :: "from\n".toList) :=
    .intro rfl (@LayoutRun.comment "from".toList [] (by decide) .nil)
  have hNone : Respaced [] [] :=
    @Respaced.widened [] [] [] (.inl rfl) (.inl rfl)
  have hEnd : Relaid [] [] [] ['\n'] :=
    .done rfl (.replaced (hBlank _ (by decide)))
  have hName : Relaid [⟨.name, ['t']⟩] [⟨.name, ['t']⟩]
      ([' '] ++ (['t'] ++ [])) ([' '] ++ (['t'] ++ ['\n'])) :=
    .next rfl (.replaced (hBlank _ (by decide))) .same hEnd
  have hFrom :
      Relaid (queryTokens.drop 2) (recasedTokens.drop 2)
        ([] ++ ("from".toList ++ " t".toList))
        (" --from\n".toList ++ ("FROM".toList ++ " t\n".toList)) :=
    .next (by decide) (.replaced hComment) (.keyword (by decide) (by decide))
      hName
  have hNumber :
      Relaid (queryTokens.drop 1) (recasedTokens.drop 1)
        ([' '] ++ (['1'] ++ "from t".toList))
        (['\t'] ++ (['1'] ++ " --from\nFROM t\n".toList)) :=
    .next (by decide) (.replaced (hBlank _ (by decide))) .same hFrom
  exact .next (by decide) hNone (.keyword (by decide) (by decide)) hNumber

theorem parsing_ignores_layout_of_comment :
    ∃ tree, parse "SELECT 1from t" = .ok tree ∧
      parse "Select\t1 --from\nFROM t\n" = .ok tree := by
  have hFound :
      ((Recognition.derive "SELECT 1from t".toList).toOption.map
        fun d => (d.tokens, d.numeralError?)) =
      some (queryTokens, none) := by
    decide +kernel
  rcases Option.map_eq_some_iff.mp hFound with ⟨d, hDerive, hParts⟩
  rcases Prod.mk.inj hParts with ⟨hTokens, hNumerals⟩
  have hDerive := eq_ok_of_toOption hDerive
  have hParse : parse "SELECT 1from t" = .ok (.select d.meaning) := by
    rw [parse, parse_of_derive hDerive, hNumerals, Option.elim_none]
  have hText := relaid_query
  rw [← hTokens] at hText
  exact ⟨_, hParse, parsing_ignores_layout hParse hDerive hText⟩

end SqlTemplate
