import SqlTemplate.Proofs.Grammar.Completeness
import SqlTemplate.Proofs.Grammar.Spelling

/-
  Texts that spell a statement are read as that statement.  The
  kinds of tokens that can come next make no difference to a
  token that is the first choice at its place, so a text is read
  as the derivation of the tokens that it spells.

  Key definitions include:
    * `Spells`
    * `Fragment`
  Correctness is proven by:
    * `Recognition.derive_of_spells`
    * `Spells.eq_of_tokenizes`
    * `Fragment.spaced`
-/

------------------------------------------------------------
-- Texts that Spell Tokens
------------------------------------------------------------

namespace SqlTemplate

open Automaton

/-
  A text spells a sequence of tokens: each of them is the first
  choice at its place, with layout around it.
-/
inductive Spells : List Char → List Token → Prop where
| done {cs : List Char} (hEnd : skipLayout cs = []) :
    Spells cs []
| next {cs : List Char} {t : Token} {ts : List Token}
    (hToken : (Token.candidates (skipLayout cs)).head? = some t)
    (hRest : Spells ((skipLayout cs).drop t.text.length) ts) :
    Spells cs (t :: ts)

theorem Spells.nil : Spells [] [] :=
  .done rfl

/- A blank in front of a text spells nothing. -/
theorem Spells.blank
    {c : Char}
    {cs : List Char}
    {ts : List Token}
    (hLayout : isLayout c = true)
    (hText : Spells cs ts) :
    Spells (c :: cs) ts := by
  have hSkip := Token.skipLayout_blank cs hLayout
  cases hText with
  | done hEnd => exact .done (hSkip.trans hEnd)
  | next hToken hRest =>
      rw [← hSkip] at hToken hRest
      exact .next hToken hRest

/- A token in front of a text is spelled before its tokens. -/
theorem Spells.cons
    {t : Token}
    {rest : List Char}
    {ts : List Token}
    (hToken : t.Opens rest)
    (hRest : Spells rest ts) :
    Spells (t.text ++ rest) (t :: ts) := by
  rcases hToken with ⟨hSkip, hFirst⟩
  apply Spells.next
  · rw [hSkip]
    exact hFirst
  · rw [hSkip, List.drop_left]
    exact hRest

------------------------------------------------------------
-- Lengths
------------------------------------------------------------

mutual

theorem length_skipLayout_le :
    ∀ cs : List Char, (skipLayout cs).length ≤ cs.length
| [] => by simp [skipLayout]
| [c] => by
    rw [skipLayout]
    split <;> simp
| c :: d :: cs => by
    rw [skipLayout]
    split
    next =>
      have hRest := length_skipLayout_le (d :: cs)
      simp only [List.length_cons] at hRest ⊢
      omega
    next =>
      split
      next =>
        have hRest := length_skipComment_le cs
        simp only [List.length_cons]
        omega
      next => exact Nat.le_refl _

theorem length_skipComment_le :
    ∀ cs : List Char, (skipComment cs).length ≤ cs.length
| [] => by simp [skipComment]
| c :: cs => by
    rw [skipComment]
    split
    next =>
      have hRest := length_skipLayout_le cs
      rw [List.length_cons]
      omega
    next =>
      have hRest := length_skipComment_le cs
      rw [List.length_cons]
      omega

end

/- Every token has a character. -/
theorem Token.Spelling.ne_nil
    {kind : Terminal}
    {text : List Char}
    (hSpelling : Token.Spelling kind text) :
    text ≠ [] := by
  cases hSpelling with
  | keyword hKeyword _ =>
      rintro rfl
      cases hKeyword
  | comparison hRun =>
      rintro rfl
      revert hRun
      decide
  | _ => exact List.cons_ne_nil _ _

theorem Token.ne_nil_of_mem
    {cs : List Char}
    {t : Token}
    (hMember : t ∈ Token.candidates cs) :
    t.text ≠ [] :=
  (Token.spelling_of_form (Token.form_of_mem hMember)).ne_nil

/- The first choice is found if its kind can come next. -/
theorem Token.scan_of_head?
    {accepts : Terminal → Bool}
    {cs : List Char}
    {t : Token}
    (hFirst : (Token.candidates cs).head? = some t)
    (hAccepts : accepts t.kind = true) :
    Token.scan accepts cs = some t := by
  unfold Token.scan
  cases hTokens : Token.candidates cs with
  | nil =>
      rw [hTokens] at hFirst
      cases hFirst
  | cons t' others =>
      rw [hTokens] at hFirst
      cases hFirst
      exact List.find?_cons_of_pos
        (p := fun t : Token => accepts t.kind) hAccepts

------------------------------------------------------------
-- Recognition of Texts
------------------------------------------------------------

namespace Recognition

/- The state on top accepts a token that is put on the stack. -/
theorem accepts_of_shift
    {t : Token}
    {stack stack' : List Frame}
    (hShift :
      Frame.shift t (Frame.settle (some t.kind) stack) = some stack') :
    (row (Frame.top stack)).accepts t.kind = true := by
  unfold Row.accepts
  cases hRule : (row (Frame.top stack)).reductionOn? (some t.kind) with
  | some r => rw [Option.isSome_some, Bool.or_true]
  | none =>
      rw [Frame.settle_of_none hRule, Frame.shift,
        Option.map_eq_some_iff] at hShift
      rcases hShift with ⟨state, hState, _⟩
      rw [hState]
      rfl

/-
  A text is read as what its tokens are recognized as, if the
  fuel exceeds its length.
-/
theorem run_of_spells
    {cs : List Char}
    {ts : List Token}
    {d : Derivation (.phrase .statement)}
    (hText : Spells cs ts) :
    ∀ {fuel : Nat} {stack : List Frame} {last : List Char},
      recognize stack ts = some d → cs.length < fuel →
        run fuel stack last cs = .ok d := by
  induction hText with
  | done hEnd =>
      intro fuel stack last hFound hFuel
      cases fuel with
      | zero => cases hFuel
      | succ fuel =>
          rw [run, hEnd]
          dsimp only
          rw [recognize] at hFound
          rw [hFound]
  | @next cs t ts hToken _ ih =>
      intro fuel stack last hFound hFuel
      cases fuel with
      | zero => cases hFuel
      | succ fuel =>
          rw [recognize] at hFound
          split at hFound
          next => cases hFound
          next stack' hShift =>
            have hAccepts := accepts_of_shift hShift
            have hMember := List.mem_of_mem_head? hToken
            have hNotEmpty := Token.ne_nil_of_mem hMember
            have hSkip := length_skipLayout_le cs
            rw [run]
            cases hLayout : skipLayout cs with
            | nil =>
                rw [hLayout] at hToken
                cases hToken
            | cons c rest =>
                rw [hLayout] at hToken hSkip ih
                dsimp only
                rw [Token.scan_of_head? hToken hAccepts]
                dsimp only
                rw [hShift]
                apply ih hFound
                have hLength := List.length_pos_iff.mpr hNotEmpty
                simp only [List.length_drop, List.length_cons] at hSkip ⊢
                omega

/- A text is read as the statement whose tokens it spells. -/
theorem derive_of_spells
    {cs : List Char}
    {d : Derivation (.phrase .statement)}
    (hText : Spells cs d.tokens) :
    derive cs = .ok d :=
  run_of_spells hText (recognize_tokens d) (Nat.lt_succ_self _)

end Recognition

------------------------------------------------------------
-- Texts with a Single Reading
------------------------------------------------------------

namespace Token

theorem length_quotedString
    (cs : List Char) : (quotedString cs).length ≤ 1 :=
  Option.length_toList_le

theorem length_quotedName
    (q : Char)
    (cs : List Char) : (quotedName q cs).length ≤ 1 := by
  unfold quotedName
  split
  · exact Nat.zero_le _
  · split <;> simp

theorem length_parameterToken
    (cs : List Char) : (parameterToken cs).length ≤ 1 := by
  unfold parameterToken
  split
  · split <;> simp
  · exact Nat.zero_le _

theorem length_comparisonToken
    (cs : List Char) : (comparisonToken cs).length ≤ 1 := by
  unfold comparisonToken
  dsimp only
  split <;> split <;> simp

/- Only a word can be read in two ways. -/
theorem length_candidates
    (cs : List Char) :
    (candidates cs).length ≤ 1 ∨
      candidates cs = wordCandidates (cs.takeWhile Text.isWord) := by
  cases cs with
  | nil => exact .inl (Nat.zero_le _)
  | cons c cs =>
      rw [candidates]
      split
      · exact .inl (Nat.le_refl 1)
      · split
        · exact .inl (length_quotedString _)
        split
        · exact .inl (length_quotedName _ _)
        split
        · exact .inl (length_parameterToken _)
        split
        · exact .inl (length_comparisonToken _)
        split
        · exact .inl (Nat.le_refl 1)
        · exact .inr rfl

/- A word whose first reading is no keyword is at most a name. -/
theorem length_wordCandidates
    {word : List Char}
    {t : Token}
    (hFirst : (wordCandidates word).head? = some t)
    (hKeyword : keyword? t.text = none) :
    (wordCandidates word).length ≤ 1 := by
  rw [wordCandidates.eq_def] at hFirst ⊢
  cases hFound : keyword? word with
  | some kind =>
      rw [hFound] at hFirst
      cases hFirst
      rw [hFound] at hKeyword
      cases hKeyword
  | none =>
      cases word with
      | nil => exact Nat.zero_le _
      | cons c cs =>
          dsimp only
          split <;> simp

/- A token that is no keyword is the only choice at its place. -/
theorem eq_of_mem_candidates
    {cs : List Char}
    {t t' : Token}
    (hFirst : (candidates cs).head? = some t)
    (hKeyword : keyword? t.text = none)
    (hMember : t' ∈ candidates cs) :
    t' = t := by
  have hLength : (candidates cs).length ≤ 1 := by
    rcases length_candidates cs with hLength | hWord
    · exact hLength
    · rw [hWord] at hFirst ⊢
      exact length_wordCandidates hFirst hKeyword
  cases hTokens : candidates cs with
  | nil =>
      rw [hTokens] at hFirst
      cases hFirst
  | cons u ts =>
      rw [hTokens] at hFirst hMember hLength
      have hSingle : ts = [] := by simpa using hLength
      subst hSingle
      cases hFirst
      exact List.mem_singleton.mp hMember

end Token

/-
  A text that spells tokens none of which is a keyword is no
  other sequence of tokens.
-/
theorem Spells.eq_of_tokenizes
    {cs : List Char}
    {ts ts' : List Token}
    (hText : Spells cs ts)
    (hKeywords : ∀ t ∈ ts, Token.keyword? t.text = none)
    (hTokens : Tokenizes cs ts') :
    ts' = ts := by
  induction hText generalizing ts' with
  | done hEnd =>
      cases hTokens with
      | done _ => rfl
      | next hToken _ =>
          rw [hEnd] at hToken
          cases hToken
  | next hToken _ ih =>
      rw [List.forall_mem_cons] at hKeywords
      cases hTokens with
      | done hEnd =>
          rw [hEnd] at hToken
          cases hToken
      | next hMember hRest =>
          cases Token.eq_of_mem_candidates hToken hKeywords.1 hMember
          rw [ih hKeywords.2 hRest]

------------------------------------------------------------
-- Parts of Texts
------------------------------------------------------------

/-
  A part of a text spells some tokens wherever it stands before
  a character that sets tokens apart.
-/
def Fragment
    (cs : List Char)
    (ts : List Token) : Prop :=
  ∀ (rest : List Char) (us : List Token), startsApart rest = true →
    Spells rest us → Spells (cs ++ rest) (ts ++ us)

namespace Fragment

theorem spells
    {cs : List Char}
    {ts : List Token}
    (hPart : Fragment cs ts) :
    Spells cs ts := by
  have hText := hPart [] [] rfl .nil
  rw [List.append_nil, List.append_nil] at hText
  exact hText

/- A token on its own is a part of a text. -/
theorem of_spelling
    {t : Token}
    (hSpelling : Token.Spelling t.kind t.text)
    (hName : t.kind = .name → Token.keyword? t.text = none) :
    Fragment t.text [t] := by
  intro rest us hApart hRest
  exact .cons (Token.opens_of_spelling hSpelling hName hApart) hRest

/- Two parts with a blank between them. -/
theorem spaced
    {cs cs' : List Char}
    {ts ts' : List Token}
    (hFirst : Fragment cs ts)
    (hSecond : Fragment cs' ts') :
    Fragment (cs ++ ' ' :: cs') (ts ++ ts') := by
  intro rest us hApart hRest
  rw [List.append_assoc, List.append_assoc]
  exact hFirst _ _ rfl (.blank rfl (hSecond _ _ hApart hRest))

end Fragment

end SqlTemplate
