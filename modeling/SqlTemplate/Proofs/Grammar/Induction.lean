import SqlTemplate.Grammar.Meaning

/-
  Induction over meanings.  What holds of the characters of the
  tokens, and carries over from the parts of a phrase to the
  phrase under every rule, holds of the meaning of a derivation.

  Key definitions include:
    * `Meanings.Holds`
    * `Rule.Preserves`
  Correctness is proven by:
    * `Derivation.holds_meaning`
-/

------------------------------------------------------------
-- Properties of Meanings
------------------------------------------------------------

namespace SqlTemplate

/- A property of the meanings of each symbol. -/
abbrev MeaningProperty :=
  ∀ s : Symbol, s.Meaning → Prop

/-
  A function of meanings has a result with a property whenever
  the meanings have theirs.
-/
def Meanings.Holds
    {α : Type}
    (P : MeaningProperty)
    (Q : α → Prop) :
    ∀ ss : List Symbol, Meanings α ss → Prop
| [], a => Q a
| s :: ss, f => ∀ m : s.Meaning, P s m → Holds P Q ss (f m)

/-
  A rule gives its phrase a meaning with the property.  A number
  has its meaning only where there is no error about it.
-/
def Rule.Preserves
    (P : MeaningProperty) : Rule → Prop
| .number =>
    ∀ cs : List Char, P (.token .number) cs → numberError? cs = none →
      P (.phrase .atom) (Node.literal (Token.numberOf cs))
| .limitNumber =>
    ∀ cs : List Char, P (.token .number) cs → limitError? cs = none →
      P (.phrase .limitValue) (Node.literal (Token.numberOf cs))
| r => Meanings.Holds P (P (.phrase r.lhs)) r.rhs r.meaning

------------------------------------------------------------
-- Single Tokens
------------------------------------------------------------

/- The derivation of a token is the token. -/
theorem Derivation.eq_leaf
    {s : Symbol}
    (d : Derivation s)
    {kind : Terminal}
    (hSymbol : s = .token kind) :
    ∃ t : Token, ∃ hKind : Symbol.token t.kind = s,
      t.kind = kind ∧ d = hKind ▸ .leaf t := by
  cases d with
  | leaf t =>
      injection hSymbol with hKind
      exact ⟨t, rfl, hKind, rfl⟩
  | node r parts => cases hSymbol

/- The only part of a number is the token with its digits. -/
theorem Derivations.exists_number
    (parts : Derivations [.token .number]) :
    ∃ cs : List Char, parts.leadingText = cs ∧
      (⟨.number, cs⟩ : Token) ∈ parts.tokens ∧
        ∀ {α : Type} (f : Meanings α [.token .number]),
          parts.meaning f = f cs := by
  cases parts with
  | cons head tail =>
      cases tail
      rcases head.eq_leaf rfl with ⟨⟨kind, text⟩, hKind, hNumber, rfl⟩
      cases hNumber
      refine ⟨text, rfl, ?_, ?_⟩
      · simp [Derivations.tokens, Derivation.tokens]
      · intro α f
        rw [Derivations.meaning, Derivations.meaning]
        rw [Derivation.meaning]

------------------------------------------------------------
-- Rules about Numbers
------------------------------------------------------------

/- The rules that can find an error in their number. -/
def Rule.readsNumber (r : Rule) : Bool :=
  r == .number || r == .limitNumber

theorem Rule.preserves_eq
    {r : Rule}
    (P : MeaningProperty)
    (hRule : r.readsNumber = false) :
    r.Preserves P =
      Meanings.Holds P (P (.phrase r.lhs)) r.rhs r.meaning := by
  cases r <;> first | rfl | cases hRule

theorem Derivation.numeralError?_node
    {r : Rule}
    (parts : Derivations r.rhs)
    (hRule : r.readsNumber = false) :
    (Derivation.node r parts).numeralError? = parts.numeralError? := by
  cases r <;> first | rfl | cases hRule

------------------------------------------------------------
-- Induction
------------------------------------------------------------

section

variable {P : MeaningProperty}

mutual

/-
  A property of meanings that the tokens of a derivation have
  and that every rule preserves.
-/
theorem Derivation.holds_meaning
    (hRules : ∀ r : Rule, r.Preserves P) :
    ∀ {s : Symbol} (d : Derivation s),
      (∀ t ∈ d.tokens, P (.token t.kind) t.text) →
        d.numeralError? = none → P s d.meaning
| _, .leaf t, hTokens, _ => by
    rw [Derivation.meaning]
    exact hTokens t (List.mem_singleton_self t)
| _, .node r parts, hTokens, hNumerals => by
    have hParts := Derivations.holds_meaning hRules parts hTokens
    rw [Derivation.meaning]
    by_cases hNumber : r = .number
    · subst hNumber
      rcases parts.exists_number with ⟨cs, hText, hToken, hMeaning⟩
      have hDigits : numberError? cs = none := by
        rw [← hText]
        exact hNumerals
      have hNode := hRules .number cs (hTokens _ hToken) hDigits
      rw [← hMeaning fun cs => Node.literal (Token.numberOf cs)] at hNode
      exact hNode
    by_cases hLimit : r = .limitNumber
    · subst hLimit
      rcases parts.exists_number with ⟨cs, hText, hToken, hMeaning⟩
      have hDigits : limitError? cs = none := by
        rw [← hText]
        exact hNumerals
      have hNode := hRules .limitNumber cs (hTokens _ hToken) hDigits
      rw [← hMeaning fun cs => Node.literal (Token.numberOf cs)] at hNode
      exact hNode
    have hReads : r.readsNumber = false := by
      simp [Rule.readsNumber, hNumber, hLimit]
    have hRule := hRules r
    rw [Rule.preserves_eq P hReads] at hRule
    rw [Derivation.numeralError?_node parts hReads] at hNumerals
    exact hParts hNumerals _ _ hRule
termination_by structural _ d => d

theorem Derivations.holds_meaning
    (hRules : ∀ r : Rule, r.Preserves P) :
    ∀ {ss : List Symbol} (ds : Derivations ss),
      (∀ t ∈ ds.tokens, P (.token t.kind) t.text) →
        ds.numeralError? = none →
          ∀ {α : Type} (Q : α → Prop) (f : Meanings α ss),
            Meanings.Holds P Q ss f → Q (ds.meaning f)
| _, .nil, _, _, _, _, _, hHolds => by
    rw [Derivations.meaning]
    exact hHolds
| _, .cons head tail, hTokens, hNumerals, _, Q, f, hHolds => by
    rw [Derivations.tokens] at hTokens
    rw [Derivations.numeralError?] at hNumerals
    split at hNumerals
    next => cases hNumerals
    next hHead =>
      have hMeaning :=
        Derivation.holds_meaning hRules head
          (fun t hToken => hTokens t (List.mem_append_left _ hToken))
          hHead
      rw [Derivations.meaning]
      exact Derivations.holds_meaning hRules tail
        (fun t hToken => hTokens t (List.mem_append_right _ hToken))
        hNumerals Q _ (hHolds _ hMeaning)
termination_by structural _ ds => ds

end

end

end SqlTemplate
