import Mathlib.Data.List.Forall2
import SqlTemplate.Proofs.Grammar.Induction

/-
  What the tokens of a statement contribute to its meaning.  A
  name means what it denotes, a direction means its upper case,
  and keywords and marks mean nothing of their own, so other
  tokens that contribute the same have a derivation with the
  same meaning.

  Key definitions include:
    * `Symbol.Similar`
    * `Token.Similar`
  Correctness is proven by:
    * `Rule.similar_meaning`
    * `Derivation.similar`
-/

------------------------------------------------------------
-- Equal Contributions
------------------------------------------------------------

namespace SqlTemplate

/-
  Two meanings of a symbol contribute the same to a phrase.  The
  characters of keywords and marks contribute nothing.
-/
def Symbol.Similar : (s : Symbol) → s.Meaning → s.Meaning → Prop
| .token .name, cs, cs' => Token.nameOf cs = Token.nameOf cs'
| .token .direction, cs, cs' =>
    Text.upper (String.ofList cs) = Text.upper (String.ofList cs')
| .token .number, cs, cs' => cs = cs'
| .token .string, cs, cs' => cs = cs'
| .token .parameter, cs, cs' => cs = cs'
| .token .comparison, cs, cs' => cs = cs'
| .token _, _, _ => True
| .phrase _, m, m' => m = m'

theorem Symbol.similar_refl
    (s : Symbol)
    (m : s.Meaning) :
    s.Similar m m := by
  cases s with
  | token t => cases t <;> first | exact trivial | exact rfl
  | phrase n => exact rfl

/- A function of meanings has the same value if they contribute the same. -/
def Meanings.Similar
    {α : Type} :
    (ss : List Symbol) → Meanings α ss → Meanings α ss → Prop
| [], a, a' => a = a'
| s :: ss, f, f' =>
    ∀ m m' : s.Meaning, s.Similar m m' → Similar ss (f m) (f' m')

/-
  The meaning of a phrase depends on nothing but what its parts
  contribute.
-/
theorem Rule.similar_meaning
    (r : Rule) : Meanings.Similar r.rhs r.meaning r.meaning := by
  cases r with
  | namedColumn =>
      rintro n _ rfl _ _ hName
      exact congrArg (Node.alias (.one n)) hName
  | columnAs =>
      rintro n _ rfl _ _ _ _ _ hName
      exact congrArg (Node.alias (.one n)) hName
  | allOfTable =>
      rintro _ _ hName _ _ _ _ _ _
      exact congrArg (fun s => Node.column "*" (some s) none) hName
  | derived =>
      rintro _ _ _ q _ rfl _ _ _ _ _ hName
      exact congrArg
        (fun s => Node.subquery (.one (.select q)) (some s)) hName
  | derivedAs =>
      rintro _ _ _ q _ rfl _ _ _ _ _ _ _ _ hName
      exact congrArg
        (fun s => Node.subquery (.one (.select q)) (some s)) hName
  | namedTable =>
      rintro t _ rfl _ _ hName
      exact congrArg (fun s => TableName.mk t.2 (some s) t.1) hName
  | tableAs =>
      rintro t _ rfl _ _ _ _ _ hName
      exact congrArg (fun s => TableName.mk t.2 (some s) t.1) hName
  | shortTable =>
      rintro _ _ hName
      exact congrArg (fun s => ((none : Option String), s)) hName
  | longTable =>
      rintro _ _ hDatabase _ _ _ _ _ hName
      exact congrArg₂ (fun s s' => (some s, s')) hDatabase hName
  | shortName =>
      rintro _ _ hName
      exact congrArg (fun s => Node.column s none none) hName
  | tableName =>
      rintro _ _ hOwner _ _ _ _ _ hName
      exact congrArg₂ (fun s s' => Node.column s' (some s) none) hOwner hName
  | databaseName =>
      rintro _ _ hDatabase _ _ _ _ _ hOwner _ _ _ name _ hName
      change Node.column _ (some _) (some _) = Node.column _ (some _) (some _)
      rw [show Token.nameOf _ = _ from hDatabase,
        show Token.nameOf _ = _ from hOwner,
        show Token.nameOf _ = _ from hName]
  | callEmpty =>
      rintro _ _ hName _ _ _ _ _ _
      exact congrArg
        (fun s => Node.call (Text.upper s) (.ofList []) false) hName
  | callStar =>
      rintro _ _ hName _ _ _ _ _ _ _ _ _
      exact congrArg
        (fun s => Node.call (Text.upper s)
          (.ofList [.column "*" none none]) false) hName
  | call =>
      rintro _ _ hName _ _ _ args _ rfl _ _ _
      exact congrArg
        (fun s => Node.call (Text.upper s) (.ofList args) false) hName
  | callDistinct =>
      rintro _ _ hName _ _ _ _ _ _ args _ rfl _ _ _
      exact congrArg
        (fun s => Node.call (Text.upper s) (.ofList args) true) hName
  | directedKey =>
      rintro n _ rfl _ _ hDirection
      exact congrArg (fun s => Node.orderBy (.one n) (some s)) hDirection
  | _ =>
      -- every other part contributes itself or nothing
      repeat
        first
          | exact rfl
          | (intro _ _ hSame
             cases hSame)

------------------------------------------------------------
-- Derivations of Similar Tokens
------------------------------------------------------------

/- What is related to two lists in a row is two lists in a row. -/
theorem forall₂_of_append
    {α β : Type}
    {R : α → β → Prop}
    {as as' : List α}
    {bs : List β}
    (hAll : List.Forall₂ R (as ++ as') bs) :
    ∃ bs₁ bs₂, bs₁ ++ bs₂ = bs ∧ List.Forall₂ R as bs₁ ∧
      List.Forall₂ R as' bs₂ := by
  refine ⟨bs.take as.length, bs.drop as.length,
    List.take_append_drop .., ?_, ?_⟩
  · have hTake := List.forall₂_take as.length hAll
    rw [List.take_left] at hTake
    exact hTake
  · have hDrop := List.forall₂_drop as.length hAll
    rw [List.drop_left] at hDrop
    exact hDrop

/- A token of the same kind that contributes the same to a phrase. -/
def Token.Similar (t t' : Token) : Prop :=
  t'.kind = t.kind ∧ Symbol.Similar (.token t.kind) t.text t'.text

/- The derivation of a token alone begins with its characters. -/
theorem Derivations.leadingText_eq
    {kind : Terminal}
    (ds : Derivations [.token kind]) :
    ∃ t : Token, ds.tokens = [t] ∧ t.kind = kind ∧
      ds.leadingText = t.text := by
  cases ds with
  | cons head tail =>
      cases tail
      cases head with
      | leaf t => exact ⟨t, rfl, rfl, rfl⟩

/- A number is similar to itself only. -/
theorem leadingText_of_similar
    {ds ds' : Derivations [.token .number]}
    (hTokens : List.Forall₂ Token.Similar ds.tokens ds'.tokens) :
    ds'.leadingText = ds.leadingText := by
  rcases ds.leadingText_eq with ⟨⟨_, text⟩, hFirst, rfl, hText⟩
  rcases ds'.leadingText_eq with ⟨t', hFirst', _, hText'⟩
  rw [hFirst, hFirst'] at hTokens
  rw [hText, hText']
  cases hTokens with
  | cons hToken _ => exact hToken.2.symm

mutual

/-
  Tokens that are similar to those of a derivation have a
  derivation with a similar meaning.
-/
theorem Derivation.similar :
    ∀ {s : Symbol} (d : Derivation s) {ts : List Token},
      List.Forall₂ Token.Similar d.tokens ts →
        ∃ d' : Derivation s, d'.tokens = ts ∧
          s.Similar d.meaning d'.meaning ∧
            d'.numeralError? = d.numeralError?
| _, .leaf t, ts, hTokens => by
    rw [Derivation.tokens] at hTokens
    cases hTokens with
    | @cons _ t' _ _ hToken hRest =>
        cases hRest
        rcases t with ⟨kind, text⟩
        rcases t' with ⟨kind', text'⟩
        rcases hToken with ⟨rfl, hText⟩
        refine ⟨.leaf ⟨kind', text'⟩, rfl, ?_, rfl⟩
        rw [Derivation.meaning, Derivation.meaning]
        exact hText
| _, .node r parts, ts, hTokens => by
    rcases Derivations.similar parts hTokens with
      ⟨parts', rfl, hMeaning, hNumerals⟩
    refine ⟨.node r parts', rfl, ?_, ?_⟩
    · rw [Derivation.meaning, Derivation.meaning]
      exact hMeaning r.meaning r.meaning r.similar_meaning
    · cases r with
      | number =>
          exact congrArg numberError? (leadingText_of_similar hTokens)
      | limitNumber =>
          exact congrArg limitError? (leadingText_of_similar hTokens)
      | _ => exact hNumerals
termination_by structural _ d => d

/- The same of derivations one after the other. -/
theorem Derivations.similar :
    ∀ {ss : List Symbol} (ds : Derivations ss) {ts : List Token},
      List.Forall₂ Token.Similar ds.tokens ts →
        ∃ ds' : Derivations ss, ds'.tokens = ts ∧
          (∀ {α : Type} (f f' : Meanings α ss), Meanings.Similar ss f f' →
            ds.meaning f = ds'.meaning f') ∧
            ds'.numeralError? = ds.numeralError?
| _, .nil, ts, hTokens => by
    cases hTokens
    refine ⟨.nil, rfl, ?_, rfl⟩
    intro α a a' hSimilar
    rw [Derivations.meaning, Derivations.meaning]
    exact hSimilar
| _, .cons head tail, ts, hTokens => by
    rw [Derivations.tokens] at hTokens
    rcases forall₂_of_append hTokens with
      ⟨headTokens, tailTokens, rfl, hHeadTokens, hTailTokens⟩
    rcases Derivation.similar head hHeadTokens with
      ⟨head', rfl, hHeadMeaning, hHeadNumerals⟩
    rcases Derivations.similar tail hTailTokens with
      ⟨tail', rfl, hTailMeaning, hTailNumerals⟩
    refine ⟨.cons head' tail', rfl, ?_, ?_⟩
    · intro α f f' hSimilar
      rw [Derivations.meaning, Derivations.meaning]
      exact hTailMeaning _ _ (hSimilar _ _ hHeadMeaning)
    · rw [Derivations.numeralError?, Derivations.numeralError?,
        hHeadNumerals, hTailNumerals]
termination_by structural _ ds => ds

end

end SqlTemplate
