import SqlTemplate.Grammar.Token

/-
  Derivations: how a sequence of tokens is built up to a phrase
  by the rules of the grammar.

  Key definitions include:
    * `Derivation`
    * `Derivations`
    * `Derivation.tokens`
    * `Derivations.tokens`
-/

------------------------------------------------------------
-- Derivations
------------------------------------------------------------

namespace SqlTemplate

mutual

/-
  A derivation of a symbol: a token of that kind, or a rule
  applied to derivations of the symbols on its right side.
-/
inductive Derivation : Symbol → Type where
| leaf (t : Token) : Derivation (.token t.kind)
| node (r : Rule) (parts : Derivations r.rhs) :
    Derivation (.phrase r.lhs)

/- Derivations of a sequence of symbols. -/
inductive Derivations : List Symbol → Type where
| nil : Derivations []
| cons {s : Symbol} {ss : List Symbol} (head : Derivation s)
    (tail : Derivations ss) : Derivations (s :: ss)

end

------------------------------------------------------------
-- Derived Tokens
------------------------------------------------------------

mutual

/- The tokens that a derivation builds on, in order. -/
def Derivation.tokens {s : Symbol} : Derivation s → List Token
| .leaf t => [t]
| .node _ parts => parts.tokens

/- The tokens of derivations one after the other. -/
def Derivations.tokens {ss : List Symbol} :
    Derivations ss → List Token
| .nil => []
| .cons head tail => head.tokens ++ tail.tokens

end

end SqlTemplate
