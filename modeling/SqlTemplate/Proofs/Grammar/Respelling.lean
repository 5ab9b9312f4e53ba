import SqlTemplate.Proofs.Grammar.Reading
import SqlTemplate.Proofs.Grammar.Similarity

/-
  Names in quotes.  A name means the same bare and in quotes, so
  the tokens of a derivation with other quotes around the names
  have a derivation with the same meaning.

  Key definitions include:
    * `Token.Respelled`
  Correctness is proven by:
    * `Token.Respelled.spelling`
    * `Token.Respelled.similar`
-/

------------------------------------------------------------
-- Names in Quotes
------------------------------------------------------------

namespace SqlTemplate

/- The same token, but a name is written in quotes. -/
inductive Token.Respelled : Token → Token → Prop where
| name {text : List Char} {q : Char}
    (hQuote : q ∈ nameQuotes) :
    Respelled ⟨.name, text⟩
      ⟨.name, Text.quoted q (nameOf text).toList⟩
| other {t : Token}
    (hKind : t.kind ≠ .name) :
    Respelled t t

namespace Token

theorem nameOf_quoted
    {q : Char}
    (hQuote : q ∈ nameQuotes)
    (content : List Char) :
    nameOf (Text.quoted q content) = String.ofList content := by
  have hQuotes : ∀ q ∈ nameQuotes, (q == '\x60' || q == '"') = true := by
    decide
  rw [Text.quoted, nameOf, if_pos (hQuotes q hQuote),
    List.dropLast_concat, Text.undouble_double]

/- A bare name denotes its characters. -/
theorem nameOf_bare
    {c : Char}
    (cs : List Char)
    (hStart : Text.isNameStart c = true) :
    nameOf (c :: cs) = String.ofList (c :: cs) := by
  have hNoQuote : (c == '\x60' || c == '"') = false := by
    have hSign := not_sign_of_isWord (isWord_of_isNameStart hStart)
    rw [Bool.or_eq_false_iff]
    constructor <;>
      · apply beq_false_of_ne
        rintro rfl
        exact hSign (by decide)
  rw [nameOf, if_neg (Bool.eq_false_iff.mp hNoQuote)]

/- A name is not empty. -/
theorem nameOf_ne_nil
    {text : List Char}
    (hSpelling : Spelling .name text) :
    (nameOf text).toList ≠ [] := by
  rcases hSpelling.name_cases with
    ⟨c, rest, rfl, hStart, _⟩ | ⟨q, content, rfl, hQuote, hContent⟩
  · rw [nameOf_bare rest hStart, String.toList_ofList]
    exact List.cons_ne_nil _ _
  · rw [nameOf_quoted hQuote, String.toList_ofList]
    exact hContent

namespace Respelled

theorem spelling
    {t t' : Token}
    (hSame : Respelled t t')
    (hSpelling : Spelling t.kind t.text) :
    Spelling t'.kind t'.text := by
  cases hSame with
  | name hQuote => exact .quotedName hQuote (nameOf_ne_nil hSpelling)
  | other _ => exact hSpelling

theorem keyword?_eq_none
    {t t' : Token}
    (hSame : Respelled t t')
    (hName : t'.kind = .name) :
    keyword? t'.text = none := by
  cases hSame with
  | name hQuote => exact keyword?_quoted hQuote _
  | other hKind => exact absurd hName hKind

/- A name denotes the same in quotes. -/
theorem similar
    {t t' : Token}
    (hSame : Respelled t t') :
    t.Similar t' := by
  cases hSame with
  | @name text q hQuote =>
      refine ⟨rfl, ?_⟩
      change nameOf text = nameOf (Text.quoted q (nameOf text).toList)
      rw [nameOf_quoted hQuote, String.ofList_toList]
  | other _ => exact ⟨rfl, Symbol.similar_refl _ _⟩

end Respelled

end Token

------------------------------------------------------------
-- Related Tokens
------------------------------------------------------------

/- What carries over to related items holds of a related list. -/
theorem forall_of_forall₂
    {α β : Type}
    {R : α → β → Prop}
    {P : α → Prop}
    {Q : β → Prop}
    {as : List α}
    {bs : List β}
    (hAll : List.Forall₂ R as bs)
    (hStep : ∀ {a b}, R a b → P a → Q b)
    (hFirst : ∀ a ∈ as, P a) :
    ∀ b ∈ bs, Q b := by
  induction hAll with
  | nil =>
      intro b hMember
      cases hMember
  | cons hHead _ ih =>
      rw [List.forall_mem_cons] at hFirst ⊢
      exact ⟨hStep hHead hFirst.1, ih hFirst.2⟩

end SqlTemplate
