import SqlTemplate.Node.Legible
import SqlTemplate.Proofs.Grammar.Composition
import SqlTemplate.Proofs.Rendering.Inversion

/-
  Names in texts.  A name that the dialect keeps is one token,
  and it stays one before a point and before a bracket, so names
  with points between them and the names of functions are read
  back.

  Key definitions include:
    * `Token.Names`
    * `Token.nameEnds`
  Correctness is proven by:
    * `Token.Names.of_keeps`
    * `Token.Names.of_callable`
    * `DenotesAll.lastName`
    * `DenotesAll.nameBefore`
-/

------------------------------------------------------------
-- Name Tokens
------------------------------------------------------------

namespace SqlTemplate

namespace Token

/- A text is the token of a name. -/
structure Names
    (text : List Char)
    (name : String) : Prop where
  spelling : Spelling .name text
  noKeyword : keyword? text = none
  denotes : nameOf text = name

/- What a dialect writes for a name that it keeps is its token. -/
theorem Names.of_keeps
    {d : Dialect}
    {name text : String}
    (hKeeps : d.KeepsName name)
    (hText : d.identifier name = .ok text) :
    Names text.toList name := by
  rcases hKeeps with ⟨hKeyword, text', hText', hToken, hName⟩
  cases hText.symm.trans hText'
  have hSpelling := spelling_of_form (form_of_mem hToken)
  refine ⟨hSpelling, ?_, hName⟩
  dsimp only at hSpelling
  generalize text.toList = cs at hSpelling hName
  rcases hSpelling.name_cases with
    ⟨c, rest, rfl, hStart, _⟩ | ⟨q, content, rfl, hQuote, _⟩
  · rw [nameOf_bare rest hStart] at hName
    rw [← hName, String.toList_ofList] at hKeyword
    exact hKeyword
  · exact keyword?_quoted hQuote content

/- The name of a function is its own token. -/
theorem Names.of_callable
    {name : String}
    (hName : IsCallable name) :
    Names name.toList name := by
  rcases hName with ⟨hKeyword, c, cs, hChars, hStart, hWord⟩
  rw [hChars] at hKeyword
  rw [hChars]
  refine ⟨.bareName hStart hWord, hKeyword, ?_⟩
  rw [nameOf_bare cs hStart, ← hChars, String.ofList_toList]

/- The marks that can follow a name at once. -/
def nameEnds : List Char :=
  ['.', '(']

/- A name is found before what is neither a word nor a quote. -/
theorem opens_name
    {text rest : List Char}
    {name : String}
    (hName : Names text name)
    (hWord : ∀ d ∈ rest.head?, Text.isWord d = false)
    (hQuote : ∀ q ∈ nameQuotes, rest.head? ≠ some q) :
    Opens ⟨.name, text⟩ rest := by
  rcases hName with ⟨hSpelling, hKeyword, _⟩
  rcases hSpelling.name_cases with
    ⟨c, cs, rfl, hStart, hAll⟩ | ⟨q, content, rfl, hMember, hContent⟩
  · exact opens_bareName hStart hAll hKeyword hWord
  · exact opens_quotedName hMember hContent (hQuote q hMember)

end Token

------------------------------------------------------------
-- Names in Phrases
------------------------------------------------------------

namespace DenotesAll

variable {α : Type} {a : α} {ss : List Symbol}
variable {e : Option NumeralError}
variable {cs text : List Char} {own : String}

/- A name at the end of a phrase. -/
theorem lastName
    {f : Meanings α [.token .name]}
    (hName : Token.Names text own) :
    DenotesAll none [.token .name] f text (f text) :=
  .only hName.spelling fun _ => hName.noKeyword

/- A name before one of the marks that can follow it at once. -/
theorem nameBefore
    {c : Char}
    {f : Meanings α (.token .name :: ss)}
    (hName : Token.Names text own)
    (hMark : c ∈ Token.nameEnds)
    (hRest : DenotesAll e ss (f text) (c :: cs) a) :
    DenotesAll e (.token .name :: ss) f (text ++ c :: cs) a := by
  refine .opened (fun rest _ => ?_) hRest
  apply Token.opens_name hName
  · have hMarks : ∀ c ∈ Token.nameEnds, Text.isWord c = false := by
      decide
    intro d hHead
    cases hHead
    exact hMarks c hMark
  · have hMarks : ∀ c ∈ Token.nameEnds, c ∉ Token.nameQuotes := by
      decide
    intro q hQuote hHead
    cases hHead
    exact hMarks c hMark hQuote

end DenotesAll

end SqlTemplate
