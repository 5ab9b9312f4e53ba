import SqlTemplate.Proofs.Grammar.Respelling

/-
  Texts of phrases.  A text denotes a meaning of a phrase
  if it spells the tokens of a derivation with that meaning, and
  such texts are put together as the rules put together phrases.

  Key definitions include:
    * `Denotes`
    * `DenotesAll`
  Correctness is proven by:
    * `Fragment.append`
    * `Denotes.of_rule`
    * `DenotesAll.cons`
    * `DenotesAll.token`
    * `DenotesAll.spaced`
-/

------------------------------------------------------------
-- Parts of Texts Put Together
------------------------------------------------------------

namespace SqlTemplate

theorem startsApart_append
    {cs cs' : List Char}
    (hFirst : startsApart cs = true)
    (hSecond : startsApart cs' = true) :
    startsApart (cs ++ cs') = true := by
  cases cs with
  | nil => exact hSecond
  | cons c cs => exact hFirst

namespace Fragment

variable {cs cs' : List Char} {ts ts' : List Token}

theorem nil : Fragment [] [] :=
  fun _ _ _ hRest => hRest

/- Two parts of which the second one sets tokens apart. -/
theorem append
    (hFirst : Fragment cs ts)
    (hSecond : Fragment cs' ts')
    (hApart : startsApart cs' = true) :
    Fragment (cs ++ cs') (ts ++ ts') := by
  intro rest us hRest hText
  rw [List.append_assoc, List.append_assoc]
  exact hFirst _ _ (startsApart_append hApart hRest)
    (hSecond _ _ hRest hText)

/- A blank in front of a part. -/
theorem blank
    {c : Char}
    (hLayout : isLayout c = true)
    (hPart : Fragment cs ts) :
    Fragment (c :: cs) ts :=
  fun _ _ hRest hText => .blank hLayout (hPart _ _ hRest hText)

/- A token in front of a part that it stays apart from. -/
theorem opened
    {t : Token}
    (hToken : ∀ rest, startsApart rest = true → t.Opens (cs ++ rest))
    (hPart : Fragment cs ts) :
    Fragment (t.text ++ cs) (t :: ts) := by
  intro rest us hRest hText
  rw [List.append_assoc]
  exact .cons (hToken rest hRest) (hPart _ _ hRest hText)

end Fragment

------------------------------------------------------------
-- Texts of Phrases
------------------------------------------------------------

/-
  A text has a derivation of a symbol, with a given meaning and
  a given error about its numbers, if any.
-/
def Denotes
    (e : Option NumeralError)
    (s : Symbol)
    (cs : List Char)
    (m : s.Meaning) : Prop :=
  ∃ d : Derivation s,
    Fragment cs d.tokens ∧ d.meaning = m ∧ d.numeralError? = e

/-
  A text has derivations of a sequence of symbols, for whose
  meanings a function has a given value.
-/
def DenotesAll
    {α : Type}
    (e : Option NumeralError)
    (ss : List Symbol)
    (f : Meanings α ss)
    (cs : List Char)
    (a : α) : Prop :=
  ∃ ds : Derivations ss,
    Fragment cs ds.tokens ∧ ds.meaning f = a ∧ ds.numeralError? = e

/- A phrase means what its rule makes of the meanings of its parts. -/
theorem Derivation.meaning_node
    (r : Rule)
    (parts : Derivations r.rhs)
    {m : r.lhs.Meaning}
    (hParts : parts.meaning r.meaning = m) :
    (Derivation.node r parts).meaning = m := by
  rw [Derivation.meaning]
  exact hParts

/- A function of no meanings is its own value. -/
theorem Derivations.meaning_nil
    {α : Type}
    (a : Meanings α []) :
    Derivations.nil.meaning a = a := by
  rw [Derivations.meaning]

/- The first meaning is given to a function of several ones. -/
theorem Derivations.meaning_cons
    {α : Type}
    {s : Symbol}
    {ss : List Symbol}
    (d : Derivation s)
    (ds : Derivations ss)
    (f : Meanings α (s :: ss)) :
    (Derivations.cons d ds).meaning f = ds.meaning (f d.meaning) := by
  rw [Derivations.meaning]

/- A token on its own means its characters. -/
theorem Derivations.meaning_leaf
    {α : Type}
    (t : Token)
    (f : Meanings α [.token t.kind]) :
    (Derivations.cons (.leaf t) .nil).meaning f = f t.text := by
  rw [Derivations.meaning, Derivations.meaning, Derivation.meaning]

/- The parts of a rule make a phrase. -/
theorem Denotes.of_rule
    (r : Rule)
    {e : Option NumeralError}
    {cs : List Char}
    {m : r.lhs.Meaning}
    (hRule : r.readsNumber = false)
    (hParts : DenotesAll e r.rhs r.meaning cs m) :
    Denotes e (.phrase r.lhs) cs m := by
  rcases hParts with ⟨ds, hText, hMeaning, hNumerals⟩
  refine ⟨.node r ds, hText, Derivation.meaning_node r ds hMeaning, ?_⟩
  rw [Derivation.numeralError?_node ds hRule]
  exact hNumerals

/- A blank in front of a phrase means nothing. -/
theorem Denotes.blank
    {e : Option NumeralError}
    {s : Symbol}
    {c : Char}
    {cs : List Char}
    {m : s.Meaning}
    (hLayout : isLayout c = true)
    (hText : Denotes e s cs m) :
    Denotes e s (c :: cs) m := by
  rcases hText with ⟨d, hText, hMeaning, hNumerals⟩
  exact ⟨d, hText.blank hLayout, hMeaning, hNumerals⟩

/- A number alone is an operand, unless it has too many digits. -/
theorem Denotes.number
    {text : List Char}
    (hSpelling : Token.Spelling .number text) :
    Denotes (numberError? text) (.phrase .atom) text
      (Node.literal (Token.numberOf text)) := by
  refine ⟨.node .number (.cons (.leaf ⟨.number, text⟩) .nil),
    .of_spelling (t := ⟨.number, text⟩) hSpelling nofun, ?_, rfl⟩
  exact Derivation.meaning_node .number _ (Derivations.meaning_leaf _ _)

/- A number alone is a limit, unless it has a fraction. -/
theorem Denotes.limitNumber
    {text : List Char}
    (hSpelling : Token.Spelling .number text) :
    Denotes (limitError? text) (.phrase .limitValue) text
      (Node.literal (Token.numberOf text)) := by
  refine ⟨.node .limitNumber (.cons (.leaf ⟨.number, text⟩) .nil),
    .of_spelling (t := ⟨.number, text⟩) hSpelling nofun, ?_, rfl⟩
  exact Derivation.meaning_node .limitNumber _ (Derivations.meaning_leaf _ _)

namespace DenotesAll

variable {α : Type} {a : α} {s : Symbol} {ss : List Symbol}
variable {e : Option NumeralError} {cs cs' : List Char}

theorem nil
    {f : Meanings α []} :
    DenotesAll none [] f [] f :=
  ⟨.nil, .nil, Derivations.meaning_nil f, rfl⟩

/- A phrase before others that it stays apart from; its error is the first. -/
theorem joined
    {e' : Option NumeralError}
    {f : Meanings α (s :: ss)}
    {m : s.Meaning}
    (hFirst : Denotes e s cs m)
    (hRest : DenotesAll e' ss (f m) cs' a)
    (hApart : startsApart cs' = true) :
    DenotesAll (e.or e') (s :: ss) f (cs ++ cs') a := by
  rcases hFirst with ⟨d, hText, rfl, hNumerals⟩
  rcases hRest with ⟨ds, hTexts, hMeaning, hOthers⟩
  refine ⟨.cons d ds, hText.append hTexts hApart, ?_, ?_⟩
  · rw [Derivations.meaning]
    exact hMeaning
  · rw [Derivations.numeralError?, hNumerals, hOthers]
    cases e <;> rfl

/- A phrase without an error before others. -/
theorem cons
    {f : Meanings α (s :: ss)}
    {m : s.Meaning}
    (hFirst : Denotes none s cs m)
    (hRest : DenotesAll e ss (f m) cs' a)
    (hApart : startsApart cs' = true) :
    DenotesAll e (s :: ss) f (cs ++ cs') a :=
  joined hFirst hRest hApart

/- The only phrase with an error, before others. -/
theorem failing
    {f : Meanings α (s :: ss)}
    {m : s.Meaning}
    (hFirst : Denotes e s cs m)
    (hRest : DenotesAll none ss (f m) cs' a)
    (hApart : startsApart cs' = true) :
    DenotesAll e (s :: ss) f (cs ++ cs') a := by
  have hAll := joined hFirst hRest hApart
  rw [Option.or_none] at hAll
  exact hAll

/- The last phrase of a rule. -/
theorem last
    {f : Meanings α [s]}
    {m : s.Meaning}
    (hLast : Denotes e s cs m) :
    DenotesAll e [s] f cs (f m) := by
  have hAll := failing (f := f) hLast nil rfl
  rw [List.append_nil] at hAll
  exact hAll

theorem blank
    {f : Meanings α ss}
    {c : Char}
    (hLayout : isLayout c = true)
    (hText : DenotesAll e ss f cs a) :
    DenotesAll e ss f (c :: cs) a := by
  rcases hText with ⟨ds, hText, hMeaning, hNumerals⟩
  exact ⟨ds, hText.blank hLayout, hMeaning, hNumerals⟩

/- A phrase and a blank before others. -/
theorem spaced
    {f : Meanings α (s :: ss)}
    {m : s.Meaning}
    (hFirst : Denotes none s cs m)
    (hRest : DenotesAll e ss (f m) cs' a) :
    DenotesAll e (s :: ss) f (cs ++ ' ' :: cs') a :=
  .cons hFirst (.blank rfl hRest) rfl

/- A token before other symbols that it stays apart from. -/
theorem opened
    {kind : Terminal}
    {text : List Char}
    {f : Meanings α (.token kind :: ss)}
    (hToken : ∀ rest, startsApart rest = true →
      Token.Opens ⟨kind, text⟩ (cs ++ rest))
    (hRest : DenotesAll e ss (f text) cs a) :
    DenotesAll e (.token kind :: ss) f (text ++ cs) a := by
  rcases hRest with ⟨ds, hText, hMeaning, hNumerals⟩
  refine ⟨.cons (.leaf ⟨kind, text⟩) ds, hText.opened hToken, ?_, hNumerals⟩
  rw [Derivations.meaning, Derivation.meaning]
  exact hMeaning

/- A token before a part that sets tokens apart. -/
theorem token
    {kind : Terminal}
    {text : List Char}
    {f : Meanings α (.token kind :: ss)}
    (hSpelling : Token.Spelling kind text)
    (hName : kind = .name → Token.keyword? text = none)
    (hRest : DenotesAll e ss (f text) cs a)
    (hApart : startsApart cs = true) :
    DenotesAll e (.token kind :: ss) f (text ++ cs) a :=
  .opened
    (fun _ hEnd => Token.opens_of_spelling (t := ⟨kind, text⟩) hSpelling
      hName (startsApart_append hApart hEnd))
    hRest

/- A keyword and a blank before other symbols. -/
theorem word
    {kind : Terminal}
    {text : List Char}
    {f : Meanings α (.token kind :: ss)}
    (hKeyword : Token.keyword? text = some kind ∧
      text.all Text.isWord = true)
    (hRest : DenotesAll e ss (f text) cs a) :
    DenotesAll e (.token kind :: ss) f (text ++ ' ' :: cs) a := by
  refine .token (.keyword hKeyword.1 hKeyword.2) ?_ (.blank rfl hRest) rfl
  intro hName
  exact absurd hName (Token.keyword?_ne hKeyword.1).2.1

/- A mark before any part, unless it is a minus sign. -/
theorem mark
    {c : Char}
    {kind : Terminal}
    {f : Meanings α (.token kind :: ss)}
    (hMark : Token.punctuation? c = some kind)
    (hOther : c ≠ '-')
    (hRest : DenotesAll e ss (f [c]) cs a) :
    DenotesAll e (.token kind :: ss) f (c :: cs) a :=
  .opened
    (fun _ _ => Token.opens_mark hMark fun hMinus => absurd hMinus hOther)
    hRest

/- A minus sign before a part that starts with no other one. -/
theorem minus
    {f : Meanings α (.token .minus :: ss)}
    (hOther : cs.head? ≠ some '-')
    (hRest : DenotesAll e ss (f ['-']) cs a) :
    DenotesAll e (.token .minus :: ss) f ('-' :: cs) a := by
  change DenotesAll e _ f (['-'] ++ cs) a
  refine .opened (fun rest hEnd => ?_) hRest
  apply Token.opens_mark rfl
  intro _ hHead
  cases cs with
  | nil =>
      have hSeparator : ∀ c ∈ separators, (c == '-') = false := by decide
      have hFirst := ne_of_startsApart hEnd hSeparator '-' hHead
      cases hFirst
  | cons c cs => exact hOther hHead

/- Nothing in front of the columns asks for every row. -/
theorem everyRow
    {f : Meanings α (.phrase .rowKind :: ss)}
    (hRest : DenotesAll e ss (f false) cs a) :
    DenotesAll e (.phrase .rowKind :: ss) f cs a := by
  rcases hRest with ⟨ds, hText, hMeaning, hNumerals⟩
  refine ⟨.cons (.node .everyRow .nil) ds, hText, ?_, hNumerals⟩
  have hNothing : (Derivation.node .everyRow .nil).meaning = false :=
    Derivation.meaning_node .everyRow .nil (Derivations.meaning_nil _)
  refine (Derivations.meaning_cons _ ds f).trans ?_
  exact (congrArg (fun b => ds.meaning (f b)) hNothing).trans hMeaning

/- A token on its own. -/
theorem only
    {kind : Terminal}
    {text : List Char}
    {f : Meanings α [.token kind]}
    (hSpelling : Token.Spelling kind text)
    (hName : kind = .name → Token.keyword? text = none) :
    DenotesAll none [.token kind] f text (f text) := by
  have hToken := token (f := f) hSpelling hName nil rfl
  rw [List.append_nil] at hToken
  exact hToken

/- A keyword on its own. -/
theorem lastWord
    {kind : Terminal}
    {text : List Char}
    {f : Meanings α [.token kind]}
    (hKeyword : Token.keyword? text = some kind ∧
      text.all Text.isWord = true) :
    DenotesAll none [.token kind] f text (f text) := by
  apply only (.keyword hKeyword.1 hKeyword.2)
  intro hName
  exact absurd hName (Token.keyword?_ne hKeyword.1).2.1

/- An operator between two phrases. -/
theorem infixed
    {s' : Symbol}
    {kind : Terminal}
    {word : List Char}
    {f : Meanings α [s, .token kind, s']}
    {m : s.Meaning}
    {m' : s'.Meaning}
    (hLeft : Denotes none s cs m)
    (hSpelling : Token.Spelling kind word)
    (hKind : kind ≠ .name)
    (hRight : Denotes none s' cs' m') :
    DenotesAll none [s, .token kind, s'] f
      (cs ++ ' ' :: (word ++ ' ' :: cs')) (f m word m') := by
  have hOperator :
      DenotesAll none [.token kind, s'] (f m) (word ++ ' ' :: cs')
        (f m word m') :=
    .token hSpelling (fun hName => absurd hName hKind)
      (.blank rfl (.last hRight)) rfl
  exact .spaced hLeft hOperator

end DenotesAll

end SqlTemplate
