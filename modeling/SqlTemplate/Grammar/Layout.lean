import SqlTemplate.Grammar.Token

/-
  The layout of texts.  Between two tokens stands a run of
  blanks and comments, each comment with the end of its line.  A
  text is laid out anew by other runs between its tokens, and by
  other cases of the letters of its keywords.

  Key definitions include:
    * `LayoutRun`
    * `Spacing`
    * `Respaced`
    * `Token.Recased`
    * `Relaid`
-/

------------------------------------------------------------
-- Runs of Layout
------------------------------------------------------------

namespace SqlTemplate

/- A sequence of blanks, and of comments that end with their line. -/
inductive LayoutRun : List Char → Prop where
| nil : LayoutRun []
| blank {c : Char} {run : List Char}
    (hBlank : isLayout c = true)
    (hRun : LayoutRun run) :
    LayoutRun (c :: run)
| comment {content run : List Char}
    (hContent : '\n' ∉ content)
    (hRun : LayoutRun run) :
    LayoutRun ('-' :: '-' :: content ++ '\n' :: run)

/- A run that begins with a blank. -/
inductive Spacing : List Char → Prop where
| intro {c : Char} {run : List Char}
    (hBlank : isLayout c = true)
    (hRun : LayoutRun run) :
    Spacing (c :: run)

/-
  What can stand in the place of the layout between two tokens:
  the same with spacing before it, after it or on both sides, or
  some spacing instead of it.
-/
inductive Respaced : List Char → List Char → Prop where
| widened {before gap after : List Char}
    (hBefore : before = [] ∨ Spacing before)
    (hAfter : after = [] ∨ Spacing after) :
    Respaced gap (before ++ gap ++ after)
| replaced {gap run : List Char}
    (hRun : Spacing run) :
    Respaced gap run

------------------------------------------------------------
-- Texts in Another Layout
------------------------------------------------------------

/- The same token, but the letters of a keyword are in other cases. -/
inductive Token.Recased : Token → Token → Prop where
| same {t : Token} : Recased t t
| keyword {kind : Terminal} {word word' : List Char}
    (hKeyword : keyword? word = some kind)
    (hLetters : word'.map Char.toLower = word.map Char.toLower) :
    Recased ⟨kind, word⟩ ⟨kind, word'⟩

/-
  A text that consists of some tokens with layout around them is
  laid out anew as another text: the layout is respaced, and the
  keywords are written in other cases.
-/
inductive Relaid :
    List Token → List Token → List Char → List Char → Prop where
| done {gap gap' : List Char}
    (hEnd : skipLayout gap = [])
    (hGap : Respaced gap gap') :
    Relaid [] [] gap gap'
| next {gap gap' rest rest' : List Char} {t t' : Token}
    {ts ts' : List Token}
    (hSkip : skipLayout (gap ++ (t.text ++ rest)) = t.text ++ rest)
    (hGap : Respaced gap gap')
    (hToken : t.Recased t')
    (hRest : Relaid ts ts' rest rest') :
    Relaid (t :: ts) (t' :: ts') (gap ++ (t.text ++ rest))
      (gap' ++ (t'.text ++ rest'))

end SqlTemplate
