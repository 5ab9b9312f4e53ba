import Mathlib.Data.List.Forall2
import SqlTemplate.Dialect.Lexeme
import SqlTemplate.Proofs.Rendering.Presence

/-
  Where the tokens of a text end.  The tokens of two texts one
  after the other are those of the first and those of the
  second if no token of the first can go on into the second.
  A fragment that separators always end can be put anywhere.

  Key definitions include:
    * `Dialect.Joins`
    * `Dialect.IsComplete`
    * `Inlines`

  Correctness is proven by:
    * `lexemes_append`
    * `Inlines.append`
    * `Inlines.intercalate`
-/

------------------------------------------------------------
-- Texts One after the Other
------------------------------------------------------------

namespace SqlTemplate

namespace Dialect

variable {d : Dialect}

/- What a reader is in after one more character. -/
def Reading.next
    (d : Dialect)
    (r : Reading)
    (c : Char) : Reading :=
  (r.extended d c).getD (.starting c)

/- What a reader is in after a text. -/
def Reading.after
    (d : Dialect)
    (r : Reading) : List Char → Reading
| [] => r
| c :: cs => Reading.after d (r.next d c) cs

theorem lexemes_of_extended
    {r next : Reading}
    {c : Char}
    (cs : List Char)
    (hNext : r.extended d c = some next) :
    r.lexemes d (c :: cs) = next.lexemes d cs := by
  rw [Reading.lexemes, hNext]

theorem lexemes_of_stopped
    {r : Reading}
    {c : Char}
    (cs : List Char)
    (hStops : r.extended d c = none) :
    r.lexemes d (c :: cs) =
      r.ended d ++ (Reading.starting c).lexemes d cs := by
  rw [Reading.lexemes, hStops]

theorem after_append
    (r : Reading)
    (cs ds : List Char) :
    r.after d (cs ++ ds) = (r.after d cs).after d ds := by
  induction cs generalizing r with
  | nil => rfl
  | cons c cs ih =>
      rw [List.cons_append, Reading.after, Reading.after]
      exact ih _

/- Where no token goes on, the tokens of two texts are put together. -/
theorem reading_append
    (r : Reading)
    (cs ds : List Char)
    (hStops : ∀ c ∈ ds.head?, (r.after d cs).extended d c = none) :
    r.lexemes d (cs ++ ds) =
      r.lexemes d cs ++ Reading.between.lexemes d ds := by
  induction cs generalizing r with
  | nil =>
      cases ds with
      | nil => exact (List.append_nil _).symm
      | cons c ds =>
          have hNone : r.extended d c = none := hStops c rfl
          rw [List.nil_append, lexemes_of_stopped ds hNone]
          rfl
  | cons c cs ih =>
      rw [Reading.after, Reading.next] at hStops
      rw [List.cons_append]
      cases hNext : r.extended d c with
      | none =>
          rw [hNext] at hStops
          rw [lexemes_of_stopped _ hNext, lexemes_of_stopped _ hNext,
            List.append_assoc]
          exact congrArg (r.ended d ++ ·) (ih _ hStops)
      | some next =>
          rw [hNext] at hStops
          rw [lexemes_of_extended _ hNext, lexemes_of_extended _ hNext]
          exact ih _ hStops

/- A text that no token goes on into is read from its start. -/
theorem after_of_stops
    (r : Reading)
    {cs : List Char}
    (hSome : cs ≠ [])
    (hStops : ∀ c ∈ cs.head?, r.extended d c = none) :
    r.after d cs = Reading.between.after d cs := by
  cases cs with
  | nil => exact absurd rfl hSome
  | cons c cs =>
      rw [Reading.after, Reading.after, Reading.next, hStops c rfl]
      rfl

------------------------------------------------------------
-- Fragments
------------------------------------------------------------

/- What a reader is in at the end of a text. -/
def atEnd
    (d : Dialect)
    (s : String) : Reading :=
  Reading.between.after d s.toList

/- No token of the first text goes on into the second. -/
def Joins
    (d : Dialect)
    (s t : String) : Prop :=
  ∀ c ∈ t.toList.head?, (d.atEnd s).extended d c = none

/- The characters that stand after fragments. -/
def separators : List Char :=
  [' ', '\n', ')', ',']

/- A reading that every separator ends. -/
def Reading.IsSettled
    (d : Dialect)
    (r : Reading) : Prop :=
  ∀ c ∈ separators, r.extended d c = none

/- A fragment: a text whose last token every separator ends. -/
structure IsComplete
    (d : Dialect)
    (s : String) : Prop where
  present : s ≠ ""
  settled : (d.atEnd s).IsSettled d

/- The end of a text ends its last token, whatever follows. -/
def IsSealed
    (d : Dialect)
    (s : String) : Prop :=
  ∀ c, (d.atEnd s).extended d c = none

/- A text starts with a separator. -/
def StartsApart (s : String) : Prop :=
  ∀ c ∈ s.toList.head?, c ∈ separators

theorem lexemes_append
    {s t : String}
    (hJoins : d.Joins s t) :
    d.lexemes (s ++ t) = d.lexemes s ++ d.lexemes t := by
  unfold lexemes
  rw [String.toList_append]
  exact reading_append .between s.toList t.toList hJoins

theorem toList_ne_nil
    {s : String}
    (hText : s ≠ "") :
    s.toList ≠ [] := by
  intro hNil
  exact hText (String.toList_eq_nil_iff.mp hNil)

theorem atEnd_append
    {s t : String}
    (hText : t ≠ "")
    (hJoins : d.Joins s t) :
    d.atEnd (s ++ t) = d.atEnd t := by
  unfold atEnd
  rw [String.toList_append, after_append]
  exact after_of_stops _ (toList_ne_nil hText) hJoins

theorem joins_of_sealed
    {s : String}
    (t : String)
    (hSealed : d.IsSealed s) :
    d.Joins s t :=
  fun c _ => hSealed c

theorem joins_of_apart
    {s t : String}
    (hComplete : d.IsComplete s)
    (hApart : StartsApart t) :
    d.Joins s t :=
  fun c hHead => hComplete.settled c (hApart c hHead)

theorem IsComplete.append
    {s t : String}
    (hSecond : d.IsComplete t)
    (hJoins : d.Joins s t) :
    d.IsComplete (s ++ t) := by
  refine ⟨append_ne_empty_right s hSecond.present, ?_⟩
  rw [atEnd_append hSecond.present hJoins]
  exact hSecond.settled

theorem IsSealed.append
    {s t : String}
    (hSecond : d.IsSealed t)
    (hText : t ≠ "")
    (hJoins : d.Joins s t) :
    d.IsSealed (s ++ t) := by
  unfold IsSealed
  rw [atEnd_append hText hJoins]
  exact hSecond

------------------------------------------------------------
-- Constant Fragments
------------------------------------------------------------

/- A fragment without placeholders and comments. -/
structure IsConstant
    (d : Dialect)
    (s : String) : Prop extends d.IsComplete s where
  lasting : ∀ lexeme ∈ d.lexemes s, lexeme.isLasting = true

/- A text that can stand between any two fragments. -/
structure IsGlue
    (d : Dialect)
    (s : String) : Prop extends d.IsConstant s where
  apart : StartsApart s
  isSealed : d.IsSealed s

/- A fixed text is checked to be constant. -/
def isConstantText
    (d : Dialect)
    (s : String) : Bool :=
  s != "" && separators.all (fun c => ((d.atEnd s).extended d c).isNone) &&
    (d.lexemes s).all Lexeme.isLasting

theorem constant_of_check
    {s : String}
    (hCheck : d.isConstantText s = true) :
    d.IsConstant s := by
  simp only [isConstantText, Bool.and_eq_true, bne_iff_ne, ne_eq,
    List.all_eq_true, Option.isNone_iff_eq_none] at hCheck
  exact ⟨⟨hCheck.1.1, hCheck.1.2⟩, hCheck.2⟩

theorem sealed_of_between
    {s : String}
    (hBetween : d.atEnd s = .between) :
    d.IsSealed s := by
  intro c
  rw [hBetween]
  rfl

theorem not_comment
    {lexeme : Lexeme}
    (hLasting : lexeme.isLasting = true) :
    lexeme.isComment = false := by
  cases lexeme with
  | comment cs => cases hLasting
  | _ => rfl

/- The tokens of what is constant are the same under all bindings. -/
theorem flatMap_bound
    (b : Bindings)
    {lexemes : List Lexeme}
    (hLasting : ∀ lexeme ∈ lexemes, lexeme.isLasting = true) :
    lexemes.flatMap (Lexeme.bound d b) = lexemes := by
  induction lexemes with
  | nil => rfl
  | cons lexeme lexemes ih =>
      rw [List.flatMap_cons,
        ih fun other hOther => hLasting other (List.mem_cons_of_mem _ hOther)]
      have hFirst := hLasting lexeme (List.mem_cons_self ..)
      cases lexeme with
      | placeholder name => cases hFirst
      | _ => rfl

theorem IsConstant.append
    {s t : String}
    (hFirst : d.IsConstant s)
    (hSecond : d.IsConstant t)
    (hJoins : d.Joins s t) :
    d.IsConstant (s ++ t) := by
  refine ⟨hSecond.toIsComplete.append hJoins, ?_⟩
  rw [lexemes_append hJoins]
  intro lexeme hMember
  rcases List.mem_append.mp hMember with hLeft | hRight
  · exact hFirst.lasting lexeme hLeft
  · exact hSecond.lasting lexeme hRight

end Dialect

------------------------------------------------------------
-- Inlined Fragments
------------------------------------------------------------

/-
  Two fragments of which the first has values where the second
  has placeholders, and otherwise the same tokens.  No comment
  is opened in the first.
-/
structure Inlines
    (d : Dialect)
    (b : Bindings)
    (s t : String) : Prop where
  inlined : d.IsComplete s
  prepared : d.IsComplete t
  same : d.lexemes s = (d.lexemes t).flatMap (Lexeme.bound d b)
  uncommented : ∀ lexeme ∈ d.lexemes s, lexeme.isComment = false

namespace Inlines

variable {d : Dialect} {b : Bindings}

theorem of_constant
    (b : Bindings)
    {s : String}
    (hConstant : d.IsConstant s) :
    Inlines d b s s where
  inlined := hConstant.toIsComplete
  prepared := hConstant.toIsComplete
  same := (Dialect.flatMap_bound b hConstant.lasting).symm
  uncommented := fun lexeme hMember =>
    Dialect.not_comment (hConstant.lasting lexeme hMember)

theorem append
    {s t s' t' : String}
    (hFirst : Inlines d b s s')
    (hSecond : Inlines d b t t')
    (hInlined : d.Joins s t)
    (hPrepared : d.Joins s' t') :
    Inlines d b (s ++ t) (s' ++ t') where
  inlined := hSecond.inlined.append hInlined
  prepared := hSecond.prepared.append hPrepared
  same := by
    rw [Dialect.lexemes_append hInlined, Dialect.lexemes_append hPrepared,
      List.flatMap_append, hFirst.same, hSecond.same]
  uncommented := by
    rw [Dialect.lexemes_append hInlined]
    intro lexeme hMember
    rcases List.mem_append.mp hMember with hLeft | hRight
    · exact hFirst.uncommented lexeme hLeft
    · exact hSecond.uncommented lexeme hRight

/- A constant text can be put before a fragment if it is sealed. -/
theorem preceded
    {s t t' : String}
    (hConstant : d.IsConstant s)
    (hSealed : d.IsSealed s)
    (hRest : Inlines d b t t') :
    Inlines d b (s ++ t) (s ++ t') :=
  (of_constant b hConstant).append hRest
    (Dialect.joins_of_sealed t hSealed) (Dialect.joins_of_sealed t' hSealed)

/- A constant text that starts apart can be put after a fragment. -/
theorem followed
    {s s' t : String}
    (hFirst : Inlines d b s s')
    (hConstant : d.IsConstant t)
    (hApart : Dialect.StartsApart t) :
    Inlines d b (s ++ t) (s' ++ t) :=
  hFirst.append (of_constant b hConstant)
    (Dialect.joins_of_apart hFirst.inlined hApart)
    (Dialect.joins_of_apart hFirst.prepared hApart)

/- Two fragments can stand on both sides of a glue. -/
theorem glued
    {s s' g t t' : String}
    (hFirst : Inlines d b s s')
    (hGlue : d.IsGlue g)
    (hSecond : Inlines d b t t') :
    Inlines d b (s ++ g ++ t) (s' ++ g ++ t') := by
  rw [String.append_assoc, String.append_assoc]
  have hRest := preceded hGlue.toIsConstant hGlue.isSealed hSecond
  have hApart : ∀ u, Dialect.StartsApart (g ++ u) := by
    intro u c hHead
    apply hGlue.apart c
    rw [String.toList_append] at hHead
    rw [List.head?_append_of_ne_nil _
      (Dialect.toList_ne_nil hGlue.present)] at hHead
    exact hHead
  exact hFirst.append hRest
    (Dialect.joins_of_apart hFirst.inlined (hApart t))
    (Dialect.joins_of_apart hFirst.prepared (hApart t'))

/- Fragments can be listed with a glue between them. -/
theorem intercalate
    {g : String}
    {texts texts' : List String}
    (hGlue : d.IsGlue g)
    (hTexts : List.Forall₂ (Inlines d b) texts texts')
    (hSome : texts ≠ []) :
    Inlines d b (g.intercalate texts) (g.intercalate texts') := by
  induction hTexts with
  | nil => exact absurd rfl hSome
  | cons hFirst hRest ih =>
      cases hRest with
      | nil =>
          rw [String.intercalate_singleton, String.intercalate_singleton]
          exact hFirst
      | cons hSecond hOthers =>
          rw [String.intercalate_cons_cons, String.intercalate_cons_cons]
          exact hFirst.glued hGlue (ih (List.cons_ne_nil _ _))

end Inlines

end SqlTemplate
