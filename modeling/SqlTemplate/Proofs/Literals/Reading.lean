import SqlTemplate.Dialect.Literal
import SqlTemplate.Dialect.LiteralForm

/-
  String literals cannot be escaped from.  A reader of the
  dialect takes every character of the content for itself and
  stops at the closing quote, whatever text follows, so that
  different texts have different literals.

  Key definitions include:
    * `Dialect.writtenChar`

  Correctness is proven by:
    * `Dialect.readContent_writtenChar`
    * `Dialect.readContent_written`
    * `Dialect.readText_textLiteral`
    * `Dialect.text_literal_reads_back`
-/

------------------------------------------------------------
-- Written Contents
------------------------------------------------------------

namespace SqlTemplate

namespace Dialect

variable (d : Dialect)

/- What is written for one character of a string literal. -/
def writtenChar (c : Char) : List Char :=
  if c = '\'' then
    ['\'', '\'']
  else if c = '\\' ∧ d.escapesBackslash = true then
    ['\\', '\\']
  else
    [c]

/- Both replacements together treat every character alone. -/
theorem double_escapeText
    (cs : List Char) :
    Text.double '\'' (d.escapeText cs) = cs.flatMap d.writtenChar := by
  have hQuote : ∀ cs : List Char,
      d.escapesBackslash = false →
        Text.double '\'' cs = cs.flatMap d.writtenChar := by
    intro cs hEscapes
    induction cs with
    | nil => rfl
    | cons c cs ih =>
        rw [Text.double, List.flatMap_cons, writtenChar, ih, hEscapes]
        split <;> simp
  have hBoth : ∀ cs : List Char,
      d.escapesBackslash = true →
        Text.double '\'' (Text.double '\\' cs) =
          cs.flatMap d.writtenChar := by
    intro cs hEscapes
    induction cs with
    | nil => rfl
    | cons c cs ih =>
        rw [Text.double, List.flatMap_cons, writtenChar, hEscapes]
        by_cases hBackslash : c = '\\'
        · simp [hBackslash, Text.double, ih]
        · by_cases hQuote : c = '\'' <;>
            simp [hBackslash, hQuote, Text.double, ih]
  unfold escapeText
  split
  next hEscapes => exact hBoth cs hEscapes
  next hEscapes => exact hQuote cs (eq_false_of_ne_true hEscapes)

------------------------------------------------------------
-- Reading What Is Written
------------------------------------------------------------

/- What is written for a character is read as that character. -/
theorem readContent_writtenChar
    (c : Char)
    (cs : List Char) :
    d.readContent (d.writtenChar c ++ cs) =
      (d.readContent cs).map (Prod.map (List.cons c) id) := by
  unfold writtenChar
  split
  next hQuote =>
    rw [hQuote]
    rfl
  next hQuote =>
    split
    next hEscape =>
      rw [hEscape.1, List.cons_append, List.singleton_append, readContent,
        if_neg (by decide), if_pos ⟨rfl, hEscape.2⟩]
    next hEscape =>
      cases cs with
      | nil =>
          simp [readContent, hQuote]
      | cons e cs =>
          rw [List.singleton_append, readContent, if_neg hQuote,
            if_neg hEscape]

/- A written content is read as a whole before what follows it. -/
theorem readContent_written
    (content cs : List Char) :
    d.readContent (content.flatMap d.writtenChar ++ cs) =
      (d.readContent cs).map (Prod.map (content ++ ·) id) := by
  induction content with
  | nil => exact Option.map_id'.symm
  | cons c content ih =>
      rw [List.flatMap_cons, List.append_assoc, readContent_writtenChar, ih,
        Option.map_map]
      rfl

/- A quote that no other one follows ends the content. -/
theorem readContent_quote
    {rest : List Char}
    (hRest : rest.head? ≠ some '\'') :
    d.readContent ('\'' :: rest) = some ([], rest) := by
  cases rest with
  | nil => rfl
  | cons c rest =>
      have hOther : c ≠ '\'' := fun hQuote => hRest (congrArg some hQuote)
      rw [readContent, if_pos rfl, if_neg hOther]

/- A string literal ends where it was meant to end. -/
theorem readText_textLiteral
    (content : List Char)
    {rest : List Char}
    (hRest : rest.head? ≠ some '\'') :
    d.readText (d.textLiteral content ++ rest) = some (content, rest) := by
  rw [textLiteral, Text.quoted, List.cons_append, readText, double_escapeText,
    List.append_assoc, readContent_written, List.singleton_append,
    readContent_quote d hRest]
  simp

/- A string literal alone is read as its content. -/
theorem readText_textLiteral_alone
    (content : List Char) :
    d.readText (d.textLiteral content) = some (content, []) := by
  rw [← List.append_nil (d.textLiteral content)]
  exact d.readText_textLiteral content nofun

/- A text without NUL has a string literal. -/
theorem literal_text
    {s : String}
    (hNul : '\x00' ∉ s.toList) :
    d.literal (.text s) = .ok (String.ofList (d.textLiteral s.toList)) := by
  rw [literal, literal.literalText,
    if_neg fun hFound => hNul (List.contains_iff_mem.mp hFound)]

/- A literal of a text is the string literal of its characters. -/
theorem textLiteral_of_literal
    {s text : String}
    (hText : d.literal (.text s) = .ok text) :
    text = String.ofList (d.textLiteral s.toList) := by
  rw [literal, literal.literalText] at hText
  split at hText
  next => cases hText
  next => exact (Except.ok.inj hText).symm

end Dialect

------------------------------------------------------------
-- Literals of Texts
------------------------------------------------------------

/-
  In every dialect a text without NUL has a literal that reads
  back as the text and ends at its own end, whatever follows
  but a quote.  No other text has the same literal.
-/
theorem text_literal_reads_back
    (d : Dialect)
    (s : String)
    (hNul : '\x00' ∉ s.toList) :
    ∃ text, d.literal (.text s) = .ok text ∧
      (∀ rest : List Char, rest.head? ≠ some '\'' →
        d.readText (text.toList ++ rest) = some (s.toList, rest)) ∧
      ∀ t, d.literal (.text t) = .ok text → t = s := by
  refine ⟨_, d.literal_text hNul, ?_, ?_⟩
  · intro rest hRest
    rw [String.toList_ofList]
    exact d.readText_textLiteral s.toList hRest
  · intro t hText
    have hSame : d.textLiteral s.toList = d.textLiteral t.toList :=
      String.ofList_injective (d.textLiteral_of_literal hText)
    have hRead := d.readText_textLiteral_alone s.toList
    rw [hSame, d.readText_textLiteral_alone t.toList] at hRead
    exact String.toList_injective (congrArg Prod.fst (Option.some.inj hRead))

/- Runs of quotes and backslashes before more text. -/
theorem text_literal_reads_back_of_mixed_escapes :
    '\x00' ∉ "\\'\\\\''".toList ∧
      ∃ text, Dialect.mysql.literal (.text "\\'\\\\''") = .ok text ∧
        (∀ rest : List Char, rest.head? ≠ some '\'' →
          Dialect.mysql.readText (text.toList ++ rest) =
            some ("\\'\\\\''".toList, rest)) ∧
        ∀ t, Dialect.mysql.literal (.text t) = .ok text →
          t = "\\'\\\\''" :=
  ⟨by decide, text_literal_reads_back .mysql "\\'\\\\''" (by decide)⟩

end SqlTemplate
