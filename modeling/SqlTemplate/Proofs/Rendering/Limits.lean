import SqlTemplate.Node.Shape
import SqlTemplate.Proofs.Rendering.Inversion
import SqlTemplate.Proofs.Text.Letters

/-
  The texts of limits and offsets.  They start with a digit, so
  none of them is ever taken for a placeholder.

  Key definitions include:
    * `StartsWithDigit`

  Correctness is proven by:
    * `startsWithDigit_of_limit`
    * `resolve_eq`
-/

------------------------------------------------------------
-- Empty Collections
------------------------------------------------------------

namespace SqlTemplate

variable {ctx : RenderContext}

/- The literals of an empty collection are the empty text. -/
theorem literals_of_empty
    {v : Value}
    (hEmpty : v.isEmptyCollection = true) :
    ctx.literals v = .ok "" := by
  unfold Value.isEmptyCollection at hEmpty
  split at hEmpty
  · rfl
  · cases hEmpty

theorem numerals_of_empty
    {v : Value}
    (name : String)
    (hEmpty : v.isEmptyCollection = true) :
    RenderContext.numerals name v = .ok "" := by
  unfold Value.isEmptyCollection at hEmpty
  split at hEmpty
  · rfl
  · cases hEmpty

------------------------------------------------------------
-- Limits
------------------------------------------------------------

/- The first character of a text is a digit. -/
def StartsWithDigit (s : String) : Prop :=
  ∃ c cs, s.toList = c :: cs ∧ c.isDigit = true

theorem IsDigits.startsWithDigit
    {s : String}
    (hDigits : IsDigits s.toList) :
    StartsWithDigit s := by
  cases hChars : s.toList with
  | nil => exact absurd hChars hDigits.1
  | cons c cs =>
      exact ⟨c, cs, hChars, hDigits.2 c (hChars ▸ List.mem_cons_self)⟩

theorem startsWithDigit_append
    {s : String}
    (t : String)
    (hDigit : StartsWithDigit s) :
    StartsWithDigit (s ++ t) := by
  rcases hDigit with ⟨c, cs, hChars, hDigit⟩
  refine ⟨c, cs ++ t.toList, ?_, hDigit⟩
  rw [String.toList_append, hChars, List.cons_append]

/- The numerals of a value that fills its place start with a digit. -/
theorem startsWithDigit_of_numerals
    {name : String}
    {v : Value}
    {s : String}
    (hFills : v.isEmptyCollection = false)
    (hNumerals : RenderContext.numerals name v = .ok s) :
    StartsWithDigit s := by
  rcases runs_of_numerals hNumerals with ⟨runs, hSome, hDigits, rfl⟩
  cases runs with
  | nil => exact absurd rfl (hSome hFills)
  | cons run others =>
      have hFirst : StartsWithDigit run :=
        (hDigits run List.mem_cons_self).startsWithDigit
      cases others with
      | nil =>
          rw [String.intercalate_singleton]
          exact hFirst
      | cons _ _ =>
          rw [String.intercalate_cons_cons, String.append_assoc]
          exact startsWithDigit_append _ hFirst

/- A limit that is written starts with a digit. -/
theorem startsWithDigit_of_limit
    {slot : Slot Node}
    {depth : Nat}
    {indent : Int}
    {separator : String}
    {text : Option String}
    (hInline : ctx.inline = true)
    (hLimit : slot.IsLimit)
    (hRender :
      Node.renderSlot ctx depth indent separator slot = .ok text) :
    ∀ s ∈ text, StartsWithDigit s := by
  intro s hSome
  unfold Slot.IsLimit at hLimit
  split at hLimit
  next =>
    cases hRender
    cases hSome
  next n =>
    rw [Option.mem_def.mp hSome] at hRender
    rw [eq_textInt_of_renderSlot hRender]
    exact (isDigits_textInt hLimit).startsWithDigit
  next name =>
    rw [Node.renderSlot] at hRender
    rcases map_eq_ok.mp hRender with ⟨nodeText, hText, rfl⟩
    have hDeep := not_tooDeep_of_render hText
    have hKept := eq_some_of_present hSome
    rw [hKept.1] at hText
    simp only [Node.render, hDeep, Bool.false_eq_true, if_false,
      RenderContext.numeral] at hText
    split at hText
    next v hValue =>
      rcases map_eq_ok.mp hText with ⟨t, hNumerals, hSame⟩
      cases hSame
      cases hEmpty : v.isEmptyCollection with
      | true =>
          rw [numerals_of_empty name hEmpty] at hNumerals
          cases hNumerals
          exact absurd rfl hKept.2
      | false => exact startsWithDigit_of_numerals hEmpty hNumerals
    next =>
      rw [if_pos hInline] at hText
      cases hText
  next => exact hLimit.elim

theorem isBlank_of_isDigit
    {c : Char}
    (hDigit : c.isDigit = true) :
    Text.isBlank c = false ∧ c ≠ ':' := by
  have hRange := Char.isDigit_iff_toNat.mp hDigit
  have hAscii : c.toNat < 128 := Nat.lt_of_le_of_lt hRange.2 (by decide)
  revert hDigit
  apply forall_ascii (c := c) _ hAscii
  decide

/- A limit in full is never taken for a placeholder. -/
theorem resolve_eq
    {text : Option String}
    (slot : Slot Node)
    (hInline : ctx.inline = true)
    (hDigit : ∀ s ∈ text, StartsWithDigit s) :
    ctx.resolve slot text = text := by
  cases text with
  | none => rfl
  | some s =>
      rcases hDigit s rfl with ⟨c, cs, hChars, hDigit⟩
      rcases isBlank_of_isDigit hDigit with ⟨hBlank, hColon⟩
      have hHead : (Text.trimStart s.toList).head? = some c := by
        rw [hChars, Text.trimStart, List.dropWhile_cons, hBlank]
        rfl
      have hOther : ¬ some c = some ':' := by
        intro hSame
        exact hColon (Option.some.inj hSame)
      simp only [RenderContext.resolve, Option.bind_some, if_pos hInline,
        hHead, if_neg hOther]

end SqlTemplate
