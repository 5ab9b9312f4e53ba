import SqlTemplate.Dialect.LiteralForm
import SqlTemplate.Proofs.Results
import SqlTemplate.Rendering

/-
  Whatever is written as a numeral is a run of digits, and what
  is written for a collection are such runs with commas between
  them.  So a numeral holds no quote, no colon and no blank.

  Correctness is proven by:
    * `digits_decimal`
    * `isDigits_of_numeral?`
    * `runs_of_numerals`
-/

------------------------------------------------------------
-- Decimal Digits
------------------------------------------------------------

namespace SqlTemplate

theorem decimal_ne_nil (n : Nat) : Digits.decimal n ≠ [] :=
  Nat.toDigits_ne_nil

theorem digits_decimal
    (n : Nat) : IsDigits (Digits.decimal n) :=
  ⟨decimal_ne_nil n, fun _ hMember =>
    Nat.isDigit_of_mem_toDigits (by decide) (by decide) hMember⟩

theorem isDigits_textInt
    {n : Int}
    (hNatural : 0 ≤ n) :
    IsDigits (Digits.textInt n).toList := by
  obtain ⟨m, rfl⟩ := Int.eq_ofNat_of_zero_le hNatural
  rw [Digits.textInt, String.toList_ofList]
  exact digits_decimal m

theorem isDigits_iff {s : String} :
    IsDigits s.toList ↔
      (!s.toList.isEmpty && s.toList.all Char.isDigit) = true := by
  simp [IsDigits]

theorem IsDigits.ne_empty
    {s : String}
    (hDigits : IsDigits s.toList) :
    s ≠ "" := by
  rintro rfl
  exact hDigits.1 rfl

------------------------------------------------------------
-- Numerals of Values
------------------------------------------------------------

/- The numeral of a value is a run of digits. -/
theorem isDigits_of_numeral?
    {v : Value}
    {s : String}
    (hNumeral : v.numeral? = some s) :
    IsDigits s.toList := by
  have hNatural (n : Int)
      (hText : Value.numeral?.natural? n = some s) :
      IsDigits s.toList := by
    unfold Value.numeral?.natural? at hText
    split at hText
    next hSign =>
      cases hText
      exact isDigits_textInt hSign
    next => cases hText
  have hDigits (t : String)
      (hText : Value.numeral?.digits? t = some s) :
      IsDigits s.toList := by
    unfold Value.numeral?.digits? at hText
    split at hText
    next hAll =>
      cases hText
      exact isDigits_iff.mpr hAll
    next => cases hText
  cases v with
  | int n => exact hNatural n hNumeral
  | intMember _ _ n => exact hNatural n hNumeral
  | text t => exact hDigits t hNumeral
  | textMember _ _ t => exact hDigits t hNumeral
  | _ => cases hNumeral

variable {name s : String} {v : Value}

theorem isDigits_of_numeralOf
    (hNumeral : RenderContext.numeralOf name v = .ok s) :
    IsDigits s.toList := by
  unfold RenderContext.numeralOf at hNumeral
  split at hNumeral
  next hText =>
    cases hNumeral
    exact isDigits_of_numeral? hText
  next => cases hNumeral

theorem Value.ne_nil_of_items?
    {items : List Value}
    (hItems : v.items? = some items)
    (hFills : v.isEmptyCollection = false) :
    items ≠ [] := by
  intro hNone
  subst hNone
  cases v with
  | collection kind others =>
      cases hItems
      cases hFills
  | _ => cases hItems

/-
  The numerals of a value are runs of digits with commas between
  them; there are none only of a collection without items.
-/
theorem runs_of_numerals
    (hNumerals : RenderContext.numerals name v = .ok s) :
    ∃ runs : List String,
      (v.isEmptyCollection = false → runs ≠ []) ∧
        (∀ run ∈ runs, IsDigits run.toList) ∧
          s = ", ".intercalate runs := by
  unfold RenderContext.numerals at hNumerals
  split at hNumerals
  next items hItems =>
    rcases map_eq_ok.mp hNumerals with ⟨runs, hRuns, rfl⟩
    have hResults :=
      forall_of_mapM (fun _ _ hItem => isDigits_of_numeralOf hItem) hRuns
    exact ⟨runs, fun hFills => hResults.1 (Value.ne_nil_of_items? hItems hFills),
      hResults.2, rfl⟩
  next =>
    exact ⟨[s], fun _ => List.cons_ne_nil _ _,
      List.forall_mem_singleton.mpr (isDigits_of_numeralOf hNumerals),
      String.intercalate_singleton.symm⟩

end SqlTemplate
