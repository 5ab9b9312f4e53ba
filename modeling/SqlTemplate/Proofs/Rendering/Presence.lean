import SqlTemplate.Proofs.Rendering.Numerals

/-
  What is written for a value or a name is never empty, so only
  parameters without a value make a fragment absent.

  Correctness is proven by:
    * `literal_ne_empty`
    * `literals_ne_empty`
    * `numerals_ne_empty`
    * `qualified_ne_empty`
    * `callText_ne_empty`
    * `tableText_ne_empty`
-/

------------------------------------------------------------
-- Texts
------------------------------------------------------------

namespace SqlTemplate

theorem ofList_ne_empty
    {cs : List Char}
    (hChars : cs ≠ []) :
    String.ofList cs ≠ "" := by
  intro hEmpty
  exact hChars (String.ofList_eq_empty_iff.mp hEmpty)

theorem append_ne_empty_left
    {s : String}
    (t : String)
    (hText : s ≠ "") :
    s ++ t ≠ "" := by
  intro hEmpty
  exact hText (String.append_eq_empty_iff.mp hEmpty).1

theorem append_ne_empty_right
    {t : String}
    (s : String)
    (hText : t ≠ "") :
    s ++ t ≠ "" := by
  intro hEmpty
  exact hText (String.append_eq_empty_iff.mp hEmpty).2

/- A text that is not empty makes up one that is not. -/
theorem intercalate_ne_empty_of_mem
    {texts : List String}
    {s : String}
    (separator : String)
    (hMember : s ∈ texts)
    (hText : s ≠ "") :
    separator.intercalate texts ≠ "" := by
  induction texts with
  | nil => cases hMember
  | cons t texts ih =>
      cases texts with
      | nil =>
          rw [String.intercalate_singleton, ← List.mem_singleton.mp hMember]
          exact hText
      | cons u texts =>
          rw [String.intercalate_cons_cons]
          rcases List.mem_cons.mp hMember with rfl | hRest
          · rw [String.append_assoc]
            exact append_ne_empty_left _ hText
          · exact append_ne_empty_right _ (ih hRest)

/- Texts that are not empty make up one that is not. -/
theorem intercalate_ne_empty
    {texts : List String}
    (separator : String)
    (hSome : texts ≠ [])
    (hTexts : ∀ s ∈ texts, s ≠ "") :
    separator.intercalate texts ≠ "" := by
  rcases List.exists_mem_of_ne_nil texts hSome with ⟨s, hMember⟩
  exact intercalate_ne_empty_of_mem separator hMember (hTexts s hMember)

theorem present_of_ne_empty
    {s : String}
    (hText : s ≠ "") :
    present s = some s :=
  if_neg hText

theorem eq_some_of_present
    {text : Option String}
    {s : String}
    (hPresent : text.bind present = some s) :
    text = some s ∧ s ≠ "" := by
  rw [Option.bind_eq_some_iff] at hPresent
  rcases hPresent with ⟨t, rfl, hPresent⟩
  unfold present at hPresent
  split at hPresent
  · cases hPresent
  · next hText =>
      cases hPresent
      exact ⟨rfl, hText⟩

------------------------------------------------------------
-- Numbers
------------------------------------------------------------

theorem textInt_ne_empty (n : Int) : Digits.textInt n ≠ "" := by
  apply ofList_ne_empty
  cases n with
  | ofNat n => exact decimal_ne_nil n
  | negSucc n => exact List.cons_ne_nil _ _

theorem placePoint_ne_nil
    {ds : List Char}
    (point : Int)
    (hDigits : ds ≠ []) :
    Decimal.placePoint ds point ≠ [] := by
  unfold Decimal.placePoint
  split
  · exact List.cons_ne_nil _ _
  · split
    · exact List.append_ne_nil_of_left_ne_nil hDigits _
    · exact List.append_ne_nil_of_right_ne_nil _ (List.cons_ne_nil _ _)

theorem decimal_toChars_ne_nil (x : Decimal) : x.toChars ≠ [] := by
  cases x with
  | finite negative coefficient exponent =>
      apply List.append_ne_nil_of_right_ne_nil
      unfold Decimal.finiteChars
      dsimp only
      split
      · exact placePoint_ne_nil _ (decimal_ne_nil _)
      · exact List.append_ne_nil_of_left_ne_nil
          (placePoint_ne_nil _ (decimal_ne_nil _)) _
  | infinite negative =>
      exact List.append_ne_nil_of_right_ne_nil _ (by decide)
  | undefined negative signaling payload =>
      apply List.append_ne_nil_of_left_ne_nil
      exact List.append_ne_nil_of_right_ne_nil _ (by decide)

theorem binary_toChars_ne_nil (x : Binary64) : x.toChars ≠ [] := by
  cases x with
  | finite negative significand exponent =>
      apply List.append_ne_nil_of_right_ne_nil
      split
      · decide
      · unfold Binary64.decimalChars
        dsimp only
        split
        · split
          · exact List.append_ne_nil_of_right_ne_nil _ (by decide)
          · exact placePoint_ne_nil _ (decimal_ne_nil _)
        · exact List.append_ne_nil_of_right_ne_nil _
            (List.cons_ne_nil _ _)
  | infinite negative =>
      exact List.append_ne_nil_of_right_ne_nil _ (by decide)
  | undefined => decide

------------------------------------------------------------
-- Literals
------------------------------------------------------------

theorem textLiteral_ne_nil
    (d : Dialect)
    (cs : List Char) :
    d.textLiteral cs ≠ [] :=
  List.cons_ne_nil _ _

theorem bytesLiteral_ne_nil
    (d : Dialect)
    (bs : List UInt8) :
    d.bytesLiteral bs ≠ [] := by
  cases d <;> exact List.cons_ne_nil _ _

theorem literalText_ne_empty
    {d : Dialect}
    {content s : String}
    (hLiteral : Dialect.literal.literalText d content = .ok s) :
    s ≠ "" := by
  unfold Dialect.literal.literalText at hLiteral
  split at hLiteral
  · cases hLiteral
  · cases hLiteral
    exact ofList_ne_empty (textLiteral_ne_nil d _)

/- The literal of a value is not empty. -/
theorem literal_ne_empty
    (d : Dialect) :
    ∀ (v : Value) {s : String}, d.literal v = .ok s → s ≠ ""
| .null, _, rfl => by decide
| .bool b, _, rfl => by cases d <;> cases b <;> decide
| .int n, _, rfl => textInt_ne_empty n
| .float x, _, hLiteral => by
    rw [Dialect.literal] at hLiteral
    split at hLiteral
    · cases hLiteral
      exact ofList_ne_empty (binary_toChars_ne_nil x)
    · cases hLiteral
| .decimal x, _, rfl => ofList_ne_empty (decimal_toChars_ne_nil x)
| .text _, _, hLiteral => literalText_ne_empty hLiteral
| .bytes bs, _, rfl => ofList_ne_empty (bytesLiteral_ne_nil d bs)
| .buffer bs, _, rfl => ofList_ne_empty (bytesLiteral_ne_nil d bs)
| .date _, _, rfl => ofList_ne_empty (textLiteral_ne_nil d _)
| .time _, _, rfl => ofList_ne_empty (textLiteral_ne_nil d _)
| .moment _, _, rfl => ofList_ne_empty (textLiteral_ne_nil d _)
| .member _ _ v, _, hLiteral => literal_ne_empty d v hLiteral
| .intMember _ _ n, _, rfl => textInt_ne_empty n
| .textMember _ _ _, _, hLiteral => literalText_ne_empty hLiteral
| .collection .., _, hLiteral => by cases hLiteral
| .mapping _, _, hLiteral => by cases hLiteral
| .other .., _, hLiteral => by cases hLiteral
termination_by structural v => v

namespace RenderContext

variable {ctx : RenderContext}

theorem ne_empty_of_literal
    {v : Value}
    {s : String}
    (hLiteral : ctx.literal v = .ok s) :
    s ≠ "" :=
  literal_ne_empty ctx.dialect v (mapError_eq_ok.mp hLiteral)

/- The literals of a value that fills its place are not empty. -/
theorem literals_ne_empty
    {v : Value}
    {s : String}
    (hFills : v.isEmptyCollection = false)
    (hLiterals : ctx.literals v = .ok s) :
    s ≠ "" := by
  unfold literals at hLiterals
  split at hLiterals
  next items hItems =>
    rcases map_eq_ok.mp hLiterals with ⟨texts, hTexts, rfl⟩
    have hResults :=
      forall_of_mapM (fun _ _ => ne_empty_of_literal) hTexts
    exact intercalate_ne_empty _
      (hResults.1 (Value.ne_nil_of_items? hItems hFills)) hResults.2
  next => exact ne_empty_of_literal hLiterals

/- The numerals of a value that fills its place are not empty. -/
theorem numerals_ne_empty
    {name : String}
    {v : Value}
    {s : String}
    (hFills : v.isEmptyCollection = false)
    (hNumerals : numerals name v = .ok s) :
    s ≠ "" := by
  rcases runs_of_numerals hNumerals with ⟨runs, hSome, hDigits, rfl⟩
  exact intercalate_ne_empty _ (hSome hFills)
    fun run hRun => (hDigits run hRun).ne_empty

------------------------------------------------------------
-- Names
------------------------------------------------------------

theorem ne_empty_of_name
    {name s : String}
    (hName : ctx.name name = .ok s) :
    s ≠ "" := by
  have hIdentifier := mapError_eq_ok.mp hName
  unfold Dialect.identifier at hIdentifier
  split at hIdentifier
  next hStar =>
    cases hIdentifier
    rw [hStar]
    decide
  next =>
    split at hIdentifier
    next => cases hIdentifier
    next hCheck =>
      cases hIdentifier
      split
      · exact ofList_ne_empty (List.cons_ne_nil _ _)
      · intro hEmpty
        subst hEmpty
        cases hCheck

/- A qualified name is not empty. -/
theorem qualified_ne_empty
    {names : List (Option String)}
    {name s : String}
    (hMember : some name ∈ names)
    (hName : ctx.qualified names = .ok s) :
    s ≠ "" := by
  rcases map_eq_ok.mp hName with ⟨texts, hTexts, rfl⟩
  have hResults := forall_of_mapM (fun _ _ => ne_empty_of_name) hTexts
  have hNames : names.filterMap id ≠ [] :=
    List.ne_nil_of_mem (List.mem_filterMap.mpr ⟨_, hMember, rfl⟩)
  exact intercalate_ne_empty _ (hResults.1 hNames) hResults.2

end RenderContext

------------------------------------------------------------
-- Calls and Tables
------------------------------------------------------------

theorem callText_ne_empty
    (name : String)
    (args : List String)
    (distinct : Bool) :
    callText name args distinct ≠ "" := by
  unfold callText
  exact append_ne_empty_right _ (by decide)

theorem tableText_ne_empty
    {name : String}
    (join label condition : Option String)
    (hName : name ≠ "") :
    tableText join name label condition ≠ "" := by
  apply intercalate_ne_empty_of_mem _ _ hName
  simp

end SqlTemplate
