import Mathlib.Algebra.Order.Ring.Abs
import Mathlib.Tactic.FieldSimp
import Mathlib.Tactic.Linarith
import Mathlib.Tactic.Ring
import SqlTemplate.Grammar.Signs
import SqlTemplate.Proofs.Roundtrip.Rereading

/-
  Minus signs in front of a number mean its exact negative, up
  to the precision of arithmetic.  A whole number and a number
  without a sign have the value that their digits denote.  A
  decimal number with a sign has a nearest one with the
  significant digits that arithmetic keeps.

  Key definitions include:
    * `SelectsValue`

  Correctness is proven by:
    * `Token.exactValue?_numberOf`
    * `divHalfEven_nearest`
    * `isNearest_rounded`
    * `Decimal.exactValue?_negate`
    * `Denotes.signed`
    * `minus_signs_negate_nearest`
-/

------------------------------------------------------------
-- Values of Digits
------------------------------------------------------------

namespace SqlTemplate

/- The digits in front of others count by the place of these. -/
theorem ofDigits_append
    (ds es : List Nat) :
    Digits.ofDigits (ds ++ es) =
      Digits.ofDigits ds * 10 ^ es.length + Digits.ofDigits es := by
  have hFold :
      ∀ k, es.foldl (fun value d => 10 * value + d) k =
        k * 10 ^ es.length + Digits.ofDigits es := by
    induction es with
    | nil => simp [Digits.ofDigits]
    | cons e es ih =>
        intro k
        rw [Digits.ofDigits, List.foldl_cons, List.foldl_cons, ih, ih,
          List.length_cons, Nat.pow_succ]
        ring
  rw [Digits.ofDigits, List.foldl_append, hFold]
  rfl

theorem ofDigits_cons
    (d : Nat)
    (ds : List Nat) :
    Digits.ofDigits (d :: ds) =
      d * 10 ^ ds.length + Digits.ofDigits ds := by
  have hAppend := ofDigits_append [d] ds
  rwa [show Digits.ofDigits [d] = d by simp [Digits.ofDigits]] at hAppend

theorem digitsOf_cons
    {c : Char}
    (cs : List Char)
    (hDigit : Text.isDigit c = true) :
    Token.digitsOf (c :: cs) = Token.digitValue c :: Token.digitsOf cs := by
  rcases Option.isSome_iff_exists.mp hDigit with ⟨d, hValue⟩
  rw [Token.digitsOf, List.filterMap_cons_some hValue, Token.digitValue,
    hValue]
  rfl

/- A digit is no point. -/
theorem ne_point_of_isDigit
    {c : Char}
    (hDigit : Text.isDigit c = true) :
    c ≠ '.' := by
  rintro rfl
  exact absurd hDigit (by decide)

theorem takeWhile_point
    {whole : List Char}
    (rest : List Char)
    (hWhole : whole.all Text.isDigit = true)
    (hRest : ∀ c ∈ rest.head?, c = '.') :
    (whole ++ rest).takeWhile (· != '.') = whole := by
  apply takeWhile_append_of_head
  · rw [List.all_eq_true] at hWhole ⊢
    exact fun c hMember =>
      bne_iff_ne.mpr (ne_point_of_isDigit (hWhole c hMember))
  · intro c hHead
    rw [hRest c hHead]
    rfl

namespace Token

theorem fractionValue_eq
    {cs : List Char}
    (hDigits : cs.all Text.isDigit = true) :
    fractionValue cs = Digits.ofDigits (digitsOf cs) / 10 ^ cs.length := by
  induction cs with
  | nil => simp [fractionValue, digitsOf, Digits.ofDigits]
  | cons c cs ih =>
      rw [List.all_cons, Bool.and_eq_true] at hDigits
      rw [fractionValue, ih hDigits.2, digitsOf_cons cs hDigits.1,
        ofDigits_cons, length_digitsOf hDigits.2, List.length_cons]
      push_cast
      field_simp
      ring

/- The digits before a point, and what follows them. -/
theorem denoted_append
    {whole rest : List Char}
    (hWhole : whole.all Text.isDigit = true)
    (hRest : ∀ c ∈ rest.head?, c = '.') :
    denoted (whole ++ rest) =
      Digits.ofDigits (digitsOf whole) + denoted rest := by
  induction whole with
  | nil => simp [digitsOf, Digits.ofDigits]
  | cons c whole ih =>
      rw [List.all_cons, Bool.and_eq_true] at hWhole
      rw [List.cons_append, denoted, if_neg (ne_point_of_isDigit hWhole.1),
        ih hWhole.2, takeWhile_point rest hWhole.2 hRest,
        digitsOf_cons whole hWhole.1, ofDigits_cons,
        length_digitsOf hWhole.2]
      push_cast
      ring

/- A number without a point is a whole number. -/
theorem numberOf_digits
    {cs : List Char}
    (hDigits : cs.all Text.isDigit = true) :
    numberOf cs = .int (Digits.ofDigits (digitsOf cs)) := by
  have hWhole : cs.takeWhile (· != '.') = cs := by
    have hTake := takeWhile_point [] hDigits nofun
    rwa [List.append_nil] at hTake
  have hRest : cs.dropWhile (· != '.') = [] := by
    have hParts :
        cs.takeWhile (· != '.') ++ cs.dropWhile (· != '.') = cs ++ [] := by
      rw [List.takeWhile_append_dropWhile, List.append_nil]
    rw [hWhole] at hParts
    exact List.append_cancel_left hParts
  rw [numberOf, hRest, hWhole]

/- A number without a sign has the value that its text denotes. -/
theorem exactValue?_numberOf
    {cs : List Char}
    (hNumber : Spelling .number cs) :
    (numberOf cs).exactValue? = some (denoted cs) := by
  rcases hNumber.number_cases with
    ⟨c, cs, rfl, hDigits⟩ | ⟨c, cs, d, ds, rfl, hWhole, hFraction⟩
  · have hValue : denoted (c :: cs ++ []) = _ :=
      denoted_append hDigits nofun
    rw [List.append_nil, denoted, add_zero] at hValue
    rw [numberOf_digits hDigits, hValue]
    rfl
  · have hPoint : ∀ c ∈ ('.' :: d :: ds).head?, c = '.' := by
      rintro c ⟨⟩
      rfl
    rw [numberOf_pointed (d :: ds) hWhole, denoted_append hWhole hPoint,
      denoted, if_pos rfl, fractionValue_eq hFraction, Value.exactValue?,
      Decimal.ofParts, Decimal.exactValue?, ofDigits_append,
      length_digitsOf hFraction, zpow_neg, zpow_natCast]
    push_cast
    congr 1
    field_simp

end Token

------------------------------------------------------------
-- Rounding
------------------------------------------------------------

/- Rounding a quotient by one changes nothing. -/
theorem divHalfEven_one
    (n : Nat) : divHalfEven n 1 = n := by
  simp [divHalfEven, Nat.mod_one]

/- No multiple of the divisor is nearer than the rounded one. -/
theorem divHalfEven_nearest
    (num : Nat)
    {den : Nat}
    (hDen : 0 < den)
    (m : Int) :
    |(divHalfEven num den * den - num : Int)| ≤ |(m * den - num : Int)| := by
  have hSplit : (den * (num / den : Nat) + (num % den : Nat) : Int) = num := by
    exact_mod_cast Nat.div_add_mod num den
  have hRest : num % den < den := Nat.mod_lt num hDen
  -- A multiple is at most the quotient's or at least the next one's.
  have hFar :
      (num % den : Nat) ≤ |(m * den - num : Int)| ∨
        (den - (num % den : Nat) : Int) ≤ |(m * den - num : Int)| := by
    rcases le_or_gt m (num / den : Nat) with hBelow | hAbove
    · left
      have hMultiple := Int.mul_le_mul_of_nonneg_right hBelow
        (Int.natCast_nonneg den)
      exact le_abs.mpr (.inr (by linarith))
    · right
      have hMultiple := Int.mul_le_mul_of_nonneg_right
        (Int.add_one_le_of_lt hAbove) (Int.natCast_nonneg den)
      exact le_abs.mpr (.inl (by linarith))
  unfold divHalfEven
  dsimp only
  split
  next hUp =>
    have hHalf : den ≤ 2 * (num % den) := by
      simp only [Bool.or_eq_true, Bool.and_eq_true, decide_eq_true_eq,
        beq_iff_eq] at hUp
      omega
    have hDistance :
        ((num / den + 1 : Nat) * den - num : Int) = den - (num % den : Nat) := by
      push_cast at hSplit ⊢
      linarith
    rw [hDistance, abs_of_nonneg (by omega)]
    omega
  next hDown =>
    have hHalf : 2 * (num % den) ≤ den := by
      simp only [Bool.or_eq_true, Bool.and_eq_true, decide_eq_true_eq,
        beq_iff_eq] at hDown
      omega
    have hDistance :
        ((num / den : Nat) * den - num : Int) = -(num % den : Nat) := by
      linarith
    rw [hDistance, abs_neg, abs_of_nonneg (by omega)]
    omega

/- The value of a rounded number, from its rounded coefficient. -/
theorem rounded_value
    {coefficient excess : Nat}
    (hExcess :
      (Digits.decimal coefficient).length - Decimal.precision = excess)
    (exponent : Int) :
    ((Decimal.rounded coefficient exponent).1 : ℚ) *
        10 ^ (Decimal.rounded coefficient exponent).2 =
      divHalfEven coefficient (10 ^ excess) *
        10 ^ (exponent + (excess : Int)) := by
  unfold Decimal.rounded
  dsimp only
  rw [hExcess]
  split
  next hShort =>
    rw [hShort, Nat.pow_zero, divHalfEven_one, Nat.cast_zero, add_zero]
  next =>
    split
    next hCarry =>
      -- The carry moves a power of ten from the coefficient.
      have hPower :
          divHalfEven coefficient (10 ^ excess) = 10 ^ Decimal.precision :=
        hCarry
      have hTen : (10 : ℚ) ≠ 0 := by norm_num
      rw [hPower, zpow_add_one₀ hTen, ← mul_assoc, mul_right_comm]
      congr 1
      push_cast [Nat.pow_eq]
      rw [← pow_succ]
      rfl
    next => rfl

/- A rounded number has no more digits than arithmetic keeps. -/
theorem rounded_lt
    (coefficient : Nat)
    (exponent : Int) :
    (Decimal.rounded coefficient exponent).1 < 10 ^ Decimal.precision := by
  have hPrecision : 0 < Decimal.precision := by decide
  by_cases hSome : coefficient = 0
  · subst hSome
    exact Nat.pow_pos (by decide)
  · rw [← length_decimal_le_iff hPrecision]
    exact (rounded_keeps hSome exponent).2

/- Zeros at the end of a coefficient go into its exponent. -/
theorem shifted_value
    (c k : Nat)
    (e : Int) :
    ((c * 10 ^ k : Nat) : ℚ) * 10 ^ e = c * 10 ^ (e + (k : Int)) := by
  have hTen : (10 : ℚ) ≠ 0 := by norm_num
  rw [zpow_add₀ hTen, zpow_natCast]
  push_cast
  ring

theorem tens_pos
    (e : Int) : (0 : ℚ) < 10 ^ e :=
  zpow_pos (by norm_num) e

/- No multiple of what its last digit counts is nearer to a number. -/
theorem nearest_multiple
    (coefficient excess : Nat)
    (e : Int)
    (m : Nat) :
    |(divHalfEven coefficient (10 ^ excess) : ℚ) * 10 ^ (e + (excess : Int)) -
        coefficient * 10 ^ e| ≤
      |(m : ℚ) * 10 ^ (e + (excess : Int)) - coefficient * 10 ^ e| := by
  have hDistance :
      ∀ m : Nat,
        |(m : ℚ) * 10 ^ (e + (excess : Int)) - coefficient * 10 ^ e| =
          (|m * (10 ^ excess : Nat) - coefficient| : Int) * 10 ^ e := by
    intro m
    rw [← shifted_value, ← sub_mul, abs_mul, abs_of_pos (tens_pos e)]
    push_cast
    rfl
  have hUnit : 0 < 10 ^ excess := Nat.pow_pos (by decide)
  have hNearest := divHalfEven_nearest coefficient hUnit m
  rw [hDistance, hDistance]
  exact mul_le_mul_of_nonneg_right (by exact_mod_cast hNearest)
    (tens_pos e).le

/- A value with few digits that count little is small. -/
theorem le_least_of_lt
    {c : Nat}
    {e unit : Int}
    (hDigits : c < 10 ^ Decimal.precision)
    (hFine : e < unit) :
    (c : ℚ) * 10 ^ e ≤
      ((10 ^ (Decimal.precision - 1) : Nat) : ℚ) * 10 ^ unit := by
  have hPrecision : 0 < Decimal.precision := by decide
  have hPower : (10 : ℚ) ^ e ≤ 10 ^ (unit - 1) :=
    zpow_le_zpow_right₀ (by norm_num) (by omega)
  have hCarry := shifted_value (10 ^ (Decimal.precision - 1)) 1 (unit - 1)
  rw [← Nat.pow_add, Nat.sub_add_cancel hPrecision, Nat.cast_one,
    sub_add_cancel] at hCarry
  rw [← hCarry]
  exact mul_le_mul (by exact_mod_cast hDigits.le) hPower
    (tens_pos e).le (Nat.cast_nonneg _)

/- A number with too many digits is not as small. -/
theorem least_le_of_long
    {coefficient excess : Nat}
    (hExcess :
      (Digits.decimal coefficient).length - Decimal.precision = excess)
    (hLong : excess ≠ 0)
    (exponent : Int) :
    ((10 ^ (Decimal.precision - 1) : Nat) : ℚ) *
        10 ^ (exponent + (excess : Int)) ≤
      coefficient * 10 ^ exponent := by
  have hPrecision : 0 < Decimal.precision := by decide
  have hLeast :
      10 ^ (Decimal.precision - 1) * 10 ^ excess ≤ coefficient := by
    rw [← Nat.pow_add, ← Nat.not_lt, ← length_decimal_le_iff (by omega)]
    omega
  rw [← shifted_value]
  exact mul_le_mul_of_nonneg_right (by exact_mod_cast hLeast)
    (tens_pos exponent).le

/-
  A rounded number is a nearest one.  A value whose last digit
  counts at least as much is a multiple of what the last digit
  that is kept counts.  The others are too small to be nearer
  than the least number with as many digits.
-/
theorem isNearest_rounded
    (coefficient : Nat)
    (exponent : Int) :
    IsNearest Decimal.precision (coefficient * 10 ^ exponent)
      ((Decimal.rounded coefficient exponent).1 *
        10 ^ (Decimal.rounded coefficient exponent).2) := by
  obtain ⟨excess, hExcess⟩ :
      ∃ excess,
        (Digits.decimal coefficient).length - Decimal.precision = excess :=
    ⟨_, rfl⟩
  refine ⟨⟨_, _, rounded_lt coefficient exponent, rfl⟩, ?_⟩
  rintro _ ⟨c, e, hDigits, rfl⟩
  rw [rounded_value hExcess]
  rcases le_or_gt (exponent + excess) e with hCoarse | hFine
  · obtain ⟨k, rfl⟩ := Int.le.dest hCoarse
    rw [← shifted_value c k]
    exact nearest_multiple coefficient excess exponent _
  · by_cases hShort : excess = 0
    · subst hShort
      rw [Nat.pow_zero, divHalfEven_one, Nat.cast_zero, add_zero, sub_self,
        abs_zero]
      exact abs_nonneg _
    · have hLeast := least_le_of_long hExcess hShort exponent
      have hSmall := le_least_of_lt hDigits hFine
      refine (nearest_multiple coefficient excess exponent
        (10 ^ (Decimal.precision - 1))).trans ?_
      rw [abs_of_nonpos (sub_nonpos.mpr hLeast),
        abs_of_nonpos (sub_nonpos.mpr (hSmall.trans hLeast))]
      exact neg_le_neg (sub_le_sub_right hSmall _)

/- A nearest value is the value itself if that has few enough digits. -/
theorem IsNearest.eq_iff
    {precision : Nat}
    {q r : ℚ}
    (hNearest : IsNearest precision q r) :
    r = q ↔ HasDigits precision q := by
  constructor
  · rintro rfl
    exact hNearest.hasDigits
  · intro hDigits
    have hDistance := hNearest.nearest q hDigits
    rw [sub_self, abs_zero] at hDistance
    exact sub_eq_zero.mp (abs_nonpos_iff.mp hDistance)

------------------------------------------------------------
-- Negatives
------------------------------------------------------------

/- Rounding a second time changes nothing. -/
theorem rounded_of_lt
    {coefficient : Nat}
    (hShort : coefficient < 10 ^ Decimal.precision)
    (exponent : Int) :
    Decimal.rounded coefficient exponent = (coefficient, exponent) := by
  have hPrecision : 0 < Decimal.precision := by decide
  rw [← length_decimal_le_iff hPrecision] at hShort
  unfold Decimal.rounded
  exact if_pos (Nat.sub_eq_zero_of_le hShort)

/- The negative of a number is rounded and has the other sign. -/
theorem Decimal.exactValue?_negate
    {coefficient c : Nat}
    {exponent e : Int}
    (negative : Bool)
    (hRounded : rounded coefficient exponent = (c, e)) :
    (finite negative coefficient exponent).negate.exactValue? =
      some (-((if negative then (-1 : ℚ) else 1) * (c * 10 ^ e))) := by
  by_cases hZero : coefficient = 0
  · subst hZero
    have hNothing : c = 0 := (congrArg Prod.fst hRounded).symm
    simp [negate, exactValue?, hRounded, hNothing]
  · cases negative <;> simp [negate, exactValue?, hZero, hRounded]

namespace Node

/- Signs in front of a whole number. -/
theorem negative_int
    (k : Int)
    (n : Nat) :
    negative^[n] (.literal (.int k)) = .literal (.int ((-1) ^ n * k)) := by
  induction n with
  | zero => simp
  | succ n ih =>
      rw [Function.iterate_succ_apply', ih, negative, pow_succ]
      ring_nf

/-
  Signs in front of a decimal number.  The first one rounds it,
  and the others find nothing more to round.
-/
theorem negative_decimal
    {coefficient c : Nat}
    {exponent e : Int}
    (hRounded : Decimal.rounded coefficient exponent = (c, e))
    (n : Nat) :
    ∃ sign : Bool,
      negative^[n + 1]
          (.literal (.decimal (.finite false coefficient exponent))) =
        .literal (.decimal (.finite sign c e)) ∧
        (Decimal.finite sign c e).exactValue? =
          some ((-1 : ℚ) ^ (n + 1) * (c * 10 ^ e)) := by
  induction n with
  | zero =>
      have hValue := Decimal.exactValue?_negate false hRounded
      rw [Decimal.negate, hRounded] at hValue
      refine ⟨_, ?_, hValue.trans ?_⟩
      · rw [zero_add, Function.iterate_one, negative, Decimal.negate, hRounded]
      · simp
  | succ n ih =>
      rcases ih with ⟨sign, hNode, hValue⟩
      have hShort := rounded_lt coefficient exponent
      rw [hRounded] at hShort
      have hAgain := rounded_of_lt hShort e
      have hNegative := Decimal.exactValue?_negate sign hAgain
      rw [Decimal.negate, hAgain] at hNegative
      refine ⟨_, ?_, hNegative.trans ?_⟩
      · rw [Function.iterate_succ_apply', hNode, negative, Decimal.negate,
          hAgain]
      · rw [Decimal.exactValue?, Option.some.injEq] at hValue
        rw [hValue, pow_succ _ (n + 1), mul_neg_one, neg_mul]

end Node

------------------------------------------------------------
-- Signs
------------------------------------------------------------

/- Blanks in front of a phrase mean nothing. -/
theorem Denotes.blanks
    {e : Option NumeralError}
    {s : Symbol}
    {gap cs : List Char}
    {m : s.Meaning}
    (hGap : gap.all isLayout = true)
    (hText : Denotes e s cs m) :
    Denotes e s (gap ++ cs) m := by
  induction gap with
  | nil => exact hText
  | cons c gap ih =>
      rw [List.all_cons, Bool.and_eq_true] at hGap
      exact .blank hGap.1 (ih hGap.2)

/- A number with signs denotes its negative, taken that often. -/
theorem Denotes.signed
    {digits text : List Char}
    {n : Nat}
    (hNumber : Token.Spelling .number digits)
    (hText : Token.Signed digits n text) :
    Denotes (numberError? digits) (.phrase .signed) text
      (Node.negative^[n] (.literal (Token.numberOf digits))) := by
  induction hText with
  | bare => exact .of_rule .atomExpr rfl (.last (.number hNumber))
  | @sign n text gap hGap hApart hText ih =>
      have hHead : (gap ++ text).head? ≠ some '-' := by
        cases gap with
        | cons c gap =>
            rw [List.all_cons, Bool.and_eq_true] at hGap
            intro hMinus
            cases hMinus
            exact absurd hGap.1 (by decide)
        | nil =>
            have hBare : n = 0 := by
              by_contra hSome
              exact hApart hSome rfl
            subst hBare
            cases hText
            have hFirst := Token.head?_number hNumber []
            rwa [List.append_nil] at hFirst
      rw [Function.iterate_succ_apply']
      exact .of_rule .negate rfl (.minus hHead (.last (ih.blanks hGap)))

/- Signs and a number are selected, unless the number has an error. -/
theorem parse_signed
    {digits text : List Char}
    {n : Nat}
    (hNumber : Token.Spelling .number digits)
    (hText : Token.Signed digits n text) :
    parse ("SELECT " ++ String.ofList text) =
      (numberError? digits).elim
        (.ok (.select (Query.ofColumn
          (Node.negative^[n] (.literal (Token.numberOf digits))))))
        fun e => .error (.numeral e) := by
  rw [parse, String.toList_append,
    show (String.ofList text).toList = text from String.toList_ofList]
  exact parseChars_of_denotes
    (Denotes.signed hNumber hText).expr_of_signed.selected

/- The error of a number is that it has too many digits and no point. -/
theorem numberError?_eq
    (digits : List Char) :
    numberError? digits =
      if '.' ∉ digits ∧ NumeralError.maxDigits < digits.length then
        some (.tooManyDigits digits.length)
      else
        none := by
  unfold numberError? wholeError?
  by_cases hPoint : '.' ∈ digits <;> simp [hPoint]

/- A number with a point has a decimal value. -/
theorem exists_decimal
    {digits : List Char}
    (hNumber : Token.Spelling .number digits)
    (hPoint : '.' ∈ digits) :
    ∃ (coefficient : Nat) (exponent : Int),
      Token.numberOf digits =
        .decimal (.finite false coefficient exponent) := by
  rcases hNumber.number_cases with
    ⟨c, cs, rfl, hDigits⟩ | ⟨c, cs, d, ds, rfl, hWhole, _⟩
  · exact absurd rfl
      (ne_point_of_isDigit (List.all_eq_true.mp hDigits _ hPoint))
  · exact ⟨_, _, numberOf_pointed (d :: ds) hWhole⟩

------------------------------------------------------------
-- Correctness
------------------------------------------------------------

/- A text is selected as a constant that has an exact value. -/
def SelectsValue
    (text : List Char)
    (q : ℚ) : Prop :=
  ∃ v,
    parse ("SELECT " ++ String.ofList text) =
        .ok (.select (Query.ofColumn (.literal v))) ∧
      v.exactValue? = some q

/- A text that denotes a literal is selected as its value. -/
theorem selectsValue_of_signed
    {digits text : List Char}
    {n : Nat}
    {v : Value}
    {q : ℚ}
    (hNumber : Token.Spelling .number digits)
    (hText : Token.Signed digits n text)
    (hFits : numberError? digits = none)
    (hNode :
      Node.negative^[n] (.literal (Token.numberOf digits)) = .literal v)
    (hValue : v.exactValue? = some q) :
    SelectsValue text q := by
  refine ⟨v, ?_, hValue⟩
  rw [parse_signed hNumber hText, hFits, hNode]
  rfl

/- Signs in front of a whole number make its exact negative. -/
theorem selectsValue_whole
    {digits text : List Char}
    {n : Nat}
    (hNumber : Token.Spelling .number digits)
    (hText : Token.Signed digits n text)
    (hPoint : '.' ∉ digits)
    (hFits : digits.length ≤ NumeralError.maxDigits) :
    SelectsValue text ((-1) ^ n * Token.denoted digits) := by
  have hExact := Token.exactValue?_numberOf hNumber
  have hNone : numberError? digits = none := by
    rw [numberError?_eq, if_neg fun hLong => Nat.not_lt.mpr hFits hLong.2]
  rcases hNumber.number_cases with
    ⟨c, cs, rfl, hDigits⟩ | ⟨c, cs, d, ds, rfl, _⟩
  · have hValue := Token.numberOf_digits hDigits
    rw [hValue, Value.exactValue?, Option.some.injEq] at hExact
    have hNode :=
      Node.negative_int (Digits.ofDigits (Token.digitsOf (c :: cs))) n
    rw [← hValue] at hNode
    refine selectsValue_of_signed hNumber hText hNone hNode ?_
    rw [Value.exactValue?, ← hExact]
    push_cast
    rfl
  · exact absurd (List.mem_append_right _ List.mem_cons_self) hPoint

/-
  Signs in front of a whole number stand for the value of its
  digits, with the sign that the number of signs asks for,
  unless the number has too many digits to be read.  Signs in
  front of a number with a point stand for one nearest value
  with the significant digits that arithmetic keeps.  This is
  the value of the digits just if they need no more digits than
  that.  Without any sign the number has the value of its digits.
-/
theorem minus_signs_negate_nearest
    {digits : List Char}
    (hNumber : Token.Spelling .number digits) :
    ('.' ∉ digits →
      ∀ n text, Token.Signed digits n text →
        if NumeralError.maxDigits < digits.length then
          parse ("SELECT " ++ String.ofList text) =
            .error (.numeral (.tooManyDigits digits.length))
        else
          SelectsValue text ((-1) ^ n * Token.denoted digits)) ∧
      ('.' ∈ digits →
        ∃ r,
          IsNearest Decimal.precision (Token.denoted digits) r ∧
            (r = Token.denoted digits ↔
              HasDigits Decimal.precision (Token.denoted digits)) ∧
              ∀ n text, Token.Signed digits n text →
                SelectsValue text
                  ((-1) ^ n * (if n = 0 then Token.denoted digits else r))) := by
  refine ⟨fun hPoint n text hText => ?_, fun hPoint => ?_⟩
  · split
    next hLong =>
      rw [parse_signed hNumber hText, numberError?_eq,
        if_pos ⟨hPoint, hLong⟩]
      rfl
    next hFits =>
      exact selectsValue_whole hNumber hText hPoint (Nat.not_lt.mp hFits)
  · have hNone : numberError? digits = none := by
      rw [numberError?_eq, if_neg fun hWhole => hWhole.1 hPoint]
    rcases exists_decimal hNumber hPoint with ⟨coefficient, exponent, hValue⟩
    rcases hRounded : Decimal.rounded coefficient exponent with ⟨c, e⟩
    have hNearest := isNearest_rounded coefficient exponent
    have hUnsigned := Token.exactValue?_numberOf hNumber
    have hExact := hUnsigned
    rw [hValue, Value.exactValue?, Decimal.exactValue?, Option.some.injEq] at hExact
    simp only [Bool.false_eq_true, ↓reduceIte, one_mul] at hExact
    rw [hRounded, hExact] at hNearest
    refine ⟨_, hNearest, hNearest.eq_iff, fun n text hText => ?_⟩
    cases n with
    | zero =>
        rw [if_pos rfl, pow_zero, one_mul]
        exact selectsValue_of_signed hNumber hText hNone rfl hUnsigned
    | succ n =>
        rcases Node.negative_decimal hRounded n with ⟨sign, hNode, hSigned⟩
        rw [← hValue] at hNode
        exact selectsValue_of_signed hNumber hText hNone hNode hSigned

theorem minus_signs_negate_nearest_of_three :
    let digits := ['1'] ++ '.' :: ['5', '0']
    Token.Spelling .number digits ∧ '.' ∈ digits ∧
      Token.Signed digits 3 "- - -1.50".toList ∧
        ∃ r, IsNearest Decimal.precision (Token.denoted digits) r ∧
          SelectsValue "- - -1.50".toList ((-1) ^ 3 * r) := by
  intro digits
  have hNumber : Token.Spelling .number digits :=
    spelling_pointed (by decide) (by decide) (by decide) (by decide)
  have hPoint : '.' ∈ digits := by decide
  have hText : Token.Signed digits 3 "- - -1.50".toList :=
    .sign [' '] rfl (by decide) (.sign [' '] rfl (by decide)
      (.sign [] rfl (by decide) .bare))
  rcases (minus_signs_negate_nearest hNumber).2 hPoint with
    ⟨r, hNearest, _, hSelects⟩
  exact ⟨hNumber, hPoint, hText, r, hNearest, hSelects 3 _ hText⟩

/-
  A number of 29 digits after its point, with one sign, is
  selected with its last digit rounded away.
-/
theorem minus_sign_rounds_long_number :
    let digits := ['0'] ++ '.' :: "12345678901234567890123456789".toList
    let rounded := Decimal.finite true 1234567890123456789012345679 (-28)
    Token.Spelling .number digits ∧
      Token.Signed digits 1 ('-' :: digits) ∧
        parse ("SELECT " ++ String.ofList ('-' :: digits)) =
            .ok (.select (Query.ofColumn (.literal (.decimal rounded)))) ∧
          ¬ SelectsValue ('-' :: digits) ((-1) ^ 1 * Token.denoted digits) := by
  intro digits rounded
  have hNumber : Token.Spelling .number digits :=
    spelling_pointed (by decide) (by decide) (by decide) (by decide)
  have hText : Token.Signed digits 1 ('-' :: digits) :=
    .sign [] rfl (by decide) .bare
  have hValue :
      Token.numberOf digits =
        .decimal (.finite false 12345678901234567890123456789 (-29)) :=
    rfl
  have hNegative :
      (Decimal.finite false 12345678901234567890123456789 (-29)).negate =
        rounded := by
    decide +kernel
  have hParse :
      parse ("SELECT " ++ String.ofList ('-' :: digits)) =
        .ok (.select (Query.ofColumn (.literal (.decimal rounded)))) := by
    rw [parse_signed hNumber hText, Function.iterate_one, hValue,
      Node.negative, hNegative]
    rfl
  refine ⟨hNumber, hText, hParse, ?_⟩
  rintro ⟨v, hOther, hSelected⟩
  have hSame := Query.eq_of_ofColumn
    (Node.select.inj (Except.ok.inj (hParse.symm.trans hOther)))
  have hDenoted := Token.exactValue?_numberOf hNumber
  rw [hValue, Value.exactValue?, Decimal.exactValue?, Option.some.injEq] at hDenoted
  rw [← Node.literal.inj hSame, ← hDenoted, Value.exactValue?, Decimal.exactValue?,
    Option.some.injEq] at hSelected
  norm_num at hSelected

end SqlTemplate
