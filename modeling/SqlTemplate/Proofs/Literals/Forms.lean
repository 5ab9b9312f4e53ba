import SqlTemplate.Proofs.Literals.Reading
import SqlTemplate.Proofs.Rendering.Presence
import SqlTemplate.Rendering.Failure

/-
  A value is written as one literal or not at all.  Numbers of
  every kind are numerals, texts and times are closed string
  literals, and bytes are closed binary literals; the one
  exception are infinite and undefined decimal numbers, which
  are written as bare words.

  Key definitions include:
    * `IsPositional`
    * `opensLiteral`

  Correctness is proven by:
    * `numeral_decimal`
    * `numeral_binary`
    * `Dialect.binary_bytesLiteral`
    * `Dialect.opens_of_literal`
    * `bounded_values_are_literals`
-/

------------------------------------------------------------
-- Digits
------------------------------------------------------------

namespace SqlTemplate

theorem digits_zeros
    (n : Nat) : ∀ c ∈ List.replicate n '0', c.isDigit = true := by
  intro c hMember
  rw [(List.mem_replicate.mp hMember).2]
  rfl

namespace IsDigits

variable {cs ds : List Char}

/- Zeros in front of digits are digits. -/
theorem after_zeros
    (hDigits : IsDigits ds)
    (n : Nat) : IsDigits (List.replicate n '0' ++ ds) :=
  ⟨List.append_ne_nil_of_right_ne_nil _ hDigits.1,
    List.forall_mem_append.mpr ⟨digits_zeros n, hDigits.2⟩⟩

/- Zeros behind digits are digits. -/
theorem before_zeros
    (hDigits : IsDigits ds)
    (n : Nat) : IsDigits (ds ++ List.replicate n '0') :=
  ⟨List.append_ne_nil_of_left_ne_nil hDigits.1 _,
    List.forall_mem_append.mpr ⟨hDigits.2, digits_zeros n⟩⟩

theorem take
    (hDigits : IsDigits ds)
    {n : Nat}
    (hSome : 0 < n) : IsDigits (ds.take n) := by
  refine ⟨?_, fun c hMember => hDigits.2 c (List.mem_of_mem_take hMember)⟩
  rw [ne_eq, List.take_eq_nil_iff]
  rintro (hNone | hEmpty)
  · omega
  · exact hDigits.1 hEmpty

theorem drop
    (hDigits : IsDigits ds)
    {n : Nat}
    (hLeft : n < ds.length) : IsDigits (ds.drop n) := by
  refine ⟨?_, fun c hMember => hDigits.2 c (List.mem_of_mem_drop hMember)⟩
  rw [ne_eq, List.drop_eq_nil_iff]
  omega

end IsDigits

theorem digits_fixed
    (width n : Nat) : IsDigits (Digits.fixed width n) :=
  (digits_decimal n).after_zeros _

------------------------------------------------------------
-- Numerals
------------------------------------------------------------

/- Digits with a fraction or without one. -/
inductive IsPositional : List Char → Prop where
| parts
    {whole fraction : List Char}
    (hWhole : IsDigits whole)
    (hFraction : IsFraction fraction) :
    IsPositional (whole ++ fraction)

theorem positional_placePoint
    {ds : List Char}
    (hDigits : IsDigits ds)
    (point : Int) : IsPositional (Decimal.placePoint ds point) := by
  unfold Decimal.placePoint
  split
  next =>
    have hZero : IsDigits ['0'] := digits_decimal 0
    exact .parts hZero (.digits (hDigits.after_zeros _))
  next hPoint =>
    split
    next =>
      rw [← List.append_nil (ds ++ _)]
      exact .parts (hDigits.before_zeros _) .absent
    next hLength =>
      exact .parts (hDigits.take (by omega)) (.digits (hDigits.drop (by omega)))

/- A point behind all the digits leaves them whole. -/
theorem digits_placePoint
    {ds : List Char}
    (hDigits : IsDigits ds)
    {point : Int}
    (hPoint : (ds.length : Int) ≤ point) :
    IsDigits (Decimal.placePoint ds point) := by
  have hLength := List.length_pos_iff.mpr hDigits.1
  rw [Decimal.placePoint, if_neg (by omega), if_pos (by omega)]
  exact hDigits.before_zeros _

theorem sign_signChars
    (negative : Bool) : IsSign (Decimal.signChars negative) := by
  cases negative with
  | false => exact .absent
  | true => exact .minus

/- Digits with a sign in front and an exponent behind. -/
theorem IsPositional.numeral
    {cs sign exponent : List Char}
    (hPositional : IsPositional cs)
    (hSign : IsSign sign)
    (hExponent : IsExponent exponent) :
    IsNumeral (sign ++ (cs ++ exponent)) := by
  cases hPositional with
  | parts hWhole hFraction =>
      rw [List.append_assoc]
      exact .parts hSign hWhole hFraction hExponent

theorem IsPositional.signed
    {cs : List Char}
    (hPositional : IsPositional cs)
    (negative : Bool) :
    IsNumeral (Decimal.signChars negative ++ cs) := by
  rw [← List.append_nil cs]
  exact hPositional.numeral (sign_signChars negative) .absent

theorem positional_decimal
    (n : Nat) : IsPositional (Digits.decimal n) := by
  rw [← List.append_nil (Digits.decimal n)]
  exact .parts (digits_decimal n) .absent

theorem numeral_int
    (n : Int) : IsNumeral (Digits.decimalInt n) := by
  cases n with
  | ofNat n => exact (positional_decimal n).signed false
  | negSucc n => exact (positional_decimal (n + 1)).signed true

/- An exponent always has a sign. -/
theorem exponent_signed
    {letter : Char}
    {ds : List Char}
    (hLetter : letter = 'e' ∨ letter = 'E')
    (e : Int)
    (hDigits : IsDigits ds) :
    IsExponent (letter :: (if e < 0 then '-' else '+') :: ds) := by
  split
  · exact .digits hLetter .minus hDigits
  · exact .digits hLetter .plus hDigits

/- Finite decimal numbers are numerals. -/
theorem numeral_decimal
    (negative : Bool)
    (coefficient : Nat)
    (exponent : Int) :
    IsNumeral (Decimal.finite negative coefficient exponent).toChars := by
  have hPlaced := positional_placePoint (digits_decimal coefficient)
  rw [Decimal.toChars, Decimal.finiteChars]
  split
  next => exact (hPlaced _).signed negative
  next =>
    apply (hPlaced 1).numeral (sign_signChars negative)
    split
    next => exact .absent
    next => exact exponent_signed (.inr rfl) _ (digits_decimal _)

/- Finite floating-point numbers are numerals. -/
theorem numeral_binary
    {x : Binary64}
    (hFinite : x.isFinite = true) :
    IsNumeral x.toChars := by
  cases x with
  | finite negative significand exponent =>
      rw [Binary64.toChars]
      split
      next =>
        have hZero : IsFraction ['.', '0'] := .digits (digits_decimal 0)
        exact (IsPositional.parts (digits_decimal 0) hZero).signed negative
      next =>
        generalize Binary64.shortest significand exponent = found
        have hPlaced := positional_placePoint (digits_decimal found.1)
        dsimp only
        rw [Binary64.decimalChars]
        dsimp only
        split
        next =>
          split
          next hWhole =>
            have hZero : IsFraction ['.', '0'] := .digits (digits_decimal 0)
            exact (IsPositional.parts
              (digits_placePoint (digits_decimal found.1) hWhole) hZero).signed
                negative
          next => exact (hPlaced _).signed negative
        next =>
          exact (hPlaced 1).numeral (sign_signChars negative)
            (exponent_signed (.inl rfl) _ (digits_fixed 2 _))
  | infinite negative => cases hFinite
  | undefined => cases hFinite

------------------------------------------------------------
-- Binary Literals
------------------------------------------------------------

/- A byte is written as two hexadecimal digits. -/
theorem hex_byte
    (b : UInt8) :
    ∃ high low, Digits.hexUpper 2 b.toNat = [high, low] ∧
      isHexDigit high = true ∧ isHexDigit low = true := by
  have hAll :
      ∀ n < 256, (Digits.hexUpper 2 n).length = 2 ∧
        (Digits.hexUpper 2 n).all isHexDigit = true := by
    decide +kernel
  rcases hAll b.toNat b.toNat_lt with ⟨hLength, hDigits⟩
  rcases List.length_eq_two.mp hLength with ⟨high, low, hPair⟩
  rw [hPair, List.all_cons, List.all_cons, List.all_nil, Bool.and_true,
    Bool.and_eq_true] at hDigits
  exact ⟨high, low, hPair, hDigits⟩

/- Bytes are pairs of hexadecimal digits, marked or not. -/
theorem hex_bytes
    (mark : List Char)
    (bs : List UInt8) :
    IsHex mark (bs.flatMap fun b => mark ++ Digits.hexUpper 2 b.toNat) := by
  induction bs with
  | nil => exact .empty
  | cons b bs ih =>
      rcases hex_byte b with ⟨high, low, hPair, hHigh, hLow⟩
      rw [List.flatMap_cons, hPair, List.append_assoc]
      exact .byte hHigh hLow ih

namespace Dialect

variable {d : Dialect}

/- Bytes have a closed binary literal in every dialect. -/
theorem binary_bytesLiteral
    (bs : List UInt8) : d.IsBinary (d.bytesLiteral bs) := by
  refine ⟨_, hex_bytes d.binaryFrame.2.1 bs, ?_⟩
  have hPairs :
      (bs.map fun b => Digits.hexUpper 2 b.toNat).flatten =
        bs.flatMap fun b => [] ++ Digits.hexUpper 2 b.toNat :=
    rfl
  have hMarked :
      ((bs.map fun b => Digits.hexUpper 2 b.toNat).flatMap fun pair =>
          '\\' :: 'x' :: pair) =
        bs.flatMap fun b => "\\x".toList ++ Digits.hexUpper 2 b.toNat := by
    rw [List.flatMap_map]
    rfl
  cases d with
  | mysql | sqlite | postgresql =>
      rw [bytesLiteral, hPairs]
      rfl
  | duckdb =>
      rw [bytesLiteral, hMarked]
      rfl

------------------------------------------------------------
-- Texts that Are No Literals
------------------------------------------------------------

/- A literal is a known word or starts with a digit or a quote. -/
def opensLiteral (cs : List Char) : Bool :=
  match cs with
  | '\'' :: _ => true
  | 'X' :: _ => true
  | '-' :: c :: _ => c.isDigit
  | '+' :: c :: _ => c.isDigit
  | c :: _ =>
      c.isDigit ||
        ["NULL".toList, "TRUE".toList, "FALSE".toList].contains cs
  | [] => false

/- A digit is none of the characters that other literals start with. -/
theorem opens_digit
    {c : Char}
    (hDigit : c.isDigit = true)
    (cs : List Char) :
    opensLiteral (c :: cs) = true := by
  unfold opensLiteral
  split
  next => rfl
  next => rfl
  next hCons =>
    cases hCons
    cases hDigit
  next hCons =>
    cases hCons
    cases hDigit
  next hCons =>
    cases hCons
    rw [hDigit, Bool.true_or]
  next hCons => cases hCons

theorem opens_numeral
    {cs : List Char}
    (hNumeral : IsNumeral cs) :
    opensLiteral cs = true := by
  cases hNumeral with
  | @parts sign whole _ _ hSign hWhole _ _ =>
      cases whole with
      | nil => exact absurd rfl hWhole.1
      | cons c whole =>
          have hDigit := hWhole.2 c (List.mem_cons_self ..)
          cases hSign with
          | absent => exact opens_digit hDigit _
          | plus => exact hDigit
          | minus => exact hDigit

theorem opens_of_literal
    {cs : List Char}
    (hLiteral : d.IsLiteral cs) :
    opensLiteral cs = true := by
  cases hLiteral with
  | null => rfl
  | truth hWord hDialect =>
      rcases hWord with rfl | rfl <;> rfl
  | numeral hNumeral => exact opens_numeral hNumeral
  | string hRead =>
      unfold readText at hRead
      split at hRead
      next => rfl
      next => cases hRead
  | binary hBinary =>
      rcases hBinary with ⟨hex, _, rfl⟩
      cases d <;> rfl

/- Infinite and undefined decimal numbers are bare words. -/
theorem not_literal_unbounded
    {x : Decimal}
    (hInfinite : x.isFinite = false) :
    ¬ d.IsLiteral x.toChars := by
  intro hLiteral
  have hOpens := opens_of_literal hLiteral
  cases x with
  | finite negative coefficient exponent => cases hInfinite
  | infinite negative => cases negative <;> cases hOpens
  | undefined negative signaling payload =>
      rw [Decimal.toChars] at hOpens
      generalize (if payload = 0 then [] else Digits.decimal payload) =
        digits at hOpens
      cases negative <;> cases signaling <;> cases hOpens

end Dialect

------------------------------------------------------------
-- Values
------------------------------------------------------------

variable {d : Dialect} {v : Value}

theorem literal_string
    (content : List Char) : d.IsLiteral (d.textLiteral content) :=
  .string (d.readText_textLiteral_alone content)

theorem literal_truth
    (b : Bool) : d.IsLiteral (d.boolLiteral b).toList := by
  cases d with
  | sqlite =>
      cases b with
      | false => exact .numeral (numeral_int 0)
      | true => exact .numeral (numeral_int 1)
  | mysql | postgresql | duckdb =>
      cases b with
      | false => exact .truth (.inr rfl) nofun
      | true => exact .truth (.inl rfl) nofun

/- All the errors about values have the same kind. -/
theorem kind_of_literalError
    (e : LiteralError) : e.report.kind = .unsupportedType := by
  cases e <;> rfl

/- What is written for a value is one literal if it is bounded. -/
theorem literal_iff_bounded
    {text : String}
    (hText : d.literal v = .ok text) :
    d.IsLiteral text.toList ↔ v.isBounded = true := by
  have hWritten : ∀ {v : Value} {cs : List Char},
      d.IsLiteral cs → String.ofList cs = text → v.isBounded = true →
        (d.IsLiteral text.toList ↔ v.isBounded = true) := by
    intro v cs hLiteral hSame hBounded
    rw [← hSame, String.toList_ofList]
    exact iff_of_true hLiteral hBounded
  have hString : ∀ {v : Value} {s : String},
      Dialect.literal.literalText d s = .ok text → v.isBounded = true →
        (d.IsLiteral text.toList ↔ v.isBounded = true) :=
    fun hText => hWritten (literal_string _)
      (d.textLiteral_of_literal hText).symm
  fun_induction Dialect.literal d v with
  | case1 => exact hWritten .null (Except.ok.inj hText) rfl
  | case2 b =>
      cases hText
      exact iff_of_true (literal_truth b) rfl
  | case3 n | case14 _ _ n =>
      exact hWritten (.numeral (numeral_int n)) (Except.ok.inj hText) rfl
  | case4 x hFinite =>
      exact hWritten (.numeral (numeral_binary hFinite))
        (Except.ok.inj hText) rfl
  | case6 x =>
      cases hText
      rw [String.toList_ofList]
      cases x with
      | finite negative coefficient exponent =>
          exact iff_of_true (.numeral (numeral_decimal ..)) rfl
      | infinite _ | undefined _ _ _ =>
          exact iff_of_false (Dialect.not_literal_unbounded rfl) nofun
  | case7 s | case15 _ _ s => exact hString hText rfl
  | case8 bs | case9 bs =>
      exact hWritten (.binary (Dialect.binary_bytesLiteral bs))
        (Except.ok.inj hText) rfl
  | case10 | case11 | case12 =>
      exact hWritten (literal_string _) (Except.ok.inj hText) rfl
  | case13 _ _ v ih => exact ih hText
  | case5 | case16 | case17 | case18 => cases hText

/-
  Every value has no literal at all, for a reason that is
  reported as an unsupported type, or is written as text.  The
  text is one literal of the dialect unless the value, behind
  all enumerations, is an infinite or undefined decimal number.
-/
theorem bounded_values_are_literals
    (d : Dialect)
    (v : Value) :
    (∃ e, d.literal v = .error e ∧ e.report.kind = .unsupportedType) ∨
      ∃ text, d.literal v = .ok text ∧
        (d.IsLiteral text.toList ↔ v.isBounded = true) := by
  cases hText : d.literal v with
  | error e => exact .inl ⟨e, rfl, kind_of_literalError e⟩
  | ok text => exact .inr ⟨text, rfl, literal_iff_bounded hText⟩

/- A decimal number that is undefined, written as a bare name. -/
theorem undefined_decimal_is_no_literal :
    Dialect.mysql.literal (.decimal (.undefined false false 0)) = .ok "NaN" ∧
      ¬ Dialect.mysql.IsLiteral "NaN".toList := by
  refine ⟨rfl, fun hLiteral => ?_⟩
  have hOpens := Dialect.opens_of_literal hLiteral
  revert hOpens
  decide

end SqlTemplate
