import SqlTemplate.Proofs.Grammar.Literals
import SqlTemplate.Proofs.Literals.Reading
import SqlTemplate.Proofs.Roundtrip.Literals
import SqlTemplate.Rendering.Failure

/-
  Literals of statements that are built and read again.  A
  literal keeps its value, except that SQLite has only numbers
  for truth values, and that the backslashes which escape others
  are read as they stand.  Decimal numbers are covered where
  they are written with a point and without an exponent.

  Key definitions include:
    * `Dialect.ReadsAs`
    * `Dialect.reread`
    * `Dialect.Alters`
    * `Value.IsPointed`
    * `Value.HoldsNul`

  Correctness is proven by:
    * `numberOf_placePoint`
    * `keepsLiteral_decimal`
    * `Dialect.readsAs_reread`
    * `literals_survive_building`
-/

------------------------------------------------------------
-- Values that Are Read Again
------------------------------------------------------------

namespace SqlTemplate

namespace Dialect

/- What is written for a value is selected as another value. -/
def ReadsAs
    (d : Dialect)
    (v w : Value) : Prop :=
  ∃ text, d.literal v = .ok text ∧
    parse ("SELECT " ++ text) = .ok (.select (Query.ofColumn (.literal w)))

/- The value that the literal of a value is read as. -/
def reread
    (d : Dialect) : Value → Value
| .bool b =>
    if d = .sqlite then .int (if b then 1 else 0) else .bool b
| .text s => .text (String.ofList (d.escapeText s.toList))
| v => v

/- A value is read as another one, by the rules of the dialect. -/
def Alters
    (d : Dialect) : Value → Prop
| .bool _ => d = .sqlite
| .text s => d.escapesBackslash = true ∧ '\\' ∈ s.toList
| _ => False

end Dialect

namespace Value

/-
  A decimal number is finite and is written with a point and
  without an exponent.
-/
def IsPointed : Value → Prop
| .decimal (.finite _ coefficient exponent) =>
    exponent < 0 ∧ -6 < ((Digits.decimal coefficient).length : Int) + exponent
| .decimal _ => False
| _ => True

/- A text holds the one character that no literal can hold. -/
def HoldsNul : Value → Prop
| .text s => '\x00' ∈ s.toList
| _ => False

end Value

------------------------------------------------------------
-- Digits around a Point
------------------------------------------------------------

theorem digitsOf_zeros
    (n : Nat) :
    Token.digitsOf (List.replicate n '0') = List.replicate n 0 := by
  have hZero : Text.digit? '0' = some 0 := by decide
  rw [Token.digitsOf, List.filterMap_replicate_of_some hZero]

theorem length_digitsOf
    {cs : List Char}
    (hDigits : cs.all Text.isDigit = true) :
    (Token.digitsOf cs).length = cs.length := by
  rw [Token.digitsOf, List.length_filterMap_eq_countP,
    List.countP_eq_length]
  exact fun c hMember => List.all_eq_true.mp hDigits c hMember

/- Zeros in front make no difference to a number. -/
theorem ofDigits_zeros
    (n : Nat)
    (ds : List Nat) :
    Digits.ofDigits (List.replicate n 0 ++ ds) = Digits.ofDigits ds := by
  induction n with
  | zero => rfl
  | succ n ih => exact ih

/- A number with a point is read from the digits around it. -/
theorem numberOf_pointed
    {whole : List Char}
    (fraction : List Char)
    (hWhole : whole.all Text.isDigit = true) :
    Token.numberOf (whole ++ '.' :: fraction) =
      .decimal (.ofParts (Token.digitsOf whole) (Token.digitsOf fraction)) := by
  have hNoPoint : whole.all (· != '.') = true := by
    rw [List.all_eq_true] at hWhole ⊢
    intro c hMember
    rw [bne_iff_ne]
    rintro rfl
    exact absurd (hWhole _ hMember) (by decide)
  have hPoint : ∀ c ∈ ('.' :: fraction).head?, (c != '.') = false := by
    rintro c ⟨⟩
    rfl
  rw [Token.numberOf, takeWhile_append_of_head hNoPoint hPoint,
    dropWhile_append_of_head hNoPoint hPoint]

/- There is no error about a number with a point. -/
theorem numberError?_of_decimal
    {cs : List Char}
    {x : Decimal}
    (hValue : Token.numberOf cs = .decimal x) :
    numberError? cs = none := by
  refine if_pos (List.contains_iff_mem.mpr ?_)
  by_contra hPoint
  have hWhole : cs.dropWhile (· != '.') = [] := by
    rw [List.dropWhile_eq_nil_iff]
    intro c hMember
    rw [bne_iff_ne]
    rintro rfl
    exact hPoint hMember
  rw [Token.numberOf, hWhole] at hValue
  cases hValue

/- A coefficient with a point put into its digits is read back. -/
theorem numberOf_placePoint
    (coefficient : Nat)
    {exponent : Int}
    (hExponent : exponent < 0) :
    Token.numberOf
        (Decimal.placePoint (Digits.decimal coefficient)
          ((Digits.decimal coefficient).length + exponent)) =
      .decimal (.finite false coefficient exponent) := by
  have hDigits := isDigit_decimal coefficient
  have hValue := ofDigits_decimal coefficient
  generalize Digits.decimal coefficient = ds at *
  unfold Decimal.placePoint
  split
  next hPoint =>
    have hZero : ['0'].all Text.isDigit = true := by decide
    have hAll :
        Token.digitsOf ['0'] ++
            Token.digitsOf
              (List.replicate (-(ds.length + exponent)).toNat '0' ++ ds) =
          List.replicate (1 + (-(ds.length + exponent)).toNat) 0 ++
            Token.digitsOf ds := by
      rw [Token.digitsOf, Token.digitsOf, List.filterMap_append,
        ← List.append_assoc, ← Token.digitsOf, ← Token.digitsOf,
        ← Token.digitsOf, digitsOf_zeros, List.replicate_add]
      rfl
    refine (numberOf_pointed _ hZero).trans ?_
    rw [Decimal.ofParts, hAll, ofDigits_zeros, hValue, length_digitsOf,
      List.length_append, List.length_replicate]
    · congr
      omega
    · rw [List.all_append, isDigit_zeros, hDigits]
      rfl
  next hPoint =>
    have hParts :
        ds.take ((ds.length : Int) + exponent).toNat ++
          ds.drop ((ds.length : Int) + exponent).toNat = ds :=
      List.take_append_drop _ ds
    have hSplit := hDigits
    rw [← hParts, List.all_append, Bool.and_eq_true] at hSplit
    rw [if_neg (by omega), numberOf_pointed _ hSplit.1, Decimal.ofParts,
      length_digitsOf hSplit.2, List.length_drop, Token.digitsOf,
      Token.digitsOf, ← List.filterMap_append, hParts, ← Token.digitsOf,
      hValue]
    congr
    omega

------------------------------------------------------------
-- Kept Literals
------------------------------------------------------------

/- A literal is kept if it is an operand with its value. -/
theorem keepsLiteral_of_atom
    {d : Dialect}
    {v : Value}
    {cs : List Char}
    (hText : d.literal v = .ok (String.ofList cs))
    (hAtom : Denotes none (.phrase .atom) cs (Node.literal v)) :
    d.KeepsLiteral v :=
  keepsLiteral_of_signed hText (.of_rule .atomExpr rfl (.last hAtom))

theorem keepsLiteral_null
    (d : Dialect) : d.KeepsLiteral .null := by
  have hKeyword :
      Token.keyword? "NULL".toList = some .NULL ∧
        "NULL".toList.all Text.isWord = true := by
    decide
  exact keepsLiteral_of_atom rfl (.of_rule .nullValue rfl (.lastWord hKeyword))

/- Truth values are kept where there are words for them. -/
theorem keepsLiteral_bool
    {d : Dialect}
    (hDialect : d ≠ .sqlite)
    (b : Bool) : d.KeepsLiteral (.bool b) := by
  have hTrue :
      Token.keyword? "TRUE".toList = some .TRUE ∧
        "TRUE".toList.all Text.isWord = true := by
    decide
  have hFalse :
      Token.keyword? "FALSE".toList = some .FALSE ∧
        "FALSE".toList.all Text.isWord = true := by
    decide
  have hText :
      d.literal (.bool b) =
        .ok (String.ofList (if b then "TRUE".toList else "FALSE".toList)) := by
    cases d <;> cases b <;> first | rfl | exact absurd rfl hDialect
  cases b with
  | false =>
      exact keepsLiteral_of_atom hText
        (.of_rule .falseValue rfl (.lastWord hFalse))
  | true =>
      exact keepsLiteral_of_atom hText
        (.of_rule .trueValue rfl (.lastWord hTrue))

/- A coefficient with a point put into its digits is an operand. -/
theorem denotes_placePoint
    (coefficient : Nat)
    {exponent : Int}
    (hExponent : exponent < 0) :
    Denotes none (.phrase .signed)
      (Decimal.placePoint (Digits.decimal coefficient)
        ((Digits.decimal coefficient).length + exponent))
      (Node.literal (.decimal (.finite false coefficient exponent))) := by
  have hValue := numberOf_placePoint coefficient hExponent
  have hAtom := Denotes.number
    (spelling_placePoint ((Digits.decimal coefficient).length + exponent)
      (isDigit_decimal coefficient) (decimal_ne_nil coefficient))
  rw [hValue, numberError?_of_decimal hValue] at hAtom
  exact .of_rule .atomExpr rfl (.last hAtom)

/- The negative of a number that is not rounded. -/
theorem negate_of_short
    {coefficient : Nat}
    (hSome : coefficient ≠ 0)
    (hShort : (Digits.decimal coefficient).length ≤ Decimal.precision)
    (exponent : Int) :
    (Decimal.finite false coefficient exponent).negate =
      .finite true coefficient exponent := by
  have hRounded :
      Decimal.rounded coefficient exponent = (coefficient, exponent) := by
    unfold Decimal.rounded
    exact if_pos (Nat.sub_eq_zero_of_le hShort)
  rw [Decimal.negate, hRounded, bne_iff_ne.mpr hSome]
  rfl

/- Decimal numbers are kept if they are written with a point. -/
theorem keepsLiteral_decimal
    (d : Dialect)
    {x : Decimal}
    (hPointed : (Value.decimal x).IsPointed)
    (hRead : (Value.decimal x).IsRead) :
    d.KeepsLiteral (.decimal x) := by
  cases x with
  | infinite negative => cases hPointed
  | undefined negative signaling payload => cases hPointed
  | finite negative coefficient exponent =>
      have hPlaced :
          Decimal.finiteChars coefficient exponent =
            Decimal.placePoint (Digits.decimal coefficient)
              ((Digits.decimal coefficient).length + exponent) :=
        if_pos ⟨Int.le_of_lt hPointed.1, hPointed.2⟩
      have hNumber := denotes_placePoint coefficient hPointed.1
      rw [← hPlaced] at hNumber
      cases negative with
      | false => exact keepsLiteral_of_signed rfl hNumber
      | true =>
          rcases hRead rfl with ⟨hSome, hShort⟩
          have hSpelling :=
            spelling_placePoint ((Digits.decimal coefficient).length + exponent)
              (isDigit_decimal coefficient) (decimal_ne_nil coefficient)
          have hHead := Token.head?_number hSpelling []
          rw [← hPlaced, List.append_nil] at hHead
          have hNegative :
              Denotes none (.phrase .signed)
                ('-' :: Decimal.finiteChars coefficient exponent)
                (Node.negative
                  (.literal (.decimal (.finite false coefficient exponent)))) :=
            .of_rule .negate rfl (.minus hHead (.last hNumber))
          rw [Node.negative, negate_of_short hSome hShort] at hNegative
          exact keepsLiteral_of_signed rfl hNegative

------------------------------------------------------------
-- Rereading
------------------------------------------------------------

namespace Dialect

variable {d : Dialect} {v w : Value}

/- A value is read as another one that has the same literal and is kept. -/
theorem readsAs_of_keeps
    {other : Dialect}
    (hKeeps : other.KeepsLiteral w)
    (hSame : d.literal v = other.literal w) :
    d.ReadsAs v w := by
  rcases hKeeps with ⟨text, hText, hParse⟩
  exact ⟨text, hSame.trans hText, hParse⟩

/- A text is read with the backslashes that were put into it. -/
theorem readsAs_text
    {s : String}
    (hNul : '\x00' ∉ s.toList) :
    d.ReadsAs (.text s) (.text (String.ofList (d.escapeText s.toList))) := by
  have hContent : '\x00' ∉ d.escapeText s.toList := by
    unfold escapeText
    split
    · rwa [Text.mem_double]
    · exact hNul
  rw [← String.toList_ofList (l := d.escapeText s.toList)] at hContent
  have hKeeps :
      Dialect.postgresql.KeepsLiteral
        (.text (String.ofList (d.escapeText s.toList))) :=
    keepsLiteral_text hContent rfl
  refine readsAs_of_keeps hKeeps ?_
  rw [literal_text _ hNul, literal_text _ hContent, textLiteral, textLiteral,
    String.toList_ofList]
  rfl

/- What is read is read as the value that is expected. -/
theorem readsAs_reread
    (hRead : v.IsRead)
    (hNul : ¬ v.HoldsNul)
    (hPointed : v.IsPointed) :
    d.ReadsAs v (d.reread v) := by
  cases v with
  | null => exact keepsLiteral_null d
  | bool b =>
      by_cases hDialect : d = .sqlite
      · subst hDialect
        rw [reread, if_pos rfl]
        cases b with
        | false =>
            exact readsAs_of_keeps (keepsLiteral_int .sqlite (by decide)) rfl
        | true =>
            exact readsAs_of_keeps (keepsLiteral_int .sqlite (by decide)) rfl
      · rw [reread, if_neg hDialect]
        exact keepsLiteral_bool hDialect b
  | int n => exact keepsLiteral_int d hRead
  | decimal x => exact keepsLiteral_decimal d hPointed hRead
  | text s => exact readsAs_text hNul
  | _ => cases hRead

/- The value that is read is the same unless the dialect alters it. -/
theorem reread_eq_iff
    (d : Dialect)
    (v : Value) :
    d.reread v = v ↔ ¬ d.Alters v := by
  cases v with
  | bool b =>
      by_cases hDialect : d = .sqlite <;> simp [reread, Alters, hDialect]
  | text s =>
      have hContent :
          d.escapeText s.toList = s.toList ↔
            ¬ (d.escapesBackslash = true ∧ '\\' ∈ s.toList) := by
        unfold escapeText
        split
        next hEscapes => simp [hEscapes, Text.double_eq_self_iff]
        next hEscapes => simp [hEscapes]
      rw [Alters, ← hContent, reread]
      constructor
      · intro hSame
        have hChars := congrArg String.toList (Value.text.inj hSame)
        rwa [String.toList_ofList] at hChars
      · intro hSame
        rw [hSame, String.ofList_toList]
  | _ => exact iff_of_true rfl not_false

/- A value that is read again has the same literal as before. -/
theorem literal_reread
    (hText : ∀ s, v = .text s → ¬ d.Alters v) :
    d.literal (d.reread v) = d.literal v := by
  cases v with
  | bool b =>
      by_cases hDialect : d = .sqlite
      · subst hDialect
        cases b <;> rfl
      · rw [reread, if_neg hDialect]
  | text s => rw [(d.reread_eq_iff _).mpr (hText s rfl)]
  | _ => rfl

end Dialect

------------------------------------------------------------
-- Selected Literals
------------------------------------------------------------

/- A column that is a literal is a fragment of its query. -/
theorem mem_fragments_ofColumn
    (v : Value) :
    .literal v ∈ (Node.select (Query.ofColumn (.literal v))).fragments :=
  .tail _ (.head _)

/- A text between quotes is selected as it stands. -/
theorem parse_quoted
    (s : String) :
    parse ("SELECT " ++ String.ofList (Text.quoted '\'' s.toList)) =
      .ok (.select (Query.ofColumn (.literal (.text s)))) := by
  have hString := denotes_quoted s.toList
  rw [textOf_quoted] at hString
  have hSigned :
      Denotes none (.phrase .signed) (Text.quoted '\'' s.toList)
        (Node.literal (.text s)) :=
    .of_rule .atomExpr rfl (.last hString)
  rw [parse, String.toList_append,
    String.toList_ofList (l := Text.quoted '\'' s.toList)]
  exact parseChars_of_denotes hSigned.expr_of_signed.selected

/- What is read as another value is not kept. -/
theorem not_keepsLiteral_of_readsAs
    {d : Dialect}
    {v w : Value}
    (hReads : d.ReadsAs v w)
    (hOther : w ≠ v) :
    ¬ d.KeepsLiteral v := by
  rintro ⟨text, hText, hParse⟩
  rcases hReads with ⟨text', hText', hParse'⟩
  cases hText.symm.trans hText'
  have hNode := Query.eq_of_ofColumn
    (Node.select.inj (Except.ok.inj (hParse'.symm.trans hParse)))
  exact hOther (Node.literal.inj hNode)

/- A decimal number in scientific form is not kept. -/
theorem not_keepsLiteral_of_scientific
    {d : Dialect}
    {negative : Bool}
    {coefficient : Nat}
    {exponent : Int}
    (hForm : IsScientific (Decimal.finiteChars coefficient exponent)) :
    ¬ d.KeepsLiteral (.decimal (.finite negative coefficient exponent)) :=
  fun hKeeps =>
    not_parsed_scientific hForm negative (parseChars_of_keeps hKeeps rfl)

------------------------------------------------------------
-- Literals of Statements
------------------------------------------------------------

/-
  A literal of a statement has no literal in a dialect if it
  holds NUL.  Else, if a decimal number is written with a point,
  what is written is read as the value that is expected: the
  same one, unless the dialect alters it.  The value that is
  read is then written as before, but for a text with
  backslashes where those escape.
-/
theorem literals_survive_building
    {sql : String}
    {tree : Node}
    {v : Value}
    (d : Dialect)
    (hParse : parse sql = .ok tree)
    (hLiteral : .literal v ∈ tree.fragments) :
    (v.HoldsNul →
      ∃ e, d.literal v = .error e ∧ e.report.kind = .unsupportedType) ∧
      (¬ v.HoldsNul → v.IsPointed → d.ReadsAs v (d.reread v)) ∧
        (d.reread v = v ↔ ¬ d.Alters v) ∧
          ((∀ s, v = .text s → ¬ d.Alters v) →
            d.literal (d.reread v) = d.literal v) := by
  refine ⟨fun hNul => ?_, ?_, d.reread_eq_iff v, Dialect.literal_reread⟩
  · cases v with
    | text s =>
        refine ⟨.holdsNul s, ?_, rfl⟩
        rw [Dialect.literal, Dialect.literal.literalText,
          if_pos (List.contains_iff_mem.mpr hNul)]
    | _ => cases hNul
  · exact Dialect.readsAs_reread (isRead_of_parse hParse hLiteral)

/- A negative number with a zero at its end. -/
theorem literals_survive_building_of_decimal :
    ∃ tree, parse "SELECT -1.50" = .ok tree ∧
      .literal (.decimal (.finite true 150 (-2))) ∈ tree.fragments ∧
        Dialect.sqlite.ReadsAs (.decimal (.finite true 150 (-2)))
          (.decimal (.finite true 150 (-2))) := by
  have hKeeps :
      Dialect.mysql.KeepsLiteral (.decimal (.finite true 150 (-2))) :=
    keepsLiteral_decimal .mysql ⟨by decide, by decide⟩ fun _ => by decide
  have hParse : parse "SELECT -1.50" = _ :=
    parseChars_of_keeps hKeeps rfl
  have hMember := mem_fragments_ofColumn (.decimal (.finite true 150 (-2)))
  exact ⟨_, hParse, hMember,
    (literals_survive_building .sqlite hParse hMember).2.1 not_false
      ⟨by decide, by decide⟩⟩

/-
  Four literals that are not kept: a truth value in SQLite, a
  backslash in MySQL, and in every dialect NUL and a number that
  is so small that it is written with an exponent.
-/
theorem literals_that_are_lost :
    (∃ tree, parse "SELECT TRUE" = .ok tree ∧
      .literal (.bool true) ∈ tree.fragments ∧
        ¬ Dialect.sqlite.KeepsLiteral (.bool true)) ∧
      (∃ tree, parse "SELECT '\\'" = .ok tree ∧
        .literal (.text "\\") ∈ tree.fragments ∧
          ¬ Dialect.mysql.KeepsLiteral (.text "\\")) ∧
        (∃ tree, parse "SELECT '\x00'" = .ok tree ∧
          .literal (.text "\x00") ∈ tree.fragments ∧
            ∀ d : Dialect, ¬ d.KeepsLiteral (.text "\x00")) ∧
          ∃ tree, parse "SELECT 0.0000001" = .ok tree ∧
            .literal (.decimal (.finite false 1 (-7))) ∈ tree.fragments ∧
              ∀ d : Dialect,
                ¬ d.KeepsLiteral (.decimal (.finite false 1 (-7))) := by
  have hNumber : Dialect.sqlite.ReadsAs (.bool true) (.int 1) :=
    Dialect.readsAs_reread trivial not_false trivial
  have hDoubled : Dialect.mysql.ReadsAs (.text "\\") (.text "\\\\") :=
    Dialect.readsAs_text (by decide)
  have hTrue : Dialect.mysql.KeepsLiteral (.bool true) :=
    keepsLiteral_bool (by decide) true
  have hTruth : parse "SELECT TRUE" = _ :=
    parseChars_of_keeps hTrue rfl
  have hNegative : (-7 : Int) < 0 := by decide
  have hSmall : parse "SELECT 0.0000001" = _ :=
    parseChars_of_denotes
      (denotes_placePoint 1 hNegative).expr_of_signed.selected
  have hForm : IsScientific (Decimal.finiteChars 1 (-7)) :=
    ⟨_, _, _, rfl, spelling_decimal 1, by decide, spelling_decimal 7⟩
  have hNul : ∀ d : Dialect, ¬ d.KeepsLiteral (.text "\x00") := by
    rintro d ⟨text, hText, _⟩
    cases hText
  exact ⟨⟨_, hTruth, mem_fragments_ofColumn _,
      not_keepsLiteral_of_readsAs hNumber nofun⟩,
    ⟨_, parse_quoted "\\", mem_fragments_ofColumn _,
      not_keepsLiteral_of_readsAs hDoubled fun hSame =>
        absurd (Value.text.inj hSame) (by decide)⟩,
    ⟨_, parse_quoted "\x00", mem_fragments_ofColumn _, hNul⟩,
    ⟨_, hSmall, mem_fragments_ofColumn _, fun _ =>
      not_keepsLiteral_of_scientific hForm⟩⟩

end SqlTemplate
