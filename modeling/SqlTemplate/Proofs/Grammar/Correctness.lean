import Mathlib.Data.List.TakeWhile
import SqlTemplate.Proofs.Grammar.Respelling
import SqlTemplate.Proofs.Results
import SqlTemplate.Template

/-
  The texts that are parsed are those that spell a derivation of
  a statement, and they are parsed to its meaning.  Only numerals
  can stand in the way: the number of a limit must not have a
  fraction, and a whole number must not have too many digits.

  Key definitions include:
    * `Derivation.limitNumbers`
    * `Token.spaced`
  Correctness is proven by:
    * `parse_of_spells`
    * `parse_spaced`
    * `exists_derivation_of_parse`
    * `Derivation.numeralError?_eq_none`
    * `Token.fragment_spaced`
    * `parsing_is_derivation`
-/

------------------------------------------------------------
-- Texts with a Derivation
------------------------------------------------------------

namespace SqlTemplate

/- A text is parsed to the meaning of its derivation. -/
theorem parse_of_derive
    {cs : List Char}
    {d : Derivation (.phrase .statement)}
    (hDerive : Recognition.derive cs = .ok d) :
    parseChars cs =
      d.numeralError?.elim (.ok (.select d.meaning)) fun e =>
        .error (.numeral e) := by
  unfold parseChars
  rw [hDerive]
  dsimp only
  cases d.numeralError? <;> rfl

/- A text is parsed to the meaning of the tokens that it spells. -/
theorem parse_of_spells
    {cs : List Char}
    {d : Derivation (.phrase .statement)}
    (hText : Spells cs d.tokens) :
    parseChars cs =
      d.numeralError?.elim (.ok (.select d.meaning)) fun e =>
        .error (.numeral e) :=
  parse_of_derive (Recognition.derive_of_spells hText)

/- A text that is parsed has a derivation with that meaning. -/
theorem exists_derivation_of_parse
    {cs : List Char}
    {tree : Node}
    (hParse : parseChars cs = .ok tree) :
    ∃ d : Derivation (.phrase .statement),
      Recognition.derive cs = .ok d ∧ d.numeralError? = none ∧
        tree = .select d.meaning := by
  cases hDerive : Recognition.derive cs with
  | error part =>
      unfold parseChars at hParse
      rw [hDerive] at hParse
      cases hParse
  | ok d =>
      rw [parse_of_derive hDerive] at hParse
      cases hNumerals : d.numeralError? with
      | some e =>
          rw [hNumerals] at hParse
          cases hParse
      | none =>
          rw [hNumerals] at hParse
          cases hParse
          exact ⟨d, rfl, hNumerals, rfl⟩

------------------------------------------------------------
-- Numerals
------------------------------------------------------------

mutual

/- The numbers that are limits or offsets in a derivation. -/
def Derivation.limitNumbers {s : Symbol} :
    Derivation s → List (List Char)
| .leaf _ => []
| .node r parts =>
    match r with
    | .limitNumber => [parts.leadingText]
    | _ => parts.limitNumbers

/- The numbers that are limits or offsets in derivations. -/
def Derivations.limitNumbers {ss : List Symbol} :
    Derivations ss → List (List Char)
| .nil => []
| .cons head tail => head.limitNumbers ++ tail.limitNumbers

end

/- A whole number, if a token is one, can be read. -/
def Token.IsReadable (t : Token) : Prop :=
  t.kind = .number → '.' ∉ t.text →
    t.text.length ≤ NumeralError.maxDigits

instance (t : Token) : Decidable t.IsReadable :=
  inferInstanceAs (Decidable (_ → _ → _))

theorem wholeError?_eq_none
    {digits : List Char}
    (hDigits : digits.length ≤ NumeralError.maxDigits) :
    wholeError? digits = none :=
  if_neg (Nat.not_lt.mpr hDigits)

theorem numberError?_eq_none
    {t : Token}
    (hKind : t.kind = .number)
    (hReadable : t.IsReadable) :
    numberError? t.text = none := by
  unfold numberError?
  by_cases hPoint : '.' ∈ t.text
  · rw [if_pos (List.contains_iff_mem.mpr hPoint)]
  · rw [if_neg (fun hMember => hPoint (List.contains_iff_mem.mp hMember))]
    exact wholeError?_eq_none (hReadable hKind hPoint)

theorem limitError?_eq_none
    {t : Token}
    (hKind : t.kind = .number)
    (hReadable : t.IsReadable)
    (hPoint : '.' ∉ t.text) :
    limitError? t.text = none := by
  have hWhole : t.text.takeWhile (· != '.') = t.text := by
    apply List.takeWhile_eq_self_iff.mpr
    intro c hMember
    apply bne_iff_ne.mpr
    rintro rfl
    exact hPoint hMember
  unfold limitError?
  rw [hWhole, wholeError?_eq_none (hReadable hKind hPoint)]
  dsimp only
  rw [if_neg (fun hMember => hPoint (List.contains_iff_mem.mp hMember))]

mutual

/-
  There is no error about the numbers of a derivation if its
  limits have no fraction and its whole numbers can be read.
-/
theorem Derivation.numeralError?_eq_none :
    ∀ {s : Symbol} (d : Derivation s),
      (∀ t ∈ d.tokens, t.IsReadable) →
        (∀ cs ∈ d.limitNumbers, '.' ∉ cs) → d.numeralError? = none
| _, .leaf _, _, _ => rfl
| _, .node r parts, hTokens, hLimits => by
    rw [Derivation.tokens] at hTokens
    have hParts := Derivations.numeralError?_eq_none parts hTokens
    cases r with
    | number =>
        rcases Derivations.leadingText_eq parts with
          ⟨t, hToken, hKind, hText⟩
        have hReadable := hTokens t (hToken ▸ List.mem_singleton_self t)
        have hNumber := numberError?_eq_none hKind hReadable
        rw [← hText] at hNumber
        exact hNumber
    | limitNumber =>
        rcases Derivations.leadingText_eq parts with
          ⟨t, hToken, hKind, hText⟩
        have hReadable := hTokens t (hToken ▸ List.mem_singleton_self t)
        have hPoint : '.' ∉ t.text := by
          rw [← hText]
          exact hLimits _ (List.mem_singleton_self _)
        have hLimit := limitError?_eq_none hKind hReadable hPoint
        rw [← hText] at hLimit
        exact hLimit
    | _ => exact hParts hLimits
termination_by structural _ d => d

/- The same of derivations one after the other. -/
theorem Derivations.numeralError?_eq_none :
    ∀ {ss : List Symbol} (ds : Derivations ss),
      (∀ t ∈ ds.tokens, t.IsReadable) →
        (∀ cs ∈ ds.limitNumbers, '.' ∉ cs) → ds.numeralError? = none
| _, .nil, _, _ => rfl
| _, .cons head tail, hTokens, hLimits => by
    rw [Derivations.tokens, List.forall_mem_append] at hTokens
    rw [Derivations.limitNumbers, List.forall_mem_append] at hLimits
    rw [Derivations.numeralError?,
      Derivation.numeralError?_eq_none head hTokens.1 hLimits.1]
    exact Derivations.numeralError?_eq_none tail hTokens.2 hLimits.2
termination_by structural _ ds => ds

end

------------------------------------------------------------
-- Tokens with Blanks between Them
------------------------------------------------------------

namespace Token

/- The text of tokens with a blank between each two of them. -/
def spaced (ts : List Token) : List Char :=
  [' '].intercalate (ts.map fun t => t.text)

/- Tokens whose names are in quotes are read one by one. -/
theorem fragment_spaced
    {t : Token}
    {ts : List Token}
    (hSpelling : ∀ t' ∈ t :: ts, Spelling t'.kind t'.text)
    (hNames : ∀ t' ∈ t :: ts, t'.kind = .name → keyword? t'.text = none) :
    Fragment (spaced (t :: ts)) (t :: ts) := by
  induction ts generalizing t with
  | nil =>
      have hToken := Fragment.of_spelling
        (hSpelling t (List.mem_singleton_self t))
        (hNames t (List.mem_singleton_self t))
      simpa [spaced] using hToken
  | cons next ts ih =>
      have hToken := Fragment.of_spelling
        (hSpelling t (List.mem_cons_self ..))
        (hNames t (List.mem_cons_self ..))
      have hRest : Fragment (spaced (next :: ts)) (next :: ts) := by
        apply ih
        · exact fun t' hMember =>
            hSpelling t' (List.mem_cons_of_mem _ hMember)
        · exact fun t' hMember =>
            hNames t' (List.mem_cons_of_mem _ hMember)
      have hBoth := hToken.spaced hRest
      simpa [spaced, List.intercalate] using hBoth

theorem spells_spaced
    {ts : List Token}
    (hSpelling : ∀ t ∈ ts, Spelling t.kind t.text)
    (hNames : ∀ t ∈ ts, t.kind = .name → keyword? t.text = none) :
    Spells (spaced ts) ts := by
  cases ts with
  | nil => exact .nil
  | cons t ts => exact (fragment_spaced hSpelling hNames).spells

/- A token, written in quotes if it is a name. -/
def inQuotes
    (q : Char)
    (t : Token) : Token :=
  match t.kind with
  | .name => ⟨.name, Text.quoted q (nameOf t.text).toList⟩
  | _ => t

theorem respelled_inQuotes
    {q : Char}
    (hQuote : q ∈ nameQuotes)
    (ts : List Token) :
    List.Forall₂ Respelled ts (ts.map (inQuotes q)) := by
  rw [List.forall₂_map_right_iff, List.forall₂_same]
  rintro ⟨kind, text⟩ _
  cases kind with
  | name => exact .name hQuote
  | _ => exact .other nofun

end Token

/- The tokens that a text is read as are spelled as their kinds. -/
theorem Recognition.spelling_of_derive
    {cs : List Char}
    {d : Derivation (.phrase .statement)}
    (hDerive : derive cs = .ok d) :
    ∀ t ∈ d.tokens, Token.Spelling t.kind t.text := by
  intro t hMember
  have hTokens := tokenizes_of_derive hDerive
  rcases hTokens.isScanned t hMember with ⟨rest, hScanned⟩
  exact Token.spelling_of_form (Token.form_of_mem hScanned)

/-
  The tokens of a derivation with blanks between them and names
  in quotes are read as that derivation.
-/
theorem parse_spaced
    {d : Derivation (.phrase .statement)}
    {ts : List Token}
    (hSpelling : ∀ t ∈ d.tokens, Token.Spelling t.kind t.text)
    (hQuoted : List.Forall₂ Token.Respelled d.tokens ts) :
    parseChars (Token.spaced ts) =
      d.numeralError?.elim (.ok (.select d.meaning)) fun e =>
        .error (.numeral e) := by
  rcases d.similar (hQuoted.imp fun _ _ hToken => hToken.similar) with
    ⟨d', rfl, hMeaning, hNumerals⟩
  have hText : Spells (Token.spaced d'.tokens) d'.tokens := by
    apply Token.spells_spaced
    · exact forall_of_forall₂ hQuoted (fun hToken => hToken.spelling)
        hSpelling
    · exact forall_of_forall₂ (P := fun _ => True) hQuoted
        (fun hToken _ => hToken.keyword?_eq_none) (fun _ _ => trivial)
  rw [parse_of_spells hText, hNumerals,
    show d.meaning = d'.meaning from hMeaning]

------------------------------------------------------------
-- Correctness
------------------------------------------------------------

/-
  A text that is parsed is a sequence of tokens, each spelled as
  its kind allows, that has exactly one derivation, and it is
  parsed to the meaning of that.  Conversely, the tokens of any
  derivation of a statement whose limits have no fraction and
  whose whole numbers can be read, written with blanks between
  them and names in quotes, are parsed to its meaning.
-/
theorem parsing_is_derivation :
    (∀ {sql : String} {tree : Node}, parse sql = .ok tree →
      ∃ d : Derivation (.phrase .statement),
        Tokenizes sql.toList d.tokens ∧
          (∀ t ∈ d.tokens, Token.Spelling t.kind t.text) ∧
            (∀ d' : Derivation (.phrase .statement),
              d'.tokens = d.tokens → d' = d) ∧
              tree = .select d.meaning) ∧
    (∀ {d : Derivation (.phrase .statement)} {ts : List Token},
      (∀ t ∈ d.tokens, Token.Spelling t.kind t.text) →
        (∀ cs ∈ d.limitNumbers, '.' ∉ cs) →
          (∀ t ∈ d.tokens, t.IsReadable) →
            List.Forall₂ Token.Respelled d.tokens ts →
              parse (String.ofList (Token.spaced ts)) =
                .ok (.select d.meaning)) := by
  constructor
  · intro sql tree hParse
    rcases exists_derivation_of_parse hParse with ⟨d, hDerive, _, rfl⟩
    refine ⟨d, Recognition.tokenizes_of_derive hDerive,
      Recognition.spelling_of_derive hDerive, ?_, rfl⟩
    intro d' hSame
    exact Recognition.derivation_unique hSame
  · intro d ts hSpelling hLimits hReadable hQuoted
    rw [parse, String.toList_ofList, parse_spaced hSpelling hQuoted,
      d.numeralError?_eq_none hReadable hLimits, Option.elim_none]

/- The tokens of a call and of two limits, with bare names. -/
def limitTokens : List Token := [
  ⟨.SELECT, "SELECT".toList⟩, ⟨.name, "F".toList⟩,
  ⟨.leftBracket, ['(']⟩, ⟨.star, ['*']⟩, ⟨.rightBracket, [')']⟩,
  ⟨.FROM, "from".toList⟩, ⟨.name, "select".toList⟩,
  ⟨.LIMIT, "LIMIT".toList⟩, ⟨.number, ['5']⟩, ⟨.comma, [',']⟩,
  ⟨.number, ['1', '0']⟩]

theorem parsing_is_derivation_of_limit :
    ∃ d : Derivation (.phrase .statement),
      Tokenizes "SELECT F(*) from select LIMIT 5,10".toList d.tokens ∧
        parse "SELECT F(*) from select LIMIT 5,10" =
          .ok (.select d.meaning) ∧
        parse "SELECT \"F\" ( * ) from \"select\" LIMIT 5 , 10" =
          .ok (.select d.meaning) := by
  have hFound :
      ((Recognition.derive
          "SELECT F(*) from select LIMIT 5,10".toList).toOption.map
        fun d => (d.tokens, d.limitNumbers)) =
      some (limitTokens, [['5'], ['1', '0']]) := by
    decide +kernel
  rcases Option.map_eq_some_iff.mp hFound with ⟨d, hDerive, hParts⟩
  rcases Prod.mk.inj hParts with ⟨hTokens, hLimits⟩
  have hDerive := eq_ok_of_toOption hDerive
  have hReadable : ∀ t ∈ d.tokens, t.IsReadable := by
    rw [hTokens]
    decide
  have hNoPoint : ∀ cs ∈ d.limitNumbers, '.' ∉ cs := by
    rw [hLimits]
    decide
  have hParse :
      parse "SELECT F(*) from select LIMIT 5,10" =
        .ok (.select d.meaning) := by
    rw [parse, parse_of_derive hDerive,
      d.numeralError?_eq_none hReadable hNoPoint, Option.elim_none]
  have hQuoted := parsing_is_derivation.2
    (Recognition.spelling_of_derive hDerive) hNoPoint hReadable
    (Token.respelled_inQuotes (q := '"') (by decide) d.tokens)
  rcases parsing_is_derivation.1 hParse with ⟨d', hText, _, _, hMeaning⟩
  refine ⟨d', hText, hParse.trans (congrArg _ hMeaning), ?_⟩
  rw [hTokens] at hQuoted
  exact hQuoted.trans (congrArg _ hMeaning)

/-
  A whole number with too many digits is refused, although the
  statement that selects it has a derivation.
-/
theorem parsing_refuses_long_number :
    ¬ ∀ {d : Derivation (.phrase .statement)} {ts : List Token},
      (∀ t ∈ d.tokens, Token.Spelling t.kind t.text) →
        (∀ cs ∈ d.limitNumbers, '.' ∉ cs) →
          List.Forall₂ Token.Respelled d.tokens ts →
            parse (String.ofList (Token.spaced ts)) =
              .ok (.select d.meaning) := by
  intro hAccepts
  have hFound :
      ((Recognition.derive
          ("SELECT ".toList ++ List.replicate 4301 '1')).toOption.map
        fun d => (d.limitNumbers, d.numeralError?)) =
      some ([], some (.tooManyDigits 4301)) := by
    decide +kernel
  rcases Option.map_eq_some_iff.mp hFound with ⟨d, hDerive, hParts⟩
  rcases Prod.mk.inj hParts with ⟨hLimits, hNumerals⟩
  have hSpelling :=
    Recognition.spelling_of_derive (eq_ok_of_toOption hDerive)
  have hQuoted :=
    Token.respelled_inQuotes (q := '"') (by decide) d.tokens
  have hParse := hAccepts hSpelling (by simp [hLimits]) hQuoted
  rw [parse, String.toList_ofList, parse_spaced hSpelling hQuoted,
    hNumerals] at hParse
  cases hParse

end SqlTemplate
