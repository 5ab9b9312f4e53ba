import SqlTemplate.Proofs.Grammar.Collecting
import SqlTemplate.Proofs.Grammar.Composition

/-
  The two spellings of a limit.  A limit with a comma and one
  with a keyword before the offset mean the same if their values
  are in the opposite order, so a statement has the same meaning
  when all its limits are spelled in one of the two ways.

  Key definitions include:
    * `LimitSpelling`
    * `Token.spellLimits`
    * `Rule.spelled`
    * `Derivation.spelled`

  Correctness is proven by:
    * `Derivation.meaning_spelled`
    * `Derivation.numeralError?_spelled`
    * `Derivation.spellLimits_tokens`
    * `parse_of_spellLimits`
    * `parse_spaced_spellLimits`
-/

------------------------------------------------------------
-- Limits among Tokens
------------------------------------------------------------

namespace SqlTemplate

/- What can stand between the two values of a limit. -/
inductive LimitSpelling where
| comma
| keyword
deriving DecidableEq, Inhabited, Repr

namespace LimitSpelling

/- The rule of a limit with two values. -/
def rule : LimitSpelling → Rule
| comma => .limitComma
| keyword => .limitOffset

/- The token between the values: the offset is the second after it. -/
def word : LimitSpelling → Token
| comma => ⟨.comma, ",".toList⟩
| keyword => ⟨.OFFSET, "OFFSET".toList⟩

def other : LimitSpelling → LimitSpelling
| comma => keyword
| keyword => comma

end LimitSpelling

namespace Token

/-
  Tokens in which every limit with two values has one spelling:
  where it has the other one, the values are exchanged.
-/
def spellLimits (spelling : LimitSpelling) : List Token → List Token
| limit :: first :: word :: second :: ts =>
    if limit.kind = .LIMIT ∧ word.kind = spelling.other.word.kind then
      limit :: second :: spelling.word :: first :: spellLimits spelling ts
    else
      limit :: spellLimits spelling (first :: word :: second :: ts)
| ts => ts

end Token

------------------------------------------------------------
-- Limits in Derivations
------------------------------------------------------------

/- A limit with two values, in one spelling. -/
def Rule.spelled :
    LimitSpelling → (r : Rule) → Derivations r.rhs →
      Derivation (.phrase r.lhs)
| .keyword, .limitComma,
    .cons limit (.cons first (.cons _ (.cons second .nil))) =>
    .node .limitOffset
      (.cons limit (.cons second
        (.cons (.leaf LimitSpelling.keyword.word) (.cons first .nil))))
| .comma, .limitOffset,
    .cons limit (.cons first (.cons _ (.cons second .nil))) =>
    .node .limitComma
      (.cons limit (.cons second
        (.cons (.leaf LimitSpelling.comma.word) (.cons first .nil))))
| _, r, parts => .node r parts

mutual

/- A derivation with one spelling of its limits. -/
def Derivation.spelled
    {s : Symbol}
    (spelling : LimitSpelling) : Derivation s → Derivation s
| .leaf t => .leaf t
| .node r parts => r.spelled spelling (parts.spelled spelling)

/- The same of derivations one after the other. -/
def Derivations.spelled
    {ss : List Symbol}
    (spelling : LimitSpelling) : Derivations ss → Derivations ss
| .nil => .nil
| .cons head tail => .cons (head.spelled spelling) (tail.spelled spelling)

end

variable {spelling : LimitSpelling}

theorem Rule.spelled_eq
    {r : Rule}
    (parts : Derivations r.rhs)
    (hOther : r ≠ spelling.other.rule) :
    r.spelled spelling parts = .node r parts := by
  cases spelling <;> cases r <;> first | rfl | exact absurd rfl hOther

------------------------------------------------------------
-- Meanings
------------------------------------------------------------

theorem Derivations.meaning_four
    {s t u v : Symbol}
    (first : Derivation s)
    (second : Derivation t)
    (third : Derivation u)
    (fourth : Derivation v)
    {α : Type}
    (f : Meanings α [s, t, u, v]) :
    (Derivations.cons first (.cons second (.cons third
        (.cons fourth .nil)))).meaning f =
      f first.meaning second.meaning third.meaning fourth.meaning := by
  rw [Derivations.meaning, Derivations.meaning, Derivations.meaning,
    Derivations.meaning, Derivations.meaning]

/- The values of a limit have the same roles in both spellings. -/
theorem Rule.meaning_spelled
    (r : Rule)
    (parts : Derivations r.rhs) :
    (r.spelled spelling parts).meaning = parts.meaning r.meaning := by
  by_cases hRule : r = spelling.other.rule
  · cases spelling with
    | comma =>
        cases hRule
        rcases parts with
          _ | ⟨limit, _ | ⟨first, _ | ⟨word, _ | ⟨second, ⟨⟩⟩⟩⟩⟩
        refine (Derivation.meaning_node .limitComma _ ?_).trans
          (Derivations.meaning_four limit first word second
            Rule.limitOffset.meaning).symm
        exact Derivations.meaning_four limit second _ first _
    | keyword =>
        cases hRule
        rcases parts with
          _ | ⟨limit, _ | ⟨first, _ | ⟨word, _ | ⟨second, ⟨⟩⟩⟩⟩⟩
        refine (Derivation.meaning_node .limitOffset _ ?_).trans
          (Derivations.meaning_four limit first word second
            Rule.limitComma.meaning).symm
        exact Derivations.meaning_four limit second _ first _
  · rw [Rule.spelled_eq parts hRule]
    exact Derivation.meaning_node r parts rfl

mutual

/- With its limits in one spelling a statement has the same meaning. -/
theorem Derivation.meaning_spelled :
    ∀ {s : Symbol} (d : Derivation s),
      (d.spelled spelling).meaning = d.meaning
| _, .leaf _ => rfl
| _, .node r parts => by
    rw [Derivation.spelled, Rule.meaning_spelled, parts.meaning_spelled]
    exact (Derivation.meaning_node r parts rfl).symm
termination_by structural _ d => d

theorem Derivations.meaning_spelled :
    ∀ {ss : List Symbol} (parts : Derivations ss) {α : Type}
      (f : Meanings α ss),
        (parts.spelled spelling).meaning f = parts.meaning f
| _, .nil, _, _ => rfl
| _, .cons head tail, _, f => by
    rw [Derivations.spelled, Derivations.meaning, head.meaning_spelled,
      tail.meaning_spelled, Derivations.meaning]
termination_by structural _ parts => parts

end

/- The leading token of a part stays where it is. -/
theorem Derivations.leadingText_spelled
    {ss : List Symbol}
    (parts : Derivations ss) :
    (parts.spelled spelling).leadingText = parts.leadingText := by
  cases parts with
  | nil => rfl
  | cons head tail =>
      cases head with
      | leaf t => rfl
      | node r parts =>
          rw [Derivations.spelled, Derivation.spelled]
          by_cases hRule : r = spelling.other.rule
          · cases spelling <;> cases hRule <;>
              rcases parts with
                _ | ⟨limit, _ | ⟨first, _ | ⟨word, _ | ⟨second, ⟨⟩⟩⟩⟩⟩ <;>
              rfl
          · rw [Rule.spelled_eq _ hRule]
            rfl

------------------------------------------------------------
-- Numbers
------------------------------------------------------------

theorem Derivations.numeralError?_cons
    {s : Symbol}
    {ss : List Symbol}
    (head : Derivation s)
    (tail : Derivations ss) :
    (Derivations.cons head tail).numeralError? = none ↔
      head.numeralError? = none ∧ tail.numeralError? = none := by
  rw [Derivations.numeralError?]
  cases head.numeralError? with
  | none => simp
  | some e => simp

theorem Derivation.numeralError?_token
    {kind : Terminal}
    (d : Derivation (.token kind)) :
    d.numeralError? = none := by
  rcases d.eq_leaf rfl with ⟨⟨_, text⟩, hKind, rfl, rfl⟩
  rfl

/- Only the two values of a limit have numbers in them. -/
theorem Derivations.numeralError?_limit
    {limit word : Terminal}
    {s t : Symbol}
    (head : Derivation (.token limit))
    (first : Derivation s)
    (middle : Derivation (.token word))
    (second : Derivation t) :
    (Derivations.cons head (.cons first (.cons middle
        (.cons second .nil)))).numeralError? = none ↔
      first.numeralError? = none ∧ second.numeralError? = none := by
  simp only [Derivations.numeralError?_cons, Derivation.numeralError?_token]
  rw [Derivations.numeralError?]
  simp

/- The numbers of a limit are the same ones in both spellings. -/
theorem Rule.numeralError?_spelled
    (r : Rule)
    (parts : Derivations r.rhs) :
    (r.spelled spelling parts).numeralError? = none ↔
      (Derivation.node r parts).numeralError? = none := by
  have hNode {r : Rule} (parts : Derivations r.rhs)
      (hReads : r.readsNumber = false) :
      (Derivation.node r parts).numeralError? = none ↔
        parts.numeralError? = none :=
    Iff.of_eq (congrArg (· = none) (Derivation.numeralError?_node parts hReads))
  by_cases hRule : r = spelling.other.rule
  · cases spelling with
    | comma =>
        cases hRule
        rw [hNode parts rfl]
        rcases parts with
          _ | ⟨limit, _ | ⟨first, _ | ⟨word, _ | ⟨second, ⟨⟩⟩⟩⟩⟩
        refine (hNode (r := .limitComma) _ rfl).trans ?_
        refine (Derivations.numeralError?_limit _ _ _ _).trans ?_
        exact and_comm.trans
          (Derivations.numeralError?_limit limit first word second).symm
    | keyword =>
        cases hRule
        rw [hNode parts rfl]
        rcases parts with
          _ | ⟨limit, _ | ⟨first, _ | ⟨word, _ | ⟨second, ⟨⟩⟩⟩⟩⟩
        refine (hNode (r := .limitOffset) _ rfl).trans ?_
        refine (Derivations.numeralError?_limit _ _ _ _).trans ?_
        exact and_comm.trans
          (Derivations.numeralError?_limit limit first word second).symm
  · rw [Rule.spelled_eq parts hRule]

mutual

/- With its limits in one spelling a statement has the same numbers. -/
theorem Derivation.numeralError?_spelled :
    ∀ {s : Symbol} (d : Derivation s),
      (d.spelled spelling).numeralError? = none ↔ d.numeralError? = none
| _, .leaf _ => Iff.rfl
| _, .node r parts => by
    rw [Derivation.spelled, Rule.numeralError?_spelled]
    cases hReads : r.readsNumber with
    | false =>
        rw [Derivation.numeralError?_node _ hReads,
          Derivation.numeralError?_node _ hReads]
        exact parts.numeralError?_spelled
    | true =>
        have hText :
            (parts.spelled spelling).leadingText = parts.leadingText :=
          parts.leadingText_spelled
        cases r with
        | number => exact Iff.of_eq (congrArg (numberError? · = none) hText)
        | limitNumber =>
            exact Iff.of_eq (congrArg (limitError? · = none) hText)
        | _ => cases hReads
termination_by structural _ d => d

theorem Derivations.numeralError?_spelled :
    ∀ {ss : List Symbol} (parts : Derivations ss),
      (parts.spelled spelling).numeralError? = none ↔
        parts.numeralError? = none
| _, .nil => Iff.rfl
| _, .cons head tail => by
    rw [Derivations.spelled, Derivations.numeralError?_cons,
      head.numeralError?_spelled, tail.numeralError?_spelled,
      Derivations.numeralError?_cons]
termination_by structural _ parts => parts

end

------------------------------------------------------------
-- Tokens of Limits
------------------------------------------------------------

namespace Token

/- A list of tokens does not start like the rest of a limit. -/
def EndsLimit (ts : List Token) : Prop :=
  ∀ t ∈ ts.head?, ∀ spelling : LimitSpelling, t.kind ≠ spelling.word.kind

theorem spellLimits_cons
    {t : Token}
    (ts : List Token)
    (hKind : t.kind ≠ .LIMIT) :
    spellLimits spelling (t :: ts) = t :: spellLimits spelling ts := by
  match ts with
  | [] | [_] | [_, _] => rfl
  | _ :: _ :: _ :: _ =>
      rw [spellLimits, if_neg fun hBoth => hKind hBoth.1]

/- A limit that does not have the other spelling is left as it is. -/
theorem spellLimits_limit
    {limit : Token}
    (value : Token)
    {ts : List Token}
    (hWord : ∀ t ∈ ts.head?, t.kind ≠ spelling.other.word.kind) :
    spellLimits spelling (limit :: value :: ts) =
      limit :: spellLimits spelling (value :: ts) := by
  match ts, hWord with
  | [], _ | [_], _ => rfl
  | word :: _ :: _, hWord =>
      rw [spellLimits, if_neg fun hBoth => hWord word rfl hBoth.2]

theorem spellLimits_other
    {limit first word second : Token}
    (ts : List Token)
    (hLimit : limit.kind = .LIMIT)
    (hWord : word.kind = spelling.other.word.kind) :
    spellLimits spelling (limit :: first :: word :: second :: ts) =
      limit :: second :: spelling.word :: first ::
        spellLimits spelling ts := by
  rw [spellLimits, if_pos ⟨hLimit, hWord⟩]

end Token

open Token

theorem Derivation.tokens_node
    (r : Rule)
    (parts : Derivations r.rhs) :
    (Derivation.node r parts).tokens = parts.tokens := by
  rw [Derivation.tokens]

theorem spellLimits_limitOnly
    {rest : List Token}
    (parts : Derivations [.token .LIMIT, .phrase .limitValue])
    (hRest : EndsLimit rest) :
    spellLimits spelling (parts.tokens ++ rest) =
      parts.tokens ++ spellLimits spelling rest := by
  rcases parts with _ | ⟨limit, _ | ⟨value, ⟨⟩⟩⟩
  rcases limit.exists_token with ⟨text, hLimit, _⟩
  rcases value.exists_limitValue rfl with ⟨t, hValue, _, hKind⟩
  have hWord : ∀ t ∈ rest.head?, t.kind ≠ spelling.other.word.kind :=
    fun t hHead => hRest t hHead spelling.other
  simp only [Derivations.tokens, hLimit, hValue, List.append_nil,
    List.cons_append, List.nil_append, spellLimits_limit t hWord,
    spellLimits_cons rest hKind]

/- A limit with two values, with the token between them. -/
theorem Derivations.exists_limit
    {word : Terminal}
    (parts : Derivations [.token .LIMIT, .phrase .limitValue,
      .token word, .phrase .limitValue]) :
    ∃ (limit : Derivation (.token .LIMIT))
      (first : Derivation (.phrase .limitValue))
      (middle : Derivation (.token word))
      (second : Derivation (.phrase .limitValue))
      (text text' : List Char) (t t' : Token),
      parts = .cons limit (.cons first (.cons middle
          (.cons second .nil))) ∧
        limit.tokens = [⟨.LIMIT, text⟩] ∧ first.tokens = [t] ∧
          middle.tokens = [⟨word, text'⟩] ∧ second.tokens = [t'] ∧
            t.kind ≠ .LIMIT ∧ t'.kind ≠ .LIMIT := by
  rcases parts with _ | ⟨limit, _ | ⟨first, _ | ⟨middle, _ | ⟨second, ⟨⟩⟩⟩⟩⟩
  rcases limit.exists_token with ⟨text, hLimit, _⟩
  rcases middle.exists_token with ⟨text', hMiddle, _⟩
  rcases first.exists_limitValue rfl with ⟨t, hFirst, _, hKind⟩
  rcases second.exists_limitValue rfl with ⟨t', hSecond, _, hKind'⟩
  exact ⟨limit, first, middle, second, text, text', t, t', rfl, hLimit,
    hFirst, hMiddle, hSecond, hKind, hKind'⟩

/- A limit that has the spelling already is left as it is. -/
theorem spellLimits_same
    {word : Terminal}
    {rest : List Token}
    (parts : Derivations [.token .LIMIT, .phrase .limitValue,
      .token word, .phrase .limitValue])
    (hWord : word = spelling.word.kind) :
    spellLimits spelling (parts.tokens ++ rest) =
      parts.tokens ++ spellLimits spelling rest := by
  rcases parts.exists_limit with ⟨limit, first, middle, second, text,
    text', t, t', rfl, hLimit, hFirst, hMiddle, hSecond, hKind, hKind'⟩
  have hOther : word ≠ spelling.other.word.kind ∧ word ≠ .LIMIT := by
    subst hWord
    cases spelling <;> decide
  have hNext : ∀ u ∈ (Token.mk word text' :: t' :: rest).head?,
      u.kind ≠ spelling.other.word.kind := by
    rintro _ ⟨⟩
    exact hOther.1
  have hMiddleKind : (Token.mk word text').kind ≠ .LIMIT := hOther.2
  simp only [Derivations.tokens, hLimit, hMiddle, hFirst, hSecond,
    List.append_nil, List.cons_append, List.nil_append,
    spellLimits_limit t hNext, spellLimits_cons _ hKind,
    spellLimits_cons _ hKind', spellLimits_cons _ hMiddleKind]

/- The values of a limit in the other spelling are exchanged. -/
theorem spellLimits_exchanged
    {word : Terminal}
    {rest : List Token}
    (parts : Derivations [.token .LIMIT, .phrase .limitValue,
      .token word, .phrase .limitValue])
    (hWord : word = spelling.other.word.kind) :
    ∃ (limit : Derivation (.token .LIMIT))
      (first : Derivation (.phrase .limitValue))
      (middle : Derivation (.token word))
      (second : Derivation (.phrase .limitValue)),
      parts = .cons limit (.cons first (.cons middle
          (.cons second .nil))) ∧
        spellLimits spelling (parts.tokens ++ rest) =
          (Derivations.cons limit (.cons second
            (.cons (.leaf spelling.word) (.cons first .nil)))).tokens ++
            spellLimits spelling rest := by
  rcases parts.exists_limit with ⟨limit, first, middle, second, text,
    text', t, t', rfl, hLimit, hFirst, hMiddle, hSecond, _, _⟩
  refine ⟨limit, first, middle, second, rfl, ?_⟩
  have hSpelled :
      spellLimits spelling
          (⟨.LIMIT, text⟩ :: t :: ⟨word, text'⟩ :: t' :: rest) =
        ⟨.LIMIT, text⟩ :: t' :: spelling.word :: t ::
          spellLimits spelling rest :=
    spellLimits_other rest rfl hWord
  simp only [Derivations.tokens, Derivation.tokens, hLimit, hFirst, hMiddle,
    hSecond, List.append_nil, List.cons_append, List.nil_append, hSpelled]

/- There is no further limit in the parts of a limit. -/
theorem Derivation.spelled_token
    {kind : Terminal}
    (d : Derivation (.token kind)) :
    d.spelled spelling = d := by
  rcases d.eq_leaf rfl with ⟨⟨_, text⟩, hKind, rfl, rfl⟩
  rfl

theorem Derivations.spelled_single
    {kind : Terminal}
    (parts : Derivations [.token kind]) :
    parts.spelled spelling = parts := by
  rcases parts with _ | ⟨head, ⟨⟩⟩
  rw [Derivations.spelled, Derivations.spelled, head.spelled_token]

theorem Derivation.spelled_limitValue
    {s : Symbol}
    (d : Derivation s)
    (hSymbol : s = .phrase .limitValue) :
    d.spelled spelling = d := by
  cases d with
  | leaf t => rfl
  | node r parts =>
      injection hSymbol with hRule
      rw [Derivation.spelled]
      cases r with
      | limitNumber =>
          rw [Rule.spelled_eq _ (by cases spelling <;> exact nofun)]
          exact congrArg (Derivation.node .limitNumber)
            (Derivations.spelled_single parts)
      | limitParameter =>
          rw [Rule.spelled_eq _ (by cases spelling <;> exact nofun)]
          exact congrArg (Derivation.node .limitParameter)
            (Derivations.spelled_single parts)
      | _ => cases hRule

theorem Derivations.spelled_of_isLimit
    {r : Rule}
    (parts : Derivations r.rhs)
    (hRule : r.isLimit = true) :
    parts.spelled spelling = parts := by
  cases r with
  | limitOnly =>
      rcases parts with _ | ⟨limit, _ | ⟨value, ⟨⟩⟩⟩
      simp only [Derivations.spelled, limit.spelled_token,
        value.spelled_limitValue rfl]
      rfl
  | limitComma | limitOffset =>
      rcases parts with _ | ⟨limit, _ | ⟨value, _ | ⟨word, _ | ⟨value', ⟨⟩⟩⟩⟩⟩
      simp only [Derivations.spelled, limit.spelled_token,
        word.spelled_token, value.spelled_limitValue rfl,
        value'.spelled_limitValue rfl]
      rfl
  | _ => cases hRule

/- The tokens of a limit are spelled as its derivation is. -/
theorem spellLimits_of_isLimit
    {r : Rule}
    {rest : List Token}
    (parts : Derivations r.rhs)
    (hRule : r.isLimit = true)
    (hRest : EndsLimit rest) :
    spellLimits spelling (parts.tokens ++ rest) =
      (r.spelled spelling (parts.spelled spelling)).tokens ++
        spellLimits spelling rest := by
  rw [parts.spelled_of_isLimit hRule]
  cases r with
  | limitOnly =>
      rw [Rule.spelled_eq parts (by cases spelling <;> exact nofun),
        Derivation.tokens_node]
      exact spellLimits_limitOnly parts hRest
  | limitComma =>
      cases spelling with
      | comma =>
          rw [Rule.spelled_eq parts (by decide), Derivation.tokens_node]
          exact spellLimits_same parts rfl
      | keyword =>
          rcases @spellLimits_exchanged .keyword _ rest parts rfl with
            ⟨limit, first, word, second, rfl, hTokens⟩
          exact hTokens.trans (congrArg (· ++ spellLimits .keyword rest)
            (Derivation.tokens_node .limitOffset _).symm)
  | limitOffset =>
      cases spelling with
      | comma =>
          rcases @spellLimits_exchanged .comma _ rest parts rfl with
            ⟨limit, first, word, second, rfl, hTokens⟩
          exact hTokens.trans (congrArg (· ++ spellLimits .comma rest)
            (Derivation.tokens_node .limitComma _).symm)
      | keyword =>
          rw [Rule.spelled_eq parts (by decide), Derivation.tokens_node]
          exact spellLimits_same parts rfl
  | _ => cases hRule

------------------------------------------------------------
-- Tokens of Statements
------------------------------------------------------------

theorem Rule.noOffset_rhs
    {r : Rule}
    (hRule : r.isLimit = false) :
    .token .OFFSET ∉ r.rhs := by
  cases r with
  | limitOnly | limitComma | limitOffset => cases hRule
  | _ => simp [Rule.rhs]

/- After an open phrase among closed symbols a limit has ended. -/
theorem endsLimit_of_areClosed
    {s : Symbol}
    {ss : List Symbol}
    {rest : List Token}
    (tail : Derivations ss)
    (hClosed : AreClosed (s :: ss) = true)
    (hOffset : .token .OFFSET ∉ ss)
    (hRest : EndOpen (s :: ss) = true → EndsLimit rest)
    (hOpen : s.isOpen = true) :
    EndsLimit (tail.tokens ++ rest) := by
  intro t hHead
  have hComma : NoComma (tail.tokens ++ rest) :=
    noComma_of_areClosed tail hClosed
      (fun hEnd u hFirst => hRest hEnd u hFirst .comma) hOpen
  cases tail with
  | nil =>
      rw [Derivations.tokens] at hHead
      exact hRest hOpen t hHead
  | @cons next ss head tail =>
      rintro (_ | _)
      · exact hComma t hHead
      · simp only [AreClosed, Bool.and_eq_true, hOpen, Bool.not_true,
          Bool.false_or] at hClosed
        cases next with
        | phrase n => cases hClosed.1.2
        | token kind =>
            rcases head.exists_token with ⟨text, hTokens, _⟩
            rw [Derivations.tokens, hTokens] at hHead
            cases hHead
            rintro rfl
            exact hOffset List.mem_cons_self

mutual

/-
  The tokens of a derivation with one spelling of its limits are
  those of the derivation, spelled so, if a limit has ended after
  an open phrase.
-/
theorem Derivation.spellLimits_tokens :
    ∀ {s : Symbol} (d : Derivation s) {rest : List Token},
      s ≠ .token .LIMIT → (s.isOpen = true → EndsLimit rest) →
        spellLimits spelling (d.tokens ++ rest) =
          (d.spelled spelling).tokens ++ spellLimits spelling rest
| _, .leaf t, rest, hSymbol, _ => by
    have hKind : t.kind ≠ .LIMIT := fun hLimit =>
      hSymbol (congrArg Symbol.token hLimit)
    rw [Derivation.spelled, Derivation.tokens, List.singleton_append,
      spellLimits_cons rest hKind, List.singleton_append]
| _, .node r parts, rest, _, hRest => by
    have hParts := @Derivations.spellLimits_tokens _ parts rest
    rw [Derivation.tokens_node, Derivation.spelled]
    cases hRule : r.isLimit with
    | true =>
        have hOpen : (Symbol.phrase r.lhs).isOpen = true := by
          cases r <;> first | rfl | cases hRule
        exact spellLimits_of_isLimit parts hRule (hRest hOpen)
    | false =>
        have hOther : r ≠ spelling.other.rule := by
          rintro rfl
          cases spelling <;> cases hRule
        have hClosed := Rule.areClosed_rhs hRule
        rw [Rule.spelled_eq _ hOther, Derivation.tokens_node]
        exact hParts hClosed.1 (Rule.noOffset_rhs hRule)
          fun hEnd => hRest (hClosed.2 hEnd)
termination_by structural _ d => d

theorem Derivations.spellLimits_tokens :
    ∀ {ss : List Symbol} (parts : Derivations ss) {rest : List Token},
      AreClosed ss = true → .token .OFFSET ∉ ss →
        (EndOpen ss = true → EndsLimit rest) →
          spellLimits spelling (parts.tokens ++ rest) =
            (parts.spelled spelling).tokens ++ spellLimits spelling rest
| _, .nil, rest, _, _, _ => by
    rw [Derivations.spelled, Derivations.tokens]
    rfl
| _, .cons head tail, rest, hClosed, hOffset, hRest => by
    rcases areClosed_cons hClosed with ⟨hSymbol, hAfter⟩
    have hNoOffset := fun hMember =>
      hOffset (List.mem_cons_of_mem _ hMember)
    have hTail := tail.spellLimits_tokens hAfter hNoOffset
      fun hEnd => hRest (endOpen_cons hEnd)
    have hHead := head.spellLimits_tokens hSymbol
      (endsLimit_of_areClosed tail hClosed hNoOffset hRest)
    rw [Derivations.spelled, Derivations.tokens, Derivations.tokens,
      List.append_assoc, hHead, hTail, List.append_assoc]
termination_by structural _ parts => parts

end

end SqlTemplate
