import Mathlib.Data.List.TakeWhile
import SqlTemplate.Node.Shape
import SqlTemplate.Proofs.Rendering.Inversion
import SqlTemplate.Template

/-
  The words that follow the colons of a text.  A text mentions a
  placeholder if its name is one of them, and texts put together
  with glue that is no part of a word keep theirs.

  Key definitions include:
    * `Text.colonNames`
    * `Text.IsGlue`
  Correctness is proven by:
    * `Text.mentions_iff`
    * `Text.colonNames_glued`
    * `Text.colonNames_intercalate`
-/

------------------------------------------------------------
-- Words after Colons
------------------------------------------------------------

namespace SqlTemplate

namespace Text

/- The words that follow the colons of a text, in order. -/
def colonWords : List Char → List (List Char)
| [] => []
| c :: cs =>
    if c = ':' then
      cs.takeWhile isWord :: colonWords cs
    else
      colonWords cs

/- The names that follow the colons of a text, in order. -/
def colonNames (s : String) : List String :=
  (colonWords s.toList).map String.ofList

/- A text that starts with a whole word has that word in front. -/
theorem startsWithWord_iff
    {word cs : List Char}
    (hWord : word.all isWord = true) :
    startsWithWord word cs = true ↔ cs.takeWhile isWord = word := by
  unfold startsWithWord
  rw [Bool.and_eq_true, List.isPrefixOf_iff_prefix]
  constructor
  · rintro ⟨⟨rest, rfl⟩, hEnd⟩
    rw [List.drop_left] at hEnd
    have hRest : rest.takeWhile isWord = [] := by
      cases rest with
      | nil => rfl
      | cons c rest =>
          rw [List.takeWhile_cons_of_neg]
          simpa using hEnd
    rw [List.takeWhile_append_of_pos (List.all_eq_true.mp hWord), hRest,
      List.append_nil]
  · rintro rfl
    refine ⟨List.takeWhile_prefix _, ?_⟩
    have hSplit : cs.takeWhile isWord ++ cs.dropWhile isWord = cs :=
      List.takeWhile_append_dropWhile
    have hDrop :
        (cs.takeWhile isWord ++ cs.dropWhile isWord).drop
            (cs.takeWhile isWord).length =
          cs.dropWhile isWord :=
      List.drop_left
    rw [hSplit] at hDrop
    rw [hDrop]
    cases hRest : cs.dropWhile isWord with
    | nil => rfl
    | cons c rest =>
        have hHead := List.head?_dropWhile_not isWord cs
        rw [hRest] at hHead
        simpa using hHead

theorem mentions_iff_mem_colonWords
    {word : List Char}
    (hWord : word.all isWord = true)
    (cs : List Char) :
    mentions word cs = true ↔ word ∈ colonWords cs := by
  induction cs with
  | nil => simp [mentions, colonWords]
  | cons c cs ih =>
      rw [mentions, colonWords, Bool.or_eq_true, ih, Bool.and_eq_true,
        beq_iff_eq, startsWithWord_iff hWord]
      by_cases hColon : c = ':'
      · simp [hColon, eq_comm]
      · simp [hColon]

/- A text mentions a name if the name follows a colon in it. -/
theorem mentions_iff
    {name s : String}
    (hName : name.toList.all isWord = true) :
    mentions name.toList s.toList = true ↔ name ∈ colonNames s := by
  rw [mentions_iff_mem_colonWords hName, colonNames, List.mem_map]
  constructor
  · intro hMember
    exact ⟨name.toList, hMember, String.ofList_toList⟩
  · rintro ⟨word, hMember, rfl⟩
    rw [String.toList_ofList]
    exact hMember

------------------------------------------------------------
-- Texts Put Together
------------------------------------------------------------

/- A text without colons. -/
def IsPlain (s : String) : Prop :=
  ':' ∉ s.toList

instance (s : String) : Decidable (IsPlain s) :=
  inferInstanceAs (Decidable (':' ∉ s.toList))

/- A text without colons that no word reaches into. -/
def IsGlue (s : String) : Prop :=
  IsPlain s ∧ (s.toList.takeWhile isWord = [] ∧ s.toList ≠ [])

instance (s : String) : Decidable (IsGlue s) :=
  inferInstanceAs (Decidable (_ ∧ _))

theorem colonWords_eq_nil
    {cs : List Char}
    (hPlain : ':' ∉ cs) :
    colonWords cs = [] := by
  induction cs with
  | nil => rfl
  | cons c cs ih =>
      rw [List.mem_cons, not_or] at hPlain
      rw [colonWords, if_neg (fun hColon => hPlain.1 hColon.symm),
        ih hPlain.2]

theorem colonWords_append_of_plain
    {cs : List Char}
    (hPlain : ':' ∉ cs)
    (rest : List Char) :
    colonWords (cs ++ rest) = colonWords rest := by
  induction cs with
  | nil => rfl
  | cons c cs ih =>
      rw [List.mem_cons, not_or] at hPlain
      rw [List.cons_append, colonWords,
        if_neg (fun hColon => hPlain.1 hColon.symm), ih hPlain.2]

/- A word ends where a text starts that no word reaches into. -/
theorem takeWhile_append_of_apart
    (cs : List Char)
    {rest : List Char}
    (hApart : rest.takeWhile isWord = []) :
    (cs ++ rest).takeWhile isWord = cs.takeWhile isWord := by
  induction cs with
  | nil => exact hApart
  | cons c cs ih =>
      rw [List.cons_append, List.takeWhile_cons, List.takeWhile_cons, ih]

theorem colonWords_append_of_apart
    (cs : List Char)
    {rest : List Char}
    (hApart : rest.takeWhile isWord = []) :
    colonWords (cs ++ rest) = colonWords cs ++ colonWords rest := by
  induction cs with
  | nil => rfl
  | cons c cs ih =>
      rw [List.cons_append, colonWords, colonWords,
        takeWhile_append_of_apart cs hApart, ih]
      split <;> rfl

@[simp] theorem colonNames_of_plain
    {s : String}
    (hPlain : IsPlain s) :
    colonNames s = [] := by
  rw [colonNames, colonWords_eq_nil hPlain, List.map_nil]

/- A text without colons in front of a text. -/
theorem colonNames_preceded
    {before : String}
    (hPlain : IsPlain before)
    (s : String) :
    colonNames (before ++ s) = colonNames s := by
  rw [colonNames, String.toList_append, colonWords_append_of_plain hPlain,
    colonNames]

/- Glue, and what follows it, after a text. -/
theorem colonNames_glued
    {glue : String}
    (hGlue : IsGlue glue)
    (s s' : String) :
    colonNames (s ++ glue ++ s') = colonNames s ++ colonNames s' := by
  have hApart : (glue.toList ++ s'.toList).takeWhile isWord = [] := by
    cases hChars : glue.toList with
    | nil => exact absurd hChars hGlue.2.2
    | cons c cs =>
        have hHead := hGlue.2.1
        rw [hChars] at hHead
        cases hWord : isWord c with
        | true => simp [hWord] at hHead
        | false => simp [hWord]
  rw [colonNames, String.toList_append, String.toList_append,
    List.append_assoc, colonWords_append_of_apart _ hApart,
    colonWords_append_of_plain hGlue.1, List.map_append, colonNames,
    colonNames]

/- Glue at the end of a text. -/
theorem colonNames_followed
    {glue : String}
    (hGlue : IsGlue glue)
    (s : String) :
    colonNames (s ++ glue) = colonNames s := by
  have hBoth := colonNames_glued hGlue s ""
  rw [String.append_empty] at hBoth
  rw [hBoth]
  exact List.append_nil _

/- Texts with glue between each two of them. -/
theorem colonNames_intercalate
    {glue : String}
    (hGlue : IsGlue glue)
    (texts : List String) :
    colonNames (glue.intercalate texts) = texts.flatMap colonNames := by
  induction texts with
  | nil => rfl
  | cons s texts ih =>
      cases texts with
      | nil =>
          rw [String.intercalate_singleton]
          simp
      | cons s' texts =>
          rw [String.intercalate_cons_cons, colonNames_glued hGlue, ih,
            List.flatMap_cons, List.flatMap_cons, List.flatMap_cons]

end Text

------------------------------------------------------------
-- Parts of Statements
------------------------------------------------------------

open Text

/- The names that follow colons in a text that can be absent. -/
def namesIn (text : Option String) : List String :=
  text.toList.flatMap colonNames

theorem namesIn_some
    (s : String) :
    namesIn (some s) = colonNames s := by
  simp [namesIn]

/- An empty text mentions nothing, so it can be absent. -/
theorem namesIn_present
    (text : Option String) :
    namesIn (text.bind present) = namesIn text := by
  cases text with
  | none => rfl
  | some s =>
      rw [Option.bind_some, present]
      split
      next hEmpty =>
        subst hEmpty
        rfl
      next => rfl

theorem colonNames_placeholder
    {name : String}
    (hName : name.toList.all isWord = true) :
    colonNames (placeholder name) = [name] := by
  have hPlain : ':' ∉ name.toList := by
    intro hColon
    have hWord := List.all_eq_true.mp hName ':' hColon
    revert hWord
    decide
  have hWhole : name.toList.takeWhile isWord = name.toList :=
    List.takeWhile_eq_self_iff.mpr (List.all_eq_true.mp hName)
  rw [colonNames, placeholder, String.toList_append,
    show ":".toList = [':'] from rfl, List.singleton_append, colonWords,
    if_pos rfl, hWhole, colonWords_eq_nil hPlain, List.map_singleton,
    String.ofList_toList]

theorem colonNames_nullTest
    (s : String) :
    colonNames (nullTest s) = colonNames s :=
  colonNames_followed (by decide) s

theorem colonNames_binaryText
    (op : BinaryOp)
    (s s' : String) :
    colonNames (binaryText op s s') = colonNames s ++ colonNames s' := by
  have hGlue : IsGlue (" " ++ op.symbol ++ " ") := by
    cases op <;> decide
  have hText : binaryText op s s' = s ++ (" " ++ op.symbol ++ " ") ++ s' := by
    simp only [binaryText, String.append_assoc]
  rw [hText, colonNames_glued hGlue]

theorem colonNames_enclose
    (brackets : Bool)
    (s : String) :
    colonNames (enclose brackets s) = colonNames s := by
  cases brackets with
  | false => rfl
  | true =>
      rw [enclose, if_pos rfl, String.append_assoc,
        colonNames_preceded (by decide), colonNames_followed (by decide)]

theorem colonNames_unaryText
    (op : UnaryOp)
    (s : String) :
    colonNames (unaryText op s) = colonNames s := by
  unfold unaryText
  split
  next =>
    have hGlue : IsGlue (" " ++ op.symbol) := by
      cases op <;> decide
    rw [String.append_assoc, colonNames_followed hGlue]
  split
  next =>
    unfold negated
    split
    · exact colonNames_preceded (by decide) s
    · exact colonNames_preceded (by decide) s
  next =>
    have hPlain : IsPlain (op.symbol ++ " ") := by
      cases op <;> decide
    exact colonNames_preceded hPlain s

theorem colonNames_betweenText
    {s t : String}
    {low high : Option String}
    (hText : betweenText s low high = some t) :
    colonNames t = colonNames s ++ namesIn low ++ namesIn high := by
  cases low with
  | none =>
      cases high with
      | none => cases hText
      | some upper =>
          cases hText
          rw [colonNames_glued (by decide), namesIn_some]
          simp [namesIn]
  | some lower =>
      cases high with
      | none =>
          cases hText
          rw [colonNames_glued (by decide), namesIn_some]
          simp [namesIn]
      | some upper =>
          cases hText
          rw [colonNames_glued (by decide), colonNames_glued (by decide),
            namesIn_some, namesIn_some]

theorem colonNames_callText
    (name : String)
    (args : List String)
    (distinct : Bool) :
    colonNames (callText name args distinct) =
      colonNames name ++ args.flatMap colonNames := by
  have hGlue : IsGlue ("(" ++ if distinct then "DISTINCT " else "") := by
    cases distinct <;> decide
  have hText :
      callText name args distinct =
        name ++ ("(" ++ if distinct then "DISTINCT " else "") ++
          (", ".intercalate args ++ ")") := by
    simp only [callText, String.append_assoc]
  rw [hText, colonNames_glued hGlue, colonNames_followed (by decide),
    colonNames_intercalate (by decide)]

theorem colonNames_orderText
    (key : String)
    {direction : Option String}
    (hDirection : ∀ word ∈ direction, word ∈ sortDirections) :
    colonNames (orderText key direction) = colonNames key := by
  cases direction with
  | none => rfl
  | some word =>
      have hWord := hDirection word rfl
      simp only [sortDirections, List.mem_cons, List.not_mem_nil,
        or_false] at hWord
      rcases hWord with rfl | rfl
      · exact (congrArg colonNames (String.append_assoc ..)).trans
          (colonNames_followed (by decide) key)
      · exact (congrArg colonNames (String.append_assoc ..)).trans
          (colonNames_followed (by decide) key)

/- The texts that are there, put after a word each. -/
theorem flatMap_labelled
    {word : String}
    (hPlain : IsPlain word)
    (text : Option String) :
    (text.map fun s => word ++ s).toList.flatMap colonNames =
      namesIn text := by
  cases text with
  | none => rfl
  | some s =>
      rw [Option.map_some, Option.toList_some, List.flatMap_singleton,
        colonNames_preceded hPlain, namesIn_some]

theorem flatMap_join
    {join : Option String}
    (hJoin : ∀ words ∈ join, words ∈ joinKinds) :
    (join.bind present).toList.flatMap colonNames = [] := by
  cases join with
  | none => rfl
  | some words =>
      have hPlain : ∀ words ∈ joinKinds,
          (Option.bind (some words) present).toList.flatMap colonNames =
            [] := by
        decide
      exact hPlain words (hJoin words rfl)

theorem colonNames_tableText
    (name : String)
    (label condition : Option String)
    {join : Option String}
    (hJoin : ∀ words ∈ join, words ∈ joinKinds) :
    colonNames (tableText join name label condition) =
      colonNames name ++ namesIn label ++ namesIn condition := by
  unfold tableText
  rw [colonNames_intercalate (by decide), List.flatMap_append,
    List.flatMap_append, List.flatMap_append, flatMap_join hJoin,
    flatMap_labelled (by decide), flatMap_labelled (by decide)]
  simp

theorem colonNames_subqueryText
    (query : String)
    (label : Option String) :
    colonNames (subqueryText query label) =
      colonNames query ++ namesIn label := by
  unfold subqueryText
  cases label with
  | none =>
      rw [Option.map_none, Option.getD_none, String.append_empty,
        String.append_assoc, colonNames_preceded (by decide),
        colonNames_followed (by decide)]
      exact (List.append_nil _).symm
  | some s =>
      have hText :
          "(" ++ query ++ ")" ++ (" AS " ++ s) =
            "(" ++ (query ++ ") AS " ++ s) := by
        simp only [String.append_assoc]
        rfl
      rw [Option.map_some, Option.getD_some, hText,
        colonNames_preceded (by decide), colonNames_glued (by decide),
        namesIn_some]

/- The clauses of a query, each after its keyword. -/
theorem flatMap_clauses
    (clauses : List (String × Option String))
    (hKeywords :
      ∀ keyword ∈ clauses.map Prod.fst, IsPlain (keyword ++ " ")) :
    (clauses.filterMap fun clause =>
        clause.2.map fun s => clause.1 ++ " " ++ s).flatMap colonNames =
      clauses.flatMap fun clause => namesIn clause.2 := by
  induction clauses with
  | nil => rfl
  | cons clause clauses ih =>
      rw [List.map_cons, List.forall_mem_cons] at hKeywords
      rcases clause with ⟨keyword, text⟩
      cases text with
      | none => exact ih hKeywords.2
      | some s =>
          have hFirst :
              colonNames (keyword ++ " " ++ s) = namesIn (some s) := by
            rw [colonNames_preceded hKeywords.1, namesIn_some]
          rw [List.flatMap_cons, ← ih hKeywords.2, ← hFirst]
          rfl

theorem colonNames_layLines
    (indent : Int)
    (lines : List String) :
    colonNames (layLines indent lines) = lines.flatMap colonNames := by
  have hGlue :
      IsGlue ("\n" ++ String.ofList (List.replicate indent.toNat ' ')) := by
    have hChars :
        ("\n" ++ String.ofList (List.replicate indent.toNat ' ')).toList =
          '\n' :: List.replicate indent.toNat ' ' := by
      rw [String.toList_append, show "\n".toList = ['\n'] from rfl,
        String.toList_ofList, List.singleton_append]
    refine ⟨?_, ?_, ?_⟩
    · rw [IsPlain, hChars]
      simp
    · rw [hChars]
      rfl
    · rw [hChars]
      exact List.cons_ne_nil _ _
  exact colonNames_intercalate hGlue lines

theorem mem_colonNames_limitLine
    (d : Dialect)
    (limit : String)
    (offset : Option String)
    (name : String) :
    name ∈ colonNames (d.limitLine limit offset) ↔
      name ∈ colonNames limit ∨ name ∈ namesIn offset := by
  cases offset with
  | none =>
      have hText : d.limitLine limit none = "LIMIT " ++ limit := by
        cases d <;> rfl
      rw [hText, colonNames_preceded (by decide)]
      simp [namesIn]
  | some offset =>
      rw [namesIn_some]
      cases d with
      | mysql | sqlite =>
          rw [Dialect.limitLine, colonNames_glued (by decide),
            colonNames_preceded (by decide), List.mem_append]
          exact or_comm
      | postgresql | duckdb =>
          rw [Dialect.limitLine, colonNames_glued (by decide),
            colonNames_preceded (by decide), List.mem_append]

end SqlTemplate
