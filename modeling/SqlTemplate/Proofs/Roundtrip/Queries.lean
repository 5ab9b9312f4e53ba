import SqlTemplate.Proofs.Roundtrip.Clauses

/-
  Queries in texts.  Each clause stands in a line of its own, or
  is left out together with its line, and the lines are read
  back one after the other.

  Key definitions include:
    * `lineChars`
    * `Slot.ReadBack`
  Correctness is proven by:
    * `Denotes.columns`
    * `readBack_sources`
    * `readBack_query`
-/

------------------------------------------------------------
-- Clauses
------------------------------------------------------------

namespace SqlTemplate

variable {ctx : RenderContext} {P : List Char → Node → Prop}

/- The characters of a text, none if it is absent. -/
def charsOf (text : Option String) : List Char :=
  text.elim [] String.toList

/-
  A slot that is legible is read back from its text after a
  keyword, or from nothing if it has no text.
-/
def Slot.ReadBack
    (ctx : RenderContext)
    (separator keyword : String)
    (R : List Char → Slot Node → Prop)
    (slot : Slot Node) : Prop :=
  slot.Legible ctx.dialect →
    ∀ (depth : Nat) (indent : Int) (text : Option String),
      Node.renderSlot ctx depth indent separator slot = .ok text →
        R (charsOf (text.map fun s => keyword ++ " " ++ s)) slot

section

variable {separator keyword : String} {R : List Char → Slot Node → Prop}

theorem readBack_vacant
    (hNothing : R [] .vacant) :
    (Slot.vacant).ReadBack ctx separator keyword R := by
  intro _ depth indent text hText
  cases hText
  exact hNothing

theorem readBack_one
    {n : Node}
    (hNode : n.ReadBack ctx P)
    (hText : ∀ cs, P cs n → R (keyword.toList ++ ' ' :: cs) (.one n)) :
    (Slot.one n).ReadBack ctx separator keyword R := by
  intro hLegible depth indent text hSlot
  rcases gives_slot (hNode hLegible _ _) _ hSlot with ⟨s, rfl, _, hHolds⟩
  simpa [charsOf, String.toList_append] using hText _ hHolds

theorem readBack_list
    {ns : List Node}
    (hSome : ns ≠ [])
    (hNodes : ∀ n ∈ ns, n.ReadBack ctx P)
    (hText : ∀ texts : List String,
      List.Forall₂ (fun n s => P s.toList n) ns texts →
        R (keyword.toList ++ ' ' :: (separator.intercalate texts).toList)
          (.ofList ns)) :
    (Slot.ofList ns).ReadBack ctx separator keyword R := by
  intro hLegible depth indent text hSlot
  have hAll := legible_of_ofList hLegible
  rcases gives_list hSome
    (fun n hMember => hNodes n hMember (hAll n hMember) _ _) _ hSlot with
    ⟨s, rfl, _, texts, hTexts, hChars⟩
  have hHolds := hText texts hTexts
  rw [← hChars] at hHolds
  simpa [charsOf, String.toList_append] using hHolds

end

/- What is selected from is read back with what is joined to it. -/
theorem readBack_sources
    {first : Node}
    {others : List Node}
    (hFirst : first.ReadBack ctx
      (Denotes none (.phrase .source)))
    (hOthers : ∀ n ∈ others, n.ReadBack ctx
      (Denotes none (.phrase .join))) :
    (Slot.ofList (first :: others)).ReadBack ctx " " "FROM"
      (Denotes none (.phrase .sourceClause)) := by
  intro hLegible depth indent text hSlot
  have hAll := legible_of_ofList hLegible
  rw [List.forall_mem_cons] at hAll
  rw [Slot.ofList, List.map_cons, Node.renderSlot, Node.renderMembers]
    at hSlot
  rcases map_eq_ok.mp hSlot with ⟨texts, hTexts, rfl⟩
  rcases bind_eq_ok.mp hTexts with ⟨firstText, hFirstText, hRest⟩
  rcases bind_eq_ok.mp hRest with ⟨otherTexts, hOtherTexts, hBoth⟩
  cases hBoth
  rcases hFirst hAll.1 _ _ _ hFirstText with ⟨s, rfl, hNotEmpty, hSource⟩
  rcases forall₂_of_renderMembers
    (fun n hMember => hOthers n hMember (hAll.2 n hMember) _ _) hOtherTexts
    with ⟨hJoined, _⟩
  have hSources :
      Denotes none (.phrase .sources)
        (" ".intercalate (s :: otherTexts)).toList (first :: others) := by
    rw [toList_intercalate_cons]
    refine holds_append
      (P := Denotes none (.phrase .sources))
      (Q := Denotes none (.phrase .join))
      ?_ (.of_rule .firstSource rfl (.last hSource)) hJoined
    intro cs ns cs' n hList hItem
    exact .of_rule .nextSource rfl
      (.spaced hList (.last hItem))
  have hClause :
      Denotes none (.phrase .sourceClause)
        ("FROM".toList ++ ' ' :: (" ".intercalate (s :: otherTexts)).toList)
        (Slot.ofList (first :: others)) :=
    .of_rule .fromSources rfl
      (.word (by decide) (.last hSources))
  rw [Option.bind_some, present_of_ne_empty hNotEmpty]
  simpa [charsOf, joined, String.toList_append] using hClause

/- Columns with commas between them. -/
theorem Denotes.columns
    {ns : List Node}
    {texts : List String}
    (hSome : ns ≠ [])
    (hTexts : List.Forall₂
      (fun n s => Denotes none (.phrase .column) s.toList n) ns texts) :
    Denotes none (.phrase .columns) (", ".intercalate texts).toList ns := by
  refine holds_intercalate
    (P := Denotes none (.phrase .columns))
    (Q := Denotes none (.phrase .column)) ?_ ?_ hSome hTexts
  · intro cs n hItem
    exact .of_rule .firstColumn rfl (.last hItem)
  · intro cs ns cs' n hList hItem
    exact .of_rule .nextColumn rfl
      (.cons hList (.mark rfl (by decide) (.blank rfl (.last hItem))) rfl)

/- Sort keys with commas between them. -/
theorem Denotes.orderKeys
    {ns : List Node}
    {texts : List String}
    (hSome : ns ≠ [])
    (hTexts : List.Forall₂
      (fun n s => Denotes none (.phrase .orderKey) s.toList n) ns texts) :
    Denotes none (.phrase .orderKeys) (", ".intercalate texts).toList ns := by
  refine holds_intercalate
    (P := Denotes none (.phrase .orderKeys))
    (Q := Denotes none (.phrase .orderKey)) ?_ ?_ hSome hTexts
  · intro cs n hItem
    exact .of_rule .firstKey rfl (.last hItem)
  · intro cs ns cs' n hList hItem
    exact .of_rule .nextKey rfl
      (.cons hList (.mark rfl (by decide) (.blank rfl (.last hItem))) rfl)

------------------------------------------------------------
-- Lines
------------------------------------------------------------

/- A line break and the blanks at the start of the next line. -/
def lineStart (indent : Int) : List Char :=
  '\n' :: List.replicate indent.toNat ' '

/- The characters of a line below others, none if it is absent. -/
def lineChars
    (indent : Int)
    (line : Option String) : List Char :=
  line.elim [] fun s => lineStart indent ++ s.toList

theorem startsApart_line
    (indent : Int)
    (line : Option String) :
    startsApart (lineChars indent line) = true := by
  cases line <;> rfl

theorem Denotes.line
    {s : Symbol}
    {m : s.Meaning}
    {line : Option String}
    (indent : Int)
    (hText : Denotes none s (charsOf line) m) :
    Denotes none s (lineChars indent line) m := by
  cases line with
  | none => exact hText
  | some t =>
      have hBlanks :
          ∀ k, Denotes none s (List.replicate k ' ' ++ t.toList) m := by
        intro k
        induction k with
        | zero => exact hText
        | succ k ih =>
            rw [List.replicate_succ, List.cons_append]
            exact ih.blank rfl
      exact (hBlanks _).blank rfl

theorem layLines_toList
    (indent : Int)
    (first : String)
    (lines : List String) :
    (layLines indent (first :: lines)).toList =
      first.toList ++ lines.flatMap fun s => lineStart indent ++ s.toList := by
  have hStart :
      ("\n" ++ String.ofList (List.replicate indent.toNat ' ')).toList =
        lineStart indent := by
    rw [String.toList_append]
    exact congrArg ('\n' :: ·) String.toList_ofList
  rw [layLines, toList_intercalate_cons, hStart]

/- The line of a clause, if it is not left out. -/
theorem lineChars_clauses
    (indent : Int)
    (keyword : String)
    (text : Option String)
    (clauses : List (String × Option String))
    (lines : List String) :
    ((((keyword, text) :: clauses).filterMap fun clause =>
        clause.2.map fun s => clause.1 ++ " " ++ s) ++ lines).flatMap
      (fun s => lineStart indent ++ s.toList) =
    lineChars indent (text.map fun s => keyword ++ " " ++ s) ++
      ((clauses.filterMap fun clause =>
        clause.2.map fun s => clause.1 ++ " " ++ s) ++ lines).flatMap
        (fun s => lineStart indent ++ s.toList) := by
  cases text <;> rfl

theorem lineChars_toList
    (indent : Int)
    (line : Option String) :
    line.toList.flatMap (fun s => lineStart indent ++ s.toList) =
      lineChars indent line := by
  cases line with
  | none => rfl
  | some s => exact List.append_nil _

/- The words of a query before its columns. -/
def headChars : Bool → List Char
| false => "SELECT".toList ++ [' ']
| true => "SELECT".toList ++ ' ' :: ("DISTINCT".toList ++ [' '])

/- The text of a query without options, line by line. -/
theorem written_toList
    {q : Query Node}
    {texts : QueryTexts}
    {columns : String}
    (indent : Int)
    (line : Option String)
    (hOptions : q.options = [])
    (hColumns : texts.columns = some columns) :
    (q.written indent texts line).toList =
      headChars q.distinct ++ (columns.toList ++
        (lineChars indent (texts.source.map fun s => "FROM" ++ " " ++ s) ++
        (lineChars indent (texts.filter.map fun s => "WHERE" ++ " " ++ s) ++
        (lineChars indent (texts.groups.map fun s => "GROUP BY" ++ " " ++ s) ++
        (lineChars indent (texts.having.map fun s => "HAVING" ++ " " ++ s) ++
        (lineChars indent (texts.order.map fun s => "ORDER BY" ++ " " ++ s) ++
          lineChars indent line)))))) := by
  have hHead :
      (" ".intercalate
        (("SELECT" :: if q.distinct then ["DISTINCT"] else []) ++
          [columns])).toList =
        headChars q.distinct ++ columns.toList := by
    have hBlank := List.append_nil columns.toList
    rw [List.cons_append, toList_intercalate_cons]
    cases q.distinct with
    | false =>
        exact congrArg (fun cs => "SELECT".toList ++ ' ' :: cs) hBlank
    | true =>
        exact congrArg
          (fun cs =>
            "SELECT".toList ++ ' ' :: ("DISTINCT".toList ++ ' ' :: cs))
          hBlank
  rw [Query.written, queryLines, hOptions, hColumns]
  dsimp only [List.isEmpty_nil, if_true, Option.toList_some]
  rw [if_pos rfl, List.singleton_append, List.cons_append, layLines_toList,
    hHead, lineChars_clauses, lineChars_clauses, lineChars_clauses, lineChars_clauses,
    lineChars_clauses, List.filterMap_nil, List.nil_append, lineChars_toList,
    List.append_assoc]

------------------------------------------------------------
-- Queries
------------------------------------------------------------

/- A line before other ones. -/
theorem DenotesAll.line
    {α : Type}
    {a : α}
    {s : Symbol}
    {ss : List Symbol}
    {cs : List Char}
    {m : s.Meaning}
    {f : Meanings α (s :: ss)}
    {line : Option String}
    (indent : Int)
    (hLine : Denotes none s (charsOf line) m)
    (hRest : DenotesAll none ss (f m) cs a ∧ startsApart cs = true) :
    DenotesAll none (s :: ss) f (lineChars indent line ++ cs) a ∧
      startsApart (lineChars indent line ++ cs) = true :=
  ⟨.cons (hLine.line indent) hRest.1 hRest.2,
    startsApart_append (startsApart_line indent line) hRest.2⟩

theorem Members.legibleColumns_map_some
    {d : Dialect}
    {ns : List Node}
    (hLegible : (Slot.ofList ns).LegibleColumns d) :
    ∀ n ∈ ns, n.IsStar d ∨ n.Legible d := by
  change Members.LegibleColumns d (ns.map some) at hLegible
  induction ns with
  | nil => exact nofun
  | cons n ns ih =>
      rw [List.forall_mem_cons]
      exact ⟨hLegible.1, ih hLegible.2⟩

/- The words before the columns of a query and what follows them. -/
theorem Denotes.head
    {cs : List Char}
    {q : Query Node}
    {distinct : Bool}
    (hParts :
      DenotesAll none
        [.phrase .columns, .phrase .sourceClause, .phrase .filterClause,
          .phrase .groupClause, .phrase .havingClause, .phrase .orderClause,
          .phrase .limitClause]
        (Rule.query.meaning "SELECT".toList distinct) cs q) :
    Denotes none (.phrase .query) (headChars distinct ++ cs) q := by
  cases distinct with
  | false =>
      change Denotes none _ ("SELECT".toList ++ ' ' :: cs) _
      exact .of_rule .query rfl
        (.word (by decide) (.everyRow hParts))
  | true =>
      have hDistinct :
          Denotes none (.phrase .rowKind) "DISTINCT".toList true :=
        .of_rule .distinctRows rfl
          (.lastWord (by decide))
      change Denotes none _
        ("SELECT".toList ++ ' ' :: ("DISTINCT".toList ++ ' ' :: cs)) _
      exact .of_rule .query rfl
        (.word (by decide) (.spaced hDistinct hParts))

/- A query is read back if its columns and its clauses are. -/
theorem readBack_query
    {columns : List Node}
    {source filter groups having order limit offset : Slot Node}
    {distinct : Bool}
    (hSome : columns ≠ [])
    (hColumns : ∀ n ∈ columns, n.ReadBack ctx
      (Denotes none (.phrase .column)))
    (hSource : source.ReadBack ctx " " "FROM"
      (Denotes none (.phrase .sourceClause)))
    (hFilter : filter.ReadBack ctx " " "WHERE"
      (Denotes none (.phrase .filterClause)))
    (hGroups : groups.ReadBack ctx ", " "GROUP BY"
      (Denotes none (.phrase .groupClause)))
    (hHaving : having.ReadBack ctx " " "HAVING"
      (Denotes none (.phrase .havingClause)))
    (hOrder : order.ReadBack ctx ", " "ORDER BY"
      (Denotes none (.phrase .orderClause)))
    (hLimits : limit.IsLimit ∧ offset.IsLimit) :
    Query.ReadBack ctx
      { columns := .ofList columns
        source, filter, groups, having, order, limit, offset
        distinct, options := [] } := by
  rintro ⟨hColumnsKept, hSourceKept, hFilterKept, hGroupsKept, hHavingKept,
    hOrderKept, hLimitsKept⟩ depth indent s hRender
  rcases renderQuery_eq_ok.mp hRender with
    ⟨_, texts, line, hTexts, hLine, rfl⟩
  have hEach :
      ∀ n ∈ columns, Rendered.Gives
        (fun cs => Denotes none (.phrase .column) cs n)
        (n.render ctx (depth + 1) indent) := by
    intro n hMember
    rcases Members.legibleColumns_map_some hColumnsKept n hMember with
      hStar | hLegible
    · exact gives_star hStar
    · exact hColumns n hMember hLegible _ _
  rcases gives_list (P := Denotes none (.phrase .column))
    hSome hEach _ hTexts.columns with
    ⟨columnsText, hColumnsText, _, columnTexts, hColumnTexts, hChars⟩
  have hColumnsPart := Denotes.columns hSome hColumnTexts
  rw [← hChars] at hColumnsPart
  have hLimitsPart :
      Denotes none (.phrase .limitClause) (charsOf line) (limit, offset) :=
    denotes_limits hLimits.1 hLimits.2 hLimitsKept hTexts.limit
      hTexts.offset hLine
  rw [written_toList indent line rfl hColumnsText]
  have hClauses :=
    DenotesAll.line indent
      (f := Rule.query.meaning "SELECT".toList distinct columns)
      (hSource hSourceKept _ _ _ hTexts.source) <|
    DenotesAll.line indent (hFilter hFilterKept _ _ _ hTexts.filter) <|
    DenotesAll.line indent (hGroups hGroupsKept _ _ _ hTexts.groups) <|
    DenotesAll.line indent (hHaving hHavingKept _ _ _ hTexts.having) <|
    DenotesAll.line indent (hOrder hOrderKept _ _ _ hTexts.order)
      ⟨.last (hLimitsPart.line indent), startsApart_line indent line⟩
  exact .head (.cons hColumnsPart hClauses.1 hClauses.2)

end SqlTemplate
