import SqlTemplate.Proofs.Rendering.Presence
import SqlTemplate.Rendering.Sheet

/-
  Indentation touches nothing but line breaks.  What is written
  for a tree at any indentation is one sheet written at that
  indentation, so that more of it only puts spaces after the
  newlines between the lines of queries.

  Key definitions include:
    * `RenderError.plain`
    * `RenderError.notice?`
    * `LaidBy`

  Correctness is proven by:
    * `Sheet.write_lines`
    * `Node.render_laid`
    * `Slot.renderSlot_laid`
    * `Members.renderMembers_laid`
    * `Members.renderArgs_laid`
    * `Query.renderQuery_laid`
    * `Sheet.write_padded`
    * `indentation_pads_line_breaks`
-/

------------------------------------------------------------
-- Written Sheets
------------------------------------------------------------

namespace SqlTemplate

namespace Sheet

variable (indent : Nat)

@[simp]
theorem write_append
    (s t : Sheet) :
    write indent (s ++ t) = write indent s ++ write indent t := by
  rw [write, marked, List.flatMap_append, List.map_append,
    String.ofList_append]
  rfl

@[simp]
theorem write_plain
    (s : String) : write indent (plain s) = s := by
  have hChars :
      ∀ cs : List Char,
        ((cs.map Glyph.char).flatMap (Glyph.marked indent)).map Prod.fst =
          cs := by
    intro cs
    induction cs with
    | nil => rfl
    | cons c cs ih => exact congrArg (c :: ·) ih
  rw [write, marked, plain, hChars, String.ofList_toList]

/- The characters that a glyph starts with. -/
theorem toList_write_cons
    (glyph : Glyph)
    (sheet : Sheet) :
    (write indent (glyph :: sheet)).toList =
      (glyph.marked indent).map Prod.fst ++ (write indent sheet).toList := by
  rw [write, write, marked, List.flatMap_cons, List.map_append,
    String.toList_ofList, String.toList_ofList]
  rfl

@[simp]
theorem write_lineBreak
    (level : Nat) :
    write indent [.lineBreak level] =
      "\n" ++ String.ofList (List.replicate (indent + level) ' ') := by
  apply String.toList_injective
  rw [toList_write_cons]
  simp [Glyph.marked, write, marked]

/- Only the empty sheet is written as the empty text. -/
theorem write_eq_empty
    {sheet : Sheet} :
    write indent sheet = "" ↔ sheet = [] := by
  cases sheet with
  | nil => exact iff_of_true rfl rfl
  | cons glyph sheet =>
      refine iff_of_false (fun hEmpty => ?_) (List.cons_ne_nil _ _)
      have hChars := congrArg String.toList hEmpty
      rw [toList_write_cons] at hChars
      cases glyph <;> cases hChars

@[simp]
theorem write_intercalate
    (separator : Sheet)
    (sheets : List Sheet) :
    write indent (separator.intercalate sheets) =
      (write indent separator).intercalate (sheets.map (write indent)) := by
  induction sheets with
  | nil => rfl
  | cons s sheets ih =>
      cases sheets with
      | nil =>
          rw [List.intercalate_singleton, List.map_singleton,
            String.intercalate_singleton]
      | cons t sheets =>
          rw [List.intercalate_cons_cons, write_append, write_append, ih]
          exact String.intercalate_cons_cons.symm

/- A text starts alike at every indentation. -/
theorem head?_write
    (sheet : Sheet) :
    (write indent sheet).toList.head? =
      sheet.head?.map fun glyph =>
        match glyph with
        | .char c => c
        | .lineBreak _ => '\n' := by
  cases sheet with
  | nil => rfl
  | cons glyph sheet =>
      rw [toList_write_cons]
      cases glyph <;> rfl

/- So does a text without its first blanks, which breaks end with. -/
theorem head?_trimStart
    (other : Nat)
    (sheet : Sheet) :
    (Text.trimStart (write indent sheet).toList).head? =
      (Text.trimStart (write other sheet).toList).head? := by
  have hNewline : Text.isBlank '\n' = true := by decide
  have hSpace : Text.isBlank ' ' = true := by decide
  have hBreak :
      ∀ k level cs,
        Text.trimStart
            (((Glyph.lineBreak level).marked k).map Prod.fst ++ cs) =
          Text.trimStart cs := by
    intro k level cs
    apply List.dropWhile_append_of_pos
    intro c hMember
    rw [Glyph.marked, List.map_cons, List.map_replicate] at hMember
    rcases List.mem_cons.mp hMember with rfl | hRest
    · exact hNewline
    · rw [List.eq_of_mem_replicate hRest]
      exact hSpace
  induction sheet with
  | nil => rfl
  | cons glyph sheet ih =>
      rw [toList_write_cons, toList_write_cons]
      cases glyph with
      | lineBreak level => rw [hBreak, hBreak, ih]
      | char c =>
          simp only [Glyph.marked, List.map_cons, List.map_nil,
            List.cons_append, List.nil_append, Text.trimStart,
            List.dropWhile_cons] at ih ⊢
          split
          · exact ih
          · rfl

------------------------------------------------------------
-- Written Pieces
------------------------------------------------------------

theorem bind_present
    (sheet : Option Sheet) :
    (sheet.map (write indent)).bind SqlTemplate.present =
      (sheet.bind present).map (write indent) := by
  cases sheet with
  | none => rfl
  | some s =>
      simp only [Option.map_some, Option.bind_some, SqlTemplate.present,
        write_eq_empty, present, List.isEmpty_iff]
      split <;> rfl

theorem map_joined
    (separator : String)
    (sheets : List Sheet) :
    SqlTemplate.joined separator (sheets.map (write indent)) =
      (joined separator sheets).map (write indent) := by
  simp only [SqlTemplate.joined, joined, List.isEmpty_map]
  split <;> simp

theorem write_nullTest
    (s : Sheet) :
    SqlTemplate.nullTest (write indent s) = write indent (nullTest s) := by
  simp only [SqlTemplate.nullTest, nullTest, write_append, write_plain]

theorem write_binaryText
    (op : BinaryOp)
    (s t : Sheet) :
    SqlTemplate.binaryText op (write indent s) (write indent t) =
      write indent (binaryText op s t) := by
  simp only [SqlTemplate.binaryText, binaryText, write_append, write_plain]

theorem write_enclose
    (brackets : Bool)
    (s : Sheet) :
    SqlTemplate.enclose brackets (write indent s) =
      write indent (enclose brackets s) := by
  cases brackets <;>
    simp [SqlTemplate.enclose, enclose, String.append_assoc]

theorem write_unaryText
    (op : UnaryOp)
    (s : Sheet) :
    SqlTemplate.unaryText op (write indent s) =
      write indent (unaryText op s) := by
  have hMinus :
      (write indent s).toList.head? = some '-' ↔
        s.head? = some (.char '-') := by
    rw [head?_write]
    cases s with
    | nil => simp
    | cons glyph s => cases glyph <;> simp
  simp only [SqlTemplate.unaryText, unaryText, SqlTemplate.negated, negated,
    hMinus]
  split
  · simp only [write_append, write_plain]
  · split
    · split <;> simp only [write_append, write_plain]
    · simp only [write_append, write_plain]

theorem write_betweenText
    (s : Sheet)
    (low high : Option Sheet) :
    SqlTemplate.betweenText (write indent s) (low.map (write indent))
        (high.map (write indent)) =
      (betweenText s low high).map (write indent) := by
  cases low <;> cases high <;>
    simp [SqlTemplate.betweenText, betweenText, String.append_assoc]

theorem write_callText
    (name : String)
    (args : List Sheet)
    (distinct : Bool) :
    SqlTemplate.callText name (args.map (write indent)) distinct =
      write indent (callText name args distinct) := by
  simp only [SqlTemplate.callText, callText, write_append, write_plain,
    write_intercalate]

theorem write_orderText
    (s : Sheet)
    (direction : Option String) :
    SqlTemplate.orderText (write indent s) direction =
      write indent (orderText s direction) := by
  unfold SqlTemplate.orderText orderText
  cases direction.bind SqlTemplate.present with
  | none => rfl
  | some direction => simp only [write_append, write_plain]

theorem write_tableText
    (join : Option String)
    (name : String)
    (label : Option String)
    (condition : Option Sheet) :
    SqlTemplate.tableText join name label
        (condition.map (write indent)) =
      write indent (tableText join name label condition) := by
  cases condition <;>
    simp [SqlTemplate.tableText, tableText, Function.comp_def]

theorem write_subqueryText
    (s : Sheet)
    (label : Option String) :
    SqlTemplate.subqueryText (write indent s) label =
      write indent (subqueryText s label) := by
  simp only [SqlTemplate.subqueryText, subqueryText, write_append,
    write_plain]

theorem write_limitLine
    (d : Dialect)
    (limit : Sheet)
    (offset : Option Sheet) :
    d.limitLine (write indent limit) (offset.map (write indent)) =
      write indent (limitLine d limit offset) := by
  cases offset <;> cases d <;>
    simp [Dialect.limitLine, limitLine, String.append_assoc]

theorem map_queryLines
    (distinct : Bool)
    (options : List String)
    (columns : Option Sheet)
    (clauses : List (String × Option Sheet))
    (limit : Option Sheet) :
    SqlTemplate.queryLines distinct options (columns.map (write indent))
        (clauses.map fun c => (c.1, c.2.map (write indent)))
        (limit.map (write indent)) =
      (queryLines distinct options columns clauses limit).map
        (write indent) := by
  have hClauses :
      (clauses.map fun c => (c.1, c.2.map (write indent))).filterMap
          (fun c => c.2.map fun s => c.1 ++ " " ++ s) =
        (clauses.filterMap fun c => c.2.map fun s =>
          plain c.1 ++ plain " " ++ s).map (write indent) := by
    rw [List.filterMap_map, List.map_filterMap]
    congr 1
    funext c
    rcases c with ⟨word, sheet⟩
    cases sheet <;> simp [String.append_assoc]
  have hPlain :
      ∀ words : List String,
        (words.map plain).map (write indent) = words := by
    intro words
    simp [Function.comp_def]
  have hLast : (limit.map (write indent)).toList =
      limit.toList.map (write indent) := by
    cases limit <;> rfl
  have hColumns : (columns.map (write indent)).toList =
      columns.toList.map (write indent) := by
    cases columns <;> rfl
  simp only [SqlTemplate.queryLines, queryLines, hClauses, hColumns, hLast,
    List.map_append]
  congr 2
  split
  · rw [List.map_singleton, write_intercalate, List.map_append, hPlain,
      write_plain]
  · rw [List.map_cons, write_plain]

/- The lines of a query are laid with the indentation of its level. -/
theorem write_lines
    (level : Nat)
    (sheets : List Sheet) :
    layLines ((indent + level : Nat) : Int) (sheets.map (write indent)) =
      write indent (lines level sheets) := by
  rw [layLines, lines, write_intercalate, write_lineBreak,
    Int.toNat_natCast]

end Sheet

------------------------------------------------------------
-- Results Written from Sheets
------------------------------------------------------------

/- An error without what depends on the indentation of its text. -/
def RenderError.plain : RenderError → RenderError
| .offsetKept _ => .offsetKept ""
| e => e

/-
  A result is written from a laid one: either both fail alike,
  or the written one is made from the laid one.
-/
inductive LaidBy
    {α β : Type}
    (write : β → α) :
    Except RenderError α → Except RenderError β → Prop where
| ok (b : β) : LaidBy write (.ok (write b)) (.ok b)
| error {e e' : RenderError} :
    e.plain = e'.plain → LaidBy write (.error e) (.error e')

namespace LaidBy

section

variable {α β γ δ : Type} {f : β → α} {g : δ → γ}
variable {result : Except RenderError α} {laid : Except RenderError β}

theorem refl
    (result : Except RenderError α) : LaidBy id result result := by
  cases result with
  | ok a => exact .ok a
  | error e => exact .error rfl

theorem eq_ok
    {b : β}
    (hLaid : LaidBy f result (.ok b)) :
    result = .ok (f b) := by
  cases hLaid
  rfl

theorem eq_error
    {e' : RenderError}
    (hLaid : LaidBy f result (.error e')) :
    ∃ e, result = .error e ∧ e.plain = e'.plain := by
  cases hLaid with
  | error hSame => exact ⟨_, rfl, hSame⟩

theorem map
    {make : α → γ}
    {lay : β → δ}
    (hLaid : LaidBy f result laid)
    (hMade : ∀ b, make (f b) = g (lay b)) :
    LaidBy g (result.map make) (laid.map lay) := by
  cases hLaid with
  | ok b =>
      rw [Except.map, hMade]
      exact .ok _
  | error hSame => exact .error hSame

theorem bind
    {next : α → Except RenderError γ}
    {layNext : β → Except RenderError δ}
    (hLaid : LaidBy f result laid)
    (hNext : ∀ b, LaidBy g (next (f b)) (layNext b)) :
    LaidBy g (result >>= next) (laid >>= layNext) := by
  cases hLaid with
  | ok b => exact hNext b
  | error hSame => exact .error hSame

end

section

variable {indent : Nat}

/- Fragments that are absent alike, or written from a sheet. -/
abbrev FragmentLaid
    (indent : Nat) : Rendered → Laid → Prop :=
  LaidBy (Option.map (Sheet.write indent))

theorem absent : FragmentLaid indent (.ok none) (.ok none) :=
  .ok none

theorem sheet
    (s : Sheet) :
    FragmentLaid indent (.ok (some (s.write indent))) (.ok (some s)) :=
  .ok (some s)

variable {first second : Rendered} {layFirst laySecond : Laid}

/- A text in which there are no line breaks. -/
theorem plain
    (result : Rendered) :
    FragmentLaid indent result (result.map (·.map Sheet.plain)) := by
  cases result with
  | error e => exact .error rfl
  | ok text =>
      cases text with
      | none => exact absent
      | some s =>
          have hLaid : FragmentLaid indent _ _ := sheet (Sheet.plain s)
          rwa [Sheet.write_plain] at hLaid

theorem written
    (result : Except RenderError String) :
    FragmentLaid indent (result.map some) (result.map (some ∘ Sheet.plain)) :=
  (refl result).map fun s => congrArg some (Sheet.write_plain indent s).symm

/- A piece of text around a fragment. -/
theorem piece
    {make : String → String}
    {lay : Sheet → Sheet}
    (hLaid : FragmentLaid indent first layFirst)
    (hMade : ∀ s : Sheet, make (s.write indent) = (lay s).write indent) :
    FragmentLaid indent (first.map (·.map make)) (layFirst.map (·.map lay)) := by
  apply hLaid.map
  intro s
  cases s with
  | none => rfl
  | some s => exact congrArg some (hMade s)

theorem pair
    {make : String → String → String}
    {lay : Sheet → Sheet → Sheet}
    (hFirst : FragmentLaid indent first layFirst)
    (hSecond : FragmentLaid indent second laySecond)
    (hMade :
      ∀ s t : Sheet,
        make (s.write indent) (t.write indent) = (lay s t).write indent) :
    FragmentLaid indent (Rendered.pair first second make)
      (Laid.pair layFirst laySecond lay) := by
  cases hFirst with
  | error hSame => exact .error hSame
  | ok s =>
      cases s with
      | none => exact absent
      | some s =>
          cases hSecond with
          | error hSame => exact .error hSame
          | ok t =>
              cases t with
              | none => exact absent
              | some t =>
                  have hPair := hMade s t
                  simp only [Rendered.pair, Laid.pair, Option.map_some,
                    hPair]
                  exact sheet _

theorem range
    {operand low high : Rendered}
    {layOperand layLow layHigh : Laid}
    (hOperand : FragmentLaid indent operand layOperand)
    (hLow : FragmentLaid indent low layLow)
    (hHigh : FragmentLaid indent high layHigh) :
    FragmentLaid indent (Rendered.range operand low high)
      (Laid.range layOperand layLow layHigh) := by
  cases hOperand with
  | error hSame => exact .error hSame
  | ok s =>
      cases s with
      | none => exact absent
      | some s =>
          apply hLow.bind
          intro lowSheet
          apply hHigh.bind
          intro highSheet
          rw [Sheet.write_betweenText]
          exact .ok _

variable (ctx : RenderContext)

/- Fragments that are refused alike where they lie too deep. -/
theorem allowed
    (depth : Nat)
    (hLaid : FragmentLaid indent first layFirst) :
    FragmentLaid indent
      (if ctx.isTooDeep depth then
        .error (.tooDeep depth ctx.maxDepth)
      else
        first)
      (if ctx.isTooDeep depth then
        .error (.tooDeep depth ctx.maxDepth)
      else
        layFirst) := by
  split
  · exact .error rfl
  · exact hLaid

theorem grouped
    (depth : Nat)
    (hLaid : FragmentLaid indent first layFirst) :
    FragmentLaid indent (ctx.grouped depth first)
      (ctx.layGrouped depth layFirst) :=
  allowed ctx depth (hLaid.piece (Sheet.write_enclose indent true))

theorem unlessEmptyList
    (op : BinaryOp)
    (list : Slot Node)
    (hLaid : FragmentLaid indent first layFirst) :
    FragmentLaid indent (ctx.unlessEmptyList op list first)
      (ctx.layUnlessEmptyList op list layFirst) := by
  unfold RenderContext.unlessEmptyList RenderContext.layUnlessEmptyList
  split
  · cases ctx.judgeList op list with
    | error e => exact .error rfl
    | ok isEmpty =>
        cases isEmpty with
        | true =>
            have hWritten := Sheet.write_plain indent emptyListResult
            dsimp only
            rw [← hWritten]
            exact sheet _
        | false => exact hLaid
  · exact hLaid

/- A limit is resolved from how its text starts. -/
theorem resolve_write
    (indent : Nat)
    (slot : Slot Node)
    (s : Option Sheet) :
    ctx.resolve slot (s.map (Sheet.write indent)) =
      (ctx.layResolved slot s).map (Sheet.write indent) := by
  cases s with
  | none => rfl
  | some s =>
      simp only [RenderContext.layResolved, RenderContext.resolve,
        Option.map_some, Option.bind_some, Sheet.head?_trimStart indent 0]
      split
      · split <;> rfl
      · split
        · split <;> rfl
        · rfl

theorem limitLine
    (limit offset : Option Sheet) :
    FragmentLaid indent
      (ctx.limitLine (limit.map (Sheet.write indent))
        (offset.map (Sheet.write indent)))
      (ctx.layLimitLine limit offset) := by
  cases limit with
  | none =>
      cases offset with
      | none => exact absent
      | some offset => exact .error rfl
  | some limit =>
      simp only [RenderContext.limitLine, RenderContext.layLimitLine,
        Option.map_some, Sheet.write_limitLine]
      exact sheet _

end

end LaidBy

------------------------------------------------------------
-- Renderings from Sheets
------------------------------------------------------------

open LaidBy

section

variable {ctx : RenderContext} (indent : Nat)

mutual

/- A node is written from its sheet. -/
theorem Node.render_laid :
    ∀ (n : Node) (depth level : Nat),
      FragmentLaid indent
        (n.render ctx depth ((indent + level : Nat) : Int))
        (n.lay ctx depth level)
| .column .., depth, _ => by
    unfold Node.render Node.lay
    exact allowed ctx depth (.written _)
| .literal _, depth, _ => by
    unfold Node.render Node.lay
    exact allowed ctx depth (.written _)
| .raw text, depth, _ => by
    unfold Node.render Node.lay
    exact allowed ctx depth (.plain (.ok (some text)))
| .parameter _, depth, _ => by
    unfold Node.render Node.lay
    exact allowed ctx depth (.plain _)
| .numeral _, depth, _ => by
    unfold Node.render Node.lay
    exact allowed ctx depth (.plain _)
| .foreign _, depth, _ => by
    unfold Node.render Node.lay
    exact allowed ctx depth (.error rfl)
| .group members brackets _, depth, level => by
    unfold Node.render Node.lay
    exact allowed ctx depth ((members.renderSlot_laid _ _ _).piece
      (Sheet.write_enclose indent brackets))
| .binary op left right, depth, level => by
    have hLeft := left.renderSlot_laid (depth + 1) level " "
    have hRight := right.renderSlot_laid (depth + 1) level " "
    have hBare := right.renderSlot_laid (depth + 2) level " "
    unfold Node.render Node.lay
    apply allowed ctx depth
    dsimp only
    split
    · exact .error rfl
    · split
      · exact hLeft.piece (Sheet.write_nullTest indent)
      · apply unlessEmptyList ctx op right
        refine hLeft.pair ?_ (Sheet.write_binaryText indent op)
        split
        · exact grouped ctx (depth + 1) hBare
        · exact hRight
| .connective op operands, depth, level => by
    unfold Node.render Node.lay
    exact allowed ctx depth (operands.renderSlot_laid _ _ _)
| .unary op operand, depth, level => by
    unfold Node.render Node.lay
    apply allowed ctx depth
    dsimp only
    split
    · exact .error rfl
    · exact (operand.renderSlot_laid _ _ _).piece
        (Sheet.write_unaryText indent op)
| .between operand low high, depth, level => by
    unfold Node.render Node.lay
    apply allowed ctx depth
    dsimp only
    split
    · exact .error rfl
    · exact (operand.renderSlot_laid _ _ _).range
        (low.renderSlot_laid _ _ _) (high.renderSlot_laid _ _ _)
| .call name (.many args) distinct, depth, level => by
    unfold Node.render Node.lay
    apply allowed ctx depth
    apply (Members.renderArgs_laid args _ _).map
    intro sheets
    cases sheets with
    | none => rfl
    | some sheets =>
        exact congrArg some
          (Sheet.write_callText indent name sheets distinct)
| .call _ .vacant _, depth, _ | .call _ (.one _) _, depth, _ => by
    unfold Node.render Node.lay
    exact allowed ctx depth (.error rfl)
| .alias node label, depth, level => by
    unfold Node.render Node.lay
    apply allowed ctx depth
    dsimp only
    split
    · exact .error rfl
    · apply (node.renderSlot_laid _ _ _).pair (.written (ctx.name label))
      intro s t
      rw [Sheet.write_append, Sheet.write_append, Sheet.write_plain]
| .orderBy node direction, depth, level => by
    unfold Node.render Node.lay
    exact allowed ctx depth ((node.renderSlot_laid _ _ _).piece
      fun s => Sheet.write_orderText indent s direction)
| .table name label database join condition, depth, level => by
    unfold Node.render Node.lay
    apply allowed ctx depth
    apply (LaidBy.refl _).bind
    intro name
    apply (LaidBy.refl _).bind
    intro label
    apply (condition.renderSlot_laid _ _ _).bind
    intro sheet
    rw [Sheet.write_tableText]
    exact .ok (some _)
| .select query, depth, level => by
    unfold Node.render Node.lay
    exact allowed ctx depth ((query.renderQuery_laid depth level).map
      fun _ => rfl)
| .subquery .vacant _, depth, _ | .subquery (.many _) _, depth, _ => by
    unfold Node.render Node.lay
    exact allowed ctx depth (.error rfl)
| .subquery (.one n) label, depth, level => by
    cases n with
    | select query =>
        have hQuery :=
          query.renderQuery_laid depth (level + indentWidth.toNat)
        -- The lines of the query are at a level of their own.
        have hIndent :
            ((indent + (level + indentWidth.toNat) : Nat) : Int) =
              ((indent + level : Nat) : Int) + indentWidth := by
          rw [← Nat.add_assoc]
          rfl
        rw [hIndent] at hQuery
        unfold Node.render Node.lay
        apply allowed ctx depth
        apply hQuery.bind
        intro sheet
        apply (LaidBy.refl _).bind
        intro label
        rw [Sheet.write_subqueryText]
        exact .ok (some _)
    | _ =>
        unfold Node.render Node.lay
        exact allowed ctx depth (.error rfl)
termination_by structural n => n

theorem Slot.renderSlot_laid :
    ∀ (slot : Slot Node) (depth level : Nat) (separator : String),
      FragmentLaid indent
        (Node.renderSlot ctx depth ((indent + level : Nat) : Int) separator
          slot)
        (Node.laySlot ctx depth level separator slot)
| .vacant, _, _, _ => absent
| .one n, depth, level, _ =>
    (n.render_laid depth level).map (Sheet.bind_present indent)
| .many members, depth, level, separator =>
    (Members.renderMembers_laid members depth level).map
      (Sheet.map_joined indent separator)
termination_by structural slot => slot

theorem Members.renderMembers_laid :
    ∀ (members : List (Option Node)) (depth level : Nat),
      LaidBy (List.map (Sheet.write indent))
        (Node.renderMembers ctx depth ((indent + level : Nat) : Int) members)
        (Node.layMembers ctx depth level members)
| [], _, _ => .ok []
| none :: members, depth, level =>
    Members.renderMembers_laid members depth level
| some n :: members, depth, level => by
    apply (n.render_laid depth level).bind
    intro sheet
    apply (Members.renderMembers_laid members depth level).bind
    intro sheets
    rw [Sheet.bind_present, Option.toList_map, ← List.map_append]
    exact .ok _
termination_by structural members => members

theorem Members.renderArgs_laid :
    ∀ (args : List (Option Node)) (depth level : Nat),
      LaidBy (Option.map (List.map (Sheet.write indent)))
        (Node.renderArgs ctx depth ((indent + level : Nat) : Int) args)
        (Node.layArgs ctx depth level args)
| [], _, _ => .ok (some [])
| none :: _, _, _ => .ok none
| some n :: args, depth, level => by
    apply (n.render_laid depth level).bind
    intro sheet
    rw [Sheet.bind_present]
    cases sheet.bind Sheet.present with
    | none => exact .ok none
    | some first =>
        apply (Members.renderArgs_laid args depth level).bind
        intro sheets
        cases sheets with
        | none => exact .ok none
        | some sheets => exact .ok (some (first :: sheets))
termination_by structural args => args

theorem Query.renderQuery_laid :
    ∀ (query : Query Node) (depth level : Nat),
      LaidBy (Sheet.write indent)
        (Node.renderQuery ctx depth ((indent + level : Nat) : Int) query)
        (Node.layQuery ctx depth level query)
| ⟨columns, source, filter, groups, having, order, limit, offset, distinct,
    options⟩, depth, level => by
    unfold Node.renderQuery Node.layQuery
    split
    · exact .error rfl
    · apply (columns.renderSlot_laid _ _ _).bind
      intro columnSheet
      apply (source.renderSlot_laid _ _ _).bind
      intro sourceSheet
      apply (filter.renderSlot_laid _ _ _).bind
      intro filterSheet
      apply (groups.renderSlot_laid _ _ _).bind
      intro groupSheet
      apply (having.renderSlot_laid _ _ _).bind
      intro havingSheet
      apply (order.renderSlot_laid _ _ _).bind
      intro orderSheet
      apply (limit.renderSlot_laid _ _ _).bind
      intro limitSheet
      apply (offset.renderSlot_laid _ _ _).bind
      intro offsetSheet
      rw [resolve_write, resolve_write]
      apply (limitLine ctx _ _).bind
      intro line
      have hLines := Sheet.map_queryLines indent distinct options columnSheet
        [("FROM", sourceSheet), ("WHERE", filterSheet),
          ("GROUP BY", groupSheet), ("HAVING", havingSheet),
          ("ORDER BY", orderSheet)] line
      simp only [List.map_cons, List.map_nil] at hLines
      rw [hLines, Sheet.write_lines]
      exact .ok _
termination_by structural query => query

end

end

------------------------------------------------------------
-- Correctness
------------------------------------------------------------

/- More indentation of a sheet pads its line breaks. -/
theorem Sheet.write_padded
    (indent extra : Nat)
    (sheet : Sheet) :
    sheet.write (indent + extra) = sheet.padded indent extra := by
  let pad : Char × Bool → List Char := fun c =>
    c.1 :: if c.2 then List.replicate extra ' ' else []
  have hGlyph :
      ∀ glyph : Glyph,
        (glyph.marked (indent + extra)).map Prod.fst =
          (glyph.marked indent).flatMap pad := by
    intro glyph
    cases glyph with
    | char c => rfl
    | lineBreak level =>
        have hSpaces :
            (List.replicate (indent + level) (' ', false)).flatMap pad =
              List.replicate (indent + level) ' ' := by
          simp [pad, List.flatMap_replicate]
        rw [Glyph.marked, Glyph.marked, List.map_cons, List.map_replicate,
          List.flatMap_cons, hSpaces, Nat.add_right_comm,
          Nat.add_comm _ extra, List.replicate_add]
        rfl
  rw [write, padded, marked, marked, List.map_flatMap, List.flatMap_assoc]
  congr 2
  funext glyph
  exact hGlyph glyph

/- What is said to the user about an error, and its kind. -/
def RenderError.notice? (e : RenderError) : Option (FailureKind × String) :=
  e.report?.map fun report => (report.kind, report.message)

theorem RenderError.notice?_plain
    (e : RenderError) : e.plain.notice? = e.notice? := by
  cases e with
  | offsetKept offset =>
      simp only [plain, notice?, report?, Option.map_some, Report.of]
  | _ => rfl

/-
  The text of a slot at a greater indentation is the one at a
  lesser indentation, with more spaces after each newline that
  breaks the lines of a query and nowhere else.  The slot is
  absent at both or at none, and fails at both or at none, with
  errors that differ at most in a text among their details.
-/
theorem indentation_pads_line_breaks
    (ctx : RenderContext)
    (separator : String)
    (brackets : Bool)
    (slot : Slot Node)
    (indent extra : Nat) :
    let rendered := fun i : Nat => ctx.renderSlot separator brackets i slot
    match ctx.laySlot separator brackets slot with
    | .ok (some sheet) =>
        rendered indent = .ok (some (sheet.write indent)) ∧
          rendered (indent + extra) =
            .ok (some (sheet.padded indent extra))
    | .ok none =>
        rendered indent = .ok none ∧ rendered (indent + extra) = .ok none
    | .error _ =>
        ∃ e e', rendered indent = .error e ∧
          rendered (indent + extra) = .error e' ∧
            e.plain = e'.plain ∧ e.notice? = e'.notice? := by
  intro rendered
  have hLaid :
      ∀ i : Nat,
        FragmentLaid i (rendered i) (ctx.laySlot separator brackets slot) :=
    fun i => (slot.renderSlot_laid i 1 0 separator).piece
      (Sheet.write_enclose i brackets)
  cases hSheet : ctx.laySlot separator brackets slot with
  | ok sheet =>
      rw [hSheet] at hLaid
      have hLess := (hLaid indent).eq_ok
      have hMore := (hLaid (indent + extra)).eq_ok
      cases sheet with
      | none => exact ⟨hLess, hMore⟩
      | some sheet =>
          rw [Option.map_some, sheet.write_padded] at hMore
          exact ⟨hLess, hMore⟩
  | error e =>
      rw [hSheet] at hLaid
      rcases (hLaid indent).eq_error with ⟨e₁, hLess, hSame₁⟩
      rcases (hLaid (indent + extra)).eq_error with ⟨e₂, hMore, hSame₂⟩
      have hSame := hSame₁.trans hSame₂.symm
      refine ⟨e₁, e₂, hLess, hMore, hSame, ?_⟩
      rw [← e₁.notice?_plain, hSame, e₂.notice?_plain]

/- A newline in a raw text of a subquery has no spaces after it. -/
example :
    let ctx : RenderContext := ⟨.mysql, .ofList [], true, defaultMaxDepth⟩
    let query := fun column source : Node =>
      Query.mk (.ofList [column]) (.ofList [source]) .vacant .vacant .vacant
        .vacant .vacant .vacant false []
    let inner := query (.raw "x\ny") (.raw "t")
    let outer := query (.raw "a") (.subquery (.one (.select inner)) none)
    ctx.renderSlot " " false 3 (.one (.select outer)) =
      .ok (some "SELECT a\n   FROM (SELECT x\ny\n     FROM t)") := by
  rfl

end SqlTemplate
