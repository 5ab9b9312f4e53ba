import SqlTemplate.Proofs.Rendering.Reports
import SqlTemplate.Proofs.Standing.Trees

/-
  Select items that are left.  In a prepared statement no select
  item is ever pruned, so each SELECT is followed by one; with
  values in the text this depends on whether pruning leaves one
  of them.

  Key definitions include:
    * `Query.OpensWithItem`
    * `Node.HoldsSoundQuery`

  Correctness is proven by:
    * `opensWithItem_iff`
    * `soundQuery_of_parse`
    * `selects_have_items`
-/

------------------------------------------------------------
-- First Lines
------------------------------------------------------------

namespace SqlTemplate

variable {ctx : RenderContext}

/- What a query has before its select items. -/
def Query.opening (query : Query Node) : String :=
  "SELECT " ++ if query.distinct then "DISTINCT " else ""

/- The text of a query starts with one of its select items. -/
def Query.OpensWithItem
    (ctx : RenderContext)
    (depth : Nat)
    (indent : Int)
    (query : Query Node)
    (s : String) : Prop :=
  ∃ members n item after, query.columns = .many members ∧
    some n ∈ members ∧
      n.render ctx (depth + 1) indent = .ok (some item) ∧ item ≠ "" ∧
        s = query.opening ++ item ++ after

/- The texts of a list are those of its members that are present. -/
theorem mem_renderMembers
    {members : List (Option Node)}
    {depth : Nat}
    {indent : Int}
    {texts : List String}
    {s : String}
    (hRender : Node.renderMembers ctx depth indent members = .ok texts) :
    s ∈ texts ↔
      ∃ n, some n ∈ members ∧
        n.render ctx depth indent = .ok (some s) ∧ s ≠ "" := by
  induction members generalizing texts with
  | nil =>
      cases hRender
      simp
  | cons member members ih =>
      cases member with
      | none =>
          rw [Node.renderMembers] at hRender
          simp [ih hRender]
      | some n =>
          rcases renderMembers_some_eq_ok.mp hRender with
            ⟨text, others, hNode, hOthers, rfl⟩
          rw [List.mem_append, Option.mem_toList, ih hOthers]
          constructor
          · rintro (hOwn | ⟨m, hMember, hOther⟩)
            · rcases eq_some_of_present hOwn with ⟨rfl, hText⟩
              exact ⟨n, List.mem_cons_self, hNode, hText⟩
            · exact ⟨m, List.mem_cons_of_mem _ hMember, hOther⟩
          · rintro ⟨m, hMember, hOwn, hText⟩
            rcases List.mem_cons.mp hMember with hSame | hOther
            · cases hSame
              cases hNode.symm.trans hOwn
              exact .inl (present_of_ne_empty hText)
            · exact .inr ⟨m, hOther, hOwn, hText⟩

/- Texts with a separator between them start with the first one. -/
theorem intercalate_starts
    (separator s : String)
    (texts : List String) :
    ∃ after, separator.intercalate (s :: texts) = s ++ after := by
  cases texts with
  | nil => exact ⟨"", by rw [String.intercalate_singleton, String.append_empty]⟩
  | cons t texts =>
      refine ⟨separator ++ separator.intercalate (t :: texts), ?_⟩
      rw [String.intercalate_cons_cons, String.append_assoc]

/- A query without options starts with its columns. -/
theorem written_starts
    {query : Query Node}
    {texts : QueryTexts}
    {columns : String}
    (indent : Int)
    (line : Option String)
    (hOptions : query.options = [])
    (hColumns : texts.columns = some columns) :
    ∃ after, query.written indent texts line =
      query.opening ++ columns ++ after := by
  have hHead :
      " ".intercalate
          (("SELECT" :: if query.distinct then ["DISTINCT"] else []) ++
            [columns]) =
        query.opening ++ columns := by
    unfold Query.opening
    cases query.distinct with
    | true =>
        simp only [if_true, List.cons_append, List.nil_append,
          String.intercalate_cons_cons, String.intercalate_singleton,
          ← String.append_assoc]
        rfl
    | false =>
        simp only [Bool.false_eq_true, if_false, List.cons_append,
          List.nil_append, String.intercalate_cons_cons,
          String.intercalate_singleton]
        rfl
  rw [Query.written, layLines, queryLines, hOptions, hColumns,
    List.isEmpty_nil, if_pos rfl, Option.toList_some, hHead,
    List.append_assoc, List.singleton_append]
  exact intercalate_starts _ _ _

------------------------------------------------------------
-- Select Items
------------------------------------------------------------

/- A query starts with an item just if its columns have a text. -/
theorem opensWithItem_iff
    {query : Query Node}
    {depth : Nat}
    {indent : Int}
    {texts : QueryTexts}
    {line : Option String}
    (hList : query.columns.Lists Node.IsColumn 1)
    (hOptions : query.options = [])
    (hTexts : query.HasTexts ctx depth indent texts) :
    query.OpensWithItem ctx depth indent
        (query.written indent texts line) ↔
      texts.columns.isNone = false := by
  have hSlot := hTexts.columns
  generalize hColumns : query.columns = slot at hList hSlot
  cases slot with
  | vacant | one => cases hList
  | many members =>
      rw [Node.renderSlot] at hSlot
      rcases map_eq_ok.mp hSlot with ⟨columns, hMembers, hJoined⟩
      constructor
      · rintro ⟨_, n, item, after, hSame, hMember, hNode, hItem, _⟩
        cases hColumns.symm.trans hSame
        have hText : item ∈ columns :=
          (mem_renderMembers hMembers).mpr ⟨n, hMember, hNode, hItem⟩
        rw [← hJoined, joined, if_neg]
        · rfl
        · rw [List.isEmpty_iff]
          exact List.ne_nil_of_mem hText
      · intro hSome
        cases columns with
        | nil =>
            rw [← hJoined] at hSome
            cases hSome
        | cons item columns =>
            have hText : texts.columns =
                some (", ".intercalate (item :: columns)) :=
              hJoined.symm
            rcases (mem_renderMembers hMembers).mp List.mem_cons_self
              with ⟨n, hMember, hNode, hItem⟩
            rcases intercalate_starts ", " item columns with ⟨more, hMore⟩
            rcases written_starts indent line hOptions hText with
              ⟨after, hWritten⟩
            refine ⟨members, n, item, more ++ after, hColumns, hMember,
              hNode, hItem, ?_⟩
            rw [hWritten, hMore]
            simp only [String.append_assoc]

------------------------------------------------------------
-- Queries in Trees
------------------------------------------------------------

/- A query is well formed and has the shape of a template's. -/
def Node.HoldsSoundQuery : Node → Prop
| .select query => query.WellFormed ∧ query.Shaped
| _ => True

/- The queries of a template are sound. -/
theorem soundQuery_of_parse
    {sql : String}
    {tree : Node}
    {query : Query Node}
    (hParse : parse sql = .ok tree)
    (hQuery : Node.select query ∈ tree.fragments) :
    query.WellFormed ∧ query.Shaped := by
  have hShaped := shaped_of_parse hParse
  rcases wellFormed_of_parse hParse with ⟨top, rfl, hTop⟩
  have hSound : ∀ n : Node, n.WellFormed → n.Shaped → n.HoldsSoundQuery := by
    intro n hNode hShape
    cases n with
    | select query => exact ⟨hNode, hShape⟩
    | _ => trivial
  have hAll : (Node.select top).Everywhere Node.HoldsSoundQuery :=
    Node.WellFormed.everywhere hSound (fun _ => trivial) (.select top)
      hTop hShaped
  exact (Node.everywhere_iff (.select top)).mp hAll _ hQuery

------------------------------------------------------------
-- Templates
------------------------------------------------------------

/- A node is no query, or one of which a select item is left. -/
def Node.keepsItem (b : Bindings) : Node → Bool
| .select query => !(prunedSlot b query.columns).isVacant
| _ => true

/- With values in the text the items that are left decide. -/
theorem opensWithItem_iff_keepsItem
    {query : Query Node}
    {depth : Nat}
    {indent : Int}
    {s : String}
    (hInline : ctx.inline = true)
    (hQuery : query.WellFormed)
    (hShaped : query.Shaped)
    (hRender : Node.renderQuery ctx depth indent query = .ok s) :
    query.OpensWithItem ctx depth indent s ↔
      (Node.select query).keepsItem ctx.bindings = true := by
  rcases renderQuery_eq_ok.mp hRender with ⟨_, texts, line, hTexts, _, rfl⟩
  rcases query with ⟨columns, source, filter, groups, having, order,
    limit, offset, distinct, options⟩
  have hOptions := hShaped.2.2.2.2.2.2.2.2
  have hPruned := (columns.prunes hInline hShaped.1) _ _ _ _ hTexts.columns
  rw [opensWithItem_iff hQuery.1 hOptions hTexts, ← hPruned.vacant,
    Node.keepsItem, Bool.not_eq_true']

/- With placeholders in the text no item is pruned. -/
theorem opensWithItem_of_placeholders
    {query : Query Node}
    {depth : Nat}
    {indent : Int}
    {s : String}
    (hInline : ctx.inline = false)
    (hQuery : query.WellFormed)
    (hShaped : query.Shaped)
    (hRender : Node.renderQuery ctx depth indent query = .ok s) :
    query.OpensWithItem ctx depth indent s := by
  rcases renderQuery_eq_ok.mp hRender with ⟨_, texts, line, hTexts, _, rfl⟩
  rcases query with ⟨columns, source, filter, groups, having, order,
    limit, offset, distinct, options⟩
  have hOptions := hShaped.2.2.2.2.2.2.2.2
  have hFilled := isFilled_of_lists Nat.one_pos hQuery.1
  have hColumns := hQuery.2.2.2.2.2.2.2.2.2.1
  have hStands : columns.Stands ctx := by
    apply columns.stands hColumns hShaped.1 hFilled.2
    intro hValues
    rw [hInline] at hValues
    cases hValues
  have hFull := (hStands _ _ _ _ hTexts.columns).1
  rw [opensWithItem_iff hQuery.1 hOptions hTexts, hFull.vacant]
  exact hFilled.1

/- A template that is written has the text of its query. -/
theorem renderQuery_of_render
    {query : Query Node}
    {text : String}
    (hRender : ctx.render (.select query) = .ok text) :
    Node.renderQuery ctx 1 0 query = .ok text := by
  rcases map_eq_ok.mp hRender with ⟨slotText, hSlot, rfl⟩
  rw [Node.renderSlot] at hSlot
  rcases map_eq_ok.mp hSlot with ⟨nodeText, hNode, rfl⟩
  have hDeep := not_tooDeep_of_render hNode
  simp only [Node.render, hDeep, Bool.false_eq_true, if_false] at hNode
  rcases map_eq_ok.mp hNode with ⟨s, hText, rfl⟩
  rw [Option.bind_some, present_of_ne_empty (renderQuery_ne_empty hText)]
  exact hText

/- An error of the parser is reported, and one of the renderer can be. -/
def BuildError.IsReported : BuildError → Prop
| .parse _ => True
| .render e => e.IsReported

/- What keeps a well-formed query from being written is reported. -/
theorem isReported_of_renderTree
    {query : Query Node}
    {e : BuildError}
    (hQuery : query.WellFormed)
    (hShaped : (Node.select query).Shaped)
    (hError : renderTree ctx (.select query) = .error e) :
    e.IsReported := by
  unfold renderTree at hError
  cases hRender : ctx.render (.select query) with
  | ok text =>
      rw [hRender] at hError
      cases hError
  | error cause =>
      rw [hRender] at hError
      cases hError
      exact isSome_report?_of_not_blamesTree
        (sparesTree_of_render ctx hQuery hShaped cause hRender)

/-
  A template fails with an error that is reported, or has the
  text of its query.  Wherever a query in it is written, there
  is a select item after SELECT in a prepared statement, and in
  a statement with values just if pruning leaves one.
-/
theorem selects_have_items
    (d : Dialect)
    (b : Bindings)
    (maxDepth : Int)
    {sql : String}
    {top : Query Node}
    (hParse : parse sql = .ok (.select top)) :
    (match build d b maxDepth sql with
      | .error e => e.IsReported
      | .ok text =>
          Node.renderQuery ⟨d, b, true, maxDepth⟩ 1 0 top = .ok text ∧
            ∀ query, Node.select query ∈ (Node.select top).fragments →
              ∀ depth indent s,
                Node.renderQuery ⟨d, b, true, maxDepth⟩ depth indent
                    query = .ok s →
                  (query.OpensWithItem ⟨d, b, true, maxDepth⟩ depth
                      indent s ↔
                    (Node.select query).keepsItem b = true)) ∧
    match prepare d b maxDepth sql with
    | .error e => e.IsReported
    | .ok prepared =>
        Node.renderQuery ⟨d, b, false, maxDepth⟩ 1 0 top =
            .ok prepared.text ∧
          ∀ query, Node.select query ∈ (Node.select top).fragments →
            ∀ depth indent s,
              Node.renderQuery ⟨d, b, false, maxDepth⟩ depth indent
                  query = .ok s →
                query.OpensWithItem ⟨d, b, false, maxDepth⟩ depth
                  indent s := by
  rcases soundQuery_of_parse hParse (Node.mem_fragments _) with
    ⟨hTop, hShape⟩
  constructor
  · split
    next e hBuild =>
      unfold build renderTemplate at hBuild
      rw [hParse] at hBuild
      exact isReported_of_renderTree hTop hShape hBuild
    next text hBuild =>
      rcases renderTemplate_eq_ok.mp hBuild with ⟨tree, hTree, hRender⟩
      cases hParse.symm.trans hTree
      refine ⟨renderQuery_of_render hRender, ?_⟩
      intro query hQuery depth indent s hText
      rcases soundQuery_of_parse hParse hQuery with ⟨hSound, hShaped⟩
      exact opensWithItem_iff_keepsItem rfl hSound hShaped hText
  · split
    next e hPrepare =>
      unfold prepare at hPrepare
      rw [hParse] at hPrepare
      dsimp only at hPrepare
      cases hText : renderTree ⟨d, b, false, maxDepth⟩ (.select top) with
      | ok text =>
          rw [hText] at hPrepare
          cases hPrepare
      | error e =>
          rw [hText] at hPrepare
          cases hPrepare
          exact isReported_of_renderTree hTop hShape hText
    next prepared hPrepare =>
      rcases exists_of_prepare hPrepare with ⟨tree, hTree, hRender, _⟩
      cases hParse.symm.trans hTree
      refine ⟨renderQuery_of_render hRender, ?_⟩
      intro query hQuery depth indent s hText
      rcases soundQuery_of_parse hParse hQuery with ⟨hSound, hShaped⟩
      exact opensWithItem_of_placeholders rfl hSound hShaped hText

/- No parameter has a value. -/
def noBindings : Bindings :=
  .ofList []

theorem selects_have_items_of_unbound :
    ∃ top, parse "SELECT :x, a FROM t" = .ok (.select top) ∧
      top.OpensWithItem ⟨.mysql, noBindings, true, defaultMaxDepth⟩ 1 0
          "SELECT a\nFROM t" ∧
        top.OpensWithItem ⟨.mysql, noBindings, false, defaultMaxDepth⟩ 1 0
          "SELECT :x, a\nFROM t" := by
  have hTree :
      parsesTo "SELECT :x, a FROM t"
        (fun tree => tree.keepsItem noBindings = true) = true := by
    decide +kernel
  have hBuild :
      (build .mysql noBindings defaultMaxDepth
          "SELECT :x, a FROM t").toOption =
        some "SELECT a\nFROM t" := by
    decide +kernel
  have hPlaceholders :
      (renderTemplate ⟨.mysql, noBindings, false, defaultMaxDepth⟩
          "SELECT :x, a FROM t").toOption =
        some "SELECT :x, a\nFROM t" := by
    decide +kernel
  rcases exists_of_parse hTree with ⟨tree, hParse, hKeeps⟩
  rcases renderTemplate_eq_ok.mp (eq_ok_of_toOption hPlaceholders) with
    ⟨_, hSame, hRender⟩
  cases hParse.symm.trans hSame
  rcases select_of_parse hParse with ⟨top, rfl⟩
  have hBuilt := eq_ok_of_toOption hBuild
  have hPrepared := prepare_eq_ok hParse hRender
  have hBoth :=
    selects_have_items .mysql noBindings defaultMaxDepth hParse
  rw [hBuilt, hPrepared] at hBoth
  rcases hBoth with ⟨⟨hText, hItems⟩, hWritten, hAlways⟩
  exact ⟨top, hParse,
    (hItems _ (Node.mem_fragments _) _ _ _ hText).mpr hKeeps,
    hAlways _ (Node.mem_fragments _) _ _ _ hWritten⟩

/- If its only select item is pruned, a query is written without. -/
theorem select_without_items :
    ∃ top, parse "SELECT :x FROM t" = .ok (.select top) ∧
      build .mysql noBindings defaultMaxDepth "SELECT :x FROM t" =
          .ok "SELECT\nFROM t" ∧
        ¬ top.OpensWithItem ⟨.mysql, noBindings, true, defaultMaxDepth⟩
          1 0 "SELECT\nFROM t" := by
  have hText :
      (build .mysql noBindings defaultMaxDepth
          "SELECT :x FROM t").toOption =
        some "SELECT\nFROM t" := by
    decide +kernel
  have hBuild := eq_ok_of_toOption hText
  rcases renderTemplate_eq_ok.mp hBuild with ⟨tree, hParse, _⟩
  rcases select_of_parse hParse with ⟨top, rfl⟩
  refine ⟨top, hParse, hBuild, ?_⟩
  rintro ⟨_, _, item, after, _, _, _, _, hSame⟩
  -- A blank would have to follow the first word.
  have hChars := congrArg (fun s : String => s.toList[6]?) hSame
  unfold Query.opening at hChars
  cases top.distinct <;> simp at hChars

end SqlTemplate
