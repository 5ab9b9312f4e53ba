import SqlTemplate.Proofs.Roundtrip.Names
import SqlTemplate.Proofs.Roundtrip.Operators
import SqlTemplate.Proofs.Text.Uppercase

/-
  Operands in texts: columns, lists in brackets, calls and
  subqueries.  A list is read back item by item, with a comma
  and a blank between each two of them.

  Key definitions include:
    * `Query.ReadBack`
  Correctness is proven by:
    * `Denotes.exprs`
    * `readBack_column`
    * `readBack_bracketed`
    * `readBack_tupled`
    * `readBack_call`
    * `readBack_subquery`
-/

------------------------------------------------------------
-- Lists
------------------------------------------------------------

namespace SqlTemplate

theorem toList_intercalate_cons
    (separator s : String)
    (texts : List String) :
    (separator.intercalate (s :: texts)).toList =
      s.toList ++ texts.flatMap fun t => separator.toList ++ t.toList := by
  induction texts generalizing s with
  | nil => simp
  | cons t texts ih =>
      rw [String.intercalate_cons_cons, String.toList_append,
        String.toList_append, ih, List.flatMap_cons, List.append_assoc,
        List.append_assoc]

/- A list grows by one item after the other. -/
theorem holds_append
    {P : List Char → List Node → Prop}
    {Q : List Char → Node → Prop}
    {separator : List Char}
    (hNext : ∀ cs ns cs' n, P cs ns → Q cs' n →
      P (cs ++ (separator ++ cs')) (ns.concat n))
    {cs : List Char}
    {ns others : List Node}
    {texts : List String}
    (hFirst : P cs ns)
    (hOthers : List.Forall₂ (fun n s => Q s.toList n) others texts) :
    P (cs ++ texts.flatMap fun t => separator ++ t.toList)
      (ns ++ others) := by
  induction hOthers generalizing cs ns with
  | nil =>
      rw [List.flatMap_nil, List.append_nil, List.append_nil]
      exact hFirst
  | @cons n s others texts hItem _ ih =>
      have hMore := ih (hNext _ _ _ _ hFirst hItem)
      rw [List.concat_eq_append] at hMore
      rw [List.flatMap_cons]
      simpa [List.append_assoc] using hMore

/- A list starts with one item and grows by the others. -/
theorem holds_intercalate
    {P : List Char → List Node → Prop}
    {Q : List Char → Node → Prop}
    {separator : String}
    {ns : List Node}
    {texts : List String}
    (hFirst : ∀ cs n, Q cs n → P cs [n])
    (hNext : ∀ cs ns cs' n, P cs ns → Q cs' n →
      P (cs ++ (separator.toList ++ cs')) (ns.concat n))
    (hSome : ns ≠ [])
    (hTexts : List.Forall₂ (fun n s => Q s.toList n) ns texts) :
    P (separator.intercalate texts).toList ns := by
  cases hTexts with
  | nil => exact absurd rfl hSome
  | cons hItem hOthers =>
      rw [toList_intercalate_cons]
      exact holds_append hNext (hFirst _ _ hItem) hOthers

/- Expressions with commas between them. -/
theorem Denotes.exprs
    {ns : List Node}
    {texts : List String}
    (hSome : ns ≠ [])
    (hTexts : List.Forall₂
      (fun n s => Denotes none (.phrase .expr) s.toList n) ns texts) :
    Denotes none (.phrase .exprs) (", ".intercalate texts).toList ns := by
  refine holds_intercalate
    (P := Denotes none (.phrase .exprs))
    (Q := Denotes none (.phrase .expr)) ?_ ?_ hSome hTexts
  · intro cs n hItem
    exact .of_rule .firstExpr rfl (.last hItem)
  · intro cs ns cs' n hList hItem
    exact .of_rule .nextExpr rfl
      (.cons hList (.mark rfl (by decide) (.blank rfl (.last hItem))) rfl)

------------------------------------------------------------
-- Texts of Lists
------------------------------------------------------------

variable {ctx : RenderContext} {P P' : List Char → Node → Prop}

theorem legible_of_ofList
    {d : Dialect}
    {ns : List Node}
    (hLegible : (Slot.ofList ns).Legible d) :
    ∀ n ∈ ns, n.Legible d := by
  change Members.Legible d (ns.map some) at hLegible
  induction ns with
  | nil => exact nofun
  | cons n ns ih =>
      rw [List.forall_mem_cons]
      exact ⟨hLegible.1, ih hLegible.2⟩

/- The texts of the members of a list, if none can be absent. -/
theorem forall₂_of_renderMembers
    {ns : List Node}
    {depth : Nat}
    {indent : Int}
    {texts : List String}
    (hNodes : ∀ n ∈ ns, Rendered.Gives (P · n) (n.render ctx depth indent))
    (hTexts :
      Node.renderMembers ctx depth indent (ns.map some) = .ok texts) :
    List.Forall₂ (fun n s => P s.toList n) ns texts ∧
      ∀ s ∈ texts, s ≠ "" := by
  induction ns generalizing texts with
  | nil =>
      cases hTexts
      exact ⟨.nil, nofun⟩
  | cons n ns ih =>
      rw [List.forall_mem_cons] at hNodes
      rw [List.map_cons, Node.renderMembers] at hTexts
      rcases bind_eq_ok.mp hTexts with ⟨text, hText, hRest⟩
      rcases bind_eq_ok.mp hRest with ⟨others, hOthers, hAll⟩
      cases hAll
      rcases hNodes.1 text hText with ⟨s, rfl, hNotEmpty, hHolds⟩
      rcases ih hNodes.2 hOthers with ⟨hForall, hFilled⟩
      rw [Option.bind_some, present_of_ne_empty hNotEmpty]
      exact ⟨.cons hHolds hForall,
        List.forall_mem_cons.mpr ⟨hNotEmpty, hFilled⟩⟩

/- The same of the arguments of a call. -/
theorem forall₂_of_renderArgs
    {ns : List Node}
    {depth : Nat}
    {indent : Int}
    {found : Option (List String)}
    (hNodes : ∀ n ∈ ns, Rendered.Gives (P · n) (n.render ctx depth indent))
    (hFound :
      Node.renderArgs ctx depth indent (ns.map some) = .ok found) :
    ∃ texts, found = some texts ∧
      List.Forall₂ (fun n s => P s.toList n) ns texts := by
  induction ns generalizing found with
  | nil =>
      cases hFound
      exact ⟨[], rfl, .nil⟩
  | cons n ns ih =>
      rw [List.forall_mem_cons] at hNodes
      rw [List.map_cons, Node.renderArgs] at hFound
      rcases bind_eq_ok.mp hFound with ⟨text, hText, hRest⟩
      rcases hNodes.1 text hText with ⟨s, rfl, hNotEmpty, hHolds⟩
      rw [Option.bind_some, present_of_ne_empty hNotEmpty] at hRest
      rcases bind_eq_ok.mp hRest with ⟨others, hOthers, hAll⟩
      cases hAll
      rcases ih hNodes.2 hOthers with ⟨texts, rfl, hForall⟩
      exact ⟨s :: texts, rfl, .cons hHolds hForall⟩

/- A list that is not empty has the texts of its items. -/
theorem gives_list
    {ns : List Node}
    {depth : Nat}
    {indent : Int}
    {separator : String}
    (hSome : ns ≠ [])
    (hNodes : ∀ n ∈ ns,
      Rendered.Gives (P · n) (n.render ctx depth indent)) :
    Rendered.Gives
      (fun cs => ∃ texts : List String,
        List.Forall₂ (fun n s => P s.toList n) ns texts ∧
          cs = (separator.intercalate texts).toList)
      (Node.renderSlot ctx depth indent separator (.ofList ns)) := by
  intro text hSlot
  rw [Slot.ofList, Node.renderSlot] at hSlot
  rcases map_eq_ok.mp hSlot with ⟨texts, hTexts, rfl⟩
  rcases forall₂_of_renderMembers hNodes hTexts with ⟨hForall, hFilled⟩
  have hNotNil : texts ≠ [] := by
    rintro rfl
    cases hForall
    exact hSome rfl
  refine ⟨separator.intercalate texts, ?_,
    intercalate_ne_empty _ hNotNil hFilled, texts, hForall, rfl⟩
  rw [joined, List.isEmpty_eq_false_iff.mpr hNotNil]
  rfl

------------------------------------------------------------
-- Columns
------------------------------------------------------------

/- Names that are kept are tokens with points between them. -/
theorem exists_of_qualified
    {names : List (Option String)}
    {text : String}
    (hKeeps : ctx.dialect.KeepsNames names)
    (hText : ctx.qualified names = .ok text) :
    ∃ texts, text = ".".intercalate texts ∧
      List.Forall₂ (fun name s => Token.Names s.toList name)
        (names.filterMap id) texts := by
  rcases map_eq_ok.mp hText with ⟨texts, hTexts, rfl⟩
  have hNames : ∀ name ∈ names.filterMap id, ctx.dialect.KeepsName name := by
    intro name hMember
    rcases List.mem_filterMap.mp hMember with ⟨name', hMember, hSome⟩
    exact hKeeps name' hMember name hSome
  refine ⟨texts, rfl, ?_⟩
  have hBoth :=
    (List.forall₂_and_left _ _).mpr ⟨hNames, forall₂_of_mapM hTexts⟩
  apply hBoth.imp
  rintro name s ⟨hKept, hName⟩
  exact .of_keeps hKept (mapError_eq_ok.mp hName)

namespace Denotes

variable {cs cs' cs'' : List Char} {own owner database : String}

theorem shortName
    (hOwn : Token.Names cs own) :
    Denotes none (.phrase .atom) cs (Node.column own none none) := by
  have hColumn :
      Denotes none (.phrase .atom) cs
        (Node.column (Token.nameOf cs) none none) :=
    .of_rule .shortName rfl (.lastName hOwn)
  rw [hOwn.denotes] at hColumn
  exact hColumn

theorem tableName
    (hOwner : Token.Names cs owner)
    (hOwn : Token.Names cs' own) :
    Denotes none (.phrase .atom) (cs ++ '.' :: cs')
      (Node.column own (some owner) none) := by
  have hColumn :
      Denotes none (.phrase .atom) (cs ++ '.' :: cs')
        (Node.column (Token.nameOf cs') (some (Token.nameOf cs)) none) :=
    .of_rule .tableName rfl
      (.nameBefore hOwner (by decide) (.mark rfl (by decide)
        (.lastName hOwn)))
  rw [hOwner.denotes, hOwn.denotes] at hColumn
  exact hColumn

theorem databaseName
    (hDatabase : Token.Names cs database)
    (hOwner : Token.Names cs' owner)
    (hOwn : Token.Names cs'' own) :
    Denotes none (.phrase .atom) (cs ++ '.' :: (cs' ++ '.' :: cs''))
      (Node.column own (some owner) (some database)) := by
  have hColumn :
      Denotes none (.phrase .atom) (cs ++ '.' :: (cs' ++ '.' :: cs''))
        (Node.column (Token.nameOf cs'') (some (Token.nameOf cs'))
          (some (Token.nameOf cs))) :=
    .of_rule .databaseName rfl
      (.nameBefore hDatabase (by decide) (.mark rfl (by decide)
        (.nameBefore hOwner (by decide) (.mark rfl (by decide)
          (.lastName hOwn)))))
  rw [hDatabase.denotes, hOwner.denotes, hOwn.denotes] at hColumn
  exact hColumn

end Denotes

/- A column is read back with the names that it is qualified by. -/
theorem readBack_column
    (own : String)
    {owner database : Option String}
    (hOwner : owner = none → database = none) :
    (Node.column own owner database).ReadBack ctx
      (Denotes none (.phrase .atom)) := by
  intro hLegible depth indent
  apply gives_node
  intro hDeep text hRender
  rw [Node.render.eq_def, hDeep] at hRender
  rcases map_eq_ok.mp hRender with ⟨s, hName, rfl⟩
  have hMember : some own ∈ [database, owner, some own] :=
    List.mem_cons_of_mem _ (List.mem_cons_of_mem _ (List.mem_singleton_self _))
  refine ⟨s, rfl, RenderContext.qualified_ne_empty hMember hName, ?_⟩
  rcases exists_of_qualified hLegible hName with ⟨texts, rfl, hTexts⟩
  cases owner with
  | none =>
      cases hOwner rfl
      rcases hTexts with _ | ⟨hOwn, _ | _⟩
      exact .shortName hOwn
  | some owner =>
      cases database with
      | none =>
          rcases hTexts with _ | ⟨hOwner, _ | ⟨hOwn, _ | _⟩⟩
          simpa [toList_intercalate_cons] using
            Denotes.tableName hOwner hOwn
      | some database =>
          rcases hTexts with _ | ⟨hDatabase, _ | ⟨hOwner, _ | ⟨hOwn, _ | _⟩⟩⟩
          simpa [toList_intercalate_cons] using
            Denotes.databaseName hDatabase hOwner hOwn

------------------------------------------------------------
-- Brackets
------------------------------------------------------------

/- A phrase in brackets. -/
theorem DenotesAll.enclosed
    {α : Type}
    {s : Symbol}
    {cs : List Char}
    {m : s.Meaning}
    {f : Meanings α [.token .leftBracket, s, .token .rightBracket]}
    (hInner : Denotes none s cs m) :
    DenotesAll none [.token .leftBracket, s, .token .rightBracket] f
      ('(' :: (cs ++ [')'])) (f ['('] m [')']) :=
  .mark rfl (by decide)
    (.cons hInner (.mark rfl (by decide) .nil) rfl)

theorem enclose_toList
    (s : String) :
    (enclose true s).toList = '(' :: (s.toList ++ [')']) := by
  simp [enclose, String.toList_append]

/- An expression in brackets is read back. -/
theorem readBack_bracketed
    {n : Node}
    (hNode : n.ReadBack ctx P)
    (hText : ∀ cs, P cs n → P' ('(' :: (cs ++ [')'])) n.bracketed) :
    n.bracketed.ReadBack ctx P' := by
  intro hLegible depth indent
  apply gives_node
  intro hDeep
  rw [Node.bracketed, Node.render.eq_def, hDeep]
  apply gives_map (gives_member (gives_slot (hNode hLegible.1 _ _)))
  · intro s hNotEmpty
    exact enclose_ne_empty true hNotEmpty
  · intro s hHolds
    rw [enclose_toList]
    exact hText _ hHolds

/- Expressions in brackets with commas between them are read back. -/
theorem readBack_tupled
    {ns : List Node}
    (hSome : ns ≠ [])
    (hNodes : ∀ n ∈ ns, n.ReadBack ctx P)
    (hText : ∀ texts : List String,
      List.Forall₂ (fun n s => P s.toList n) ns texts →
        P' ('(' :: ((", ".intercalate texts).toList ++ [')']))
          (Node.tupled ns)) :
    (Node.tupled ns).ReadBack ctx P' := by
  intro hLegible depth indent
  apply gives_node
  intro hDeep
  have hAll := legible_of_ofList hLegible
  rw [Node.tupled, Node.render.eq_def, hDeep]
  apply gives_map
    (gives_list hSome fun n hMember =>
      hNodes n hMember (hAll n hMember) _ _)
  · intro s hNotEmpty
    exact enclose_ne_empty true hNotEmpty
  · rintro s ⟨texts, hForall, hChars⟩
    rw [enclose_toList, hChars]
    exact hText texts hForall

------------------------------------------------------------
-- Calls
------------------------------------------------------------

/- The text between the brackets of a call. -/
def argumentChars
    (texts : List String)
    (distinct : Bool) : List Char :=
  (if distinct then "DISTINCT".toList ++ [' '] else []) ++
    (", ".intercalate texts).toList

theorem callText_toList
    (own : String)
    (texts : List String)
    (distinct : Bool) :
    (callText own texts distinct).toList =
      own.toList ++ '(' :: (argumentChars texts distinct ++ [')']) := by
  cases distinct <;>
    simp [callText, argumentChars, String.toList_append]

/- A call denotes the function with the arguments it is given. -/
theorem Denotes.call
    {own : String}
    {ns : List Node}
    {texts : List String}
    {distinct : Bool}
    (hCallable : IsCallable own)
    (hUpper : Text.upper own = own)
    (hDistinct : distinct = true → ns ≠ [])
    (hTexts : List.Forall₂
      (fun n s => Denotes none (.phrase .expr) s.toList n) ns texts) :
    Denotes none (.phrase .atom)
      (own.toList ++ '(' :: (argumentChars texts distinct ++ [')']))
      (Node.call own (.ofList ns) distinct) := by
  have hName := Token.Names.of_callable hCallable
  have hCall :
      Denotes none (.phrase .atom)
        (own.toList ++ '(' :: (argumentChars texts distinct ++ [')']))
        (Node.call (Text.upper (Token.nameOf own.toList)) (.ofList ns)
          distinct) := by
    cases distinct with
    | true =>
        change Denotes none _
          (own.toList ++ '(' :: ("DISTINCT".toList ++ ' ' ::
            ((", ".intercalate texts).toList ++ [')']))) _
        exact .of_rule .callDistinct rfl
          (.nameBefore hName (by decide) (.mark rfl (by decide)
            (.word (by decide)
              (.cons (.exprs (hDistinct rfl) hTexts)
                (.mark rfl (by decide) .nil) rfl))))
    | false =>
        cases ns with
        | nil =>
            cases hTexts
            exact .of_rule .callEmpty rfl
              (.nameBefore hName (by decide) (.mark rfl (by decide)
                (.mark rfl (by decide) .nil)))
        | cons n ns =>
            exact .of_rule .call rfl
              (.nameBefore hName (by decide) (.mark rfl (by decide)
                (.cons (.exprs (List.cons_ne_nil _ _) hTexts)
                  (.mark rfl (by decide) .nil) rfl)))
  rw [hName.denotes, hUpper] at hCall
  exact hCall

/- A call with the star in place of arguments. -/
theorem Denotes.callStar
    {own : String}
    (hCallable : IsCallable own)
    (hUpper : Text.upper own = own) :
    Denotes none (.phrase .atom) (own.toList ++ '(' :: '*' :: [')'])
      (Node.call own (.ofList [.column "*" none none]) false) := by
  have hName := Token.Names.of_callable hCallable
  have hCall :
      Denotes none (.phrase .atom) (own.toList ++ '(' :: '*' :: [')'])
        (Node.call (Text.upper (Token.nameOf own.toList))
          (.ofList [.column "*" none none]) false) :=
    .of_rule .callStar rfl
      (.nameBefore hName (by decide) (.mark rfl (by decide)
        (.mark rfl (by decide) (.mark rfl (by decide) .nil))))
  rw [hName.denotes, hUpper] at hCall
  exact hCall

theorem eq_of_isStar
    {ns : List Node}
    (hStar : (Slot.ofList ns).IsStar) :
    ns = [.column "*" none none] := by
  unfold Slot.IsStar at hStar
  split at hStar
  next name hMembers =>
    subst hStar
    have hList : ns.map some = [.column "*" none none].map some :=
      Slot.many.inj hMembers
    exact List.map_injective_iff.mpr (Option.some_injective _) hList
  next => exact hStar.elim

/- The star is written as it stands. -/
theorem render_star
    {depth : Nat}
    {indent : Int}
    {text : Option String}
    (hStar :
      (Node.column "*" none none).render ctx depth indent = .ok text) :
    text = some "*" := by
  have hDeep := not_tooDeep_of_render hStar
  rw [Node.render.eq_def, hDeep] at hStar
  exact (Except.ok.inj hStar).symm

/- A call is read back, also one with the star. -/
theorem readBack_call
    {own : String}
    {ns : List Node}
    {distinct : Bool}
    (hUpper : Text.upper own = own)
    (hDistinct : distinct = true → ns ≠ [])
    (hNodes : ∀ n ∈ ns, n.ReadBack ctx
      (Denotes none (.phrase .expr))) :
    (Node.call own (.ofList ns) distinct).ReadBack ctx
      (Denotes none (.phrase .atom)) := by
  rintro ⟨hCallable, hArgs⟩ depth indent
  apply gives_node
  intro hDeep text hCall
  rw [Slot.ofList, Node.render.eq_def, hDeep] at hCall
  rcases map_eq_ok.mp hCall with ⟨found, hFound, rfl⟩
  rcases hArgs with hLegible | ⟨rfl, hStar⟩
  · have hAll := legible_of_ofList hLegible
    rcases forall₂_of_renderArgs
      (fun n hMember => hNodes n hMember (hAll n hMember) _ _) hFound with
      ⟨texts, rfl, hTexts⟩
    refine ⟨_, rfl, callText_ne_empty _ _ _, ?_⟩
    rw [callText_toList]
    exact .call hCallable hUpper hDistinct hTexts
  · cases eq_of_isStar hStar
    rw [List.map_singleton, Node.renderArgs] at hFound
    rcases bind_eq_ok.mp hFound with ⟨text, hText, hRest⟩
    rw [render_star hText] at hRest
    cases hRest
    refine ⟨_, rfl, callText_ne_empty _ _ _, ?_⟩
    rw [callText_toList]
    exact .callStar hCallable hUpper

------------------------------------------------------------
-- Subqueries
------------------------------------------------------------

/- A query that is legible is read back from its text. -/
def Query.ReadBack
    (ctx : RenderContext)
    (q : Query Node) : Prop :=
  q.Legible ctx.dialect →
    ∀ (depth : Nat) (indent : Int) (s : String),
      Node.renderQuery ctx depth indent q = .ok s →
        Denotes none (.phrase .query) s.toList q

/- A query in brackets is read back. -/
theorem readBack_subquery
    {q : Query Node}
    (hQuery : q.ReadBack ctx)
    (hText : ∀ cs, Denotes none (.phrase .query) cs q →
      P ('(' :: (cs ++ [')'])) (.subquery (.one (.select q)) none)) :
    (Node.subquery (.one (.select q)) none).ReadBack ctx P := by
  rintro ⟨_, hLegible⟩ depth indent
  apply gives_node
  intro hDeep text hRender
  rw [Node.render.eq_def, hDeep] at hRender
  rcases bind_eq_ok.mp hRender with ⟨s, hInner, hRest⟩
  cases hRest
  refine ⟨_, rfl,
    append_ne_empty_left _ (append_ne_empty_right _ (by decide)), ?_⟩
  have hHolds := hText _ (hQuery hLegible _ _ _ hInner)
  simpa [subqueryText, String.toList_append] using hHolds

end SqlTemplate
