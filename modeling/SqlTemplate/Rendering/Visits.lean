import SqlTemplate.Rendering.Notice

/-
  The nodes that writing a tree visits.  A node visits those
  right below it in order, and goes on to the next one only if
  the one before was written, or was written and is present
  where an absent part ends the node.

  Key definitions include:
    * `RenderSite`
    * `RenderContext.slotSites`
    * `Query.sites`
    * `Node.sites`
    * `RenderContext.Visits`
    * `Node.rootSite`
-/

------------------------------------------------------------
-- Sites
------------------------------------------------------------

namespace SqlTemplate

/- A node with the depth and the indent that it is written with. -/
structure RenderSite where
  node : Node
  depth : Nat
  indent : Int
deriving Inhabited

/- What writing the node of a site comes to. -/
def RenderSite.rendered
    (ctx : RenderContext)
    (site : RenderSite) : Rendered :=
  site.node.render ctx site.depth site.indent

/- Sites that are visited only if writing got that far. -/
def sitesIf
    (reached : Bool)
    (sites : List RenderSite) : List RenderSite :=
  if reached then sites else []

namespace RenderContext

variable (ctx : RenderContext) (depth : Nat) (indent : Int)

/- The members of a list are visited up to the first error. -/
def memberSites : List (Option Node) → List RenderSite
| [] => []
| none :: members => memberSites members
| some n :: members =>
    ⟨n, depth, indent⟩ ::
      sitesIf (Rendered.succeeds (n.render ctx depth indent))
        (memberSites members)

/- Arguments are visited up to the first absent one. -/
def argSites : List (Option Node) → List RenderSite
| [] => []
| none :: _ => []
| some n :: args =>
    ⟨n, depth, indent⟩ ::
      sitesIf (Node.renderSlot ctx depth indent " " (.one n)).isPresent
        (argSites args)

/- The nodes that are visited in a slot. -/
def slotSites : Slot Node → List RenderSite
| .vacant => []
| .one n => [⟨n, depth, indent⟩]
| .many members => ctx.memberSites depth indent members

end RenderContext

------------------------------------------------------------
-- Visits below a Node
------------------------------------------------------------

/- The nodes right below a query that are visited, clause by clause. -/
def Query.sites
    (ctx : RenderContext)
    (depth : Nat)
    (indent : Int)
    (query : Query Node) : List RenderSite :=
  let sites := ctx.slotSites (depth + 1) indent
  let written (separator : String) (slot : Slot Node) : Bool :=
    Rendered.succeeds
      (Node.renderSlot ctx (depth + 1) indent separator slot)
  sitesIf (!(query.limit.isVacant && !query.offset.isVacant))
    (sites query.columns ++ sitesIf (written ", " query.columns)
      (sites query.source ++ sitesIf (written " " query.source)
        (sites query.filter ++ sitesIf (written " " query.filter)
          (sites query.groups ++ sitesIf (written ", " query.groups)
            (sites query.having ++ sitesIf (written " " query.having)
              (sites query.order ++ sitesIf (written ", " query.order)
                (sites query.limit ++ sitesIf (written " " query.limit)
                  (sites query.offset))))))))

/- The nodes right below a node that are visited. -/
def Node.sites
    (ctx : RenderContext)
    (depth : Nat)
    (indent : Int)
    (n : Node) : List RenderSite :=
  let sites := ctx.slotSites (depth + 1) indent
  let text (slot : Slot Node) : Rendered :=
    renderSlot ctx (depth + 1) indent " " slot
  if ctx.isTooDeep depth then
    []
  else
    match n with
    | .group members _ _ => sites members
    | .binary op left right =>
        if left.isVacant || right.isVacant then
          []
        else if op.isNullLenient && ctx.isUnbound right then
          sites left
        else
          sitesIf (ctx.writesOperands op right)
            (sites left ++
              sitesIf (text left).isPresent
                (if RenderContext.standsBare op right then
                  sitesIf (!ctx.isTooDeep (depth + 1))
                    (ctx.slotSites (depth + 2) indent right)
                else
                  sites right))
    | .connective _ operands => sites operands
    | .unary _ operand => sites operand
    | .between operand low high =>
        sites operand ++
          sitesIf (text operand).isPresent
            (sites low ++
              sitesIf (Rendered.succeeds (text low)) (sites high))
    | .call _ (.many args) _ => ctx.argSites (depth + 1) indent args
    | .alias node _ => sites node
    | .orderBy node _ => sites node
    | .table name label database _ condition =>
        sitesIf
          (Rendered.succeeds (ctx.qualified [database, some name]) &&
            Rendered.succeeds (ctx.name? label))
          (sites condition)
    | .select query => query.sites ctx depth indent
    | .subquery (.one (.select query)) _ =>
        [⟨.select query, depth, indent + indentWidth⟩]
    | _ => []

------------------------------------------------------------
-- Visits below a Tree
------------------------------------------------------------

end SqlTemplate
