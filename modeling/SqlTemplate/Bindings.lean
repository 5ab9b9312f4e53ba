import SqlTemplate.Value

/-
  The values that the parameters of a statement are bound to.

  Key definitions include:
    * `Bindings`
    * `Bindings.value?`
    * `Bindings.isBound`
    * `Bindings.ofList`
-/

------------------------------------------------------------
-- Bindings
------------------------------------------------------------

namespace SqlTemplate

/-
  Bindings give every name a value; a name with the value null
  is unbound.
-/
abbrev Bindings :=
  String → Value

namespace Bindings

/- The value of a bound name. -/
def value?
    (b : Bindings)
    (name : String) : Option Value :=
  match b name with
  | .null => none
  | v => some v

/- A name is bound. -/
def isBound
    (b : Bindings)
    (name : String) : Bool :=
  (b.value? name).isSome

/- Bindings from a list; what it does not name is unbound. -/
def ofList (entries : List (String × Value)) : Bindings :=
  fun name => (entries.lookup name).getD .null

end Bindings

end SqlTemplate
