import SqlTemplate.Calendar
import SqlTemplate.Number.Binary64

/-
  The values that parameters can be bound to and that literals
  of a statement hold.

  Key definitions include:
    * `CollectionKind`
    * `Value`
    * `Value.isNull`
    * `Value.items?`
    * `Value.isCollection`
    * `Value.isEmptyCollection`
    * `Value.numeral?`
    * `Value.typeName`
-/

------------------------------------------------------------
-- Values
------------------------------------------------------------

namespace SqlTemplate

/- The kinds of collections. -/
inductive CollectionKind where
| list
| tuple
| set
| frozenSet
deriving DecidableEq, Repr, Inhabited

/-
  A value: a scalar, a collection, a member of an enumeration,
  or something that no SQL literal stands for.  A member knows
  its enumeration and its own name; the members of some
  enumerations are whole numbers or texts at the same time.
-/
inductive Value where
| null
| bool (b : Bool)
| int (n : Int)
| float (x : Binary64)
| decimal (d : Decimal)
| text (s : String)
| bytes (bs : List UInt8)
| buffer (bs : List UInt8)
| date (d : Date)
| time (t : TimeOfDay)
| moment (m : Moment)
| collection (kind : CollectionKind) (items : List Value)
| member (enumeration name : String) (value : Value)
| intMember (enumeration name : String) (n : Int)
| textMember (enumeration name : String) (s : String)
| mapping (entries : List (String × Value))
| other (typeName shown : String)
deriving Inhabited

namespace Value

------------------------------------------------------------
-- Kinds of Values
------------------------------------------------------------

/- A value is null. -/
def isNull : Value → Bool
| .null => true
| _ => false

/- The items of a collection. -/
def items? : Value → Option (List Value)
| .collection _ items => some items
| _ => none

/- A value expands to a list of values. -/
def isCollection (v : Value) : Bool :=
  v.items?.isSome

/- A value expands to nothing. -/
def isEmptyCollection : Value → Bool
| .collection _ [] => true
| _ => false

/-
  The numeral that a value can be written as without quotes:
  a whole number that is not negative, or a text of ASCII
  digits.
-/
def numeral? : Value → Option String
| .int n => natural? n
| .intMember _ _ n => natural? n
| .text s => digits? s
| .textMember _ _ s => digits? s
| _ => none
where
  natural? (n : Int) : Option String :=
    if 0 ≤ n then some (Digits.textInt n) else none
  digits? (s : String) : Option String :=
    if !s.toList.isEmpty && s.toList.all Char.isDigit then
      some s
    else
      none

/- The name of a value's type. -/
def typeName : Value → String
| .null => "NoneType"
| .bool _ => "bool"
| .int _ => "int"
| .float _ => "float"
| .decimal _ => "Decimal"
| .text _ => "str"
| .bytes _ => "bytes"
| .buffer _ => "bytearray"
| .date _ => "date"
| .time _ => "time"
| .moment _ => "datetime"
| .collection .list _ => "list"
| .collection .tuple _ => "tuple"
| .collection .set _ => "set"
| .collection .frozenSet _ => "frozenset"
| .member enumeration _ _ => enumeration
| .intMember enumeration _ _ => enumeration
| .textMember enumeration _ _ => enumeration
| .mapping _ => "dict"
| .other name _ => name

end Value

end SqlTemplate
