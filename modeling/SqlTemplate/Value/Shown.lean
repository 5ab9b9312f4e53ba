import SqlTemplate.Value
import SqlTemplate.Text.Shown

/-
  The form in which messages show values.

  Key definitions include:
    * `Value.shown`
-/

------------------------------------------------------------
-- Shown Values
------------------------------------------------------------

namespace SqlTemplate

namespace Value

/- A member of an enumeration between angle brackets. -/
def shownMember
    (enumeration name value : String) : String :=
  "<" ++ enumeration ++ "." ++ name ++ ": " ++ value ++ ">"

/- The brackets of each kind of collection around its items. -/
def shownCollection
    (kind : CollectionKind)
    (items : List String) : String :=
  let inner := ", ".intercalate items
  match kind, items with
  | .list, _ => "[" ++ inner ++ "]"
  | .tuple, [_] => "(" ++ inner ++ ",)"
  | .tuple, _ => "(" ++ inner ++ ")"
  | .set, [] => "set()"
  | .set, _ => "\x7b" ++ inner ++ "\x7d"
  | .frozenSet, [] => "frozenset()"
  | .frozenSet, _ => "frozenset(\x7b" ++ inner ++ "\x7d)"

mutual

/- The shown form of a value. -/
def shown : Value → String
| .null => "None"
| .bool true => "True"
| .bool false => "False"
| .int n => Digits.textInt n
| .float x => String.ofList x.toChars
| .decimal d => "Decimal('" ++ String.ofList d.toChars ++ "')"
| .text s => Text.shown s
| .bytes bs => Text.shownBytes bs
| .buffer bs => Text.shownBuffer bs
| .date d => d.shown
| .time t => t.shown
| .moment m => m.shown
| .collection kind items => shownCollection kind (shownItems items)
| .member enumeration name value =>
    shownMember enumeration name value.shown
| .intMember enumeration name n =>
    shownMember enumeration name (Digits.textInt n)
| .textMember enumeration name s =>
    shownMember enumeration name (Text.shown s)
| .mapping entries =>
    "\x7b" ++ ", ".intercalate (shownEntries entries) ++ "\x7d"
| .other _ shown => shown

/- The shown forms of the items of a collection. -/
def shownItems : List Value → List String
| [] => []
| v :: vs => v.shown :: shownItems vs

/- The shown forms of the entries of a mapping. -/
def shownEntries : List (String × Value) → List String
| [] => []
| (key, v) :: entries =>
    (Text.shown key ++ ": " ++ v.shown) :: shownEntries entries

end

end Value

end SqlTemplate
