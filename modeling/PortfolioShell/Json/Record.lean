import PortfolioShell.Json.Reader

/-!
# Records in JSON

A record has named fields in a declared order. It is written as an object, or as an array of its
fields in that order. In an object a declared field may stand once at most, and members with
other names do not count; an array may end early, but not go on beyond the last field.
-/
namespace PortfolioShell.Json

/-- The value of a declared field among named members; a second member of that name is refused. -/
def memberOnce? (members : List (String × Json)) (field : String) : Option (Option Json) :=
  match members.filter (·.1 == field) with
  | [] => some none
  | [(_, value)] => some (some value)
  | _ => none

/-- The fields of a record, in declared order; a field that is not written is `none`. -/
def fields? (declared : List String) : Json → Option (List (Option Json))
  | .object members => do
    let named ← members.mapM fun (key, value) => (textOfUnits key).map (·, value)
    declared.mapM (memberOnce? named)
  | .array items =>
    if items.length ≤ declared.length then
      some (items.map some ++ List.replicate (declared.length - items.length) none)
    else none
  | _ => none

/-- Reads a field that must be written. -/
def required? {α : Type} (read? : Json → Option α) (field : Option Json) : Option α :=
  field.bind read?

/-- Reads a field that stands for a given value when it is not written. -/
def optional? {α : Type} (read? : Json → Option α) (absent : α) : Option Json → Option α
  | none => some absent
  | some value => read? value

end PortfolioShell.Json
