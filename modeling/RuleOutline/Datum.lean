/-! Data as trees of lists and records, for the formats that write any data in the same way. -/
namespace RuleOutline

/-- A tree of data. The fields of a record have an order. -/
inductive Datum where
  | null
  | flag (value : Bool)
  | count (value : Nat)
  | text (value : String)
  | list (items : List Datum)
  | record (fields : List (String × Datum))

/-- The datum, where there may be none. -/
def Datum.orNull {α : Type} (f : α → Datum) : Option α → Datum
  | some value => f value
  | none => .null

end RuleOutline
