/-
  Connectivity.Toml.Value — what a TOML document says. A table remembers how it was written,
  since a later header or dotted key may extend some tables and not others: `header` by its own
  header, `implied` on the way to a header, `dotted` by dotted keys, `inline` between braces.
-/

namespace Connectivity.Toml

inductive Origin where
  | header
  | implied
  | dotted
  | inline
  deriving DecidableEq, Repr

inductive Value where
  | text (s : String)
  | integer (n : Int)
  | float
  | boolean (b : Bool)
  | dateTime
  | array (items : List Value)
  | table (origin : Origin) (rows : List (String × Value))
  /-- An array of tables, each of which has a header of its own. -/
  | tables (items : List (List (String × Value)))
  deriving Inhabited

/-- The rows of a table, in the order in which their keys first appear. -/
abbrev Rows := List (String × Value)

namespace Rows

def value? (rows : Rows) (key : String) : Option Value :=
  (rows.find? (fun row => row.1 == key)).map (·.2)

/-- The rows with the value of a present key replaced. -/
def replace (rows : Rows) (key : String) (v : Value) : Rows :=
  rows.map (fun row => if row.1 == key then (key, v) else row)

end Rows

end Connectivity.Toml
