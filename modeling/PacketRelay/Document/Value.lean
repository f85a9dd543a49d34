import PacketRelay.Decimal.Binary64

/-!
The values of a TOML document. Entries keep the order in which their keys were
first written.
-/

namespace PacketRelay.Document

/-- A table is implicit while only its subtables or dotted keys have been
written, and dotted if a dotted key made it. An inline table is closed. The last
element of an array of tables comes first. -/
inductive Value where
  | text (value : String)
  | integer (value : Int)
  | float (value : Decimal.Binary64)
  | boolean (value : Bool)
  | moment
  | array (items : List Value)
  | inlineTable (entries : List (String × Value))
  | table (implicit dotted : Bool) (entries : List (String × Value))
  | tables (elements : List (List (String × Value)))

abbrev Entries := List (String × Value)

def Value.kind : Value → String
  | .text _ => "string"
  | .integer _ => "integer"
  | .float _ => "float"
  | .boolean _ => "boolean"
  | .moment => "datetime"
  | .array _ => "array"
  | .inlineTable _ => "inline table"
  | .table .. => "table"
  | .tables _ => "array of tables"

end PacketRelay.Document
