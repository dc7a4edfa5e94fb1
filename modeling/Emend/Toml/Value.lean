/-!
# TOML values

Numbers and dates are kept as far as rule files use them: an integer by its
value, a float and a date-time as they were written.
-/

namespace Emend.Toml

/-- A value. -/
inductive Value
  | string (s : String)
  | integer (n : Int)
  | float (text : String)
  | boolean (b : Bool)
  | dateTime (text : String)
  | array (items : List Value)
  | table (fields : List (String × Value))

end Emend.Toml
