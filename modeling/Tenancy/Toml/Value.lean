import Tenancy.Decimal.Double

/-!
# Toml/Value — what a TOML document holds

A moment (a date, a time or both) is kept as its text in the standard form. The members of a table
have distinct keys.
-/

namespace Tenancy.Toml

inductive Value where
  | text (s : String)
  | integer (n : Int)
  | float (d : Decimal.Double)
  | boolean (b : Bool)
  | moment (written : String)
  | array (items : List Value)
  | table (members : List (String × Value))
  deriving Inhabited

end Tenancy.Toml
