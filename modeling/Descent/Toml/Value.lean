import Descent.Text.Double

/-!
# TOML values

The data of a TOML document. Dates and times are kept as text.
-/

namespace Descent.Toml

/-- A value of a document. -/
inductive Value where
  | str (s : String)
  | int (n : Int)
  | float (x : Text.Double)
  | bool (b : Bool)
  | datetime (s : String)
  | arr (items : List Value)
  | table (entries : List (String × Value))
deriving Repr, Inhabited

end Descent.Toml
