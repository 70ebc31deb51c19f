import NodeBootstrap.Decimal.Binary64

/-! # TOML values -/

namespace NodeBootstrap

inductive Toml where
  | boolean (value : Bool)
  | integer (value : Int)
  | float (value : Decimal.Binary64)
  | string (value : String)
  /-- A date, a time or both, in its normal form. -/
  | dateTime (text : String)
  | array (items : List Toml)
  | table (entries : List (String × Toml))
  deriving Repr

end NodeBootstrap
