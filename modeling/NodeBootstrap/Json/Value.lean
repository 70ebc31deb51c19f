import NodeBootstrap.Decimal.Binary64

/-! # JSON values and their text -/

namespace NodeBootstrap

namespace Json

/-- Whole numbers of 64 bits stay whole; all others are floating-point numbers. -/
inductive Number where
  | whole (value : Int)
  | float (value : Decimal.Binary64)
  deriving DecidableEq, Repr

end Json

inductive Json where
  | null
  | boolean (value : Bool)
  | number (value : Json.Number)
  | string (value : String)
  | array (items : List Json)
  | object (fields : List (String × Json))
  deriving Repr

namespace Json

def whole (n : Int) : Json := number (.whole n)

def strings (items : List String) : Json := array (items.map string)

end Json

end NodeBootstrap
