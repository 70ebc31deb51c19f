import NodeBootstrap.Text.CodeRanges

/-! # Blank characters and trimming

A character is blank when it has the Unicode property `White_Space`. -/

namespace NodeBootstrap.Text

def blanks : CodeRanges :=
  [(0x0009, 0x000D), (0x0020, 0x0020), (0x0085, 0x0085), (0x00A0, 0x00A0), (0x1680, 0x1680),
    (0x2000, 0x200A), (0x2028, 0x2029), (0x202F, 0x202F), (0x205F, 0x205F), (0x3000, 0x3000)]

def isBlank (c : Char) : Bool := blanks.contains c

def trimStart (s : List Char) : List Char := s.dropWhile isBlank

def trimEnd (s : List Char) : List Char := (s.reverse.dropWhile isBlank).reverse

def trim (s : List Char) : List Char := trimEnd (trimStart s)

/-- A text is blank when nothing is left of it after trimming. -/
def Blank (s : String) : Prop := trim s.toList = []

instance (s : String) : Decidable (Blank s) := inferInstanceAs (Decidable (_ = _))

end NodeBootstrap.Text
