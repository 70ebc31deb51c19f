import NodeBootstrap.Text.CaseTable

/-! # Lower case

The full lower-case mapping of Unicode: one character may become two, and a capital sigma becomes
the final form at the end of a word. -/

namespace NodeBootstrap.Text

def isCased (c : Char) : Bool := casedLetters.contains c

def isCaseIgnorable (c : Char) : Bool := caseIgnorables.contains c

/-- The mapping of a single character, apart from its neighbours. -/
def lowerChar (c : Char) : List Char :=
  if c = '\u0130' then ['i', '\u0307']
  else
    match caseRuns.find? (·.covers c.toNat) with
    | some run => [Char.ofNat (run.apply c.toNat)]
    | none => [c]

/-- Whether the first character that is not case-ignorable is a cased letter. -/
def meetsCased (s : List Char) : Bool :=
  match s.dropWhile isCaseIgnorable with
  | [] => false
  | c :: _ => isCased c

/-- Lower-cases `s`, which follows the reversed text `before`. -/
def lowercaseAfter (before : List Char) : List Char → List Char
  | [] => []
  | c :: rest =>
    let here :=
      if c = 'Σ' then
        if meetsCased before && !meetsCased rest then ['ς'] else ['σ']
      else lowerChar c
    here ++ lowercaseAfter (c :: before) rest

def lowercase (s : List Char) : List Char := lowercaseAfter [] s

/-- Lower-cases the twenty-six Latin capitals and nothing else. -/
def lowercaseAscii (s : List Char) : List Char := s.map Char.toLower

end NodeBootstrap.Text
