import NodeBootstrap.Url.LabelRules
import NodeBootstrap.Url.NameMapping

/-! # Domain names

The ASCII form of a name: labels between dots, mapped and composed, and in Punycode after a mark if
they hold characters beyond ASCII. A label that bears the mark already must be the form of one that
holds such characters. -/

namespace NodeBootstrap.Url.Domain

open Text

def mark : List Char := "xn--".toList

def map? (name : List Char) : Option (List Char) := do
  return compose (← name.mapM mapChar?).flatten

/-- The rules that a label keeps to by itself. -/
def isSound (label : List Char) : Bool := ! label.head?.any isMark && joinersFit [] label

structure Label where
  shown : List Char
  ascii : List Char

/-- The label that a part of a mapped name is, or is the form of. -/
def label? (s : List Char) : Option Label :=
  if mark.isPrefixOf s then do
    let shown ← Punycode.decode (s.drop mark.length)
    if isSound shown && map? shown = some shown && ! shown.contains '.' &&
        ! shown.all Punycode.isAscii then
      some ⟨shown, s⟩
    else none
  else if s.all Punycode.isAscii then some ⟨s, s⟩
  else if isSound s then some ⟨s, mark ++ Punycode.encode s⟩
  else none

def isTurned (label : Label) : Bool :=
  label.shown.any fun c => ! Punycode.isAscii c && (direction c).turns

/-- Where one label is written from right to left, the directions of all of them must fit. -/
def directionsFit (labels : List Label) : Bool :=
  ! labels.any isTurned || labels.all fun label => Direction.fit (label.shown.map direction)

def ascii? (name : List Char) : Option (List Char) := do
  let labels ← (parts '.' (← map? name)).mapM label?
  if directionsFit labels then some (['.'].intercalate (labels.map Label.ascii)) else none

end NodeBootstrap.Url.Domain
