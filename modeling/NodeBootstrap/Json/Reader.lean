import NodeBootstrap.Json.Scanner

/-! # Reading JSON

Arrays and objects are walked by two loops that know commas and brackets and leave items and fields
to their caller. A value can be kept, which limits its depth, or skipped, which does not. -/

namespace NodeBootstrap.Json

/-- The start of the next item of an array, after its opening bracket or after an item, or `none`
before its closing bracket. -/
def nextItem (first : Bool) (s : List Char) : Except Fault (Option (List Char)) :=
  match skipBlanks s with
  | [] => .error .ended
  | c :: rest =>
    if c = ']' then .ok none
    else if first then .ok (some (c :: rest))
    else if c ≠ ',' then .error .malformed
    else
      match skipBlanks rest with
      | [] => .error .ended
      | ']' :: _ => .error .malformed
      | here => .ok (some here)

/-- The end of an array of which no more items are wanted. -/
def endItems (s : List Char) : Except Fault (List Char) :=
  match skipBlanks s with
  | [] => .error .ended
  | ']' :: rest => .ok rest
  | _ => .error .malformed

/-- The items of an array up to its end. Each round takes one item and hands the state on; `rounds`
bounds the rounds and is as long as the text. -/
def itemLoop {σ : Type} (item : σ → List Char → Except Fault (σ × List Char)) :
    (rounds : Nat) → (first : Bool) → σ → List Char → Except Fault (σ × List Char)
  | 0, _, _, _ => .error .ended
  | rounds + 1, first, state, s => do
    match ← nextItem first s with
    | none => return (state, ← endItems s)
    | some here =>
      let (state, rest) ← item state here
      itemLoop item rounds false state rest

/-- The fields of an object up to its end, likewise; `field` starts inside the key. -/
def fieldLoop {σ : Type} (field : σ → List Char → Except Fault (σ × List Char)) :
    (rounds : Nat) → (first : Bool) → σ → List Char → Except Fault (σ × List Char)
  | 0, _, _, _ => .error .ended
  | rounds + 1, first, state, s =>
    match skipBlanks s with
    | [] => .error .ended
    | '\x7d' :: rest => .ok (state, rest)
    | c :: rest =>
      let here := if first then c :: rest else skipBlanks rest
      if ¬ first ∧ c ≠ ',' then .error .malformed
      else
        match here with
        | [] => .error .ended
        | '"' :: inside => do
          let (state, rest) ← field state inside
          fieldLoop field rounds false state rest
        | _ => .error .malformed

/-- The colon between a key and its value. -/
def colon (s : List Char) : Except Fault (List Char) :=
  match skipBlanks s with
  | [] => .error .ended
  | ':' :: rest => .ok rest
  | _ => .error .malformed

/-- A value of which only the extent matters. -/
def skipValue : (depth : Nat) → List Char → Except Fault (List Char)
  | 0, _ => .error .ended
  | depth + 1, s =>
    match skipBlanks s with
    | [] => .error .ended
    | 'n' :: rest => word ['u', 'l', 'l'] rest
    | 't' :: rest => word ['r', 'u', 'e'] rest
    | 'f' :: rest => word ['a', 'l', 's', 'e'] rest
    | '"' :: rest => skipString .plain rest
    | '[' :: rest =>
      (itemLoop (fun () s => (skipValue depth s).map ((), ·)) (rest.length + 1) true () rest).map
        Prod.snd
    | '\x7b' :: rest =>
      let field (_ : Unit) (s : List Char) : Except Fault (Unit × List Char) := do
        let s ← skipString .plain s
        let s ← colon s
        let s ← skipValue depth s
        return ((), s)
      (fieldLoop field (rest.length + 1) true () rest).map Prod.snd
    | c :: rest =>
      if c = '-' ∨ Decimal.isDigit c then skipNumber (c :: rest) else .error .malformed

/-- Skips a value of any depth. -/
def skip (s : List Char) : Except Fault (List Char) := skipValue (s.length + 1) s

/-- The last value given for a key stands, in the place of the first. -/
def setField (key : String) (value : Json) : List (String × Json) → List (String × Json)
  | [] => [(key, value)]
  | (k, v) :: fields =>
    if k = key then (k, value) :: fields else (k, v) :: setField key value fields

def noBad (_ : Char) : Bool := false

/-- A value that is kept, with at most `depth` arrays and objects around each other. -/
def keepValue : (depth : Nat) → List Char → Except Fault (Json × List Char)
  | depth, s =>
    match skipBlanks s with
    | [] => .error .ended
    | 'n' :: rest => (word ['u', 'l', 'l'] rest).map (null, ·)
    | 't' :: rest => (word ['r', 'u', 'e'] rest).map (boolean true, ·)
    | 'f' :: rest => (word ['a', 'l', 's', 'e'] rest).map (boolean false, ·)
    | '"' :: rest =>
      (keepString noBad .plain rest).map fun (cs, rest) => (string (String.ofList cs), rest)
    | '[' :: rest =>
      match depth with
      | 0 => .error .malformed
      | depth + 1 =>
        let item (items : List Json) (s : List Char) : Except Fault (List Json × List Char) :=
          (keepValue depth s).map fun (value, rest) => (value :: items, rest)
        (itemLoop item (rest.length + 1) true [] rest).map fun (items, rest) =>
          (array items.reverse, rest)
    | '\x7b' :: rest =>
      match depth with
      | 0 => .error .malformed
      | depth + 1 =>
        let field (fields : List (String × Json)) (s : List Char) :
            Except Fault (List (String × Json) × List Char) := do
          let (key, s) ← keepString noBad .plain s
          let s ← colon s
          let (value, s) ← keepValue depth s
          return (setField (String.ofList key) value fields, s)
        (fieldLoop field (rest.length + 1) true [] rest).map fun (fields, rest) =>
          (object fields, rest)
    | c :: rest =>
      if c = '-' ∨ Decimal.isDigit c then
        (keepNumber (c :: rest)).map fun (n, rest) => (number n, rest)
      else .error .malformed

def maxDepth : Nat := 127

/-- Nothing but blanks may follow. -/
def finish {α : Type} (value : α) (s : List Char) : Except Fault α :=
  if skipBlanks s = [] then .ok value else .error .malformed

def parse (s : List Char) : Except Fault Json := do
  let (value, rest) ← keepValue maxDepth s
  finish value rest

end NodeBootstrap.Json
