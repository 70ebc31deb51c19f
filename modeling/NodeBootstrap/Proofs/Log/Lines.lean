import Mathlib.Data.List.Basic
import NodeBootstrap.Log.Line
import NodeBootstrap.Proofs.Text.Parts

/-! # Reading a log line

A line of the log is split at the quotes around its action. Nothing that stands before them holds a
quote, so that the split is the right one whatever texts follow in the fields. -/

namespace NodeBootstrap.Log

/-! ## Words that need no escapes -/

/-- Printable ASCII characters other than the quote and the backslash. -/
def isPlain (c : Char) : Bool := 0x20 ≤ c.toNat && c.toNat ≤ 0x7E && c != '"' && c != '\\'

theorem encodeChar_of_isPlain {c : Char} (h : isPlain c = true) :
    Text.Quoted.encodeChar c = [c] := by
  simp only [isPlain, Bool.and_eq_true, decide_eq_true_eq, bne_iff_ne] at h
  obtain ⟨⟨⟨hlow, hhigh⟩, hquote⟩, hbackslash⟩ := h
  have hranges : ∀ r ∈ Text.graphemeExtenders ++ Text.unprintables, r.2 < 0x20 ∨ 0x7E < r.1 := by
    decide +kernel
  have hnone : ∀ ranges ⊆ Text.graphemeExtenders ++ Text.unprintables,
      Text.CodeRanges.contains ranges c = false := by
    intro ranges hsub
    by_contra hmem
    obtain ⟨r, hr, hc⟩ := Text.CodeRanges.contains_iff.mp (Bool.not_eq_false _ ▸ hmem)
    have := hranges r (hsub hr)
    omega
  have hshown : Text.Quoted.hidden c = false := by
    rw [Text.Quoted.hidden, hnone _ (List.subset_append_left _ _),
      hnone _ (List.subset_append_right _ _)]
    rfl
  have hcontrol : ∀ x ∈ ['\x00', '\t', '\r', '\n'], c ≠ x := by
    rintro x hx rfl
    have hsmall : ∀ x ∈ ['\x00', '\t', '\r', '\n'], x.toNat < 0x20 := by simp
    have := hsmall c hx
    omega
  simp only [List.forall_mem_cons] at hcontrol
  simp [Text.Quoted.encodeChar, hcontrol, hquote, hbackslash, hshown]

theorem quoted_of_isPlain {s : String} (h : ∀ c ∈ s.toList, isPlain c = true) :
    (Text.quoted s).toList = '"' :: (s.toList ++ ['"']) := by
  have hsame : s.toList.flatMap Text.Quoted.encodeChar = s.toList.flatMap fun c => [c] :=
    List.flatMap_congr fun c hc => encodeChar_of_isPlain (h c hc)
  rw [Text.quoted, String.toList_ofList, Text.Quoted.encode, hsame, List.flatMap_singleton']
  rfl

theorem Event.isPlain_of_mem_action {e : Event} {c : Char} (h : c ∈ e.action.toList) :
    isPlain c = true := by
  have hall : e.action.toList.all isPlain = true := by
    cases e with
    | phaseFailed phase error =>
        rw [action]
        cases phase <;> decide +kernel
    | _ =>
        simp only [action]
        decide +kernel
  exact List.all_eq_true.mp hall c h

theorem Event.quote_not_mem_action (e : Event) : '"' ∉ e.action.toList :=
  fun h => absurd (isPlain_of_mem_action h) (by decide)

/-! ## What a line is made of -/

/-- What stands before the action. -/
def Event.heading (e : Event) : String := e.level.name ++ " " ++ e.target ++ ": action="

theorem Event.quote_not_mem_heading (e : Event) : '"' ∉ e.heading.toList := by
  have hlevel : '"' ∉ e.level.name.toList := by
    cases e.level <;> decide
  have htarget : '"' ∉ e.target.toList := by
    cases e <;> (simp only [target]; decide +kernel)
  rw [heading]
  simp [hlevel, htarget]

/-- A field as it stands in a line, after a blank. -/
def Field.inLine (showProcess : Nat → String) (f : Field) : List Char :=
  (" " ++ f.name ++ "=" ++ f.value.inLine showProcess).toList

theorem Event.toList_line (showProcess : Nat → String) (e : Event) :
    (e.line showProcess).toList =
      e.heading.toList ++ '"' :: (e.action.toList ++
        '"' :: e.details.flatMap (Field.inLine showProcess)) := by
  have haction := quoted_of_isPlain fun c hc => e.isPlain_of_mem_action hc
  have hdetails : (e.details.map
      (String.toList ∘ fun f => s!"{f.name}={f.value.inLine showProcess}")).flatMap ([' '] ++ ·) =
        e.details.flatMap (Field.inLine showProcess) := by
    rw [List.flatMap_map]
    apply List.flatMap_congr
    intro f _
    simp [Field.inLine, toString]
  have hline : e.line showProcess = e.level.name ++ " " ++ e.target ++ ": " ++
      " ".intercalate (("action=" ++ Text.quoted e.action) ::
        e.details.map fun f => s!"{f.name}={f.value.inLine showProcess}") := rfl
  have hblank : " ".toList = [' '] := rfl
  rw [hline, String.toList_append, String.toList_intercalate, List.map_cons, List.map_map, hblank,
    Text.intercalate_cons, hdetails, String.toList_append (s := "action="), haction, heading]
  simp

/-- A line shows nothing of an event but its level, its target and its fields. -/
theorem Event.line_congr {showProcess : Nat → String} {e e' : Event} (level : e.level = e'.level)
    (target : e.target = e'.target) (fields : e.fields = e'.fields) :
    e.line showProcess = e'.line showProcess := by
  rw [line, line, level, target, fields]

/-! ## Reading it -/

/-- What a line shows: its action, and the text of the fields after it. -/
structure Shown where
  action : String
  rest : List Char
  deriving DecidableEq, Repr

namespace Shown

/-- What an event shows. -/
def ofEvent (showProcess : Nat → String) (e : Event) : Shown :=
  ⟨e.action, e.details.flatMap (Field.inLine showProcess)⟩

/-- Reads a line: the action stands between its first two quotes. -/
def ofLine (line : String) : Shown :=
  let quoted := (line.toList.dropWhile (· != '"')).tail
  ⟨String.ofList (quoted.takeWhile (· != '"')), (quoted.dropWhile (· != '"')).tail⟩

/-- A line is read as what the event shows that it was written from. -/
theorem ofLine_line (showProcess : Nat → String) (e : Event) :
    ofLine (e.line showProcess) = ofEvent showProcess e := by
  have hplain {s : List Char} (hs : '"' ∉ s) : ∀ c ∈ s, (c != '"') = true :=
    fun c hc => bne_iff_ne.mpr (ne_of_mem_of_not_mem hc hs)
  rw [ofLine, e.toList_line, List.dropWhile_append_of_pos (hplain e.quote_not_mem_heading)]
  simp [ofEvent, List.takeWhile_append_of_pos (hplain e.quote_not_mem_action),
    List.dropWhile_append_of_pos (hplain e.quote_not_mem_action)]

/-- What follows the name of the first field and the equals sign. -/
def after (s : Shown) (name : String) : List Char := s.rest.drop (name.length + 2)

theorem after_ofEvent {e : Event} {name text : String} {fields : List Field}
    (h : e.details = ⟨name, .text text⟩ :: fields) (showProcess : Nat → String) :
    (ofEvent showProcess e).after name =
      text.toList ++ fields.flatMap (Field.inLine showProcess) := by
  have hfield : Field.inLine showProcess ⟨name, .text text⟩ =
      (" " ++ name ++ "=").toList ++ text.toList := by
    rw [Field.inLine, String.toList_append]
    rfl
  have hlength : name.length + 2 = (" " ++ name ++ "=").toList.length := by
    simp only [String.toList_append, List.length_append, String.length_toList]
    change name.length + 2 = 1 + name.length + 1
    omega
  rw [after, ofEvent, h, List.flatMap_cons, hfield, List.append_assoc, hlength, List.drop_left]

theorem after_ofEvent_singleton {e : Event} {name text : String}
    (h : e.details = [⟨name, .text text⟩]) (showProcess : Nat → String) :
    (ofEvent showProcess e).after name = text.toList := by
  rw [after_ofEvent h, List.flatMap_nil, List.append_nil]

end Shown

end NodeBootstrap.Log
