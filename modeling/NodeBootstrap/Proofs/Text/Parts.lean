import NodeBootstrap.Text.Parts

/-! # Parts and separators

Splitting a text and joining its parts undo each other, and a joined text holds what its separator
and its parts hold. -/

namespace NodeBootstrap.Text

theorem parts_eq_splitOn (separator : Char) (s : List Char) :
    parts separator s = s.splitOn separator := by
  induction s with
  | nil => rfl
  | cons c rest ih =>
      obtain ⟨part, more, hsplit⟩ := List.exists_cons_of_ne_nil (List.splitOn_ne_nil separator rest)
      rw [parts, List.splitOn_cons_eq_if_modifyHead, ih, hsplit]
      simp only [beq_iff_eq, List.modifyHead_cons]

theorem intercalate_parts (separator : Char) (s : List Char) :
    [separator].intercalate (parts separator s) = s := by
  rw [parts_eq_splitOn, List.intercalate_splitOn]

theorem intercalate_cons {α : Type} (separator first : List α) (rest : List (List α)) :
    separator.intercalate (first :: rest) = first ++ rest.flatMap (separator ++ ·) := by
  induction rest generalizing first with
  | nil => simp
  | cons next rest ih => simp [List.intercalate_cons_cons, ih]

theorem all_intercalate {p : Char → Bool} {separator : List Char} {ps : List (List Char)}
    (h : separator.all p) : (separator.intercalate ps).all p = ps.all (·.all p) := by
  cases ps with
  | nil => rfl
  | cons first rest =>
      have joints : (fun part => (separator ++ part).all p) = (·.all p) := by
        funext part
        rw [List.all_append, h, Bool.true_and]
      rw [intercalate_cons, List.all_append, List.all_flatMap, joints, List.all_cons]

/-- A text is cut after the last occurrence of a character, if there is one. -/
theorem cut_after_last (c : Char) (s : List Char) :
    ∃ front, front ++ (s.reverse.takeWhile (· ≠ c)).reverse = s ∧
      (front = [] ∨ ∃ before, front = before ++ [c]) := by
  refine ⟨(s.reverse.dropWhile (· ≠ c)).reverse, ?_, ?_⟩
  · rw [← List.reverse_append, List.takeWhile_append_dropWhile, List.reverse_reverse]
  · have hhead := List.head?_dropWhile_not (· ≠ c) s.reverse
    cases hrest : s.reverse.dropWhile (· ≠ c) with
    | nil => exact .inl rfl
    | cons d rest =>
        rw [hrest] at hhead
        obtain rfl : d = c := by simpa using hhead
        exact .inr ⟨rest.reverse, List.reverse_cons⟩

end NodeBootstrap.Text
