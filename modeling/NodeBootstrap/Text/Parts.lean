/-! # Parts of a text

The pieces of a text between the occurrences of a separator; there is always one more of them than
of separators. -/

namespace NodeBootstrap.Text

def parts (separator : Char) : List Char → List (List Char)
  | [] => [[]]
  | c :: rest =>
    if c = separator then [] :: parts separator rest
    else
      match parts separator rest with
      | [] => [[c]]
      | part :: more => (c :: part) :: more

theorem parts_ne_nil (separator : Char) (s : List Char) : parts separator s ≠ [] := by
  fun_induction parts <;> simp

theorem length_parts (separator : Char) (s : List Char) :
    (parts separator s).length = s.count separator + 1 := by
  fun_induction parts with
  | case1 => rfl
  | case2 rest ih => simp [ih]
  | case3 c rest hc heq ih => exact absurd heq (parts_ne_nil separator rest)
  | case4 c rest hc part more heq ih =>
      rw [heq] at ih
      simpa [List.count_cons, hc] using ih

end NodeBootstrap.Text
