/-
# Cutting a text at separators

`cut p` cuts a text at every character of the class `p`.  There is always at least one piece,
and one more than separators.  `glue` puts pieces together again, with a separator between each
two.
-/

namespace TaskWatch.Text

/-- **The pieces between separators.** -/
def cut (p : Char → Bool) : List Char → List (List Char)
  | [] => [[]]
  | c :: cs =>
    if p c then [] :: cut p cs
    else
      match cut p cs with
      | [] => [[c]]
      | piece :: rest => (c :: piece) :: rest

/-- Pieces put together, with a separator between each two. -/
def glue (c : Char) : List (List Char) → List Char
  | [] => []
  | [piece] => piece
  | piece :: rest => piece ++ c :: glue c rest

theorem cut_ne_nil (p : Char → Bool) (cs : List Char) : cut p cs ≠ [] := by
  cases cs with
  | nil => simp [cut]
  | cons c cs =>
    unfold cut
    split
    · simp
    · split <;> simp

end TaskWatch.Text
