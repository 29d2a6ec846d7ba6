/-!
# Searching

* **Occurrence** (`occurs`): a word stands somewhere in a text; `occurs_iff` says where.
-/

namespace Wireframe.Text

/-- Whether `word` stands somewhere in `s`. -/
def occurs (word : List Char) : List Char → Bool
  | [] => word.isEmpty
  | c :: s => word.isPrefixOf (c :: s) || occurs word s

/-- A word occurs in a text when the text is something before it, the word, and something after it. -/
theorem occurs_iff {word s : List Char} : occurs word s = true ↔ word <:+: s := by
  induction s with
  | nil => simp [occurs]
  | cons c s ih => rw [occurs, Bool.or_eq_true, ih, List.infix_cons_iff, List.isPrefixOf_iff_prefix]

end Wireframe.Text
