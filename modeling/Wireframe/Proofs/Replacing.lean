/-!
# Replacing words in a text

* **Replacing** (`Text.replace`): the occurrences of a word are found from left to right and do not overlap; what is put
  in their place is not looked at again.
* **One step** (`Text.replace_append`, `Text.replace_cons`): at the front of a text the word stands or it does not.
* **One character** (`Text.replace_singleton`): a word of one character is replaced character by character.
* **Pieces** (`Text.replace_flatMap`): a text of pieces that are the word, or in which it cannot begin, is replaced piece
  by piece.
-/

namespace Wireframe.Text

/-- A text with `new` in place of a word, which is not empty. -/
def replace (word new : List Char) : List Char → List Char
  | [] => []
  | c :: s =>
    if word <+: c :: s then new ++ replace word new (s.drop (word.length - 1)) else c :: replace word new s
termination_by s => s.length
decreasing_by
  · simp only [List.length_drop, List.length_cons]
    omega
  · exact Nat.lt_succ_self _

variable {word : List Char} (new : List Char)

theorem replace_nil : replace word new [] = [] := by rw [replace]

/-- The word at the front is replaced, and the search goes on after it. -/
theorem replace_append (h : word ≠ []) (s : List Char) : replace word new (word ++ s) = new ++ replace word new s := by
  obtain ⟨c, w, rfl⟩ := List.exists_cons_of_ne_nil h
  have hfront : c :: w <+: c :: (w ++ s) := List.prefix_append (c :: w) s
  rw [List.cons_append, replace, if_pos hfront, List.length_cons, Nat.add_sub_cancel, List.drop_left]

theorem replace_cons {c : Char} {s : List Char} (h : ¬word <+: c :: s) :
    replace word new (c :: s) = c :: replace word new s := by
  rw [replace, if_neg h]

theorem replace_singleton (a : Char) (s : List Char) :
    replace [a] new s = s.flatMap fun c => if c = a then new else [c] := by
  induction s with
  | nil => exact replace_nil new
  | cons c s ih =>
    rw [List.flatMap_cons, ← ih]
    by_cases h : c = a
    · rw [if_pos h, h]
      exact replace_append new (List.cons_ne_nil a []) s
    · have hfront : ¬[a] <+: c :: s := fun hp => h (List.cons_prefix_cons.mp hp).1.symm
      rw [if_neg h, replace_cons new hfront, List.singleton_append]

/-! ## Pieces -/

/-- A word does not begin anywhere in a text, whatever follows the text. -/
def Foreign (word : List Char) : List Char → Prop
  | [] => True
  | c :: s => (¬word <+: c :: s ∧ ¬c :: s <+: word) ∧ Foreign word s

instance decidableForeign (word : List Char) : (s : List Char) → Decidable (Foreign word s)
  | [] => inferInstanceAs (Decidable True)
  | c :: s =>
    have := decidableForeign word s
    inferInstanceAs (Decidable ((¬word <+: c :: s ∧ ¬c :: s <+: word) ∧ Foreign word s))

/-- A text in which the word cannot begin stays. -/
theorem replace_append_of_foreign {s : List Char} (h : Foreign word s) (t : List Char) :
    replace word new (s ++ t) = s ++ replace word new t := by
  induction s with
  | nil => rfl
  | cons c s ih =>
    obtain ⟨⟨hword, hpiece⟩, hs⟩ := h
    have hfront : ¬word <+: c :: (s ++ t) := fun hp =>
      (List.prefix_or_prefix_of_prefix hp (List.prefix_append (c :: s) t)).elim hword hpiece
    rw [List.cons_append, replace_cons new hfront, ih hs, List.cons_append]

/-- **Pieces are replaced one by one**, if each is the word or the word cannot begin in it. -/
theorem replace_flatMap {α : Type} {f g : α → List Char} (hword : word ≠ [])
    (h : ∀ a, f a = word ∧ g a = new ∨ Foreign word (f a) ∧ g a = f a) (as : List α) :
    replace word new (as.flatMap f) = as.flatMap g := by
  induction as with
  | nil => exact replace_nil new
  | cons a as ih =>
    rw [List.flatMap_cons, List.flatMap_cons, ← ih]
    rcases h a with ⟨hf, hg⟩ | ⟨hf, hg⟩
    · rw [hf, hg, replace_append new hword]
    · rw [hg, replace_append_of_foreign new hf]

end Wireframe.Text
