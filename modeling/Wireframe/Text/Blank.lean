/-!
# Blank characters

* **Blank** (`isBlank`): the characters with the property White_Space.
* **Trimming** (`trimEnd`): blank characters at the end of a text do not count.
-/

namespace Wireframe.Text

/-- The code points with the property White_Space, as ranges. -/
def blanks : List (Nat × Nat) := [
  (0x9, 0xD), (0x20, 0x20), (0x85, 0x85), (0xA0, 0xA0), (0x1680, 0x1680), (0x2000, 0x200A), (0x2028, 0x2029),
  (0x202F, 0x202F), (0x205F, 0x205F), (0x3000, 0x3000)]

/-- A code point in one of the ranges of a table. -/
def inTable (table : List (Nat × Nat)) (c : Char) : Bool :=
  table.any fun r => r.1 ≤ c.toNat && c.toNat ≤ r.2

def isBlank (c : Char) : Bool := inTable blanks c

def trimEnd : List Char → List Char
  | [] => []
  | c :: s =>
    match trimEnd s with
    | [] => if isBlank c then [] else [c]
    | d :: t => c :: d :: t

def allBlank (s : String) : Bool := s.toList.all isBlank

/-! ## What trimming keeps -/

/-- Trimming leaves an initial part of the text; only blank characters are lost. -/
theorem trimEnd_append_blank (s : List Char) : ∃ t, trimEnd s ++ t = s ∧ t.all isBlank = true := by
  induction s with
  | nil => exact ⟨[], rfl, rfl⟩
  | cons c s ih =>
    obtain ⟨t, ht, hb⟩ := ih
    rw [trimEnd]
    cases hs : trimEnd s with
    | nil =>
      rw [hs, List.nil_append] at ht
      subst ht
      cases hc : isBlank c with
      | true => exact ⟨c :: t, by simp, by simp [hc, hb]⟩
      | false => exact ⟨t, by simp, hb⟩
    | cons d u => exact ⟨t, by rw [← ht, hs]; simp, hb⟩

/-- A text that ends in a character that is not blank stays as it is. -/
theorem trimEnd_of_last {s : List Char} {c : Char} (hc : isBlank c = false) : trimEnd (s ++ [c]) = s ++ [c] := by
  induction s with
  | nil => simp [trimEnd, hc]
  | cons d s ih =>
    rw [List.cons_append, trimEnd, ih]
    cases s <;> rfl

end Wireframe.Text
