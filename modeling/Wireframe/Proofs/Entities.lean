import Wireframe.Proofs.Replacing
import Wireframe.Proofs.Tags

/-!
# Entities

Texts in attributes are written with entities for four characters. All entities begin with the character that is
written first and read last.

* **Writing** (`Markup.escape_eq_replace`): the four characters are replaced one after the other, the ampersand first.
* **Ampersands** (`Markup.exists_entity_of_escape`): what an escaped text has of them begins an entity.
* **Reading** (`Markup.replace_escapeBut`): with the entities of some characters undone, but not that of the ampersand,
  no other entity is complete that was not one before.
* **Texts** (`Markup.entities_undone`): so escaping is undone, and different texts stay different.
-/

namespace Wireframe.Markup

open Text (replace Foreign)

def signs : List Char := ['"', '<', '>', '&']

/-- How the characters are written. -/
def entities : List (List Char) := ["&quot;".toList, "&lt;".toList, "&gt;".toList, "&amp;".toList]

theorem mem_signs {c : Char} : c ∈ signs ↔ c = '"' ∨ c = '<' ∨ c = '>' ∨ c = '&' := by simp [signs]

/-! ## Writing -/

theorem escapeChar_of_not_mem {c : Char} (h : c ∉ signs) : escapeChar c = [c] := by
  unfold escapeChar
  split
  · exact absurd (by decide) h
  · exact absurd (by decide) h
  · exact absurd (by decide) h
  · exact absurd (by decide) h
  · rfl

/-- **The ampersand is escaped first**, and then the three other characters. -/
theorem escape_eq_replace (s : List Char) : escape s =
    replace ['>'] "&gt;".toList (replace ['<'] "&lt;".toList
      (replace ['"'] "&quot;".toList (replace ['&'] "&amp;".toList s))) := by
  rw [Text.replace_singleton, Text.replace_singleton, Text.replace_singleton, Text.replace_singleton,
    List.flatMap_assoc, List.flatMap_assoc, List.flatMap_assoc, escape]
  refine congrArg (s.flatMap ·) (funext fun c => ?_)
  by_cases hc : c ∈ signs
  · rcases mem_signs.mp hc with rfl | rfl | rfl | rfl <;> rfl
  · have hself := escapeChar_of_not_mem hc
    simp only [mem_signs, not_or] at hc
    obtain ⟨hquote, hless, hgreater, hamp⟩ := hc
    rw [hself, if_neg hamp, List.flatMap_singleton, if_neg hquote, List.flatMap_singleton, if_neg hless,
      List.flatMap_singleton, if_neg hgreater]

/-! ## Ampersands -/

/-- An entity begins with an ampersand and has no other one. -/
theorem exists_escapeChar_eq {c : Char} (h : c ∈ signs) :
    ∃ w, escapeChar c = '&' :: w ∧ '&' ∉ w ∧ '&' :: w ∈ entities := by
  rcases mem_signs.mp h with rfl | rfl | rfl | rfl
  · exact ⟨"quot;".toList, rfl, by decide, by decide⟩
  · exact ⟨"lt;".toList, rfl, by decide, by decide⟩
  · exact ⟨"gt;".toList, rfl, by decide, by decide⟩
  · exact ⟨"amp;".toList, rfl, by decide, by decide⟩

/-- **An ampersand in an escaped text begins an entity.** -/
theorem exists_entity_of_escape {s u v : List Char} (h : escape s = u ++ '&' :: v) :
    ∃ word ∈ entities, word <+: '&' :: v := by
  obtain ⟨_, c, after, u', v', _, _, hc, rfl⟩ := Text.exists_of_flatMap_eq h
  have hsign : c ∈ signs := by
    refine Decidable.byContradiction fun hno => ?_
    have hself : [c] = u' ++ '&' :: v' := escapeChar_of_not_mem hno ▸ hc
    have hamp : '&' ∈ [c] := hself ▸ List.mem_append_right u' List.mem_cons_self
    exact hno (List.mem_singleton.mp hamp ▸ by decide)
  obtain ⟨w, hw, hone, hword⟩ := exists_escapeChar_eq hsign
  rw [hw] at hc
  cases u' with
  | nil => exact ⟨_, hword, (List.cons.inj hc).2 ▸ List.prefix_append ('&' :: w) _⟩
  | cons d u' => exact absurd ((List.cons.inj hc).2 ▸ by simp) hone

/-! ## Reading -/

/-- How a character stands in a text where the entities of some characters are undone. -/
def escapeBut (undone : List Char) (c : Char) : List Char := if c ∈ undone then [c] else escapeChar c

theorem escapeBut_all {undone : List Char} (h : ∀ c ∈ signs, c ∈ undone) (s : List Char) :
    s.flatMap (escapeBut undone) = s := by
  have hself : escapeBut undone = fun c => [c] := funext fun c => by
    unfold escapeBut
    split
    · rfl
    · next hc => exact escapeChar_of_not_mem (mt (h c) hc)
  rw [hself, List.flatMap_singleton']

/-- An entity does not begin at another character than an ampersand. -/
theorem foreign_singleton {a c : Char} (ha : a ∈ signs) (hc : c ≠ '&') : Foreign (escapeChar a) [c] := by
  obtain ⟨w, hw, -, -⟩ := exists_escapeChar_eq ha
  rw [hw]
  refine ⟨⟨fun hp => ?_, fun hp => ?_⟩, trivial⟩
  · exact hc (List.cons_prefix_cons.mp hp).1.symm
  · exact hc (List.cons_prefix_cons.mp hp).1

/-- An entity does not begin in what another character is written as. -/
theorem foreign_escapeChar {a c : Char} (ha : a ∈ signs) (h : c ≠ a) : Foreign (escapeChar a) (escapeChar c) := by
  by_cases hc : c ∈ signs
  · rcases mem_signs.mp ha with rfl | rfl | rfl | rfl <;> rcases mem_signs.mp hc with rfl | rfl | rfl | rfl <;>
      first | exact absurd rfl h | decide
  · rw [escapeChar_of_not_mem hc]
    exact foreign_singleton ha fun hamp => hc (hamp ▸ by decide)

/-- **One entity is undone** wherever its character was escaped and nowhere else, as long as ampersands still are. -/
theorem replace_escapeBut {a : Char} {word undone : List Char} (hword : escapeChar a = word) (ha : a ∈ signs)
    (hnew : a ∉ undone) (hamp : '&' ∉ undone) (s : List Char) :
    replace word [a] (s.flatMap (escapeBut undone)) = s.flatMap (escapeBut (a :: undone)) := by
  subst hword
  have hne : escapeChar a ≠ [] := by
    obtain ⟨w, hw, -, -⟩ := exists_escapeChar_eq ha
    exact hw ▸ List.cons_ne_nil '&' w
  refine Text.replace_flatMap [a] hne (fun c => ?_) s
  by_cases hc : c = a
  · subst hc
    exact .inl ⟨if_neg hnew, if_pos List.mem_cons_self⟩
  · by_cases hdone : c ∈ undone
    · have hother : c ≠ '&' := fun h => hamp (h ▸ hdone)
      rw [escapeBut, escapeBut, if_pos hdone, if_pos (List.mem_cons_of_mem a hdone)]
      exact .inr ⟨foreign_singleton ha hother, rfl⟩
    · rw [escapeBut, escapeBut, if_neg hdone, if_neg (List.not_mem_cons_of_ne_of_not_mem hc hdone)]
      exact .inr ⟨foreign_escapeChar ha hc, rfl⟩

/-! ## Texts -/

/-- **Escaping is undone entity by entity**, the ampersands last. -/
theorem replace_escape (s : List Char) :
    replace "&amp;".toList ['&'] (replace "&gt;".toList ['>']
      (replace "&lt;".toList ['<'] (replace "&quot;".toList ['"'] (escape s)))) = s := by
  have hnone : escape s = s.flatMap (escapeBut []) := rfl
  have hquote : replace "&quot;".toList ['"'] (s.flatMap (escapeBut [])) = s.flatMap (escapeBut ['"']) :=
    replace_escapeBut (by decide) (by decide) (by decide) (by decide) s
  have hless : replace "&lt;".toList ['<'] (s.flatMap (escapeBut ['"'])) = s.flatMap (escapeBut ['<', '"']) :=
    replace_escapeBut (by decide) (by decide) (by decide) (by decide) s
  have hgreater : replace "&gt;".toList ['>'] (s.flatMap (escapeBut ['<', '"'])) =
      s.flatMap (escapeBut ['>', '<', '"']) := replace_escapeBut (by decide) (by decide) (by decide) (by decide) s
  have hamp : replace "&amp;".toList ['&'] (s.flatMap (escapeBut ['>', '<', '"'])) =
      s.flatMap (escapeBut ['&', '>', '<', '"']) := replace_escapeBut (by decide) (by decide) (by decide) (by decide) s
  rw [hnone, hquote, hless, hgreater, hamp, escapeBut_all (by simp [signs])]

/-- **Texts in attributes come back.** Escaping replaces four characters one after the other. An escaped text has no
quotes and no angle brackets, and all its ampersands begin entities; replacing the entities one after the other gives
the text again, so two texts with one escaped form are equal, whatever entities they have in them. -/
theorem entities_undone (s : List Char) :
    escape s = replace ['>'] "&gt;".toList (replace ['<'] "&lt;".toList
      (replace ['"'] "&quot;".toList (replace ['&'] "&amp;".toList s))) ∧
    (∀ c ∈ ['<', '>', '"'], c ∉ escape s) ∧
    (∀ u v, escape s = u ++ '&' :: v → ∃ word ∈ entities, word <+: '&' :: v) ∧
    replace "&amp;".toList ['&'] (replace "&gt;".toList ['>']
      (replace "&lt;".toList ['<'] (replace "&quot;".toList ['"'] (escape s)))) = s ∧
    ∀ t, escape t = escape s → t = s := by
  refine ⟨escape_eq_replace s, fun c hc => not_mem_escape hc s, fun u v => exists_entity_of_escape, replace_escape s,
    fun t ht => ?_⟩
  rw [← replace_escape t, ht, replace_escape]

/-- A text with an entity and a bracket of its own: its ampersand and its bracket are escaped, and it alone is written
in this way. -/
theorem entities_undone_nested :
    escape "&lt;<".toList = "&amp;lt;".toList ++ '&' :: "lt;".toList ∧
    (∃ word ∈ entities, word <+: "&lt;".toList) ∧
    replace "&amp;".toList ['&'] (replace "&gt;".toList ['>'] (replace "&lt;".toList ['<']
      (replace "&quot;".toList ['"'] (escape "&lt;<".toList)))) = "&lt;<".toList ∧
    ∀ t, escape t = escape "&lt;<".toList → t = "&lt;<".toList := by
  have hwritten : escape "&lt;<".toList = "&amp;lt;".toList ++ '&' :: "lt;".toList := by decide
  obtain ⟨-, -, hamp, hread, hone⟩ := entities_undone "&lt;<".toList
  exact ⟨hwritten, hamp _ _ hwritten, hread, hone⟩

end Wireframe.Markup
