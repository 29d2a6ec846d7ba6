import Wireframe.Digest.Sha256
import Wireframe.Proofs.Scalars

/-!
# What a digest is made from

* **Messages** (`toUTF8_toList_inj`): two texts have the same bytes only if they are equal.
* **Hexadecimal digits** (`ofHex_hexWord`): each word of a digest is what its eight digits spell, zeros in front
  included, so that the digits determine the digest (`hex_eq_hex_iff`).
-/

namespace Wireframe.Sha256

/-! ## Messages -/

/-- The bytes of an array from a position on are put in front of one another. -/
theorem toList_loop (bs : ByteArray) (i : Nat) (r : List UInt8) :
    ByteArray.toList.loop bs i r = r.reverse ++ bs.data.toList.drop i := by
  fun_induction ByteArray.toList.loop bs i r with
  | case1 i r h ih =>
    have hi : i < bs.data.toList.length := by simpa using h
    have hget : bs.get! i = bs.data.toList[i] := getElem!_pos bs.data i (by simpa using h)
    rw [ih, List.drop_eq_getElem_cons hi, hget]
    simp
  | case2 i r h =>
    have hi : bs.data.toList.length ≤ i := by simpa using h
    rw [List.drop_eq_nil_of_le hi, List.append_nil]

theorem toList_eq_data (bs : ByteArray) : bs.toList = bs.data.toList := toList_loop bs 0 []

theorem toUTF8_toList_inj {s t : String} : s.toUTF8.toList = t.toUTF8.toList ↔ s = t := by
  rw [toList_eq_data, toList_eq_data, Array.toList_inj, ← ByteArray.ext_iff]
  exact String.toByteArray_inj

/-! ## Hexadecimal digits -/

/-- The number that hexadecimal digits spell. -/
def ofHex (ds : List Char) : Nat := ds.foldl (fun n c => 16 * n + (Json.Scanner.hexValue? c).getD 0) 0

theorem ofHex_digitChar {n : Nat} (h : n < 16) : (Json.Scanner.hexValue? (Nat.digitChar n)).getD 0 = n := by
  have hd : Json.Scanner.hexValue? (Nat.digitChar n) = some n := Json.Scanner.hexValue?_hexDigit h
  rw [hd, Option.getD_some]

/-- The digits of a number spell it. -/
theorem ofHex_toDigits (n : Nat) : ofHex (Nat.toDigits 16 n) = n := by
  induction n using Nat.strongRecOn with
  | ind n ih =>
    by_cases hn : n < 16
    · rw [Nat.toDigits_of_lt_base hn]
      simpa [ofHex] using ofHex_digitChar hn
    · have hlow : n % 16 < 16 := Nat.mod_lt _ (by decide)
      have hhigh := ih (n / 16) (by omega)
      unfold ofHex at hhigh ⊢
      rw [Nat.toDigits_of_base_le (by decide) (by omega), List.foldl_append, hhigh, List.foldl_cons, List.foldl_nil,
        ofHex_digitChar hlow]
      omega

/-- Zeros in front do not count. -/
theorem ofHex_replicate_append (k : Nat) (ds : List Char) : ofHex (List.replicate k '0' ++ ds) = ofHex ds := by
  induction k with
  | zero => rfl
  | succ k ih =>
    rw [List.replicate_succ, List.cons_append, ofHex, List.foldl_cons]
    exact ih

/-- A word is what its digits spell. -/
theorem ofHex_hexWord (w : UInt32) : ofHex (hexWord w) = w.toNat := by
  rw [hexWord, ofHex_replicate_append, ofHex_toDigits]

theorem length_hexWord (w : UInt32) : (hexWord w).length = 8 := by
  have hlt : w.toNat < 16 ^ 8 := w.toNat_lt
  have hle := (Nat.length_toDigits_le_iff (by decide) (by decide)).mpr hlt
  rw [hexWord, List.length_append, List.length_replicate]
  omega

/-- As many words with the same digits are the same words. -/
theorem flatMap_hexWord_inj {ws us : List UInt32} (hlen : ws.length = us.length)
    (h : ws.flatMap hexWord = us.flatMap hexWord) : ws = us := by
  induction ws generalizing us with
  | nil => exact (List.length_eq_zero_iff.mp hlen.symm).symm
  | cons w ws ih =>
    cases us with
    | nil => cases hlen
    | cons u us =>
      rw [List.flatMap_cons, List.flatMap_cons] at h
      obtain ⟨hw, hws⟩ := List.append_inj h (by rw [length_hexWord, length_hexWord])
      have hval := congrArg ofHex hw
      rw [ofHex_hexWord, ofHex_hexWord] at hval
      rw [UInt32.toNat_inj.mp hval, ih (Nat.succ.inj hlen) hws]

theorem State.words_inj {x y : State} (h : x.words = y.words) : x = y := by
  obtain ⟨a, b, c, d, e, f, g, i⟩ := x
  obtain ⟨a', b', c', d', e', f', g', i'⟩ := y
  simpa [State.words] using h

/-- **The hexadecimal digits determine the digest.** -/
theorem hex_eq_hex_iff {s t : String} : hex s = hex t ↔ digest s.toUTF8.toList = digest t.toUTF8.toList := by
  constructor
  · intro h
    have hchars : (digest s.toUTF8.toList).words.flatMap hexWord = (digest t.toUTF8.toList).words.flatMap hexWord :=
      String.ofList_inj.mp h
    exact State.words_inj (flatMap_hexWord_inj rfl hchars)
  · intro h
    rw [hex, hex, h]

end Wireframe.Sha256
