import Wireframe.Proofs.Digests

/-!
# Texts by their bytes

Texts are compared character by character, and the same way by their bytes.

* **Numbers** (`Text.Rising`): a spelling by a first byte and digits of six bits keeps the order of numbers, whatever
  follows (`Text.Rising.digit`), also if greater numbers have longer spellings (`Text.Rising.ite`).
* **Characters** (`Text.utf8EncodeChar_append_lt`): so the bytes of a smaller character come first.
* **Texts** (`Text.utf8_lt_iff`, `Text.compare_eq_lt_iff`): and so do those of a smaller text.
-/

namespace Wireframe.Text

open String (utf8EncodeChar)

/-! ## Numbers -/

theorem byte_cons_lt {x y : Nat} (h : x < y) (hy : y < 256) (a b : List UInt8) :
    UInt8.ofNat x :: a < UInt8.ofNat y :: b :=
  List.cons_lt_cons_iff.mpr (.inl ((UInt8.ofNat_lt_iff_lt (Nat.lt_trans h hy) hy).mpr h))

/-- Numbers below a bound are spelled in their order, whatever follows. -/
def Rising (bound : Nat) (f : Nat → List UInt8) : Prop :=
  ∀ m n, m < n → n < bound → ∀ a b, f m ++ a < f n ++ b

theorem rising_byte {bound : Nat} (h : bound ≤ 256) : Rising bound fun n => [UInt8.ofNat n] :=
  fun _ _ hmn hn => byte_cons_lt hmn (by omega)

/-- A number in a first byte that tells how many others follow. -/
theorem rising_lead {bound base : Nat} (h : bound + base ≤ 256) :
    Rising bound fun n => [UInt8.ofNat (n % bound + base)] := by
  intro m n hmn hn a b
  simp only [Nat.mod_eq_of_lt (Nat.lt_trans hmn hn), Nat.mod_eq_of_lt hn]
  exact byte_cons_lt (by omega) (by omega) a b

/-- **One more digit of six bits** at the end of a spelling. -/
theorem Rising.digit {bound : Nat} {f : Nat → List UInt8} (h : Rising bound f) :
    Rising (64 * bound) fun n => f (n / 64) ++ [UInt8.ofNat (n % 64 + 0x80)] := by
  intro m n hmn hn a b
  simp only [List.append_assoc]
  rcases Nat.lt_or_eq_of_le (Nat.div_le_div_right (Nat.le_of_lt hmn)) with hdiv | hdiv
  · exact h _ _ hdiv (by omega) _ _
  · rw [hdiv]
    exact List.append_left_lt (byte_cons_lt (by omega) (by omega) a b)

/-- **Another spelling of the numbers above `k`**, if it comes after the spellings of the others. -/
theorem Rising.ite {k bound : Nat} {f g : Nat → List UInt8} (hf : Rising (k + 1) f) (hg : Rising bound g)
    (hfg : ∀ m n, m ≤ k → k < n → ∀ a b, f m ++ a < g n ++ b) : Rising bound fun n => if n ≤ k then f n else g n := by
  intro m n hmn hn a b
  by_cases hm : m ≤ k
  · by_cases hnk : n ≤ k
    · simpa only [if_pos hm, if_pos hnk] using hf m n hmn (Nat.lt_succ_of_le hnk) a b
    · simpa only [if_pos hm, if_neg hnk] using hfg m n hm (Nat.lt_of_not_le hnk) a b
  · have hnk : ¬n ≤ k := fun h => hm (Nat.le_trans (Nat.le_of_lt hmn) h)
    simpa only [if_neg hm, if_neg hnk] using hg m n hmn hn a b

/-! ## Characters -/

theorem rising_utf8 : Rising 0x110000 fun n =>
    if n ≤ 0x7f then [UInt8.ofNat n]
    else if n ≤ 0x7ff then [UInt8.ofNat (n / 64 % 0x20 + 0xc0), UInt8.ofNat (n % 0x40 + 0x80)]
    else if n ≤ 0xffff then
      [UInt8.ofNat (n / 4096 % 0x10 + 0xe0), UInt8.ofNat (n / 64 % 0x40 + 0x80), UInt8.ofNat (n % 0x40 + 0x80)]
    else [UInt8.ofNat (n / 262144 % 0x08 + 0xf0), UInt8.ofNat (n / 4096 % 0x40 + 0x80),
      UInt8.ofNat (n / 64 % 0x40 + 0x80), UInt8.ofNat (n % 0x40 + 0x80)] := by
  have htwo := (rising_lead (show 0x20 + 0xc0 ≤ 256 by decide)).digit
  have hthree := (rising_lead (show 0x10 + 0xe0 ≤ 256 by decide)).digit.digit
  have hfour := (rising_lead (show 0x08 + 0xf0 ≤ 256 by decide)).digit.digit.digit
  simp only [Nat.div_div_eq_div_mul, Nat.reduceMul] at htwo hthree hfour
  have hrest : Rising 0x110000 _ := fun m n hmn hn => hfour m n hmn (by omega)
  -- where the lengths differ, the first bytes do
  refine (rising_byte (by decide)).ite (htwo.ite (hthree.ite hrest ?_) ?_) ?_
  · intro m n _ _ a b
    exact byte_cons_lt (by omega) (by omega) _ _
  · intro m n _ _ a b
    split
    · exact byte_cons_lt (by omega) (by omega) _ _
    · exact byte_cons_lt (by omega) (by omega) _ _
  · intro m n _ _ a b
    split
    · exact byte_cons_lt (by omega) (by omega) _ _
    · split
      · exact byte_cons_lt (by omega) (by omega) _ _
      · exact byte_cons_lt (by omega) (by omega) _ _

/-- **The bytes of a smaller character come first**, whatever follows. -/
theorem utf8EncodeChar_append_lt {c d : Char} (h : c < d) (a b : List UInt8) :
    utf8EncodeChar c ++ a < utf8EncodeChar d ++ b := by
  have hmax : d.toNat < 0x110000 := Or.elim d.valid (fun hd => Nat.lt_trans hd (by decide)) And.right
  exact rising_utf8 c.toNat d.toNat h hmax a b

/-! ## Texts -/

theorem toUTF8_toList (s : String) : s.toUTF8.toList = Json.bytes s.toList := by
  rw [Sha256.toList_eq_data, String.toUTF8_eq_toByteArray, ← String.ofList_toList (s := s),
    String.toByteArray_ofList, List.utf8Encode, List.data_toByteArray, String.ofList_toList, Json.bytes]

theorem bytes_lt {s t : List Char} (h : s < t) : Json.bytes s < Json.bytes t := by
  induction h with
  | @nil d t =>
    obtain ⟨x, l, hx⟩ := List.exists_cons_of_ne_nil (String.utf8EncodeChar_ne_nil (c := d))
    rw [Json.bytes, Json.bytes, List.flatMap_cons, hx]
    exact List.nil_lt_cons x _
  | rel hcd => exact utf8EncodeChar_append_lt hcd _ _
  | cons _ ih => exact List.append_left_lt ih

/-- **Texts are ordered as their bytes are.** -/
theorem utf8_lt_iff {s t : String} : s.toUTF8.toList < t.toUTF8.toList ↔ s < t := by
  have hrises {s t : String} (h : s < t) : s.toUTF8.toList < t.toUTF8.toList := by
    rw [toUTF8_toList, toUTF8_toList]
    exact bytes_lt h
  refine ⟨fun h => ?_, hrises⟩
  rcases Std.lt_trichotomy s t with hlt | rfl | hgt
  · exact hlt
  · exact absurd h (List.lt_irrefl _)
  · exact absurd h (List.lt_asymm (hrises hgt))

theorem compare_eq_lt_iff {s t : String} : compare s t = .lt ↔ s.toUTF8.toList < t.toUTF8.toList :=
  compareOfLessAndEq_eq_lt.trans utf8_lt_iff.symm

end Wireframe.Text
