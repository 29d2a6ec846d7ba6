import Mathlib.Tactic.NormNum
import Mathlib.Tactic.SplitIfs
import Wireframe.Json.Reader
import Wireframe.Json.Writer

/-!
# Scalars that are read back

What is written for a text or an integer is read as just that, whatever comes after it.

* **Texts** (`Scanner.text_quoted`): each character is read from its escape (`Scanner.text_escapeChar_append`); the
  closing quote cannot be missed, since a quote inside is escaped.
* **Integers** (`Reader.numberDoc_writeInt`): the digits are read up to something that does not go on with a number
  (`Scanner.Stops`), and none of them is dropped below `2 ^ 64` (`Scanner.leading_eq`).
-/

namespace Wireframe.Json

/-! ## Texts -/

namespace Scanner

theorem hexValue?_hexDigit {n : Nat} (h : n < 16) : hexValue? (hexDigit n) = some n := by
  have hall : ∀ n < 16, hexValue? (hexDigit n) = some n := by decide
  exact hall n h

/-- Two zeros and two digits spell a number below 256. -/
theorem hexUnit_pair {n : Nat} (h : n < 256) (s : List Char) :
    hexUnit ('0' :: '0' :: hexDigit (n / 16) :: hexDigit (n % 16) :: s) = .ok n := by
  have hz : hexValue? '0' = some 0 := rfl
  have hhigh : hexValue? (hexDigit (n / 16)) = some (n / 16) := hexValue?_hexDigit (by omega)
  have hlow : hexValue? (hexDigit (n % 16)) = some (n % 16) := hexValue?_hexDigit (by omega)
  simp only [hexUnit, hz, hhigh, hlow]
  congr 1
  omega

theorem escape_control {c : Char} (h : c.toNat < 0x20) (s : List Char) :
    escape ('u' :: '0' :: '0' :: hexDigit (c.toNat / 16) :: hexDigit (c.toNat % 16) :: s) = .ok (c, 5) := by
  have hlow : ¬ (0xDC00 ≤ c.toNat ∧ c.toNat ≤ 0xDFFF) := by omega
  have hhigh : ¬ (0xD800 ≤ c.toNat ∧ c.toNat ≤ 0xDBFF) := by omega
  simp only [escape, hexUnit_pair (show c.toNat < 256 by omega), bind, Except.bind, if_neg hlow, if_neg hhigh,
    Char.ofNat_toNat]
  rfl

theorem text_shortEscape {l c : Char} (hu : l ≠ 'u') (h : shortEscape? l = some c) (s : List Char) :
    text ('\\' :: l :: s) = (text s).map fun r => (c :: r.1, r.2) := by
  have he : escape (l :: s) = .ok (c, 1) := by
    rw [escape.eq_def]
    split
    · contradiction
    · next heq => exact absurd (List.cons.inj heq).1 hu
    · next heq =>
      obtain ⟨rfl, _⟩ := List.cons.inj heq
      rw [h]
  rw [text]
  simp [he]

theorem text_escapeChar_append (c : Char) (s : List Char) :
    text (escapeChar c ++ s) = (text s).map fun r => (c :: r.1, r.2) := by
  unfold escapeChar
  split_ifs with h h h h h h h hc
  -- seven characters have a short escape
  iterate 7
    · subst h
      exact text_shortEscape (by decide) rfl s
  · simp only [List.cons_append, List.nil_append]
    rw [text]
    simp [escape_control hc]
  · rw [List.singleton_append, text]
    simp [*]

/-- A text between quotes is read as the text, in front of anything. -/
theorem text_quoted (cs s : List Char) : text (cs.flatMap escapeChar ++ '"' :: s) = .ok (cs, s) := by
  induction cs with
  | nil =>
    rw [List.flatMap_nil, List.nil_append, text]
    rfl
  | cons c cs ih =>
    rw [List.flatMap_cons, List.append_assoc, text_escapeChar_append, ih]
    rfl

/-! ## Integers -/

/-- Nothing at the front of a text goes on with a number. -/
def Stops (s : List Char) : Prop := ∀ c, s.head? = some c → isDigit c = false ∧ c ≠ '.' ∧ c ≠ 'e' ∧ c ≠ 'E'

theorem isDigit_of_mem_toDigits {n : Nat} {c : Char} (h : c ∈ Nat.toDigits 10 n) : isDigit c = true := by
  have hd := Nat.isDigit_of_mem_toDigits (by decide) (by decide) h
  simp only [Char.isDigit, Bool.and_eq_true, decide_eq_true_eq] at hd
  simp only [isDigit, Bool.and_eq_true, decide_eq_true_eq]
  exact hd

theorem toDigits_inj {m n : Nat} (h : Nat.toDigits 10 m = Nat.toDigits 10 n) : m = n := by
  have hval := congrArg (Nat.ofDigitChars 10 · 0) h
  simpa only [Nat.ofDigitChars_ten_toDigits] using hval

theorem head?_toDigits_ne {n : Nat} (h : 0 < n) : (Nat.toDigits 10 n).head? ≠ some '0' := by
  induction n using Nat.strongRecOn with
  | ind n ih =>
    by_cases hn : n < 10
    · rw [Nat.toDigits_of_lt_base hn]
      have hall : ∀ m < 10, 0 < m → [Nat.digitChar m].head? ≠ some '0' := by decide
      exact hall n hn h
    · have hne : Nat.toDigits 10 (n / 10) ≠ [] := Nat.toDigits_ne_nil
      rw [Nat.toDigits_of_base_le (by decide) (by omega), List.head?_append,
        Option.or_of_isSome (List.isSome_head?.mpr hne)]
      exact ih (n / 10) (by omega) (by omega)

/-- Digits in front of what does not go on with them are read up to there. -/
theorem whole_toDigits (n : Nat) {s : List Char} (hs : Stops s) :
    whole (Nat.toDigits 10 n ++ s) = .ok (Nat.toDigits 10 n, s) := by
  have hstop : s.takeWhile isDigit = [] ∧ s.dropWhile isDigit = s := by
    cases s with
    | nil => exact ⟨rfl, rfl⟩
    | cons c s => simp [(hs c rfl).1]
  cases n with
  | zero =>
    cases s with
    | nil => rfl
    | cons c s => simp [Nat.toDigits_zero, whole, (hs c rfl).1]
  | succ n =>
    have hd : ∀ c ∈ Nat.toDigits 10 (n + 1), isDigit c = true := fun c => isDigit_of_mem_toDigits
    have hz := head?_toDigits_ne (Nat.succ_pos n)
    cases hds : Nat.toDigits 10 (n + 1) with
    | nil => exact absurd hds Nat.toDigits_ne_nil
    | cons c ds =>
      rw [hds] at hd hz
      obtain ⟨hc, hds⟩ := List.forall_mem_cons.mp hd
      have hc0 : c ≠ '0' := fun h => hz (by rw [h]; rfl)
      simp only [whole, List.cons_append, hc0, hc, if_false, if_true, List.takeWhile_append_of_pos hds,
        List.dropWhile_append_of_pos hds, hstop, List.append_nil]

theorem fraction_of_stops {s : List Char} (hs : Stops s) : fraction s = .ok (none, s) := by
  unfold fraction
  split
  · next r => exact absurd rfl (hs '.' rfl).2.1
  · rfl

theorem power_of_stops {s : List Char} (hs : Stops s) : power s = .ok (none, s) := by
  cases s with
  | nil => rfl
  | cons c s =>
    obtain ⟨_, _, he, hE⟩ := hs c rfl
    rw [power, if_neg (by simp [he, hE])]

/-- A number is at most the one that more digits make of it. -/
theorem le_ofDigitChars (ds : List Char) (n : Nat) : n ≤ Nat.ofDigitChars 10 ds n := by
  induction ds generalizing n with
  | nil => simp
  | cons c ds ih =>
    rw [Nat.ofDigitChars_cons]
    exact Nat.le_trans (by omega) (ih _)

/-- No digit is dropped from a number below `2 ^ 64`. -/
theorem leading_eq {ds : List Char} {n : Nat} (h : Nat.ofDigitChars 10 ds n < Nat.pow 2 64) :
    leading (n, 0) ds = (Nat.ofDigitChars 10 ds n, 0) := by
  induction ds generalizing n with
  | nil => simp [leading]
  | cons c ds ih =>
    rw [Nat.ofDigitChars_cons] at h ⊢
    have hv : n * 10 + digitValue c = 10 * n + (c.toNat - '0'.toNat) := by
      rw [Nat.mul_comm]
      rfl
    have hlt := Nat.lt_of_le_of_lt (le_ofDigitChars ds _) h
    rw [leading, hv, if_pos ⟨rfl, hlt⟩, ih h]

end Scanner

namespace Reader

open Scanner

def Fits64 (i : Int) : Prop := -(Nat.pow 2 63 : Int) ≤ i ∧ i < (Nat.pow 2 64 : Int)

theorem lexeme_writeInt (i : Int) {s : List Char} (hs : Stops s) :
    lexeme (writeInt i ++ s) = .ok (⟨decide (i < 0), Nat.toDigits 10 i.natAbs, none, none⟩, s) := by
  have hsign : sign (writeInt i ++ s) = (decide (i < 0), Nat.toDigits 10 i.natAbs ++ s) := by
    unfold writeInt
    split
    · next h => simp [sign, h]
    · next h =>
      cases hds : Nat.toDigits 10 i.natAbs with
      | nil => exact absurd hds Nat.toDigits_ne_nil
      | cons c ds =>
        have hc : isDigit c = true := isDigit_of_mem_toDigits (by rw [hds]; exact List.mem_cons_self)
        have hm : c ≠ '-' := by
          rintro rfl
          revert hc
          decide
        unfold sign
        split
        · next heq => exact absurd (List.cons.inj heq).1 hm
        · simp [h]
  rw [lexeme, hsign, whole_toDigits _ hs]
  simp only [fraction_of_stops hs, power_of_stops hs]

theorem numberDoc_writeInt {i : Int} (hi : Fits64 i) {s : List Char} (hs : Stops s) :
    ∃ start, numberDoc (writeInt i ++ s) = (.scalar start (some (.here s)) (.ok (.num (.int i))), s) := by
  have hlt : i.natAbs < Nat.pow 2 64 := by
    obtain ⟨hlow, hhigh⟩ := hi
    norm_num at hlow hhigh ⊢
    omega
  have hlead : leading (0, 0) (Nat.toDigits 10 i.natAbs) = (i.natAbs, 0) := by
    have hdigits : Nat.ofDigitChars 10 (Nat.toDigits 10 i.natAbs) 0 = i.natAbs := Nat.ofDigitChars_ten_toDigits
    rw [leading_eq (by rwa [hdigits]), hdigits]
  have hv : (⟨decide (i < 0), Nat.toDigits 10 i.natAbs, none, none⟩ : Lexeme).value s = .ok (.int i) := by
    obtain ⟨hlow, hhigh⟩ := hi
    have hgood : decide (i < 0) = false ∨ i.natAbs ≠ 0 ∧ i.natAbs ≤ Nat.pow 2 63 := by
      by_cases hneg : i < 0
      · right
        norm_num at hlow ⊢
        omega
      · exact .inl (by simpa using hneg)
    have hint : (if decide (i < 0) = true then -(i.natAbs : Int) else i.natAbs) = i := by
      by_cases hneg : i < 0
      · rw [if_pos (by simpa using hneg)]
        omega
      · rw [if_neg (by simpa using hneg)]
        omega
    simp only [Lexeme.value, hlead]
    rw [if_pos ⟨trivial, hgood⟩, hint]
  exact ⟨_, by rw [numberDoc, lexeme_writeInt i hs]; simp only [hv]; rfl⟩

end Reader
end Wireframe.Json
