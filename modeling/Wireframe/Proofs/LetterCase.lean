import Wireframe.Prompt.Request

/-!
# Prompts in capital and small letters

Prompts are read in lower case, where the form of a sigma depends on the letters around it. The letters of ASCII lower
to themselves or to their small forms, and capital or small they are letters all the same.

* **Ranges** (`Text.Clear`): what lies between the ranges of a table is not in it.
* **Tables** (`Text.inTable_cased_toLower`, `Text.inTable_caseIgnorable_toLower`): neither of the properties that decide
  on a final sigma depends on the form of such a letter.
* **Texts** (`Text.lower_map_toLower`): so a text has one lower-case form, in whatever form these letters stand.
* **Prompts** (`Prompt.answer_of_toLower_eq`): and one answer.
-/

namespace Wireframe.Text

/-! ## Letters of ASCII -/

/-- A character stays as it is, or is a capital and moves to the small letters. -/
theorem toLower_cases (c : Char) :
    c.toLower = c ∨ 0x41 ≤ c.toNat ∧ c.toNat ≤ 0x5A ∧ c.toLower.toNat = c.toNat + 0x20 := by
  by_cases h : c.val ≥ 'A'.val ∧ c.val ≤ 'Z'.val
  · have hlow : 0x41 ≤ c.toNat := UInt32.le_iff_toNat_le.mp h.1
    have hhigh : c.toNat ≤ 0x5A := UInt32.le_iff_toNat_le.mp h.2
    have hgap : ('a'.val - 'A'.val).toNat = 0x20 := by decide
    have hmoves : c.toLower.toNat = (c.val + ('a'.val - 'A'.val)).toNat := congrArg Char.toNat (dif_pos h)
    refine .inr ⟨hlow, hhigh, ?_⟩
    rw [hmoves, UInt32.toNat_add, hgap]
    exact Nat.mod_eq_of_lt (Nat.lt_of_le_of_lt (Nat.add_le_add_right hhigh 0x20) (by decide))
  · exact .inl (dif_neg h)

/-- What does not depend on the form of a letter need only be known of capitals and their small letters. -/
theorem toLower_congr {α : Type} {f : Char → α}
    (h : ∀ c d : Char, 0x41 ≤ c.toNat → c.toNat ≤ 0x5A → d.toNat = c.toNat + 0x20 → f d = f c) (c : Char) :
    f c.toLower = f c := by
  rcases toLower_cases c with hc | ⟨hlow, hhigh, hc⟩
  · rw [hc]
  · exact h c _ hlow hhigh hc

/-! ## Tables -/

/-- No range of a table meets the numbers from `a` to `b`. -/
def Clear (table : List (Nat × Nat)) (a b : Nat) : Prop := ∀ r ∈ table, r.2 < a ∨ b < r.1

instance (table : List (Nat × Nat)) (a b : Nat) : Decidable (Clear table a b) :=
  inferInstanceAs (Decidable (∀ r ∈ table, r.2 < a ∨ b < r.1))

theorem Clear.inTable {table : List (Nat × Nat)} {a b : Nat} (h : Clear table a b) {c : Char} (ha : a ≤ c.toNat)
    (hb : c.toNat ≤ b) : inTable table c = false := by
  rw [Text.inTable, List.any_eq_false]
  intro r hr
  have hclear := h r hr
  simp only [Bool.and_eq_true, decide_eq_true_eq]
  omega

theorem inTable_of_mem {table : List (Nat × Nat)} {a b : Nat} (h : (a, b) ∈ table) {c : Char} (ha : a ≤ c.toNat)
    (hb : c.toNat ≤ b) : inTable table c = true := by
  rw [inTable, List.any_eq_true]
  exact ⟨(a, b), h, by simp [ha, hb]⟩

/-- A letter of ASCII has case in both forms. -/
theorem inTable_cased_toLower (c : Char) : inTable cased c.toLower = inTable cased c := by
  have hcapital : (0x41, 0x5A) ∈ cased := by decide
  have hsmall : (0x61, 0x7A) ∈ cased := by decide
  refine toLower_congr (fun c d hlow hhigh hd => ?_) c
  rw [inTable_of_mem hcapital hlow hhigh, inTable_of_mem hsmall (by omega) (by omega)]

/-- A letter of ASCII ends a run of marks in both forms. -/
theorem inTable_caseIgnorable_toLower (c : Char) : inTable caseIgnorable c.toLower = inTable caseIgnorable c := by
  have hcapital : Clear caseIgnorable 0x41 0x5A := by decide +kernel
  have hsmall : Clear caseIgnorable 0x61 0x7A := by decide +kernel
  refine toLower_congr (fun c d hlow hhigh hd => ?_) c
  rw [hcapital.inTable hlow hhigh, hsmall.inTable (by omega) (by omega)]

/-! ## Lower case -/

theorem CapitalRun.lower?_eq_none {r : CapitalRun} {n : Nat} (h : r.last < n ∨ n < r.first) : r.lower? n = none :=
  if_neg fun ⟨hfirst, hlast, _⟩ => by omega

theorem lowerChar_toLower (c : Char) : lowerChar c.toLower = lowerChar c := by
  have hsmall : ∀ r ∈ capitals, r.last < 0x61 ∨ 0x7A < r.first := by decide +kernel
  refine toLower_congr (fun c d hlow hhigh hd => ?_) c
  have hdot : ∀ e : Char, e.toNat ≤ 0x7A → e ≠ '\u0130' := by
    rintro e he rfl
    exact absurd he (by decide)
  have hstays : capitals.findSome? (·.lower? d.toNat) = none :=
    List.findSome?_eq_none_iff.mpr fun r hr =>
      CapitalRun.lower?_eq_none ((hsmall r hr).imp (fun h => by omega) (fun h => by omega))
  have hmoves : capitals.findSome? (·.lower? c.toNat) = some d.toNat := by
    rw [capitals, List.findSome?_cons, CapitalRun.lower?, if_pos ⟨hlow, hhigh, Nat.mod_one _⟩]
    exact congrArg some (by simp only; omega)
  rw [lowerChar, lowerChar, if_neg (hdot d (by omega)), if_neg (hdot c (by omega)), hstays, hmoves]
  exact congrArg (fun e => [e]) (Char.ofNat_toNat d).symm

theorem toLower_eq_sigma_iff (c : Char) : c.toLower = 'Σ' ↔ c = 'Σ' := by
  have hcapital : ∀ e : Char, e.toNat ≤ 0x7A → e ≠ 'Σ' := by
    rintro e he rfl
    exact absurd he (by decide)
  rcases toLower_cases c with hc | ⟨hlow, hhigh, hc⟩
  · rw [hc]
  · exact iff_of_false (hcapital _ (by omega)) (hcapital c (by omega))

theorem letterFollows_cons (c : Char) (s : List Char) :
    letterFollows (c :: s) = if inTable caseIgnorable c then letterFollows s else inTable cased c := by
  rw [letterFollows, List.dropWhile_cons]
  cases inTable caseIgnorable c <;> rfl

/-- The form of the letters in a word does not matter to a sigma. -/
theorem letterFollows_map_toLower (s : List Char) : letterFollows (s.map Char.toLower) = letterFollows s := by
  induction s with
  | nil => rfl
  | cons c s ih =>
    rw [List.map_cons, letterFollows_cons, letterFollows_cons, ih, inTable_caseIgnorable_toLower,
      inTable_cased_toLower]

/-- **The lower-case form of a text** does not depend on the form of the letters of ASCII in it or before it. -/
theorem lowerAfter_map_toLower (before s : List Char) :
    lowerAfter (before.map Char.toLower) (s.map Char.toLower) = lowerAfter before s := by
  induction s generalizing before with
  | nil => rfl
  | cons c s ih =>
    have hrest : lowerAfter (c.toLower :: before.map Char.toLower) (s.map Char.toLower) = lowerAfter (c :: before) s :=
      ih (c :: before)
    have hsigma : lowerSigma (before.map Char.toLower) (s.map Char.toLower) = lowerSigma before s := by
      rw [lowerSigma, lowerSigma, letterFollows_map_toLower, letterFollows_map_toLower]
    rw [List.map_cons, lowerAfter, lowerAfter, hrest, hsigma, lowerChar_toLower]
    simp only [toLower_eq_sigma_iff]

theorem lower_map_toLower (s : List Char) : lower (s.map Char.toLower) = lower s := lowerAfter_map_toLower [] s

end Wireframe.Text

namespace Wireframe.Prompt

/-! ## Prompts -/

theorem toList_toLower (s : String) : s.toLower.toList = s.toList.map Char.toLower := String.toList_map

theorem lowered_toLower (prompt : String) : lowered prompt.toLower = lowered prompt := by
  rw [lowered, toList_toLower, Text.lower_map_toLower, lowered]

/-- A prompt is read in its lower-case form, whether for its intent, for its changes or for a forgotten password. -/
theorem answer_of_lowered_eq {p q : String} (h : lowered p = lowered q) (last : Option Plan) :
    answer p last = answer q last := by
  have hread : classify p = classify q := by rw [classify, classify, classifyBy, classifyBy, h]
  have hedit (plan : Plan) : plan.edit p = plan.edit q := by rw [Plan.edit, Plan.edit, h]
  cases last with
  | none => rw [answer, answer, answerAs, answerAs, hread]
  | some plan => rw [answer, answer, answerAs, answerAs, hread, hedit, h]

/-- **Prompts that differ only in capital and small letters of ASCII have one answer**: the same classification, the
same branch and the same plan, whatever the last plan is. -/
theorem answer_of_toLower_eq {p q : String} (h : p.toLower = q.toLower) (last : Option Plan) :
    answer p last = answer q last := by
  refine answer_of_lowered_eq ?_ last
  rw [← lowered_toLower p, ← lowered_toLower q, h]

/-- Two prompts with sigmas after and before letters of ASCII in both forms: in lower case the sigma after such a letter
is a final one and the sigma before one is not, and the answers are the same for every last plan. -/
theorem answer_of_toLower_eq_sigmas :
    "FORGOT LOGIN AΣ ΣA".toLower = "Forgot login aΣ Σa".toLower ∧
    lowered "FORGOT LOGIN AΣ ΣA" = "forgot login aς σa".toList ∧
    ∀ last, answer "FORGOT LOGIN AΣ ΣA" last = answer "Forgot login aΣ Σa" last := by
  have hforms : "FORGOT LOGIN AΣ ΣA".toLower = "Forgot login aΣ Σa".toLower := by
    rw [← String.toList_inj, toList_toLower, toList_toLower]
    decide +kernel
  exact ⟨hforms, by decide +kernel, answer_of_toLower_eq hforms⟩

end Wireframe.Prompt
