import Wireframe.Proofs.Lines
import Wireframe.Prompt.Classify

/-!
# Rules in order

The first rule with a word in the prompt decides, so a rule counts only for prompts that all rules before it miss.

* **Words** (`Prompt.Rule.applies_iff`): a rule applies when one of its words is a part of the lowered prompt.
* **Patterns** (`Prompt.readRules?_source`): rules are read back from their words with bars between them.
* **First matches** (`Prompt.intentOf_eq_iff`): the rule that decides splits the list into the rules before and after.
* **Shadows** (`Prompt.Shadowed`, `Prompt.intentOf_of_shadowed`): a word that contains a word of an earlier rule selects
  nothing, so a rule of such words can go.
* **The last rule** (`Prompt.intentOf_append_eq_iff`): its intent is that of the prompts with one of its words which all
  other rules miss. For the usual rules, two of the three words are shadowed (`Prompt.shadowed_rules_idle`).
-/

namespace Wireframe.Prompt

/-- A word is a part of a lowered prompt. -/
def Occurs (low : List Char) (word : String) : Prop := word.toList <:+: low

instance (low : List Char) : DecidablePred (Occurs low) := fun w => inferInstanceAs (Decidable (w.toList <:+: low))

variable {low : List Char}

/-! ## Words -/

def Rule.Matches (r : Rule) (low : List Char) : Prop := ∃ w ∈ r.words, Occurs low w

instance (r : Rule) : DecidablePred r.Matches := fun low =>
  inferInstanceAs (Decidable (∃ w ∈ r.words, Occurs low w))

theorem Rule.applies_iff (r : Rule) (low : List Char) : r.applies low = true ↔ r.Matches low := by
  rw [Rule.applies, List.any_eq_true]
  exact exists_congr fun w => and_congr_right fun _ => Text.occurs_iff

/-! ## Patterns -/

/-- The characters that do not stand for themselves in a pattern. -/
def metaSigns : List Char := ['\\', '.', '+', '*', '?', '(', ')', '|', '[', ']', '{', '}', '^', '$']

/-- A word that stands for itself in a pattern. -/
def Literal (w : String) : Prop := ∀ c ∈ w.toList, c ∉ metaSigns

instance : DecidablePred Literal := fun w => List.decidableBAll (· ∉ metaSigns) w.toList

/-- Words with bars between them. -/
def alternation (ws : List String) : String := String.ofList (Text.joinWith ['|'] (ws.map String.toList))

/-- A rule whose pattern is an alternation of words that stand for themselves. -/
def Rule.Plain (r : Rule) : Prop := r.words ≠ [] ∧ ∀ w ∈ r.words, Literal w

instance : DecidablePred Rule.Plain := fun r => inferInstanceAs (Decidable (r.words ≠ [] ∧ ∀ w ∈ r.words, Literal w))

/-- A rule as its intent and its pattern. -/
def Rule.source (r : Rule) : Intent × String := (r.intent, alternation r.words)

theorem patternWords?_alternation {ws : List String} (hne : ws ≠ []) (h : ∀ w ∈ ws, Literal w) :
    patternWords? (alternation ws) = some ws := by
  have hsigns : ∀ c ∈ patternSigns, c ∈ metaSigns := by simp [patternSigns, metaSigns]
  have hplain : ((alternation ws).toList.any (patternSigns.contains ·)) = false := by
    rw [alternation, String.toList_ofList, List.any_eq_false]
    intro c hc hsign
    rw [List.contains_iff_mem] at hsign
    rcases Text.mem_joinWith hc with rfl | ⟨p, hp, hcp⟩
    · exact absurd hsign (by decide)
    · obtain ⟨w, hw, rfl⟩ := List.mem_map.mp hp
      exact h w hw c hcp (hsigns c hsign)
  have hbars : ∀ p ∈ ws.map String.toList, '|' ∉ p := by
    intro p hp hbar
    obtain ⟨w, hw, rfl⟩ := List.mem_map.mp hp
    exact h w hw '|' hbar (by decide)
  rw [patternWords?, hplain, if_neg Bool.false_ne_true, alternation, String.toList_ofList,
    Text.splitOn_joinWith (by simpa using hne) hbars, List.map_map]
  simp

example : patternWords? "sign in|login" = some ["sign in", "login"] := by decide +kernel

/-- **Rules are read from their patterns.** -/
theorem readRules?_source {rs : List Rule} (h : ∀ r ∈ rs, r.Plain) : readRules? (rs.map Rule.source) = some rs := by
  induction rs with
  | nil => rfl
  | cons r rs ih =>
    obtain ⟨hr, hrs⟩ := List.forall_mem_cons.mp h
    have hfirst : (patternWords? r.source.2).map (Rule.mk r.source.1) = some r := by
      rw [Rule.source, patternWords?_alternation hr.1 hr.2]
      rfl
    have hrest := ih hrs
    rw [readRules?] at hrest
    rw [readRules?, List.map_cons, List.mapM_cons, hfirst, hrest]
    rfl

/-! ## First matches -/

/-- An intent is that of the first rule with a word in a lowered prompt, or the usual one if no rule has any. -/
def Decides (rs : List Rule) (low : List Char) (i : Intent) : Prop :=
  (∃ before r after, rs = before ++ r :: after ∧ (∀ b ∈ before, ¬b.Matches low) ∧ r.Matches low ∧ i = r.intent) ∨
  (∀ r ∈ rs, ¬r.Matches low) ∧ i = .default

theorem intentOf_cons (r : Rule) (rs : List Rule) (low : List Char) :
    intentOf (r :: rs) low = if r.applies low then r.intent else intentOf rs low := by
  rw [intentOf, List.find?_cons]
  cases r.applies low <;> rfl

theorem intentOf_append_of_not {before : List Rule} (h : ∀ b ∈ before, ¬b.Matches low) (rs : List Rule) :
    intentOf (before ++ rs) low = intentOf rs low := by
  induction before with
  | nil => rfl
  | cons b before ih =>
    obtain ⟨hb, hbefore⟩ := List.forall_mem_cons.mp h
    rw [List.cons_append, intentOf_cons, if_neg (mt (b.applies_iff low).mp hb), ih hbefore]

/-- What follows a rule that applies does not count. -/
theorem intentOf_append_of_mem {before : List Rule} {b : Rule} (hb : b ∈ before) (h : b.Matches low)
    (rs : List Rule) : intentOf (before ++ rs) low = intentOf before low := by
  induction before with
  | nil => cases hb
  | cons c before ih =>
    rw [List.cons_append, intentOf_cons, intentOf_cons]
    split
    · rfl
    · next hc =>
      rcases List.mem_cons.mp hb with rfl | hb
      · exact absurd ((b.applies_iff low).mpr h) hc
      · exact ih hb

/-- **The first rule with a word in the prompt decides.** -/
theorem intentOf_eq_iff (rs : List Rule) (low : List Char) (i : Intent) : intentOf rs low = i ↔ Decides rs low i := by
  constructor
  · rintro rfl
    rw [intentOf]
    cases hfind : rs.find? (·.applies low) with
    | none =>
      refine .inr ⟨fun r hr hm => ?_, rfl⟩
      exact List.find?_eq_none.mp hfind r hr ((r.applies_iff low).mpr hm)
    | some r =>
      obtain ⟨hr, before, after, hsplit, hbefore⟩ := List.find?_eq_some_iff_append.mp hfind
      refine .inl ⟨before, r, after, hsplit, fun b hb hm => ?_, (r.applies_iff low).mp hr, rfl⟩
      have hnot := hbefore b hb
      rw [(b.applies_iff low).mpr hm] at hnot
      cases hnot
  · rintro (⟨before, r, after, rfl, hbefore, hr, rfl⟩ | ⟨hnone, rfl⟩)
    · rw [intentOf_append_of_not hbefore, intentOf_cons, if_pos ((r.applies_iff low).mpr hr)]
    · rw [← List.append_nil rs, intentOf_append_of_not hnone]
      rfl

/-! ## Shadows -/

/-- A word contains a word of some rule. -/
def Shadowed (before : List Rule) (word : String) : Prop := ∃ b ∈ before, ∃ v ∈ b.words, Occurs word.toList v

instance (before : List Rule) : DecidablePred (Shadowed before) := fun w =>
  inferInstanceAs (Decidable (∃ b ∈ before, ∃ v ∈ b.words, Occurs w.toList v))

theorem matches_of_shadowed {before : List Rule} {word : String} (h : Shadowed before word) (hw : Occurs low word) :
    ∃ b ∈ before, b.Matches low := by
  obtain ⟨b, hb, v, hv, hvw⟩ := h
  exact ⟨b, hb, v, hv, List.IsInfix.trans hvw hw⟩

/-- **A rule of shadowed words can go.** -/
theorem intentOf_of_shadowed {before : List Rule} {r : Rule} (h : ∀ w ∈ r.words, Shadowed before w)
    (after : List Rule) (low : List Char) : intentOf (before ++ r :: after) low = intentOf (before ++ after) low := by
  by_cases hbefore : ∃ b ∈ before, b.Matches low
  · obtain ⟨b, hb, hm⟩ := hbefore
    rw [intentOf_append_of_mem hb hm, intentOf_append_of_mem hb hm]
  · have hmissed : ∀ b ∈ before, ¬b.Matches low := fun b hb hm => hbefore ⟨b, hb, hm⟩
    have hr : ¬r.Matches low := fun ⟨w, hw, hocc⟩ => hbefore (matches_of_shadowed (h w hw) hocc)
    rw [intentOf_append_of_not hmissed, intentOf_append_of_not hmissed, intentOf_cons,
      if_neg (mt (r.applies_iff low).mp hr)]

/-! ## The last rule -/

/-- The intent of the last rule, if no other has it, is that of the prompts with one of its words which all other rules
miss. -/
theorem intentOf_append_eq_iff {before : List Rule} {r : Rule} (hintent : ∀ b ∈ before, b.intent ≠ r.intent)
    (hdefault : r.intent ≠ .default) :
    intentOf (before ++ [r]) low = r.intent ↔ r.Matches low ∧ ∀ b ∈ before, ¬b.Matches low := by
  by_cases hbefore : ∃ b ∈ before, b.Matches low
  · obtain ⟨b, hb, hm⟩ := hbefore
    refine iff_of_false (fun h => ?_) fun h => h.2 b hb hm
    rw [intentOf_append_of_mem hb hm, intentOf_eq_iff] at h
    rcases h with ⟨front, c, back, rfl, _, _, hc⟩ | ⟨hnone, _⟩
    · exact hintent c (by simp) hc.symm
    · exact hnone b hb hm
  · have hmissed : ∀ b ∈ before, ¬b.Matches low := fun b hb hm => hbefore ⟨b, hb, hm⟩
    rw [intentOf_append_of_not hmissed, intentOf_cons, ← r.applies_iff low]
    cases r.applies low with
    | true => simpa using hmissed
    | false => simpa [intentOf] using hdefault.symm

def contactRule : Rule := ⟨.contact, ["contact us", "support page", "help form"]⟩

theorem contactRule_shadowed {w : String} (h : w ∈ ["contact us", "help form"]) : Shadowed (rules.take 10) w := by
  have hall : ∀ v ∈ ["contact us", "help form"], Shadowed (rules.take 10) v := by decide +kernel
  exact hall w h

/-- The usual rules give the intent of the last one only for its second word, where no other rule has a word. -/
theorem intentOf_rules_eq_contact_iff : intentOf rules low = .contact ↔
    Occurs low "support page" ∧ ∀ r ∈ rules.take 10, ¬r.Matches low := by
  have hwords : ∀ w ∈ contactRule.words, w = "support page" ∨ w ∈ ["contact us", "help form"] := by simp [contactRule]
  have hsplit : rules = rules.take 10 ++ [contactRule] := rfl
  have hlast : intentOf rules low = .contact ↔ contactRule.Matches low ∧ ∀ r ∈ rules.take 10, ¬r.Matches low := by
    rw [hsplit]
    exact intentOf_append_eq_iff (by decide +kernel) (by decide +kernel)
  refine hlast.trans (and_congr_left fun hmissed => ⟨?_, fun h => ⟨"support page", by simp [contactRule], h⟩⟩)
  rintro ⟨w, hw, hocc⟩
  rcases hwords w hw with rfl | hw
  · exact hocc
  · obtain ⟨b, hb, hm⟩ := matches_of_shadowed (contactRule_shadowed hw) hocc
    exact absurd hm (hmissed b hb)

/-- **Shadowed rules select nothing.** Rules are read from patterns of words that stand for themselves, and the first
one with a word in the lower-case form of the prompt decides. A rule whose words all contain words of earlier rules can
go. Of the usual rules, the last one is selected by its second word only, in prompts without any word of the others. -/
theorem shadowed_rules_idle (rs : List Rule) :
    ((∀ r ∈ rs, r.Plain) → readRules? (rs.map Rule.source) = some rs) ∧
    (∀ prompt i, (classifyBy rs prompt).intent = i ↔ Decides rs (Text.lower prompt.toList) i) ∧
    (∀ before r after, rs = before ++ r :: after → (∀ w ∈ r.words, Shadowed before w) →
      ∀ prompt, (classifyBy rs prompt).intent = (classifyBy (before ++ after) prompt).intent) ∧
    ∀ prompt,
      ((classify prompt).intent = .contact ↔ Occurs (Text.lower prompt.toList) "support page" ∧
        ∀ r ∈ rules.take 10, ¬r.Matches (Text.lower prompt.toList)) ∧
      (Occurs (Text.lower prompt.toList) "contact us" ∨ Occurs (Text.lower prompt.toList) "help form" →
        (classify prompt).intent ≠ .contact) := by
  refine ⟨readRules?_source, fun prompt => intentOf_eq_iff rs (lowered prompt), ?_,
    fun prompt => ⟨intentOf_rules_eq_contact_iff, fun hocc hcontact => ?_⟩⟩
  · rintro before r after rfl hshadow prompt
    exact intentOf_of_shadowed hshadow after (lowered prompt)
  · obtain ⟨b, hb, hm⟩ := hocc.elim (matches_of_shadowed (contactRule_shadowed (by simp)))
      (matches_of_shadowed (contactRule_shadowed (by simp)))
    exact (intentOf_rules_eq_contact_iff.mp hcontact).2 b hb hm

/-- Three rules, the second of which is shadowed by the first. -/
def threeRules : List Rule :=
  [⟨.form, ["contact", "form"]⟩, ⟨.contact, ["contact us", "help form"]⟩, ⟨.list, ["list"]⟩]

/-- Without the second rule, all prompts have the same intent as with it. Prompts in capitals have the intents of their
lower-case forms. -/
theorem shadowed_rules_idle_three : (∀ r ∈ threeRules, r.Plain) ∧
    readRules? (threeRules.map Rule.source) = some threeRules ∧
    (∀ prompt, (classifyBy threeRules prompt).intent =
      (classifyBy [⟨.form, ["contact", "form"]⟩, ⟨.list, ["list"]⟩] prompt).intent) ∧
    (classifyBy threeRules "CONTACT US").intent = .form ∧ (classifyBy threeRules "A LIST").intent = .list ∧
    (classify "A SUPPORT PAGE").intent = .contact := by
  have hplain : ∀ r ∈ threeRules, r.Plain := by decide +kernel
  obtain ⟨hread, hdecides, hdead, hcontact⟩ := shadowed_rules_idle threeRules
  refine ⟨hplain, hread hplain, hdead [⟨.form, ["contact", "form"]⟩] _ [⟨.list, ["list"]⟩] rfl (by decide +kernel),
    (hdecides _ _).mpr (.inl ?_), (hdecides _ _).mpr (.inl ?_), (hcontact _).1.mpr ?_⟩
  · exact ⟨[], _, _, rfl, by decide +kernel, by decide +kernel, rfl⟩
  · exact ⟨threeRules.take 2, _, _, rfl, by decide +kernel, by decide +kernel, rfl⟩
  · decide +kernel

end Wireframe.Prompt
