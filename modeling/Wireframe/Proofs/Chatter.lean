import Wireframe.ModelText
import Wireframe.Proofs.Conformance
import Wireframe.Proofs.PlanTexts

/-!
# Plans among chatter

A language model may talk before and after the object that it was asked for.

* **The span** (`toLastBrace?_append`, `objectSpan?_amid`): what stands before the first opening brace and after the
  last closing one is left out, whatever braces are between them.
* **Objects** (`Json.Spells.obj_braces`): a text that spells an object stands between two such braces.
* **Values of plans** (`completeObject_toValue`): they lack no member that every plan has.
* **Plans** (`readObject_amid`, `planOf_of_readObject`): a spelled plan is found among chatter as its value, and a value
  of a plan is recovered as the refined plan; hence `chatter_harmless`.
-/

namespace Wireframe

/-! ## The span -/

namespace ModelText

theorem toLastBrace?_eq_none_iff {s : List Char} : toLastBrace? s = none ↔ '}' ∉ s := by
  induction s with
  | nil => simp [toLastBrace?]
  | cons c s ih =>
    rw [toLastBrace?, List.mem_cons, not_or, ← ih, eq_comm (a := '}')]
    cases toLastBrace? s with
    | some t => simp
    | none => by_cases hc : c = '}' <;> simp [hc]

/-- A closing brace that no other one follows is the last. -/
theorem toLastBrace?_append (s : List Char) {after : List Char} (ha : '}' ∉ after) :
    toLastBrace? (s ++ '}' :: after) = some (s ++ ['}']) := by
  induction s with
  | nil =>
    rw [List.nil_append, toLastBrace?, toLastBrace?_eq_none_iff.mpr ha]
    rfl
  | cons c s ih => rw [List.cons_append, toLastBrace?, ih, List.cons_append]

/-- A text between an opening and a closing brace is found among chatter without another such pair around it. -/
theorem objectSpan?_amid {before after : List Char} (s : List Char) (hb : '{' ∉ before) (ha : '}' ∉ after) :
    objectSpan? (before ++ ('{' :: (s ++ ['}']) ++ after)) = some ('{' :: (s ++ ['}'])) := by
  have hskip : ∀ c ∈ before, decide (c ≠ '{') = true := by
    intro c hc
    have hne : c ≠ '{' := fun h => hb (h ▸ hc)
    exact decide_eq_true hne
  rw [objectSpan?, List.dropWhile_append_of_pos hskip]
  show toLastBrace? ('{' :: (s ++ ['}'] ++ after)) = _
  rw [List.append_assoc, List.singleton_append, ← List.cons_append, toLastBrace?_append _ ha, List.cons_append]

end ModelText

/-! ## Objects -/

namespace Json

theorem SpellsMembers.closed : {ms : List (String × Json)} → {t : List Char} → SpellsMembers ms t → ∃ u, t = u ++ ['}']
  | [], _, h => ⟨[], h⟩
  | [(k, _)], _, ⟨u, a, b, c, _, _, _, _, ht⟩ => ⟨quoted k ++ (a ++ ':' :: (b ++ (u ++ c))), by simp [ht]⟩
  | (k, _) :: _ :: _, _, ⟨u, a, b, c, d, _, _, _, _, _, _, hr, ht⟩ => by
    obtain ⟨r, rfl⟩ := SpellsMembers.closed hr
    exact ⟨quoted k ++ (a ++ ':' :: (b ++ (u ++ (c ++ ',' :: (d ++ r))))), by simp [ht]⟩

theorem Spells.obj_braces {ms : List (String × Json)} {t : List Char} (h : Spells (.obj ms) t) :
    ∃ s, t = '{' :: (s ++ ['}']) := by
  obtain ⟨a, u, _, hu, rfl⟩ := h
  obtain ⟨s, rfl⟩ := SpellsMembers.closed hu
  exact ⟨a ++ s, by rw [List.append_assoc]⟩

end Json

/-! ## Values of plans -/

namespace ModelText

variable {p : Plan}

theorem completeObject_toValue (p : Plan) : completeObject p.toValue = p.toValue := by
  rw [completeObject, Plan.toValue_eq]
  rfl

/-! ## Plans -/

/-- A shallow plan that is spelled in the order of its text is found among chatter. -/
theorem readObject_amid (hp : p.Shallow) {before after text : String} (ht : p.toJson.Spells text.toList)
    (hb : '{' ∉ before.toList) (ha : '}' ∉ after.toList) :
    readObject (before ++ text ++ after) = .ok p.toValue := by
  obtain ⟨s, hs⟩ := Json.Spells.obj_braces ht
  have hspan : objectSpan? (before ++ text ++ after).toList = some text.toList := by
    rw [String.toList_append, String.toList_append, List.append_assoc, hs]
    exact objectSpan?_amid s hb ha
  have hparse : Json.parse (String.ofList text.toList) = .ok p.toValue := by
    simpa using (hp.read_spelled (.inl rfl) ht Json.gap_nil Json.gap_nil).2
  rw [readObject, hspan]
  simp only [hparse]

/-- An answer with the value of a plan in it gives the refined plan, when that is not too wide. -/
theorem planOf_of_readObject {text : String} {l : Limits} (h : readObject text = .ok p.toValue)
    (hw : (p.refine l).components.length ≤ Limits.schemaWidth) : planOf text l = .ok (p.refine l) := by
  have hrecover : Plan.recover p.toValue l = .ok (p.refine l) :=
    Plan.recover_eq_ok_iff.mpr ⟨Plan.check_toValue_iff.mpr hw, rfl⟩
  simp only [planOf, h, completeObject_toValue, bind, Except.bind, hrecover]
  rfl

/-- **Chatter is harmless.** When a language model answers with the compact or the pretty text of a shallow plan, talks
before it without an opening brace and after it without a closing one, its answer is read as the value of the plan, and
it gives the refined plan under all limits that make that at most as wide as the schema allows. -/
theorem chatter_harmless (hp : p.Shallow) {before after : String} (hb : '{' ∉ before.toList)
    (ha : '}' ∉ after.toList) :
    ∀ text ∈ [p.toJson.compact, p.toJson.pretty],
      readObject (before ++ text ++ after) = .ok p.toValue ∧
      ∀ l : Limits, (p.refine l).components.length ≤ 30 → planOf (before ++ text ++ after) l = .ok (p.refine l) := by
  intro text hm
  have ht : p.toJson.Spells text.toList := by
    simp only [List.mem_cons, List.not_mem_nil, or_false] at hm
    rcases hm with rfl | rfl
    · exact Json.spells_compact _
    · exact Json.spells_pretty _
  have hread := readObject_amid hp ht hb ha
  exact ⟨hread, fun l hw => planOf_of_readObject hread hw⟩

/-- A plan with braces in its texts and without the fallback that refining puts into its card. -/
def braced : Plan := ⟨"\x7d\x7b", [⟨.card, Props.ofList [("title", "a \x7d b")], []⟩]⟩

theorem chatter_harmless_braced : braced.Shallow ∧
    readObject ("Sure \x7d:\n" ++ braced.toJson.pretty ++ "\n\x7b Bye") = .ok braced.toValue ∧
    planOf ("Sure \x7d:\n" ++ braced.toJson.compact ++ "\n\x7b Bye") {} = .ok (braced.refine {}) ∧
    braced.maxDepth = some 0 ∧ (braced.refine {}).maxDepth = some 1 := by
  have hp : braced.Shallow := by decide
  have hb : '{' ∉ "Sure \x7d:\n".toList := by decide
  have ha : '}' ∉ "\n\x7b Bye".toList := by decide
  have h := chatter_harmless hp hb ha
  exact ⟨hp, (h _ (by simp)).1, (h _ (by simp)).2 {} (by decide), rfl, by decide⟩

end ModelText

end Wireframe
