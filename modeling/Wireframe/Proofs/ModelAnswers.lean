import Wireframe.Proofs.Chatter
import Wireframe.Proofs.Intake
import Wireframe.Settings.Load

/-!
# What an answer of a language model can be

Every text is one of three: it has no object, its object is no JSON, or its object is a value that is recovered.

* **The span** (`Spans`, `objectSpan?_eq_some_iff`, `objectSpan?_eq_none_iff`): a text has an object exactly when a
  closing brace stands after its first opening one, and it goes from there to the last closing one.
* **Completed objects** (`salvage_completeObject`): the members that an object gets are those that salvaging would take
  in their place, so completing a value changes no plan.
* **Answers** (`planOf_eq`, `planOf_classified`): which failure an answer gives, and that settings which were loaded
  never turn a plan down.
-/

namespace Wireframe.ModelText

/-! ## The span -/

/-- The part of a text from its first opening brace to its last closing brace. -/
def Spans (t s : List Char) : Prop :=
  ∃ before inside after, t = before ++ s ++ after ∧ s = '{' :: (inside ++ ['}']) ∧ '{' ∉ before ∧ '}' ∉ after

/-- No closing brace stands after the first opening brace of a text, if there is one. -/
def Unclosed (t : List Char) : Prop := ∀ u v, t = u ++ '{' :: v → '{' ∉ u → '}' ∉ v

variable {t : List Char}

theorem objectSpan?_of_not_mem (h : '{' ∉ t) : objectSpan? t = none := by
  have hskip : ∀ c ∈ t, decide (c ≠ '{') = true := fun c hc => decide_eq_true fun he => h (he ▸ hc)
  rw [objectSpan?, List.dropWhile_eq_nil_iff.mpr hskip, toLastBrace?]

/-- What is before the first opening brace does not count. -/
theorem objectSpan?_of_first {u v : List Char} (hu : '{' ∉ u) :
    objectSpan? (u ++ '{' :: v) = toLastBrace? ('{' :: v) := by
  have hskip : ∀ c ∈ u, decide (c ≠ '{') = true := fun c hc => decide_eq_true fun he => hu (he ▸ hc)
  rw [objectSpan?, List.dropWhile_append_of_pos hskip]
  rfl

theorem exists_last {c : Char} (h : c ∈ t) : ∃ u v, t = u ++ c :: v ∧ c ∉ v := by
  obtain ⟨x, y, hxy, hx⟩ := List.eq_append_cons_of_mem (List.mem_reverse.mpr h)
  refine ⟨y.reverse, x.reverse, ?_, by simpa using hx⟩
  rw [← List.reverse_reverse t, hxy]
  simp

theorem objectSpan?_eq_none_iff : objectSpan? t = none ↔ Unclosed t := by
  constructor
  · intro h u v ht hu hv
    rw [ht, objectSpan?_of_first hu, toLastBrace?_eq_none_iff] at h
    exact h (List.mem_cons_of_mem _ hv)
  · intro h
    by_cases hm : '{' ∈ t
    · obtain ⟨u, v, rfl, hu⟩ := List.eq_append_cons_of_mem hm
      rw [objectSpan?_of_first hu, toLastBrace?_eq_none_iff]
      exact List.not_mem_cons_of_ne_of_not_mem (by decide) (h u v rfl hu)
    · exact objectSpan?_of_not_mem hm

theorem objectSpan?_eq_some_iff {s : List Char} : objectSpan? t = some s ↔ Spans t s := by
  constructor
  · intro h
    by_cases hm : '{' ∈ t
    · obtain ⟨u, v, rfl, hu⟩ := List.eq_append_cons_of_mem hm
      rw [objectSpan?_of_first hu] at h
      have hclose : '}' ∈ '{' :: v := by
        by_contra hv
        rw [toLastBrace?_eq_none_iff.mpr hv] at h
        cases h
      obtain ⟨w, after, hw, ha⟩ := exists_last hclose
      rw [hw, toLastBrace?_append w ha] at h
      cases h
      -- the span begins with the opening brace, which is no closing one
      cases w with
      | nil => cases hw
      | cons c inside =>
        obtain ⟨rfl, -⟩ := List.cons.inj hw
        exact ⟨u, inside, after, by simp [hw], rfl, hu, ha⟩
    · rw [objectSpan?_of_not_mem hm] at h
      cases h
  · rintro ⟨before, inside, after, rfl, rfl, hb, ha⟩
    rw [List.append_assoc]
    exact objectSpan?_amid inside hb ha

/-! ## Completed objects -/

/-- A required member is as good as before, and other members stay. -/
theorem lookup_require (key : String) (good : Json → Bool) (fallback : Json) (ms : List (String × Json)) (k : String) :
    (require key good fallback ms).lookup k =
      if k = key ∧ (ms.lookup key).any good = false then some fallback else ms.lookup k := by
  rw [require]
  cases hgood : (ms.lookup key).any good with
  | true => simp
  | false => simp [Members.lookup_insert]

/-- A member that is read from a value of the right type only is read as before, or else as the fallback is. -/
theorem bind_lookup_require {α : Type} (read : Json → Option α) {key : String} {fallback : Json} {a : α}
    (hfallback : read fallback = some a) (ms : List (String × Json)) :
    ((require key (fun v => (read v).isSome) fallback ms).lookup key).bind read =
      some (((ms.lookup key).bind read).getD a) := by
  rw [lookup_require]
  cases hm : ms.lookup key with
  | none => simpa using hfallback
  | some v => cases hv : read v <;> simp [hv, hfallback]

theorem get?_eq_lookup_members (v : Json) (key : String) : v.get? key = (v.members?.getD []).lookup key := by
  cases v <;> rfl

/-- **Completing a value changes no plan.** Where it has no layout or no components of the right type, it gets what
salvaging takes in their place. -/
theorem salvage_completeObject (v : Json) : Plan.salvage (completeObject v) = Plan.salvage v := by
  have hlayout : ((completeObject v).get? "layout").bind Json.text? =
      some (((v.get? "layout").bind Json.text?).getD Plan.defaultLayout) := by
    rw [get?_eq_lookup_members v, completeObject, Json.get?, bind_lookup_require Json.text? rfl, lookup_require,
      if_neg (by simp)]
  have hcomponents : ((completeObject v).get? "components").bind Json.items? =
      some (((v.get? "components").bind Json.items?).getD []) := by
    rw [get?_eq_lookup_members v, completeObject, Json.get?, lookup_require, if_neg (by simp),
      bind_lookup_require Json.items? rfl]
  simp only [Plan.salvage, hlayout, hcomponents, Option.getD_some]

/-! ## Answers -/

/-- The plan in an answer is recovered from its value. -/
theorem planOf_eq (text : String) (l : Limits) :
    planOf text l = readObject text >>= fun v => (Plan.recover v l).mapError .rejected := by
  have hrecover (v : Json) : Plan.recover (completeObject v) l = Plan.recover v l := by
    rw [Plan.recover, Plan.restore, salvage_completeObject]
    rfl
  rw [planOf]
  simp only [hrecover]
  refine bind_congr fun v => ?_
  cases Plan.recover v l <;> rfl

variable {text : String} {l : Limits} {s : List Char}

theorem planOf_of_unclosed (h : Unclosed text.toList) : planOf text l = .error .noObject := by
  rw [planOf_eq, readObject, objectSpan?_eq_none_iff.mpr h]
  rfl

/-- What an answer with an object gives is decided by the object alone. -/
theorem planOf_of_spans (h : Spans text.toList s) : planOf text l =
    match Json.parse (String.ofList s) with
    | .ok v => (Plan.recover v l).mapError .rejected
    | .error e => .error (.invalidJson e) := by
  rw [planOf_eq, readObject, objectSpan?_eq_some_iff.mpr h]
  simp only
  cases Json.parse (String.ofList s) <;> rfl

theorem mapError_rejected_ne {r : Except Rejection Plan} {f : Failure} (hf : ∀ x, f ≠ .rejected x) :
    r.mapError .rejected ≠ .error f := by
  cases r with
  | ok p => exact nofun
  | error x => exact fun h => hf x (Except.error.inj h).symm

theorem planOf_ne_noObject (h : Spans text.toList s) : planOf text l ≠ .error .noObject := by
  rw [planOf_of_spans h]
  split
  · exact mapError_rejected_ne nofun
  · exact nofun

theorem planOf_eq_invalidJson_iff (h : Spans text.toList s) {e : Json.TextError} :
    planOf text l = .error (.invalidJson e) ↔ Json.parse (String.ofList s) = .error e := by
  rw [planOf_of_spans h]
  split
  · next v hv => simp [hv, mapError_rejected_ne]
  · next x hx => simp [hx]

/-- Under settings with nothing wrong no plan in an answer is turned down. -/
theorem planOf_ne_rejected {settings : Settings} (h : settings.issues = []) (text : String) (r : Rejection) :
    planOf text settings.limits ≠ .error (.rejected r) := by
  cases hs : objectSpan? text.toList with
  | none =>
    rw [planOf_of_unclosed (objectSpan?_eq_none_iff.mp hs)]
    exact nofun
  | some s =>
    rw [planOf_of_spans (objectSpan?_eq_some_iff.mp hs)]
    split
    · next v _ =>
      have hwidth := Settings.maxComponents_le h
      rw [Plan.recover_of_narrow (Nat.le_trans (Nat.min_le_left _ _) hwidth)]
      exact nofun
    · exact nofun

/-- **Every answer is one of three.** It has no object exactly when no closing brace stands after its first opening one.
Otherwise it has one object, from there to its last closing brace: the answer is invalid exactly when that is no JSON
document, and if it is one, its value is recovered under the limits, as it is: the members that the value is given first
change no plan. Under the limits of settings that were loaded, no plan is turned down. -/
theorem planOf_classified :
    (∀ (text : String) (l : Limits),
      (planOf text l = .error .noObject ↔ Unclosed text.toList) ∧
      (planOf text l ≠ .error .noObject ↔ ∃! s, Spans text.toList s) ∧
      ∀ s, Spans text.toList s →
        (∀ e, planOf text l = .error (.invalidJson e) ↔ Json.parse (String.ofList s) = .error e) ∧
        ∀ v, Json.parse (String.ofList s) = .ok v → planOf text l = (Plan.recover v l).mapError .rejected) ∧
    (∀ v, Plan.salvage (completeObject v) = Plan.salvage v) ∧
    ∀ env path file settings, Settings.ofText env path file = .ok settings →
      ∀ text r, planOf text settings.limits ≠ .error (.rejected r) := by
  refine ⟨fun text l => ⟨⟨?_, planOf_of_unclosed⟩, ⟨?_, ?_⟩, fun s hs => ⟨fun e => planOf_eq_invalidJson_iff hs, ?_⟩⟩,
    salvage_completeObject, fun _ _ _ _ h => planOf_ne_rejected (Settings.issues_of_ofText h)⟩
  · intro h
    refine objectSpan?_eq_none_iff.mp (Option.eq_none_iff_forall_ne_some.mpr fun s hs => ?_)
    exact planOf_ne_noObject (objectSpan?_eq_some_iff.mp hs) h
  · intro h
    cases hs : objectSpan? text.toList with
    | none => exact absurd (planOf_of_unclosed (objectSpan?_eq_none_iff.mp hs)) h
    | some s =>
      refine ⟨s, objectSpan?_eq_some_iff.mp hs, fun r hr => ?_⟩
      rw [objectSpan?_eq_some_iff.mpr hr] at hs
      exact Option.some.inj hs
  · rintro ⟨s, hs, -⟩
    exact planOf_ne_noObject hs
  · intro v hv
    rw [planOf_of_spans hs, hv]

/-- Two objects are no object, braces that are in the wrong order are none, and an object without members is a plan
without components, also under loaded settings. -/
theorem planOf_classified_braces :
    planOf "\x7d a \x7b" {} = .error .noObject ∧
    (∃ e, planOf "\x7b\x7d and \x7b\x7d" {} = .error (.invalidJson e)) ∧
    planOf "\x7d \x7b\x7d." {} = (Plan.recover (.obj []) {}).mapError .rejected ∧
    Settings.ofText (fun _ => none) "c.json" "\x7b\x7d" = .ok {} ∧
    ∀ r, planOf "\x7d \x7b\x7d." ({} : Settings).limits ≠ .error (.rejected r) := by
  obtain ⟨hanswers, -, hloaded⟩ := planOf_classified
  have htwo : Spans "\x7b\x7d and \x7b\x7d".toList "\x7b\x7d and \x7b\x7d".toList :=
    ⟨[], "\x7d and \x7b".toList, [], by decide, by decide, by decide, by decide⟩
  have hone : Spans "\x7d \x7b\x7d.".toList ['{', '}'] :=
    ⟨['}', ' '], [], ['.'], by decide, by decide, by decide, by decide⟩
  have hsettings : Settings.ofText (fun _ => none) "c.json" "\x7b\x7d" = .ok {} := by
    have hformat : Settings.Format.ofPath "c.json" = .json := by decide
    rw [Settings.ofText, Placeholder.expand_of_not_mem (by decide), hformat]
    exact Settings.checked_of_issues rfl
  have hunclosed : Unclosed "\x7d a \x7b".toList := objectSpan?_eq_none_iff.mp (by decide)
  exact ⟨(hanswers _ _).1.mpr hunclosed, ⟨_, (((hanswers _ _).2.2 _ htwo).1 _).mpr rfl⟩,
    ((hanswers _ _).2.2 _ hone).2 _ rfl, hsettings, hloaded _ _ _ _ hsettings _⟩

end Wireframe.ModelText
