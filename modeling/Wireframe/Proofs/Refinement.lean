import Wireframe.Plan.Intake
import Wireframe.Proofs.Values

/-!
# Refining plans

Refining salvages, completes and crops. On a plan that is already one the three walks are a single one.

* **Texts** (`Kind.completeProps_captionOnly`): salvaged and completed, a component has the texts of one caption
  (`Kind.texts`), which is never empty and never too long (`Kind.settledCaption_fits`).
* **Salvage of a plan's value** (`Component.retain`, `salvageAt_toValue`): every component is kept, with its caption
  only.
* **One walk** (`Component.settle`, `Plan.refine_eq`): the texts are settled, and what stands inside goes on with one
  level less above the guard and one level less above the bound.
* **Untrusted values** (`retain_of_salvageAt`, `Plan.restore_eq_refine`): a salvaged component is salvaged as it is, so
  restoring a value is refining the plan that it is salvaged to.
* **Absorption** (`Component.settle_settle`, `Plan.refine_refine`, `Plan.refine_absorbs`): a walk under tighter limits
  does not see an earlier walk under looser ones.
-/

namespace Wireframe

/-! ## Texts -/

theorem length_truncate_le (s : String) (n : Nat) : (truncate s n).length ≤ n := by
  rw [truncate, String.length_ofList, List.length_take]
  exact Nat.min_le_left _ _

theorem truncate_eq_self {s : String} {n : Nat} (h : s.length ≤ n) : truncate s n = s := by
  rw [truncate, List.take_of_length_le (String.length_toList ▸ h), String.ofList_toList]

theorem truncate_ne_empty {s : String} {n : Nat} (hn : 0 < n) (hs : s ≠ "") : truncate s n ≠ "" := by
  intro h
  have hl : s.toList.take n = [] := by simpa [truncate] using h
  rcases List.take_eq_nil_iff.mp hl with h0 | h0
  · omega
  · exact hs (by simpa using h0)

namespace Props

theorem set_set_empty (k a b : String) : (empty.set k a).set k b = empty.set k b :=
  ext (by simp [set, empty, Members.insert])

end Props

namespace Kind

/-- The caption of a component of this kind, cut to its greatest length, and no other text. -/
def captionOnly (k : Kind) (p : Props) : Props :=
  match p.get? k.caption with
  | some s => Props.empty.set k.caption (truncate s Limits.propLength)
  | none => .empty

/-- The texts of a component of this kind with one caption; an input shows it as its placeholder too. -/
def texts (k : Kind) (s : String) : Props :=
  match k with
  | .input => (Props.empty.set k.caption s).set "placeholder" s
  | _ => Props.empty.set k.caption s

/-- The caption that a component with some texts gets. -/
def settledCaption (k : Kind) (p : Props) : String :=
  match p.get? k.caption with
  | some s => if s = "" then k.usualCaption else truncate s Limits.propLength
  | none => k.usualCaption

/-- A caption that is neither empty nor too long. -/
def Fits (s : String) : Prop := s ≠ "" ∧ s.length ≤ Limits.propLength

theorem usualCaption_fits (k : Kind) : Fits k.usualCaption := by
  cases k <;> exact ⟨by decide, by decide⟩

/-- Every component gets a caption that fits. -/
theorem settledCaption_fits (k : Kind) (p : Props) : Fits (k.settledCaption p) := by
  unfold settledCaption
  split
  · split
    · exact usualCaption_fits k
    · next hs => exact ⟨truncate_ne_empty (by decide) hs, length_truncate_le _ _⟩
  · exact usualCaption_fits k

theorem get?_caption_texts (k : Kind) (s : String) : (k.texts s).get? k.caption = some s := by
  cases k <;> simp [texts, Props.get?_set, caption]

theorem settledCaption_texts {k : Kind} {s : String} (h : Fits s) : k.settledCaption (k.texts s) = s := by
  rw [settledCaption, get?_caption_texts]
  simp only [h.1, if_false, truncate_eq_self h.2]

/-- A caption that is not empty is not filled in; the placeholder is a copy of it. -/
theorem completeProps_set {k : Kind} {s : String} (hs : s ≠ "") :
    k.completeProps (Props.empty.set k.caption s) = k.texts s := by
  cases k <;> simp [completeProps, texts, Props.fill, Props.get?_set, caption, hs]

/-- An empty caption is filled in as a missing one is. -/
theorem completeProps_empty (k : Kind) :
    k.completeProps .empty = k.texts k.usualCaption ∧
      k.completeProps (Props.empty.set k.caption "") = k.texts k.usualCaption := by
  constructor <;> cases k <;>
    simp [completeProps, texts, usualCaption, Props.fill, Props.get?_set, caption, Props.set_set_empty]

/-- Salvaged and completed, a component has the texts of its settled caption. -/
theorem completeProps_captionOnly (k : Kind) (p : Props) :
    k.completeProps (k.captionOnly p) = k.texts (k.settledCaption p) := by
  unfold captionOnly settledCaption
  cases p.get? k.caption with
  | none => exact (completeProps_empty k).1
  | some s =>
    by_cases hs : s = ""
    · subst hs
      have ht : truncate "" Limits.propLength = "" := truncate_eq_self (Nat.zero_le _)
      simpa [ht] using (completeProps_empty k).2
    · simpa [hs] using completeProps_set (k := k) (truncate_ne_empty (by decide) hs)

end Kind

/-! ## Salvage of a plan's value -/

namespace Component

theorem map_eq_self_iff {f : Component → Component} {cs : List Component} : cs.map f = cs ↔ ∀ c ∈ cs, f c = c := by
  simpa using List.map_inj_left (l := cs) (f := f) (g := id)

/-- The caption of a component is salvaged from its value. -/
theorem salvageProps_toJson (k : Kind) (p : Props) : salvageProps k (some p.toJson) = k.captionOnly p := by
  rw [salvageProps, Option.bind_some, Props.get?_toJson, Kind.captionOnly]
  cases p.get? k.caption <;> rfl

/-- The fallback stays when every component that is changed in the same way does not change it. -/
theorem map_orFallback {f : Component → Component} (hf : f fallback = fallback) (k : Kind) (cs : List Component) :
    (orFallback k cs).map f = orFallback k (cs.map f) := by
  unfold orFallback
  rw [List.isEmpty_map]
  split
  · rw [List.map_cons, List.map_nil, hf]
  · rfl

theorem orFallback_orFallback (k : Kind) (cs : List Component) :
    orFallback k (orFallback k cs) = orFallback k cs := by
  cases hk : k.isContainer <;> cases cs <;> simp [orFallback, hk]

/-- A component with the captions of at most `levels` levels below it. -/
def retain : Nat → Component → Component
  | 0, c => ⟨c.kind, c.kind.captionOnly c.props, orFallback c.kind []⟩
  | levels + 1, c => ⟨c.kind, c.kind.captionOnly c.props, orFallback c.kind (c.children.map (retain levels))⟩

/-- From the value of a component its captions are salvaged, down to the guard. -/
theorem salvageAt_toValue (levels : Nat) (c : Component) :
    salvageAt (levels + 1) c.toValue = some (retain levels c) := by
  induction levels generalizing c with
  | zero =>
    have hin : (c.children.map toValue).filterMap (salvageAt 0) = [] :=
      List.filterMap_eq_nil_iff.mpr fun _ _ => rfl
    rw [salvageAt]
    -- `hin` is about the values of the components, so these stay a list of their own
    simp [retain, Json.text?, Json.items?, salvageProps_toJson, -List.filterMap_map, hin]
  | succ n ih =>
    have hs : salvageAt (n + 1) ∘ toValue = some ∘ retain n := funext ih
    have hin : (c.children.map toValue).filterMap (salvageAt (n + 1)) = c.children.map (retain n) := by
      rw [List.filterMap_map, hs, List.filterMap_eq_map]
    rw [salvageAt]
    simp [retain, Json.text?, Json.items?, salvageProps_toJson, -List.filterMap_map, hin]

theorem retain_fallback (levels : Nat) : retain levels fallback = fallback := by
  cases levels <;> rfl

theorem captionOnly_salvageProps (k : Kind) (v : Option Json) :
    k.captionOnly (salvageProps k v) = salvageProps k v := by
  unfold salvageProps
  split
  · next s _ => simp [Kind.captionOnly, Props.get?_set, truncate_eq_self (length_truncate_le s _)]
  · simp [Kind.captionOnly]

/-- A salvaged component has a kind, the caption of its kind, and the salvaged components of some values. -/
theorem salvageAt_some {levels : Nat} {v : Json} {c : Component} (h : salvageAt (levels + 1) v = some c) :
    ∃ (k : Kind) (inside : List Json),
      c = ⟨k, salvageProps k (v.get? "props"), orFallback k (inside.filterMap (salvageAt levels))⟩ := by
  rw [salvageAt] at h
  split at h
  · cases h
  · next k _ => exact ⟨k, _, (Option.some.inj h).symm⟩

theorem retain_of_salvageAt {levels : Nat} {v : Json} {c : Component} (h : salvageAt (levels + 1) v = some c) :
    retain levels c = c := by
  induction levels generalizing v c with
  | zero =>
    obtain ⟨k, inside, rfl⟩ := salvageAt_some h
    have hn : inside.filterMap (salvageAt 0) = [] := List.filterMap_eq_nil_iff.mpr fun _ _ => rfl
    rw [retain, captionOnly_salvageProps, hn]
  | succ n ih =>
    obtain ⟨k, inside, rfl⟩ := salvageAt_some h
    have hc : (inside.filterMap (salvageAt (n + 1))).map (retain n) = inside.filterMap (salvageAt (n + 1)) := by
      refine map_eq_self_iff.mpr fun d hd => ?_
      obtain ⟨w, _, hw⟩ := List.mem_filterMap.mp hd
      exact ih hw
    rw [retain, captionOnly_salvageProps, map_orFallback (retain_fallback n), orFallback_orFallback, hc]

/-! ## One walk -/

theorem complete_fallback : complete fallback = fallback := rfl

theorem crop_fallback (levels : Nat) : crop levels fallback = fallback := by
  cases levels <;> rfl

/-- A component refined in one walk, which stands `levels` levels above the guard and `room` levels above the greatest
depth. -/
def settle : Nat → Nat → Component → Component
  | _, 0, c => ⟨c.kind, c.kind.texts (c.kind.settledCaption c.props), []⟩
  | 0, _ + 1, c => ⟨c.kind, c.kind.texts (c.kind.settledCaption c.props), orFallback c.kind []⟩
  | levels + 1, room + 1, c =>
    ⟨c.kind, c.kind.texts (c.kind.settledCaption c.props), orFallback c.kind (c.children.map (settle levels room))⟩

/-- Completing and cropping what is inside a component leaves the fallback alone. -/
theorem map_crop_completeAll_orFallback (room : Nat) (k : Kind) (cs : List Component) :
    (completeAll (orFallback k cs)).map (crop room) = orFallback k ((cs.map complete).map (crop room)) := by
  rw [completeAll_eq_map, map_orFallback complete_fallback, map_orFallback (crop_fallback room)]

/-- Salvaging, completing and cropping a component is one walk. -/
theorem crop_complete_retain (levels room : Nat) (c : Component) :
    crop room (complete (retain levels c)) = settle levels room c := by
  induction levels generalizing room c with
  | zero =>
    cases room with
    | zero => simp [retain, complete, crop, settle, Kind.completeProps_captionOnly]
    | succ m => simp [retain, complete, crop, settle, Kind.completeProps_captionOnly, map_crop_completeAll_orFallback]
  | succ n ih =>
    cases room with
    | zero => simp [retain, complete, crop, settle, Kind.completeProps_captionOnly]
    | succ m =>
      have hin : ((c.children.map (retain n)).map complete).map (crop m) = c.children.map (settle n m) := by
        rw [List.map_map, List.map_map]
        exact List.map_congr_left fun d _ => ih m d
      simp only [retain, complete, crop, settle, Kind.completeProps_captionOnly, map_crop_completeAll_orFallback, hin]

/-- Without a bound there is room for the fallbacks one level below the guard. -/
theorem complete_retain (levels : Nat) (c : Component) : complete (retain levels c) = settle levels (levels + 1) c := by
  induction levels generalizing c with
  | zero =>
    simp only [retain, complete, settle, Kind.completeProps_captionOnly, completeAll_eq_map,
      map_orFallback complete_fallback, List.map_nil]
  | succ n ih =>
    have hin : (c.children.map (retain n)).map complete = c.children.map (settle n (n + 1)) := by
      rw [List.map_map]
      exact List.map_congr_left fun d _ => ih d
    simp only [retain, complete, settle, Kind.completeProps_captionOnly, completeAll_eq_map,
      map_orFallback complete_fallback, hin]

theorem settle_fallback (levels room : Nat) : settle levels room fallback = fallback := by
  rw [← crop_complete_retain, retain_fallback, complete_fallback, crop_fallback]

@[simp] theorem settle_kind (levels room : Nat) (c : Component) : (settle levels room c).kind = c.kind := by
  cases levels <;> cases room <;> rfl

/-- A walk settles texts, at any depth in the same way. -/
@[simp] theorem settle_props (levels room : Nat) (c : Component) :
    (settle levels room c).props = c.kind.texts (c.kind.settledCaption c.props) := by
  cases levels <;> cases room <;> rfl

theorem texts_settledCaption_texts (k : Kind) (p : Props) :
    k.texts (k.settledCaption (k.texts (k.settledCaption p))) = k.texts (k.settledCaption p) := by
  rw [Kind.settledCaption_texts (Kind.settledCaption_fits k p)]

/-- **A walk under a tighter bound does not see an earlier walk under a looser one.** Where the earlier walk put a
fallback, the later one finds it or puts it again; what the earlier one cut, the later one cuts too. -/
theorem settle_settle (levels : Nat) {room m : Nat} (h : m ≤ room) (c : Component) :
    settle levels m (settle levels room c) = settle levels m c := by
  induction levels generalizing room m c with
  | zero =>
    cases m with
    | zero => simp [settle, texts_settledCaption_texts]
    | succ m => simp [settle, texts_settledCaption_texts]
  | succ n ih =>
    cases m with
    | zero => simp [settle, texts_settledCaption_texts]
    | succ m =>
      obtain ⟨r, rfl⟩ : ∃ r, room = r + 1 := ⟨room - 1, by omega⟩
      have hin : (c.children.map (settle n r)).map (settle n m) = c.children.map (settle n m) := by
        rw [List.map_map]
        exact List.map_congr_left fun d _ => ih (by omega) d
      simp only [settle, texts_settledCaption_texts, map_orFallback (settle_fallback n m), orFallback_orFallback, hin]

end Component

namespace Plan

/-- A plan's value is salvaged to the plan with its captions, down to the guard. -/
theorem salvage_toValue (p : Plan) :
    salvage p.toValue = { p with components := p.components.map (Component.retain Limits.salvageDepth) } := by
  have hs : Component.salvage ∘ Component.toValue = some ∘ Component.retain Limits.salvageDepth :=
    funext (Component.salvageAt_toValue Limits.salvageDepth)
  have hin : (p.components.map Component.toValue).filterMap Component.salvage =
      p.components.map (Component.retain Limits.salvageDepth) := by
    rw [List.filterMap_map, hs, List.filterMap_eq_map]
  simp [salvage, Json.text?, Json.items?, -List.filterMap_map, hin]

/-- **Refining is one walk** over as many components as the limits allow. -/
theorem refine_eq (p : Plan) (l : Limits) :
    p.refine l = { p with
      components := (p.components.take l.maxComponents).map (Component.settle Limits.salvageDepth l.maxDepth) } := by
  rw [refine, restore, salvage_toValue, complete, crop]
  simp only [Component.completeAll_eq_map, ← List.map_take, List.map_map]
  congr 1
  exact List.map_congr_left fun c _ => Component.crop_complete_retain _ _ c

theorem salvage_toValue_salvage (v : Json) : salvage (salvage v).toValue = salvage v := by
  have hc : (salvage v).components.map (Component.retain Limits.salvageDepth) = (salvage v).components := by
    refine Component.map_eq_self_iff.mpr fun c hc => ?_
    obtain ⟨w, _, hw⟩ := List.mem_filterMap.mp hc
    exact Component.retain_of_salvageAt hw
  rw [salvage_toValue, hc]

/-- Restoring a value is refining the plan that it is salvaged to. -/
theorem restore_eq_refine (v : Json) (l : Limits) : restore v l = (salvage v).refine l := by
  rw [refine, restore, restore, salvage_toValue_salvage]

/-- Refining again under limits that are no looser gives what refining once gives. -/
theorem refine_refine (p : Plan) {l₁ l₂ : Limits} (hd : l₂.maxDepth ≤ l₁.maxDepth)
    (hc : l₂.maxComponents ≤ l₁.maxComponents) : (p.refine l₁).refine l₂ = p.refine l₂ := by
  simp only [refine_eq, ← List.map_take, List.take_take, Nat.min_eq_left hc, List.map_map]
  congr 1
  exact List.map_congr_left fun c _ => Component.settle_settle _ hd c

/-- Salvaging and completing a plan is one walk, with room for the fallbacks below the guard. -/
theorem complete_salvage_eq (p : Plan) : (salvage p.toValue).complete = { p with
    components := p.components.map (Component.settle Limits.salvageDepth (Limits.salvageDepth + 1)) } := by
  rw [salvage_toValue, complete]
  simp only [Component.completeAll_eq_map, List.map_map]
  congr 1
  exact List.map_congr_left fun c _ => Component.complete_retain _ c

/-- Salvaging and completing a plan again changes nothing. -/
theorem complete_salvage_toValue (v : Json) :
    (salvage (salvage v).complete.toValue).complete = (salvage v).complete := by
  rw [← salvage_toValue_salvage v, complete_salvage_eq (salvage v), complete_salvage_eq]
  simp only [List.map_map]
  congr 1
  exact List.map_congr_left fun c _ => Component.settle_settle _ (Nat.le_refl _) c

/-! ## Absorption -/

/-- **Refining absorbs earlier, looser refining.** Without bounds, salvaging and completing the plan of any value again
changes nothing; under one and the same limits, refining again changes nothing. -/
theorem refine_absorbs :
    (∀ (p : Plan) (l₁ l₂ : Limits), l₂.maxDepth ≤ l₁.maxDepth → l₂.maxComponents ≤ l₁.maxComponents →
      (p.refine l₁).refine l₂ = p.refine l₂) ∧
    (∀ v : Json, (salvage (salvage v).complete.toValue).complete = (salvage v).complete) ∧
    (∀ (p : Plan) (l : Limits), (p.refine l).refine l = p.refine l) :=
  ⟨fun p _ _ hd hc => refine_refine p hd hc, complete_salvage_toValue,
    fun p _ => refine_refine p (Nat.le_refl _) (Nat.le_refl _)⟩

/-- A card without a title, whose fallback comes with the usual limits and goes again at depth 0. -/
theorem refine_absorbs_fallback :
    ({ maxDepth := 0, maxComponents := 1 } : Limits).maxDepth ≤ ({} : Limits).maxDepth ∧
    ({ maxDepth := 0, maxComponents := 1 } : Limits).maxComponents ≤ ({} : Limits).maxComponents ∧
    (⟨"default", [⟨.card, .empty, []⟩]⟩ : Plan).refine {} =
      ⟨"default", [Component.card "Card" [Component.button "Action"]]⟩ ∧
    ((⟨"default", [⟨.card, .empty, []⟩]⟩ : Plan).refine {}).refine { maxDepth := 0, maxComponents := 1 } =
      ⟨"default", [Component.card "Card"]⟩ :=
  ⟨by decide, by decide, rfl,
    (refine_absorbs.1 ⟨"default", [⟨.card, .empty, []⟩]⟩ {} { maxDepth := 0, maxComponents := 1 } (by decide)
      (by decide)).trans rfl⟩

/-- Limits that are looser than the earlier ones do not bring back what those cut. -/
example : (((⟨"default", [.card "A" [.button "B", .button "C"]]⟩ : Plan).refine { maxDepth := 0 }).refine {}).count ≠
    ((⟨"default", [.card "A" [.button "B", .button "C"]]⟩ : Plan).refine {}).count := by decide

end Plan

end Wireframe
