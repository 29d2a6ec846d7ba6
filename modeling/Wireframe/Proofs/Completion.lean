import Wireframe.Plan.Complete
import Wireframe.Proofs.Cropping

/-!
# What completing keeps

A completed plan has the tree of the plan, and every text that was not missing.

* **One text** (`Props.fill_of_shows`, `Props.shows_fill`): filling in leaves a text alone that is shown, and shows one
  that was missing.
* **The texts of a component** (`Kind.completeProps_of_shows`, `Kind.shows_completeProps`): all that its kind shows are
  there afterwards, so filling them in again changes nothing. The placeholder of an input comes last, since it is a copy
  of the label.
* **Trees** (`Component.complete_complete`, `Component.crop_complete`, `Component.follow?_complete`): texts are filled in
  where they stand, so it does not matter what is cropped, before or after.
* **Plans** (`Plan.complete_keeps`).
-/

namespace Wireframe

/-! ## Texts -/

namespace Props

variable {p : Props} {key k s : String}

/-- There is a text of a key that is not empty. -/
def Shows (p : Props) (key : String) : Prop := ∃ s, p.get? key = some s ∧ s ≠ ""

/-- A text is missing when it is not shown. -/
theorem all_isEmpty_iff : (p.get? key).all String.isEmpty = true ↔ ¬ p.Shows key := by
  rw [Shows]
  cases p.get? key <;> simp

theorem fill_of_shows (h : p.Shows key) (value : String) : p.fill key value = p := by
  rw [fill, if_neg (mt all_isEmpty_iff.mp (not_not.mpr h))]

theorem fill_of_not_shows (h : ¬ p.Shows key) (value : String) : p.fill key value = p.set key value := by
  rw [fill, if_pos (all_isEmpty_iff.mpr h)]

/-- After it was filled in with a text that is not empty, a text is shown. -/
theorem shows_fill (p : Props) (key : String) {value : String} (hvalue : value ≠ "") : (p.fill key value).Shows key := by
  by_cases h : p.Shows key
  · rwa [fill_of_shows h]
  · exact ⟨value, by rw [fill_of_not_shows h, get?_set, if_pos rfl], hvalue⟩

theorem get?_fill_of_ne (h : k ≠ key) (value : String) : (p.fill key value).get? k = p.get? k := by
  rw [fill]
  split
  · rw [get?_set, if_neg h]
  · rfl

/-- No text that is shown is changed, be it of the key that is filled in or of another. -/
theorem get?_fill_of_some (h : p.get? k = some s) (hs : s ≠ "") (key value : String) :
    (p.fill key value).get? k = some s := by
  by_cases hk : k = key
  · subst hk
    rw [fill_of_shows ⟨s, h, hs⟩, h]
  · rw [get?_fill_of_ne hk, h]

theorem Shows.fill (h : p.Shows k) (key value : String) : (p.fill key value).Shows k := by
  obtain ⟨s, hget, hs⟩ := h
  exact ⟨s, get?_fill_of_some hget hs key value, hs⟩

theorem Shows.getD_ne (h : p.Shows key) : (p.get? key).getD "" ≠ "" := by
  obtain ⟨s, hget, hs⟩ := h
  rwa [hget]

end Props

namespace Kind

variable {k : Kind} {p : Props} {key s : String}

def shownKeys : Kind → List String
  | card => ["title"]
  | input => ["label", "placeholder"]
  | button => ["label"]
  | modal => ["title"]

theorem usualCaption_ne (k : Kind) : k.usualCaption ≠ "" := by
  cases k <;> decide

theorem completeProps_input (p : Props) : input.completeProps p =
    (p.fill "label" "Input").fill "placeholder" (((p.fill "label" "Input").get? "label").getD "") := rfl

/-- The one text of a component that is no input. -/
theorem completeProps_of_ne (h : k ≠ .input) (p : Props) : k.completeProps p = p.fill k.caption k.usualCaption := by
  cases k with
  | input => exact absurd rfl h
  | card | button | modal => rfl

theorem shownKeys_of_ne (h : k ≠ .input) : k.shownKeys = [k.caption] := by
  cases k with
  | input => exact absurd rfl h
  | card | button | modal => rfl

theorem get?_completeProps_of_some (h : p.get? key = some s) (hs : s ≠ "") (k : Kind) :
    (k.completeProps p).get? key = some s := by
  by_cases hk : k = .input
  · subst hk
    rw [completeProps_input]
    exact Props.get?_fill_of_some (Props.get?_fill_of_some h hs _ _) hs _ _
  · rw [completeProps_of_ne hk]
    exact Props.get?_fill_of_some h hs _ _

/-- A text that the kind does not show stays as it is, or missing. -/
theorem get?_completeProps_of_not_mem (h : key ∉ k.shownKeys) (p : Props) :
    (k.completeProps p).get? key = p.get? key := by
  by_cases hk : k = .input
  · subst hk
    have hkeys : key ≠ "label" ∧ key ≠ "placeholder" := by simpa [shownKeys] using h
    rw [completeProps_input, Props.get?_fill_of_ne hkeys.2, Props.get?_fill_of_ne hkeys.1]
  · rw [shownKeys_of_ne hk, List.mem_singleton] at h
    rw [completeProps_of_ne hk, Props.get?_fill_of_ne h]

/-- **All that the kind shows is there afterwards.** -/
theorem shows_completeProps (h : key ∈ k.shownKeys) (p : Props) : (k.completeProps p).Shows key := by
  by_cases hk : k = .input
  · subst hk
    have hlabel : (p.fill "label" "Input").Shows "label" := Props.shows_fill p "label" (by decide)
    rw [completeProps_input]
    rw [shownKeys, List.mem_cons, List.mem_singleton] at h
    rcases h with rfl | rfl
    · exact hlabel.fill _ _
    · exact Props.shows_fill _ _ hlabel.getD_ne
  · rw [shownKeys_of_ne hk, List.mem_singleton] at h
    subst h
    rw [completeProps_of_ne hk]
    exact Props.shows_fill p k.caption k.usualCaption_ne

theorem completeProps_of_shows (h : ∀ key ∈ k.shownKeys, p.Shows key) : k.completeProps p = p := by
  by_cases hk : k = .input
  · subst hk
    have hlabel := h "label" (by decide)
    have hplaceholder := h "placeholder" (by decide)
    rw [completeProps_input, Props.fill_of_shows hlabel, Props.fill_of_shows hplaceholder]
  · rw [completeProps_of_ne hk, Props.fill_of_shows (h _ (by simp [shownKeys_of_ne hk]))]

theorem completeProps_completeProps (k : Kind) (p : Props) :
    k.completeProps (k.completeProps p) = k.completeProps p :=
  completeProps_of_shows fun _ h => shows_completeProps h p

end Kind

/-! ## Trees -/

namespace Component

theorem complete_eq (c : Component) :
    c.complete = ⟨c.kind, c.kind.completeProps c.props, c.children.map complete⟩ := by
  obtain ⟨k, p, cs⟩ := c
  rw [complete, completeAll_eq_map]

theorem complete_complete (c : Component) : c.complete.complete = c.complete := by
  induction c using Component.induct with
  | mk kind props children ih =>
    rw [complete_eq ⟨kind, props, children⟩, complete_eq, Kind.completeProps_completeProps, List.map_map]
    exact congrArg _ (List.map_congr_left ih)

/-- Texts are filled in level by level, so what is cropped may be dropped before or after. -/
theorem crop_complete (levels : Nat) (c : Component) : crop levels c.complete = (crop levels c).complete := by
  induction levels generalizing c with
  | zero => rw [complete_eq, complete_eq (crop 0 c), crop, crop, List.map_nil]
  | succ n ih =>
    have hinside : (c.children.map complete).map (crop n) = (c.children.map (crop n)).map complete := by
      rw [List.map_map, List.map_map]
      exact List.map_congr_left fun d _ => ih d
    rw [complete_eq, complete_eq (crop (n + 1) c), crop, crop, hinside]

/-- A way into a completed component leads to what it led to before, completed. -/
theorem follow?_complete (w : Way) (c : Component) : follow? w c.complete = (follow? w c).map complete := by
  induction w generalizing c with
  | nil => rfl
  | cons i w ih =>
    rw [follow?, follow?, complete_eq, List.getElem?_map, Option.bind_map, Option.map_bind]
    exact congrArg _ (funext ih)

end Component

namespace Plan

theorem components_complete (p : Plan) : p.complete.components = p.components.map Component.complete :=
  Component.completeAll_eq_map p.components

/-- A way into a completed plan leads to what it led to before, completed. -/
theorem at?_complete (p : Plan) (w : Way) : p.complete.at? w = (p.at? w).map Component.complete := by
  cases w with
  | nil => rfl
  | cons i w =>
    rw [at?, at?, components_complete, List.getElem?_map, Option.bind_map, Option.map_bind]
    exact congrArg _ (funext (Component.follow?_complete w))

theorem complete_complete (p : Plan) : p.complete.complete = p.complete := by
  have hcomponents : p.complete.complete.components = p.complete.components := by
    rw [components_complete, components_complete, List.map_map]
    exact List.map_congr_left fun c _ => c.complete_complete
  exact congrArg (Plan.mk p.layout) hcomponents

theorem crop_complete (p : Plan) (l : Limits) : p.complete.crop l = (p.crop l).complete := by
  have hcomponents : (p.complete.crop l).components = (p.crop l).complete.components := by
    rw [components_complete, crop, crop, components_complete, ← List.map_take, List.map_map, List.map_map]
    exact List.map_congr_left fun c _ => c.crop_complete l.maxDepth
  exact congrArg (Plan.mk p.layout) hcomponents

/-- **Completing keeps all but what is missing.** Completing a plan again changes nothing, and cropping may come before
or after. The layout, the ways into the plan and the kinds at them stay. No text that is not empty changes, nor any text
that the kind of its component does not show; of those that it shows none is missing or empty afterwards. -/
theorem complete_keeps (p : Plan) :
    p.complete.complete = p.complete ∧
    (∀ l, p.complete.crop l = (p.crop l).complete) ∧
    p.complete.layout = p.layout ∧
    (∀ w, (p.complete.at? w).map Component.kind = (p.at? w).map Component.kind) ∧
    ∀ w c d, p.at? w = some c → p.complete.at? w = some d →
      (∀ key s, c.props.get? key = some s → s ≠ "" → d.props.get? key = some s) ∧
      (∀ key, key ∉ c.kind.shownKeys → d.props.get? key = c.props.get? key) ∧
      ∀ key ∈ c.kind.shownKeys, ∃ s, d.props.get? key = some s ∧ s ≠ "" := by
  refine ⟨p.complete_complete, p.crop_complete, rfl, fun w => ?_, fun w c d hc hd => ?_⟩
  · have hkind : Component.kind ∘ Component.complete = Component.kind :=
      funext fun c => by rw [Function.comp_apply, Component.complete_eq]
    rw [at?_complete, Option.map_map, hkind]
  · rw [at?_complete, hc, Option.map_some, Component.complete_eq] at hd
    cases hd
    exact ⟨fun key s h hs => Kind.get?_completeProps_of_some h hs c.kind,
      fun key h => Kind.get?_completeProps_of_not_mem h c.props,
      fun key h => Kind.shows_completeProps h c.props⟩

/-- A card with an empty title and an empty note, and an input in it with a hint and nothing else. -/
def unfinished : Plan :=
  ⟨"a", [⟨.card, (Props.empty.set "title" "").set "note" "", [⟨.input, Props.empty.set "hint" "Full name", []⟩]⟩]⟩

/-- The empty note stays, since a card does not show it, and so does the hint; the input gets both of its texts. -/
theorem complete_keeps_unfinished : ∃ card input,
    unfinished.complete.at? [0] = some card ∧ unfinished.complete.at? [0, 0] = some input ∧
    card.props.get? "note" = some "" ∧ input.props.get? "hint" = some "Full name" ∧
    (∃ s, card.props.get? "title" = some s ∧ s ≠ "") ∧ ∃ s, input.props.get? "placeholder" = some s ∧ s ≠ "" := by
  obtain ⟨-, -, -, -, htexts⟩ := complete_keeps unfinished
  obtain ⟨-, hcard, hshown⟩ := htexts [0] _ _ rfl rfl
  obtain ⟨hinput, -, hshown'⟩ := htexts [0, 0] _ _ rfl rfl
  exact ⟨_, _, rfl, rfl, hcard "note" (by decide), hinput "hint" "Full name" rfl (by decide),
    hshown "title" (by decide), hshown' "placeholder" (by decide)⟩

end Plan

end Wireframe
