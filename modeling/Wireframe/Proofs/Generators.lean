import Wireframe.Plan.Explanation
import Wireframe.Proofs.MarkupReader

/-!
# What explanations and markup tell of a plan

Both generators walk the components of a plan in the same order (`Plan.places`), and each leaves some of them out.

* **Places** (`Place`): a component with the components that it stands inside.
* **Explanations** (`Plan.explanationLines_eq`, `Plan.told`): a line for each place that is not too deep, whatever it
  stands inside.
* **Markup** (`Component.spots_visible`): the places inside containers only, however deep.
* **Agreement** (`Plan.explained_iff_shown`): of a plan from the pipeline that is not too deep, an explanation tells the
  same kinds at the same depths as markup if and only if no input and no button holds anything.
-/

namespace Wireframe

/-! ## Places -/

/-- A component and what it stands inside, the nearest first. -/
structure Place where
  around : List Component
  component : Component

namespace Place

def depth (x : Place) : Nat := x.around.length

/-- A place inside containers only. -/
def contained (x : Place) : Bool := x.around.all (·.kind.isContainer)

def spot (x : Place) : Kind × Nat := (x.component.kind, x.depth)

def line (x : Place) : List Char := Component.outlineLine x.depth x.component

end Place

namespace Component

mutual

/-- The places in a component that stands inside others: its own, and then those of what it holds. -/
def places (around : List Component) : Component → List Place
  | ⟨k, p, cs⟩ => ⟨around, ⟨k, p, cs⟩⟩ :: placesAll (⟨k, p, cs⟩ :: around) cs

def placesAll (around : List Component) : List Component → List Place
  | [] => []
  | c :: cs => places around c ++ placesAll around cs

end

theorem placesAll_eq_flatMap (around cs : List Component) : placesAll around cs = cs.flatMap (places around) := by
  induction cs with
  | nil => rfl
  | cons c cs ih => rw [placesAll, List.flatMap_cons, ih]

theorem places_eq (around : List Component) (c : Component) :
    places around c = ⟨around, c⟩ :: c.children.flatMap (places (c :: around)) := by
  obtain ⟨k, p, cs⟩ := c
  rw [places, placesAll_eq_flatMap]

variable {around : List Component} {c d : Component} {x : Place}

/-- A place in a component is its own or in something that it holds. -/
theorem mem_places : x ∈ places around c ↔ x = ⟨around, c⟩ ∨ ∃ d ∈ c.children, x ∈ places (c :: around) d := by
  rw [places_eq, List.mem_cons, List.mem_flatMap]

/-- Whatever a component stands inside, the places in it stand inside too. -/
theorem suffix_of_mem_places (c : Component) :
    ∀ {around : List Component}, x ∈ places around c → around <:+ x.around := by
  induction c using Component.induct with
  | mk kind props children ih =>
    intro around hx
    rcases mem_places.mp hx with rfl | ⟨d, hd, hx⟩
    · exact List.suffix_refl _
    · exact (List.suffix_cons _ _).trans (ih d hd hx)

theorem depth_le_of_mem_places (c : Component) :
    ∀ {around : List Component}, x ∈ places around c → x.depth ≤ around.length + c.depth := by
  induction c using Component.induct with
  | mk kind props children ih =>
    intro around hx
    rcases mem_places.mp hx with rfl | ⟨d, hd, hx⟩
    · exact Nat.le_add_right _ _
    · have hle := ih d hd hx
      have hlt : d.depth < height children := depth_lt_height hd
      rw [List.length_cons] at hle
      rw [depth]
      omega

/-- What a component at a place holds is at a place as well. -/
theorem mem_places_inside (e : Component) : ∀ {base : List Component}, ⟨around, c⟩ ∈ places base e → d ∈ c.children →
    ⟨c :: around, d⟩ ∈ places base e := by
  -- by induction on the component that is walked, not on the one at the place
  induction e using Component.induct with
  | mk kind props children ih =>
    intro base hc hd
    refine mem_places.mpr (.inr ?_)
    rcases mem_places.mp hc with h | ⟨f, hf, hc⟩
    · cases h
      exact ⟨d, hd, mem_places.mpr (.inl rfl)⟩
    · exact ⟨f, hf, ih f hf hc hd⟩

end Component

namespace Plan

/-- The places in a plan, each before those inside it. -/
def places (p : Plan) : List Place := Component.placesAll [] p.components

variable {p : Plan} {around : List Component} {c : Component}

/-- The places in a component of a plan are those where components of the plan stand. -/
theorem Stands.of_mem_places {x : Place} (c : Component) :
    ∀ {around : List Component}, p.Stands around c → x ∈ Component.places around c → p.Stands x.around x.component := by
  induction c using Component.induct with
  | mk kind props children ih =>
    intro around hs hx
    rcases Component.mem_places.mp hx with rfl | ⟨d, hd, hx⟩
    · exact hs
    · exact ih d hd (hs.inside hd) hx

/-- The places in a plan are exactly those where its components stand. -/
theorem mem_places_iff : ⟨around, c⟩ ∈ p.places ↔ p.Stands around c := by
  rw [places, Component.placesAll_eq_flatMap, List.mem_flatMap]
  constructor
  · rintro ⟨d, hd, hx⟩
    exact Stands.of_mem_places d (.top hd) hx
  · intro hs
    induction hs with
    | @top c hc => exact ⟨c, hc, Component.mem_places.mpr (.inl rfl)⟩
    | inside _ hd ih =>
      obtain ⟨e, he, hx⟩ := ih
      exact ⟨e, he, Component.mem_places_inside e hx hd⟩

/-- All places are inside containers only when nothing stands inside anything else. -/
theorem all_contained_iff : (∀ x ∈ p.places, x.contained = true) ↔
    ∀ around c, p.Stands around c → c.kind.isContainer = false → c.children = [] := by
  constructor
  · intro h around c hs hk
    refine List.eq_nil_iff_forall_not_mem.mpr fun d hd => ?_
    have hall := h _ (mem_places_iff.mpr (hs.inside hd))
    rw [Place.contained, List.all_cons, hk] at hall
    cases hall
  · rintro h ⟨around, c⟩ hx
    have hs := mem_places_iff.mp hx
    clear hx
    induction hs with
    | top _ => rfl
    | @inside around c d hs hd ih =>
      -- what holds something is a container
      have hk : c.kind.isContainer = true := by
        by_contra hk
        rw [h around c hs (Bool.eq_false_iff.mpr hk)] at hd
        cases hd
      simp only [Place.contained, List.all_cons, hk, Bool.true_and] at ih ⊢
      exact ih

end Plan

/-! ## Explanations -/

namespace Component

/-- The lines of a component are those of the places in it that its levels reach. -/
theorem outline_eq (c : Component) : ∀ (levels : Nat) (around : List Component), outline levels around.length c =
    ((places around c).filter fun x => x.depth ≤ around.length + levels).map Place.line := by
  induction c using Component.induct with
  | mk kind props children ih =>
    intro levels around
    rw [places_eq, List.filter_cons_of_pos (by simp [Place.depth]), List.map_cons]
    cases levels with
    | zero =>
      -- whatever is inside is deeper than the component itself
      have hnone : (children.flatMap (places (⟨kind, props, children⟩ :: around))).filter
          (fun x => x.depth ≤ around.length + 0) = [] := by
        refine List.filter_eq_nil_iff.mpr fun x hx => ?_
        obtain ⟨d, _, hx⟩ := List.mem_flatMap.mp hx
        have hle := (suffix_of_mem_places d hx).length_le
        rw [List.length_cons] at hle
        rw [decide_eq_true_eq, Place.depth]
        omega
      rw [hnone]
      rfl
    | succ levels =>
      rw [outline, List.filter_flatMap, List.map_flatMap]
      refine congrArg _ (List.flatMap_congr fun d hd => ?_)
      have hd := ih d hd levels (⟨kind, props, children⟩ :: around)
      rw [List.length_cons, Nat.add_assoc, Nat.add_comm 1 levels] at hd
      exact hd

end Component

namespace Plan

/-- The lines of an explanation before those of components. -/
def explanationHead (prompt : String) (p : Plan) : List (List Char) :=
  ["User intent: \"".toList ++ prompt.toList ++ ['"'], "Layout: ".toList ++ p.layout.toList, "Components:".toList]

/-- An explanation has a line for each place that is not too deep, in their order. -/
theorem explanationLines_eq (prompt : String) (p : Plan) (l : Limits) : explanationLines prompt p l =
    explanationHead prompt p ++ (p.places.filter fun x => x.depth ≤ l.explainDepth).map Place.line := by
  have houtline : p.components.flatMap (Component.outline l.explainDepth 0) =
      (p.places.filter fun x => x.depth ≤ l.explainDepth).map Place.line := by
    rw [places, Component.placesAll_eq_flatMap, List.filter_flatMap, List.map_flatMap]
    refine List.flatMap_congr fun c _ => ?_
    have hc := c.outline_eq l.explainDepth []
    rwa [List.length_nil, Nat.zero_add] at hc
  rw [explanationLines, houtline, explanationHead]

theorem filter_depth_places {p : Plan} {bound : Nat} (h : ∀ n, p.maxDepth = some n → n ≤ bound) :
    p.places.filter (fun x => x.depth ≤ bound) = p.places := by
  refine List.filter_eq_self.mpr fun x hx => decide_eq_true ?_
  rw [places, Component.placesAll_eq_flatMap] at hx
  obtain ⟨c, hc, hx⟩ := List.mem_flatMap.mp hx
  have hle := c.depth_le_of_mem_places hx
  have hbound := depth_le_of_mem h hc
  rw [List.length_nil, Nat.zero_add] at hle
  omega

/-- The places that an explanation tells of. -/
def told (p : Plan) (l : Limits) : List Place := p.places.filter fun x => x.depth ≤ l.explainDepth

/-- An explanation that is not too long is its lines, joined. -/
theorem toList_of_explain_ok {prompt text : String} {p : Plan} {l : Limits} (h : explain prompt p l = .ok text) :
    text.toList = Text.joinWith ['\n'] (explanationHead prompt p ++ (p.told l).map Place.line) := by
  rw [explain] at h
  split at h
  · cases h
  · cases h
    rw [String.toList_ofList, explanationText, explanationLines_eq, told]

theorem toList_of_explain {prompt text : String} {p : Plan} {l : Limits} (h : explain prompt p l = .ok text)
    (hdepth : ∀ n, p.maxDepth = some n → n ≤ l.explainDepth) :
    text.toList = Text.joinWith ['\n'] (explanationHead prompt p ++ p.places.map Place.line) := by
  rw [toList_of_explain_ok h, told, filter_depth_places hdepth]

end Plan

/-! ## Markup -/

namespace Visible

mutual

/-- The kinds and depths in a visible component: its own, and then those of what it shows inside. -/
def spots (depth : Nat) : Visible → List (Kind × Nat)
  | ⟨k, _, vs⟩ => (k, depth) :: spotsAll (depth + 1) vs

def spotsAll (depth : Nat) : List Visible → List (Kind × Nat)
  | [] => []
  | v :: vs => spots depth v ++ spotsAll depth vs

end

end Visible

namespace Component

/-- Nothing inside a component that is no container is inside containers only. -/
theorem filter_contained_of_leaf {around : List Component} {c : Component} (hk : c.kind.isContainer = false)
    (cs : List Component) : (placesAll (c :: around) cs).filter Place.contained = [] := by
  refine List.filter_eq_nil_iff.mpr fun x hx => ?_
  rw [placesAll_eq_flatMap] at hx
  obtain ⟨d, _, hx⟩ := List.mem_flatMap.mp hx
  obtain ⟨inner, hinner⟩ := d.suffix_of_mem_places hx
  simp [Place.contained, ← hinner, hk]

mutual

/-- What markup shows of a component inside containers is what is inside containers only. -/
theorem spots_visible {around : List Component} (h : around.all (·.kind.isContainer) = true) : (c : Component) →
    c.visible.spots around.length = ((places around c).filter Place.contained).map Place.spot
  | ⟨k, p, cs⟩ => by
    have hself : Place.contained ⟨around, ⟨k, p, cs⟩⟩ = true := h
    rw [visible, Visible.spots, places, List.filter_cons_of_pos hself, List.map_cons]
    refine congrArg _ ?_
    -- below a component that is no container markup shows nothing, and no place there is contained
    cases hk : k.isContainer with
    | true =>
      have hinner : ((⟨k, p, cs⟩ : Component) :: around).all (·.kind.isContainer) = true := by
        simp only [List.all_cons, hk, h, Bool.and_self]
      exact spotsAll_visibleAll hinner cs
    | false =>
      rw [filter_contained_of_leaf hk cs]
      rfl

theorem spotsAll_visibleAll {around : List Component} (h : around.all (·.kind.isContainer) = true) :
    (cs : List Component) → Visible.spotsAll around.length (visibleAll cs) =
      ((placesAll around cs).filter Place.contained).map Place.spot
  | [] => rfl
  | c :: cs => by
    rw [visibleAll, Visible.spotsAll, placesAll, List.filter_append, List.map_append, spots_visible h c,
      spotsAll_visibleAll h cs]

end

end Component

namespace Plan

theorem spotsAll_visible (p : Plan) :
    Visible.spotsAll 0 p.visible = (p.places.filter Place.contained).map Place.spot :=
  @Component.spotsAll_visibleAll [] rfl p.components

/-! ## Agreement -/

/-- The plans that the pipeline gives. -/
inductive Piped : Plan → Prop
  | accepted {v : Json} {l : Limits} {p : Plan} : accept v l = .ok p → Piped p
  | recovered {v : Json} {l : Limits} {p : Plan} : recover v l = .ok p → Piped p
  | refined (p : Plan) (l : Limits) : Piped (p.refine l)
  | answered {read : String → Classification} {r : Request} {l : Limits} {a : Answer} :
      r.runBy read l = .ok a → Piped a.plan

theorem Piped.canonical {p : Plan} (h : p.Piped) : ∃ l, Canonical l p := by
  cases h with
  | @accepted v l _ h => exact ⟨l, eq_restore_of_accept h ▸ canonical_restore v l⟩
  | @recovered v l _ h => exact ⟨l, eq_restore_of_recover h ▸ canonical_restore v l⟩
  | refined p l => exact ⟨l, canonical_refine p l⟩
  | @answered _ _ l _ h => exact ⟨l, canonical_of_runBy h⟩

/-- **What explanations and markup tell of a plan.** An explanation of a plan from the pipeline, to at least its depth,
has a line for every place in the plan, and its markup reads as the places inside containers only. So the two tell the
same kinds at the same depths, in the same order, exactly when no component that is no container holds anything. -/
theorem explained_iff_shown {p : Plan} {l : Limits} {prompt text : String} (hp : p.Piped)
    (hdepth : ∀ n, p.maxDepth = some n → n ≤ l.explainDepth) (htext : explain prompt p l = .ok text) :
    text.toList = Text.joinWith ['\n'] (explanationHead prompt p ++ p.places.map Place.line) ∧
    (∃ vs, Markup.read p.markup.toList = some vs ∧
      Visible.spotsAll 0 vs = (p.places.filter Place.contained).map Place.spot ∧
      (p.places.map Place.spot = Visible.spotsAll 0 vs ↔
        ∀ around c, p.Stands around c → c.kind.isContainer = false → c.children = [])) := by
  obtain ⟨_, hcanonical⟩ := hp.canonical
  refine ⟨toList_of_explain htext hdepth, p.visible, hcanonical.plain.read_markup, p.spotsAll_visible, ?_⟩
  rw [spotsAll_visible, ← all_contained_iff]
  constructor
  · intro h
    -- a choice that is as long as the whole leaves nothing out
    have hlen := congrArg List.length h
    rw [List.length_map, List.length_map] at hlen
    exact List.length_filter_eq_length_iff.mp hlen.symm
  · intro h
    rw [List.filter_eq_self.mpr h]

/-- A value with an input that holds some values. -/
def inputValue (inside : List Json) : Json :=
  .obj [("components", .arr [.obj [("children", .arr inside), ("props", .obj [("label", .str "Name")]),
    ("type", .str "Input")]]), ("layout", .str "a")]

def inputPlan (inside : List Component) : Plan := ⟨"a", [⟨.input, Kind.input.texts "Name", inside⟩]⟩

/-- A prompt puts a button into an input, so the explanation of the answer tells more than its markup shows. -/
theorem explained_iff_shown_forgot : ∃ a,
    Request.runBy Prompt.classify ⟨"login, forgot", some (inputValue [])⟩ {} = .ok a ∧
    a.plan = inputPlan [.button "Forgot Password"] ∧ a.plan.maxDepth = some 1 ∧
    ∃ text, explain "login, forgot" a.plan {} = .ok text ∧
      text.toList = Text.joinWith ['\n'] (explanationHead "login, forgot" a.plan ++ a.plan.places.map Place.line) ∧
      ∃ vs, Markup.read a.plan.markup.toList = some vs ∧ a.plan.places.map Place.spot ≠ Visible.spotsAll 0 vs := by
  have ha : Request.runBy Prompt.classify ⟨"login, forgot", some (inputValue [])⟩ {} = .ok _ :=
    Request.runBy_of_last_ok rfl rfl
  have hplan : (Request.refined (Prompt.classify "login, forgot") "login, forgot" {}
      (some (restore (inputValue []) {}))).plan = inputPlan [.button "Forgot Password"] := rfl
  have hpiped := Piped.answered ha
  refine ⟨_, ha, hplan, ?_⟩
  rw [hplan] at hpiped ⊢
  have hmax : (inputPlan [.button "Forgot Password"]).maxDepth = some 1 := rfl
  have hexplain : explain "login, forgot" (inputPlan [.button "Forgot Password"]) {} = .ok _ := rfl
  obtain ⟨htext, vs, hread, _, hiff⟩ := explained_iff_shown hpiped
    (fun n h => Option.some.inj (hmax.symm.trans h) ▸ by decide) hexplain
  refine ⟨hmax, _, hexplain, htext, vs, hread, fun h => ?_⟩
  have hn := hiff.mp h [] _ (.top (List.mem_singleton.mpr rfl)) rfl
  cases hn

/-- The explanation of an input that holds a button tells of the button; its markup does not show it. -/
theorem button_in_input_explained :
    accept (inputValue [.obj [("props", .obj [("label", .str "Go")]), ("type", .str "Button")]]) {} =
      .ok (inputPlan [.button "Go"]) ∧
    (inputPlan [.button "Go"]).maxDepth = some 1 ∧
    explain "x" (inputPlan [.button "Go"]) {} =
      .ok "User intent: \"x\"\nLayout: a\nComponents:\n- Input: Name\n  - Button: Go" ∧
    (inputPlan [.button "Go"]).markup = "<Input label=\"Name\" placeholder=\"Name\" />" ∧
    (inputPlan [.button "Go"]).places.map Place.spot = [(.input, 0), (.button, 1)] ∧
    Markup.read (inputPlan [.button "Go"]).markup.toList = some (inputPlan [.button "Go"]).visible ∧
    Visible.spotsAll 0 (inputPlan [.button "Go"]).visible = [(.input, 0)] :=
  ⟨rfl, rfl, rfl, rfl, rfl, rfl, rfl⟩

end Plan

end Wireframe
