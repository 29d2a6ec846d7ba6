import Wireframe.Proofs.Canonical

/-!
# What a request changes

A request about a last plan changes its first component and nothing else: the plan is taken in before and refined after,
and refining sees only what was changed.

* **Effects** (`Prompt.Effect.shown`, `Component.settleInside_apply`): an effect before the walk of refining is one on
  what the walk leaves, which has all its texts already; so are several (`Component.settleInside_foldl`).
* **First components** (`Plan.mapFirst_eq`, `Plan.refine_mapFirst`): when a plan that refining leaves alone is changed
  at its first component, only that is walked through.
* **Changes in full** (`Prompt.edited`, `Prompt.withFallback_effects`): the component after all effects that a prompt
  asks for.
* **Requests** (`Request.changes_first`): both ways to change the last plan.
-/

namespace Wireframe

open Component (settle)

/-! ## Effects -/

namespace Prompt

/-- What an effect does to a component that has its texts: an input that is added repeats its label as its
placeholder. -/
def Effect.shown : Effect → Component → Component
  | append k s, c => { c with children := c.children ++ [⟨k, k.texts s, []⟩] }
  | removeChildren k, c => { c with children := c.children.filter fun d => d.kind ≠ k }
  | setTitle s, c => { c with props := if c.kind.isContainer then c.props.set "title" s else c.props }

/-- The texts of an effect fit, and it adds nothing that holds other components. -/
def Effect.Fits : Effect → Prop
  | append k s => k.isContainer = false ∧ Kind.Fits s
  | removeChildren _ => True
  | setTitle s => Kind.Fits s

theorem effects_fit : ∀ e ∈ effects, e.2.Fits := by
  intro e he
  simp only [effects, List.mem_cons, List.not_mem_nil, or_false] at he
  rcases he with rfl | rfl | rfl | rfl
  · exact ⟨rfl, by decide, by decide⟩
  · exact ⟨rfl, by decide, by decide⟩
  · trivial
  · exact ⟨by decide, by decide⟩

end Prompt

namespace Kind

theorem caption_eq_title_iff (k : Kind) : k.caption = "title" ↔ k.isContainer = true := by
  cases k <;> decide

/-- A container has a title that fits set as its only text. -/
theorem texts_set_title {k : Kind} (hk : k.isContainer = true) (s t : String) :
    (k.texts s).set "title" t = k.texts t := by
  cases k with
  | card | modal => exact Props.set_set_empty _ _ _
  | input | button => cases hk

theorem settledCaption_set {k : Kind} {s : String} (p : Props) (hs : Fits s) :
    k.settledCaption (p.set k.caption s) = s := by
  rw [settledCaption, Props.get?_set, if_pos rfl]
  simp only [hs.1, if_false, truncate_eq_self hs.2]

end Kind

namespace Component

/-- The walk through a component, but without a fallback in it. -/
def settleInside (levels room : Nat) (c : Component) : Component :=
  ⟨c.kind, c.kind.texts (c.kind.settledCaption c.props), c.children.map (settle levels room)⟩

/-- A component with a fallback if it needs one. -/
def withFallback (c : Component) : Component := { c with children := orFallback c.kind c.children }

theorem settle_succ (levels room : Nat) (c : Component) :
    settle (levels + 1) (room + 1) c = (settleInside levels room c).withFallback := rfl

/-- A component that is added and holds nothing gets its texts. -/
theorem settle_captioned {k : Kind} {s : String} (hk : k.isContainer = false) (hs : Kind.Fits s) (levels room : Nat) :
    settle levels room (captioned k s) = ⟨k, k.texts s, []⟩ := by
  have htexts : k.texts (k.settledCaption (Props.empty.set k.caption s)) = k.texts s := by
    rw [Kind.settledCaption_set _ hs]
  have hempty : orFallback k [] = [] := by rw [orFallback, hk]; rfl
  cases room with
  | zero => cases levels <;> simp only [settle, captioned, htexts]
  | succ room => cases levels <;> simp only [settle, captioned, htexts, List.map_nil, hempty]

/-- **An effect before the walk is an effect after it.** -/
theorem settleInside_apply {e : Prompt.Effect} (he : e.Fits) (levels room : Nat) (c : Component) :
    settleInside levels room (e.apply c) = e.shown (settleInside levels room c) := by
  cases e with
  | append k s =>
    simp only [Prompt.Effect.apply, Prompt.Effect.shown, settleInside, List.map_append, List.map_cons, List.map_nil,
      settle_captioned he.1 he.2]
  | removeChildren k =>
    -- the walk keeps kinds, so the same components go before it and after it
    have hkind : (fun d : Component => decide (d.kind ≠ k)) ∘ settle levels room = fun d => decide (d.kind ≠ k) :=
      funext fun d => by rw [Function.comp, settle_kind]
    simp only [Prompt.Effect.apply, Prompt.Effect.shown, settleInside, List.filter_map, hkind]
  | setTitle s =>
    obtain ⟨k, p, cs⟩ := c
    show settleInside levels room (if k.caption = "title" then ⟨k, p.set "title" s, cs⟩ else ⟨k, p, cs⟩) =
      ⟨k, if k.isContainer then (k.texts (k.settledCaption p)).set "title" s else k.texts (k.settledCaption p),
        cs.map (settle levels room)⟩
    by_cases hk : k.isContainer = true
    · have ht : k.caption = "title" := (Kind.caption_eq_title_iff k).mpr hk
      have hs : k.settledCaption (p.set "title" s) = s := by rw [← ht, Kind.settledCaption_set p he]
      rw [if_pos ht, if_pos hk, settleInside, hs, Kind.texts_set_title hk]
    · have ht : ¬k.caption = "title" := fun h => hk ((Kind.caption_eq_title_iff k).mp h)
      rw [if_neg ht, if_neg hk, settleInside]

/-- Several effects before the walk are the same effects after it. -/
theorem settleInside_foldl {es : List (String × Prompt.Effect)} (hes : ∀ e ∈ es, e.2.Fits) (levels room : Nat)
    (c : Component) : settleInside levels room (es.foldl (fun c e => e.2.apply c) c) =
      es.foldl (fun c e => e.2.shown c) (settleInside levels room c) := by
  induction es generalizing c with
  | nil => rfl
  | cons e es ih =>
    obtain ⟨he, hes⟩ := List.forall_mem_cons.mp hes
    rw [List.foldl_cons, List.foldl_cons, ih hes, settleInside_apply he]

/-- The walk leaves what is inside a component alone when it leaves the component alone. -/
theorem settleInside_of_settle {levels room : Nat} {c : Component} (h : settle (levels + 1) (room + 1) c = c) :
    settleInside levels room c = c := by
  obtain ⟨htexts, _, hin⟩ := settle_succ_eq_self_iff.mp h
  obtain ⟨k, p, cs⟩ := c
  rw [settleInside, texts_settledCaption_eq_iff.mpr htexts, map_eq_self_iff.mpr hin]

end Component

/-! ## First components -/

namespace Plan

/-- The first component is changed, if there is one, and the layout and all other components stay. -/
theorem mapFirst_eq (f : Component → Component) (p : Plan) :
    p.mapFirst f = ⟨p.layout, (p.components.take 1).map f ++ p.components.drop 1⟩ := by
  obtain ⟨layout, cs⟩ := p
  cases cs <;> rfl

/-- When a plan that refining leaves alone is changed at its first component, only that is walked through. -/
theorem refine_mapFirst {p : Plan} {l : Limits} {f g : Component → Component} (hp : p.refine l = p)
    (hf : ∀ c, settle Limits.salvageDepth l.maxDepth c = c → settle Limits.salvageDepth l.maxDepth (f c) = g c) :
    (p.mapFirst f).refine l = p.mapFirst g := by
  obtain ⟨layout, cs⟩ := p
  obtain ⟨hwidth, hcs⟩ := refine_eq_self_iff.mp hp
  rw [refine_eq]
  cases cs with
  | nil => simp only [mapFirst, List.take_nil, List.map_nil]
  | cons c cs =>
    obtain ⟨hc, hcs⟩ := List.forall_mem_cons.mp hcs
    have htake : (f c :: cs).take l.maxComponents = f c :: cs := List.take_of_length_le hwidth
    simp only [mapFirst, htake, List.map_cons, hf c hc, Component.map_eq_self_iff.mpr hcs]

/-- Effects on the first component of a plan that refining leaves alone are the same effects on a component that has its
texts, and perhaps a fallback. -/
theorem refine_mapFirst_effects {p : Plan} {l : Limits} (hp : p.refine l = p) (hl : 1 ≤ l.maxDepth)
    (es : List (String × Prompt.Effect)) (hes : ∀ e ∈ es, e.2.Fits) :
    (p.mapFirst fun c => es.foldl (fun c e => e.2.apply c) c).refine l =
      p.mapFirst fun c => (es.foldl (fun c e => e.2.shown c) c).withFallback := by
  refine refine_mapFirst hp fun c hc => ?_
  obtain ⟨room, hroom⟩ : ∃ room, l.maxDepth = room + 1 := ⟨l.maxDepth - 1, by omega⟩
  rw [hroom] at hc ⊢
  have hinside := Component.settleInside_of_settle hc
  rw [Limits.salvageDepth, Component.settle_succ, Component.settleInside_foldl hes, hinside]

end Plan

/-! ## Changes in full -/

namespace Prompt

def labelled (label : String) : Component :=
  ⟨.input, (Props.empty.set "label" label).set "placeholder" label, []⟩

/-- What stands inside a component when a prompt asked for inputs and against buttons. -/
def editedChildren (low : List Char) (cs : List Component) : List Component :=
  let grown := cs ++ (if mentions low "remember" then [labelled "Remember Me"] else []) ++
    (if mentions low "confirm password" then [labelled "Confirm Password"] else [])
  if mentions low "remove button" then grown.filter fun d => d.kind ≠ .button else grown

/-- A component of a plan after all changes that a lowered prompt asks for. A container that nothing is left in gets
one button. -/
def edited (low : List Char) (c : Component) : Component where
  kind := c.kind
  props := if mentions low "signup" && c.kind.isContainer then c.props.set "title" "Sign Up" else c.props
  children :=
    let cs := editedChildren low c.children
    if c.kind.isContainer && cs.isEmpty then [.button "Action"] else cs

section

variable (asked : Bool) (kind : Kind) (props : Props) (cs : List Component)

theorem Effect.shown_append_ite (k : Kind) (s : String) :
    (if asked then (append k s).shown ⟨kind, props, cs⟩ else ⟨kind, props, cs⟩) =
      ⟨kind, props, cs ++ if asked then [⟨k, k.texts s, []⟩] else []⟩ := by
  cases asked with
  | true => rfl
  | false => simp

theorem Effect.shown_removeChildren_ite (k : Kind) :
    (if asked then (removeChildren k).shown ⟨kind, props, cs⟩ else ⟨kind, props, cs⟩) =
      ⟨kind, props, if asked then cs.filter fun d => d.kind ≠ k else cs⟩ := by
  cases asked <;> rfl

theorem Effect.shown_setTitle_ite (s : String) :
    (if asked then (setTitle s).shown ⟨kind, props, cs⟩ else ⟨kind, props, cs⟩) =
      ⟨kind, if asked && kind.isContainer then props.set "title" s else props, cs⟩ := by
  cases asked <;> cases hk : kind.isContainer <;> simp [shown, hk]

end

theorem withFallback_effects (low : List Char) (c : Component) :
    ((effects.filter fun e => mentions low e.1).foldl (fun c e => e.2.shown c) c).withFallback = edited low c := by
  obtain ⟨k, p, cs⟩ := c
  rw [List.foldl_filter, effects]
  simp only [List.foldl_cons, List.foldl_nil, Effect.shown_append_ite, Effect.shown_removeChildren_ite,
    Effect.shown_setTitle_ite]
  rfl

end Prompt

namespace Plan

variable {p : Plan} {l : Limits}

/-- A plan with a button for forgotten passwords needs no fallback. -/
theorem refine_addForgotPassword (hp : p.refine l = p) (hl : 1 ≤ l.maxDepth) :
    p.addForgotPassword.refine l =
      p.mapFirst fun c => { c with children := c.children ++ [.button "Forgot Password"] } := by
  have hfits : Prompt.Effect.Fits (.append .button "Forgot Password") := ⟨rfl, by decide, by decide⟩
  have hnone (c : Component) : Component.orFallback c.kind (c.children ++ [.button "Forgot Password"]) =
      c.children ++ [.button "Forgot Password"] := by simp [Component.orFallback]
  have hrefine := refine_mapFirst_effects hp hl [(Prompt.forgotWord, .append .button "Forgot Password")]
    (List.forall_mem_singleton.mpr hfits)
  refine hrefine.trans (congrArg p.mapFirst (funext fun c => ?_))
  show (⟨c.kind, c.props, Component.orFallback c.kind _⟩ : Component) = _
  rw [← hnone]
  rfl

/-- A plan that is edited is changed in full at its first component. -/
theorem refine_edit (hp : p.refine l = p) (hl : 1 ≤ l.maxDepth) {prompt : String} :
    (p.edit prompt).refine l = p.mapFirst (Prompt.edited (Prompt.lowered prompt)) := by
  have hfits : ∀ e ∈ Prompt.effects.filter fun e => Prompt.mentions (Prompt.lowered prompt) e.1, e.2.Fits :=
    fun e he => Prompt.effects_fit e (List.mem_of_mem_filter he)
  refine (refine_mapFirst_effects hp hl _ hfits).trans (congrArg p.mapFirst (funext fun c => ?_))
  exact Prompt.withFallback_effects _ c

end Plan

/-! ## Requests -/

namespace Request

open Prompt (mentions lowered)

/-- **A request changes the first component of the last plan and nothing else.** When the prompt and the value of the
last plan pass their checks and the greatest depth is not 0, the last plan is taken in. A prompt that is read as a login
and mentions a forgotten password adds a button to what is in its first component; another one that is read as an edit
makes all the changes that it mentions to its first component. Refining the plan after that changes nothing more. -/
theorem changes_first (read : String → Classification) (prompt : String) (v : Json) (l : Limits)
    (hprompt : Prompt.check prompt l = .ok ()) (hlast : Plan.check v = .ok ()) (hdepth : 1 ≤ l.maxDepth) :
    ∃ p, Plan.accept v l = .ok p ∧
      ((read prompt).intent = .login ∧ mentions (lowered prompt) "forgot" = true →
        runBy read ⟨prompt, some v⟩ l = .ok ⟨read prompt, .forgotPassword, p.layout,
          ((p.components.take 1).map fun c => { c with children := c.children ++ [.button "Forgot Password"] }) ++
            p.components.drop 1⟩) ∧
      (¬((read prompt).intent = .login ∧ mentions (lowered prompt) "forgot" = true) → (read prompt).action = .edit →
        runBy read ⟨prompt, some v⟩ l = .ok ⟨read prompt, .edited, p.layout,
          (p.components.take 1).map (Prompt.edited (lowered prompt)) ++ p.components.drop 1⟩) := by
  have hp : (Plan.restore v l).refine l = Plan.restore v l := (Plan.canonical_restore v l).refine_eq_self
  refine ⟨Plan.restore v l, Plan.accept_eq_ok_iff.mpr ⟨hlast, rfl⟩, fun hforgot => ?_, fun hforgot hedit => ?_⟩
  · have hanswer : Prompt.answerAs (read prompt) prompt (some (Plan.restore v l)) =
        ⟨read prompt, .forgotPassword, (Plan.restore v l).addForgotPassword⟩ := if_pos hforgot
    rw [runBy_of_last_ok hprompt hlast, refined, hanswer, Plan.refine_addForgotPassword hp hdepth, Plan.mapFirst_eq]
  · have hanswer : Prompt.answerAs (read prompt) prompt (some (Plan.restore v l)) =
        ⟨read prompt, .edited, (Plan.restore v l).edit prompt⟩ := (if_neg hforgot).trans (if_pos hedit)
    rw [runBy_of_last_ok hprompt hlast, refined, hanswer, Plan.refine_edit hp hdepth, Plan.mapFirst_eq]

/-- A plan with a card, in which a button stands, and another button. -/
def twoParts : Plan := ⟨"a", [.card "Log in" [.button "Go"], .button "Next"]⟩

theorem changes_first_twoParts :
    runBy Prompt.classify ⟨"forgot login", some twoParts.toValue⟩ {} = .ok ⟨⟨.create, .login⟩, .forgotPassword,
      ⟨"a", [.card "Log in" [.button "Go", .button "Forgot Password"], .button "Next"]⟩⟩ ∧
    runBy Prompt.classify ⟨"REMOVE BUTTON, signup", some twoParts.toValue⟩ {} = .ok ⟨⟨.edit, .register⟩, .edited,
      ⟨"a", [.card "Sign Up" [.button "Action"], .button "Next"]⟩⟩ := by
  have hlast : Plan.check twoParts.toValue = .ok () := Plan.check_toValue_iff.mpr (by decide)
  obtain ⟨p, hp, hforgot, _⟩ := changes_first Prompt.classify "forgot login" twoParts.toValue {} rfl hlast (by decide)
  obtain ⟨q, hq, _, hedit⟩ :=
    changes_first Prompt.classify "REMOVE BUTTON, signup" twoParts.toValue {} rfl hlast (by decide)
  rw [hforgot (by decide), hedit (by decide) (by decide), Plan.eq_restore_of_accept hp, Plan.eq_restore_of_accept hq]
  exact ⟨rfl, rfl⟩

end Request

end Wireframe
