import Wireframe.Prompt.Request
import Wireframe.Proofs.Grammar
import Wireframe.Proofs.Refinement

/-!
# Sessions

A session answers prompts one after the other, each about the value of the plan of the answer before.

* **One request** (`Request.runBy_eq_ok_iff`, `Request.runBy_eq_error_iff`): it fails when the prompt is turned down,
  and otherwise when the last plan breaks the schema.
* **The invariant** (`Plan.Narrow`): a plan has no more components than the schema allows. Templates are narrow, changes
  keep the number of components and refining does not raise it, so every answer is narrow (`Request.narrow_of_runBy`).
* **Sessions** (`Request.session`, `Request.sessions_closed`): the value of a narrow plan passes, so no request of a
  session fails, whatever the limits.
-/

namespace Wireframe

/-! ## One request -/

namespace Request

/-- The answer to a prompt under some limits. -/
def refined (c : Classification) (prompt : String) (l : Limits) (last : Option Plan) : Answer :=
  { Prompt.answerAs c prompt last with plan := (Prompt.answerAs c prompt last).plan.refine l }

variable {read : String → Classification} {l : Limits} {prompt : String}

theorem runBy_of_check_error {last : Option Json} {e : Rejection} (h : Prompt.check prompt l = .error e) :
    runBy read ⟨prompt, last⟩ l = .error e := by
  rw [runBy, h]
  rfl

theorem runBy_none (h : Prompt.check prompt l = .ok ()) :
    runBy read ⟨prompt, none⟩ l = .ok (refined (read prompt) prompt l none) := by
  rw [runBy, h]
  rfl

theorem runBy_of_last_error {v : Json} {e : Rejection} (h : Prompt.check prompt l = .ok ())
    (hv : Plan.check v = .error e) : runBy read ⟨prompt, some v⟩ l = .error e := by
  have ha : Plan.accept v l = .error e := by
    rw [Plan.accept, hv]
    rfl
  rw [runBy, h]
  simp only [Option.mapM_some, ha]
  rfl

theorem runBy_of_last_ok {v : Json} (h : Prompt.check prompt l = .ok ()) (hv : Plan.check v = .ok ()) :
    runBy read ⟨prompt, some v⟩ l = .ok (refined (read prompt) prompt l (some (Plan.restore v l))) := by
  have ha : Plan.accept v l = .ok (Plan.restore v l) := Plan.accept_eq_ok_iff.mpr ⟨hv, rfl⟩
  rw [runBy, h]
  simp only [Option.mapM_some, ha]
  rfl

/-- A request is answered when its prompt and its last plan pass. -/
theorem runBy_eq_ok_iff {r : Request} {a : Answer} : r.runBy read l = .ok a ↔
    Prompt.check r.prompt l = .ok () ∧ (∀ v, r.last = some v → Plan.check v = .ok ()) ∧
    a = refined (read r.prompt) r.prompt l (r.last.map (Plan.restore · l)) := by
  obtain ⟨prompt, last⟩ := r
  cases hc : Prompt.check prompt l with
  | error e => simp [runBy_of_check_error hc]
  | ok _ =>
    cases last with
    | none => simp [runBy_none hc, eq_comm]
    | some v =>
      cases hv : Plan.check v with
      | error e => simp [runBy_of_last_error hc hv, hv]
      | ok _ => simp [runBy_of_last_ok hc hv, hv, eq_comm]

/-- A request fails for its prompt, or else for its last plan. -/
theorem runBy_eq_error_iff {r : Request} {e : Rejection} : r.runBy read l = .error e ↔
    Prompt.check r.prompt l = .error e ∨
    Prompt.check r.prompt l = .ok () ∧ ∃ v, r.last = some v ∧ Plan.check v = .error e := by
  obtain ⟨prompt, last⟩ := r
  cases hc : Prompt.check prompt l with
  | error e => simp [runBy_of_check_error hc]
  | ok _ =>
    cases last with
    | none => simp [runBy_none hc]
    | some v =>
      cases hv : Plan.check v with
      | error e => simp [runBy_of_last_error hc hv, hv]
      | ok _ => simp [runBy_of_last_ok hc hv, hv]

end Request

/-! ## The invariant -/

namespace Plan

/-- A plan has no more components than the schema allows. -/
def Narrow (p : Plan) : Prop := p.components.length ≤ Limits.schemaWidth

instance : DecidablePred Narrow := fun p => inferInstanceAs (Decidable (p.components.length ≤ Limits.schemaWidth))

theorem Narrow.check {p : Plan} (h : p.Narrow) : Plan.check p.toValue = .ok () := check_toValue_iff.mpr h

theorem Narrow.refine {p : Plan} (h : p.Narrow) (l : Limits) : (p.refine l).Narrow := by
  rw [refine_eq]
  simp only [Narrow, List.length_map, List.length_take]
  exact Nat.le_trans (Nat.min_le_right _ _) h

theorem narrow_restore {v : Json} (h : Plan.check v = .ok ()) (l : Limits) : (restore v l).Narrow := by
  rw [restore_eq_refine]
  exact Narrow.refine (width_salvage_of_check h) l

theorem Narrow.mapFirst {p : Plan} (h : p.Narrow) (f : Component → Component) : (p.mapFirst f).Narrow := by
  obtain ⟨layout, cs⟩ := p
  cases cs <;> exact h

end Plan

theorem Intent.narrow_plan (i : Intent) : i.plan.Narrow := by
  cases i <;> decide

theorem Prompt.narrow_answerAs (c : Classification) (prompt : String) {last : Option Plan}
    (h : ∀ p, last = some p → p.Narrow) : (answerAs c prompt last).plan.Narrow := by
  unfold answerAs
  cases last with
  | none => exact Intent.narrow_plan _
  | some p =>
    have hp := h p rfl
    dsimp only
    split
    · exact hp.mapFirst _
    · split
      · exact hp.mapFirst _
      · exact Intent.narrow_plan _

namespace Request

variable {read : String → Classification} {l : Limits}

theorem narrow_of_runBy {r : Request} {a : Answer} (h : r.runBy read l = .ok a) : a.plan.Narrow := by
  obtain ⟨_, hlast, rfl⟩ := runBy_eq_ok_iff.mp h
  refine Plan.Narrow.refine (Prompt.narrow_answerAs _ _ fun p hp => ?_) l
  obtain ⟨v, hv, rfl⟩ := Option.map_eq_some_iff.mp hp
  exact Plan.narrow_restore (hlast v hv) l

/-! ## Sessions -/

/-- The answers to prompts, each about the value of the plan of the answer before; the first failure ends them. -/
def session (read : String → Classification) (l : Limits) : Option Json → List String → Except Rejection (List Answer)
  | _, [] => .ok []
  | last, prompt :: prompts => do
    let a ← runBy read ⟨prompt, last⟩ l
    let answers ← session read l (some a.plan.toValue) prompts
    return a :: answers

theorem session_cons {start : Option Json} {q : String} {prompts : List String} {a : Answer} {answers : List Answer}
    (ha : runBy read ⟨q, start⟩ l = .ok a) (hrun : session read l (some a.plan.toValue) prompts = .ok answers) :
    session read l start (q :: prompts) = .ok (a :: answers) := by
  simp only [session, ha, bind, Except.bind, hrun]
  rfl

/-- A session of prompts that pass, from a plan that passes, has an answer for each, and the values of all their plans
pass. -/
theorem session_ok {prompts : List String} (hp : ∀ q ∈ prompts, Prompt.check q l = .ok ()) :
    ∀ {start : Option Json}, (∀ v, start = some v → Plan.check v = .ok ()) →
      ∃ answers, session read l start prompts = .ok answers ∧ answers.length = prompts.length ∧
        ∀ a ∈ answers, Plan.check a.plan.toValue = .ok () := by
  induction prompts with
  | nil => exact fun _ => ⟨[], rfl, rfl, by simp⟩
  | cons q prompts ih =>
    intro start hs
    obtain ⟨hq, hp⟩ := List.forall_mem_cons.mp hp
    have ha : runBy read ⟨q, start⟩ l = .ok _ := runBy_eq_ok_iff.mpr ⟨hq, hs, rfl⟩
    have hc := (narrow_of_runBy ha).check
    obtain ⟨answers, hrun, hlen, hall⟩ := ih hp fun v hv => Option.some.inj hv ▸ hc
    exact ⟨_ :: answers, session_cons ha hrun, by rw [List.length_cons, List.length_cons, hlen],
      List.forall_mem_cons.mpr ⟨hc, hall⟩⟩

/-- **Sessions are closed.** However prompts are read and whatever the limits, a request fails exactly when its prompt
is turned down, and then for that, or when its last plan breaks the schema, and then for the first issue with it. A
session of prompts that are not turned down, from no plan or one that keeps the schema, never fails, and the plan of
each of its answers keeps the schema again. -/
theorem sessions_closed (read : String → Classification) (l : Limits) :
    (∀ (r : Request) (e : Rejection), r.runBy read l = .error e ↔
      Prompt.check r.prompt l = .error e ∨
      Prompt.check r.prompt l = .ok () ∧
        ∃ v i rest, r.last = some v ∧ Schema.issues v = i :: rest ∧ e = .invalid i) ∧
    (∀ (start : Option Json) (prompts : List String), (∀ v, start = some v → Plan.check v = .ok ()) →
      (∀ q ∈ prompts, Prompt.check q l = .ok ()) →
      ∃ answers, session read l start prompts = .ok answers ∧ answers.length = prompts.length ∧
        ∀ a ∈ answers, Plan.check a.plan.toValue = .ok ()) := by
  refine ⟨fun r e => ?_, fun start prompts hs hp => session_ok hp hs⟩
  rw [runBy_eq_error_iff]
  simp only [Plan.check_eq_error_iff]
  constructor
  · rintro (h | ⟨h, v, hv, i, rest, hi, he⟩)
    · exact .inl h
    · exact .inr ⟨h, v, i, rest, hv, hi, he⟩
  · rintro (h | ⟨h, v, i, rest, hv, hi, he⟩)
    · exact .inl h
    · exact .inr ⟨h, v, hv, i, rest, hi, he⟩

/-- A session from a value with a card and a free member, at depth 0 and with more components than the schema has. -/
theorem sessions_closed_card :
    Plan.check (.obj [("layout", .str "a"), ("components", .arr [.obj [("note", .null), ("type", .str "Card")]])]) =
      .ok () ∧
    (∀ q ∈ ["add remember me", "login form", "login, forgot"],
      Prompt.check q { maxComponents := 31, maxDepth := 0 } = .ok ()) ∧
    ∃ answers, session Prompt.classify { maxComponents := 31, maxDepth := 0 }
        (some (.obj [("layout", .str "a"), ("components", .arr [.obj [("note", .null), ("type", .str "Card")]])]))
        ["add remember me", "login form", "login, forgot"] = .ok answers ∧
      answers.length = 3 ∧ ∀ a ∈ answers, Plan.check a.plan.toValue = .ok () := by
  have hv : Plan.check
      (.obj [("layout", .str "a"), ("components", .arr [.obj [("note", .null), ("type", .str "Card")]])]) = .ok () :=
    rfl
  have hp : ∀ q ∈ ["add remember me", "login form", "login, forgot"],
      Prompt.check q { maxComponents := 31, maxDepth := 0 } = .ok () := by
    simp only [List.forall_mem_cons]
    exact ⟨rfl, rfl, rfl, by simp⟩
  exact ⟨hv, hp, (sessions_closed Prompt.classify { maxComponents := 31, maxDepth := 0 }).2 (some _) _
    (fun w hw => Option.some.inj hw ▸ hv) hp⟩

end Request

end Wireframe
