import Wireframe.Proofs.Recording
import Wireframe.Proofs.Rereading

/-!
# Building in one pass

A build makes a plan and uses it at once. It could as well print the plan and have the commands on plan files read it.

* **Steps with good results** (`Yields`): what all results of a step have in common, whatever the host answers.
* **Making a plan** (`yields_makePlan`): every plan that is made can be read again, whether it is an answer or comes
  from the model.
* **Commands on any host** (`Command.run_build_eq_rebuild`): a build is the build that goes through the text of its
  plan.
* **Commands in directories** (`Command.perform_generate`, `Command.perform_explain`): what is made of a plan file.
-/

namespace Wireframe

/-! ## Steps with good results -/

section

variable {m : Type → Type} [Monad m] [LawfulMonad m] {α β : Type} {good : α → Prop} {fine : β → Prop}

/-- A step all of whose results are good, whatever the host answers: it is a step to good results. -/
def Yields (good : α → Prop) (x : Step m α) : Prop := ∃ y : Step m {a // good a}, Subtype.val <$> y = x

theorem yields_pure {a : α} (h : good a) : Yields good (pure a : Step m α) := ⟨pure ⟨a, h⟩, map_pure _ _⟩

theorem yields_any (x : Step m α) : Yields (fun _ => True) x :=
  ⟨(fun a => ⟨a, trivial⟩) <$> x, by rw [← comp_map]; exact id_map x⟩

theorem yields_throw (e : CommandError) : Yields good (throw e : Step m α) := by
  refine ⟨throw e, ExceptT.ext ?_⟩
  rw [ExceptT.run_map, ExceptT.run_throw, map_pure]
  rfl

theorem yields_liftResult {ε : Type} (f : ε → CommandError) {r : Except ε α} (h : ∀ a, r = .ok a → good a) :
    Yields good (liftResult f r : Step m α) := by
  cases r with
  | ok a => exact yields_pure (h a rfl)
  | error e => exact yields_throw (f e)

/-- Good results of one step are all that the next one has to deal with. -/
theorem Yields.bind {x : Step m α} {f : α → Step m β} (hx : Yields good x) (hf : ∀ a, good a → Yields fine (f a)) :
    Yields fine (x >>= f) := by
  obtain ⟨y, rfl⟩ := hx
  -- for each good result, the step to fine results that `f` is
  choose z hz using fun a : {a // good a} => hf a.1 a.2
  refine ⟨y >>= z, ?_⟩
  rw [map_bind, bind_map_left]
  exact bind_congr hz

/-- What follows a step can be changed where its results are good. -/
theorem Yields.bind_congr {x : Step m α} {f g : α → Step m β} (hx : Yields good x) (h : ∀ a, good a → f a = g a) :
    x >>= f = x >>= g := by
  obtain ⟨y, rfl⟩ := hx
  rw [bind_map_left, bind_map_left]
  exact congrArg (y >>= ·) (funext fun a => h a.1 a.2)

theorem Yields.of_perform {x : Step (StateM Directory) α} (hx : Yields good x) {d d₁ : Directory} {a : α}
    (h : d.perform x = (.ok a, d₁)) : good a := by
  obtain ⟨y, rfl⟩ := hx
  rw [← bind_pure_comp] at h
  obtain ⟨b, d₂, _, hb⟩ := Directory.of_perform_bind_ok h
  cases hb
  exact b.2

end

/-! ## Making a plan -/

section

variable {m : Type → Type} [Monad m] [LawfulMonad m] [Host m] {s : Settings} {o : PlanOptions}

/-- A prompt that passes, and a plan that can be read again. -/
def Settings.Serves (s : Settings) (o : PlanOptions) (p : Plan) : Prop :=
  Prompt.check o.prompt s.limits = .ok () ∧ p.Reread s.limits

theorem yields_askPlan (prompt : String) : Yields (Plan.Reread s.limits) (askPlan s prompt : Step m Plan) := by
  refine (yields_any _).bind fun answer _ => ?_
  cases answer with
  | none => exact yields_throw _
  | some text => exact yields_liftResult _ fun _ h => Plan.reread_of_planOf h

theorem yields_answerPlan :
    Yields (fun a : Source × Plan => s.Serves o a.2) (answerPlan s o : Step m (Source × Plan)) := by
  unfold answerPlan
  split
  · refine Yields.bind (yields_liftResult _ fun _ h => h) fun _ hcheck => ?_
    exact (yields_askPlan o.prompt).bind fun p hp => yields_pure ⟨hcheck, hp⟩
  · refine (yields_any _).bind fun last _ => ?_
    refine Yields.bind (yields_liftResult _ fun _ h => h) fun a ha => yields_pure ?_
    exact ⟨(Request.runBy_eq_ok_iff.mp ha).1, Plan.reread_of_runBy ha⟩

theorem yields_makePlan : Yields (fun r : Report => s.Serves o r.plan) (makePlan s o : Step m Report) := by
  rw [makePlan]
  refine yields_answerPlan.bind fun a h => ?_
  obtain ⟨source, plan⟩ := a
  dsimp only
  cases historyTarget o s with
  | none => exact yields_pure h
  | some path => exact (yields_any _).bind fun _ _ => (yields_any _).bind fun _ _ => yields_pure h

end

/-! ## Commands on any host -/

namespace Report

def shown (r : Report) (format : OutputFormat) : String :=
  match format with
  | .text => r.header ++ "\n" ++ r.plan.toJson.pretty
  | .json => (Json.obj r.members).pretty

def built (r : Report) (format : OutputFormat) (markup explanation : String) : String :=
  match format with
  | .text => r.header ++ "\n\n" ++ String.ofList (Text.trimEnd markup.toList) ++ "\n\n" ++ explanation
  | .json => (Json.obj (r.members ++ [("markup", .str markup), ("explanation", .str explanation)])).pretty

/-- The plan is a member of the document that is shown for it. -/
theorem exists_parse_shown {r : Report} {l : Limits} (hp : r.plan.Reread l)
    (hv : ∀ n, r.version = some n → n ≤ Limits.greatestCount) :
    ∃ v, Json.parse (r.shown .json) = .ok v ∧ v.get? "plan" = some r.plan.toValue := by
  obtain ⟨source, version, plan⟩ := r
  have hplan : plan.toJson.Readable 105 := hp.shallow.readable_toJson (by decide)
  have hdistinct : (Json.obj (members ⟨source, version, plan⟩)).Distinct := by
    cases source <;> cases version <;>
      simp [members, Source.classification?, Json.Distinct, Json.DistinctMembers, plan.distinct_toJson, Json.ofNat]
  have hreadable : (Json.obj (members ⟨source, version, plan⟩)).Readable 106 := by
    cases source <;> cases version with
    | none => simp [members, Source.classification?, Json.Readable, Json.ReadableMembers, hplan]
    | some n =>
      have hn := Json.Reader.legible_count (hv n rfl)
      simp [members, Source.classification?, Json.Readable, Json.ReadableMembers, hplan, Json.ofNat, hn]
  refine ⟨_, Json.parse_pretty hdistinct hreadable (by decide), ?_⟩
  have hget : (Json.obj (members ⟨source, version, plan⟩)).get? "plan" = some plan.toJson := by
    cases source <;> cases version <;>
      simp [members, Source.classification?, Json.get?, Members.lookup_cons_ite]
  rw [Json.get?_canon, hget, Option.map_some]
  rfl

end Report

namespace Command

section

variable {m : Type → Type} [Monad m]

def generated (asModule : Bool) (s : Settings) (v : Json) : Step m String :=
  if asModule then do
    let p ← liftResult .rejected (Plan.accept v s.limits)
    return p.asModule
  else liftResult .rejected (Plan.markupOf v s.limits)

def explained (prompt : String) (s : Settings) (v : Json) : Step m String :=
  liftResult .rejected (Plan.explanationOf prompt v s.limits)

theorem generated_of_reread [LawfulMonad m] {p : Plan} {s : Settings} (h : p.Reread s.limits) (asModule : Bool) :
    (generated asModule s p.toValue : Step m String) = pure (if asModule then p.asModule else p.markup) := by
  cases asModule with
  | true =>
    rw [generated, if_pos rfl, h.accepted, liftResult, pure_bind]
    rfl
  | false =>
    rw [generated, if_neg (by decide), h.markup]
    rfl

variable [Host m]

theorem run_plan (o : PlanOptions) : (plan o).run = (do
    let s ← loadSettings o.config
    let r ← makePlan s o
    return r.shown o.format : Step m String) := by
  rw [run]
  refine bind_congr fun s => bind_congr fun r => ?_
  cases o.format <;> rfl

theorem run_generate (file : String) (asModule : Bool) (config : Option String) :
    (generate file asModule config).run = (do
      let s ← loadSettings config
      let v ← loadValue file
      generated asModule s v : Step m String) := rfl

theorem run_explain (file prompt : String) (config : Option String) : (explain file prompt config).run = (do
    let s ← loadSettings config
    liftResult .rejected (Prompt.check prompt s.limits)
    let v ← loadValue file
    explained prompt s v : Step m String) := rfl

theorem run_build (o : PlanOptions) (asModule : Bool) : (build o asModule).run = (do
    let s ← loadSettings o.config
    let r ← makePlan s o
    let explanation ← liftResult .rejected (Plan.explain o.prompt r.plan s.limits)
    return r.built o.format (if asModule then r.plan.asModule else r.plan.markup) explanation : Step m String) := by
  rw [run]
  refine bind_congr fun s => bind_congr fun r => bind_congr fun explanation => ?_
  cases o.format <;> rfl

/-- A build that parses the text of the plan that it made, and from there on does what is done with a plan file. -/
def rebuild (o : PlanOptions) (asModule : Bool) : Step m String := do
  let s ← loadSettings o.config
  let r ← makePlan s o
  let v ← liftResult (fun e => .planFile "" (.text e)) (Json.parse r.plan.toJson.pretty)
  let markup ← generated asModule s v
  liftResult .rejected (Prompt.check o.prompt s.limits)
  let explanation ← explained o.prompt s v
  return r.built o.format markup explanation

/-- Whatever the host, going through the text of the plan makes no difference to a build. -/
theorem run_build_eq_rebuild [LawfulMonad m] (o : PlanOptions) (asModule : Bool) :
    (build o asModule).run = (rebuild o asModule : Step m String) := by
  rw [run_build, rebuild]
  -- the prompt passed when the plan was made, so each step after that is known
  refine bind_congr fun s => yields_makePlan.bind_congr fun r ⟨hcheck, hr⟩ => ?_
  rw [hr.parse_pretty, liftResult, pure_bind, generated_of_reread hr, pure_bind, hcheck, liftResult, pure_bind,
    explained, hr.explanation]

end

/-! ## Commands in directories -/

variable {d d₁ : Directory} {o : PlanOptions} {s : Settings} {file text prompt : String} {p : Plan}

theorem perform_loadValue (d : Directory) (file : String) (h : d.read file = .ok text) :
    d.perform (loadValue file) = ((Json.parse text).mapError fun e => .planFile file (.text e), d) := by
  rw [Directory.perform_loadValue, Directory.planValue, h]
  dsimp only
  cases Json.parse text <;> rfl

/-- From a file with the value of a plan that can be read again, the markup or the module of the plan is generated. -/
theorem perform_generate (hp : p.Reread s.limits) {config : Option String}
    (hs : d.perform (loadSettings config) = (.ok s, d)) (hread : d.read file = .ok text)
    (hparse : Json.parse text = .ok p.toValue) (asModule : Bool) :
    d.perform (generate file asModule config).run = (.ok (if asModule then p.asModule else p.markup), d) := by
  rw [run_generate, Directory.perform_bind, hs]
  simp only [Directory.perform_bind, perform_loadValue d file hread, hparse, Except.mapError,
    generated_of_reread hp, Directory.perform_pure]

/-- From a file with the value of a plan that can be read again, the plan is explained. -/
theorem perform_explain (hp : p.Reread s.limits) {config : Option String}
    (hs : d.perform (loadSettings config) = (.ok s, d)) (hcheck : Prompt.check prompt s.limits = .ok ())
    (hread : d.read file = .ok text) (hparse : Json.parse text = .ok p.toValue) :
    d.perform (explain file prompt config).run = ((Plan.explain prompt p s.limits).mapError .rejected, d) := by
  rw [run_explain, Directory.perform_bind, hs]
  simp only [Directory.perform_bind, Directory.perform_liftResult, hcheck, perform_loadValue d file hread, hparse,
    Except.mapError, explained, hp.explanation]

/-- A plan that a command shows has been made under the settings of that command. -/
theorem exists_of_plan_ok {out : String} (h : d.perform (plan o).run = (.ok out, d₁)) :
    ∃ (s : Settings) (r : Report), d.perform (loadSettings o.config) = (.ok s, d) ∧
      d.perform (makePlan s o) = (.ok r, d₁) ∧ s.Serves o r.plan ∧ out = r.shown o.format := by
  rw [run_plan] at h
  obtain ⟨s, hs, hm⟩ := (reads_loadSettings o.config).of_bind_ok h
  obtain ⟨r, d₂, hm, hr⟩ := Directory.of_perform_bind_ok hm
  cases hr
  exact ⟨s, r, hs, hm, yields_makePlan.of_perform hm, rfl⟩

theorem build_error_of_plan_error {e : CommandError} (h : d.perform (plan o).run = (.error e, d₁)) (asModule : Bool) :
    d.perform (build o asModule).run = (.error e, d₁) := by
  rw [run_plan, Directory.perform_bind] at h
  rw [run_build, Directory.perform_bind]
  split at h
  · next s d₂ hs =>
    rw [Directory.perform_bind] at h ⊢
    split at h
    · cases h
    · exact h
  · exact h

/-- **Reading a plan again changes nothing.** However prompts are read and whatever the limits, the plan of every answer
and every plan from a model can be read again. Whatever the host, a build that goes through the text of its plan is the
same build. In a directory a build fails where the command that only shows the plan does; where that succeeds, its text
holds the plan, and in any directory with the same settings and a file with the value of the plan, generating and
explaining from the file give the markup or the module and the explanation of the build, or its failure. -/
theorem rereading_agrees :
    (∀ (read : String → Classification) (r : Request) (l : Limits) (a : Answer), r.runBy read l = .ok a →
      a.plan.Reread l) ∧
    (∀ (answer : String) (l : Limits) (p : Plan), ModelText.planOf answer l = .ok p → p.Reread l) ∧
    (∀ (m : Type → Type) [Monad m] [LawfulMonad m] [Host m] (o : PlanOptions) (asModule : Bool),
      (build o asModule).run = (rebuild o asModule : Step m String)) ∧
    (∀ (o : PlanOptions) (d d₁ : Directory) (e : CommandError), d.perform (plan o).run = (.error e, d₁) →
      ∀ asModule, d.perform (build o asModule).run = (.error e, d₁)) ∧
    (∀ (o : PlanOptions) (d d₁ : Directory) (out : String), d.perform (plan o).run = (.ok out, d₁) →
      ∃ (s : Settings) (r : Report), d.perform (loadSettings o.config) = (.ok s, d) ∧
        d.perform (makePlan s o) = (.ok r, d₁) ∧ out = r.shown o.format ∧
        (∀ before after, Json.Gap before → Json.Gap after →
          Json.parse (String.ofList (before ++ (r.plan.toJson.pretty.toList ++ after))) = .ok r.plan.toValue) ∧
        ((∀ n, r.version = some n → n ≤ Limits.greatestCount) →
          ∃ v, Json.parse (r.shown .json) = .ok v ∧ v.get? "plan" = some r.plan.toValue) ∧
        ∀ (asModule : Bool) (d₂ : Directory) (file text : String), d₂.perform (loadSettings o.config) = (.ok s, d₂) →
          d₂.read file = .ok text → Json.parse text = .ok r.plan.toValue →
          ∃ markup explanation, d₂.perform (generate file asModule o.config).run = (.ok markup, d₂) ∧
            d₂.perform (explain file o.prompt o.config).run = (explanation, d₂) ∧
            d.perform (build o asModule).run = (explanation.map (r.built o.format markup), d₁)) := by
  refine ⟨fun _ _ _ _ h => Plan.reread_of_runBy h, fun _ _ _ h => Plan.reread_of_planOf h,
    fun _ _ _ _ o asModule => run_build_eq_rebuild o asModule, fun _ _ _ _ h => build_error_of_plan_error h,
    fun o d d₁ out h => ?_⟩
  obtain ⟨s, r, hs, hm, ⟨hcheck, hr⟩, rfl⟩ := exists_of_plan_ok h
  refine ⟨s, r, hs, hm, rfl, hr.printed, Report.exists_parse_shown hr, ?_⟩
  intro asModule d₂ file text hs₂ hread hparse
  refine ⟨_, _, perform_generate hr hs₂ hread hparse asModule, perform_explain hr hs₂ hcheck hread hparse, ?_⟩
  rw [run_build, Directory.perform_bind, hs]
  simp only [Directory.perform_bind, hm, Directory.perform_liftResult]
  cases Plan.explain o.prompt r.plan s.limits <;> rfl

/-! ## A login form, planned and built -/

/-- What a model may answer with: a card without a title, and no layout. -/
def bareCard : Json := .obj [("components", .arr [.obj [("type", .str "Card")]])]

theorem planOf_bareCard : ModelText.planOf bareCard.compact {} =
    .ok ⟨"default", [Component.card "Card" [Component.button "Action"]]⟩ := by
  have hspan : ModelText.objectSpan? bareCard.compact.toList = some bareCard.write := by
    rw [Json.compact, String.toList_ofList]
    decide
  have hdistinct : bareCard.Distinct := ⟨by decide, ⟨⟨by decide, trivial, trivial⟩, trivial⟩, trivial⟩
  have hreadable : bareCard.Readable 3 :=
    ⟨by decide, ⟨by decide, ⟨by decide, trivial, trivial⟩, trivial⟩, trivial⟩
  have hparse : Json.parse bareCard.compact = .ok bareCard.canon := by
    have hspells := Json.spells_write bareCard
    simpa [Json.compact] using Json.parse_spells hspells hdistinct hreadable (by decide) Json.gap_nil Json.gap_nil
  have hread : ModelText.readObject bareCard.compact = .ok bareCard.canon := by
    rw [ModelText.readObject, hspan]
    simp only
    rw [← Json.compact, hparse]
  rw [ModelText.planOf, hread]
  rfl

/-- Limits with room for more components than the schema allows, and for more depth than the guard leaves. -/
def wideLimits : Limits := { maxDepth := 7, maxComponents := 31 }

def loginOptions : PlanOptions := ⟨"login form", none, false, none, none, .text⟩

def noFiles : Directory := ⟨[], []⟩

theorem makePlan_login : ∃ r : Report, noFiles.perform (makePlan {} loginOptions) = (.ok r, noFiles) ∧
    r.version = none := by
  let a : Answer := Request.refined (Prompt.classify "login form") "login form" {} none
  have hrun : Request.run ⟨"login form", none⟩ {} = .ok a := Request.runBy_none rfl
  refine ⟨⟨.answer a.classification a.branch, none, a.plan⟩, ?_, rfl⟩
  rw [makePlan, Directory.perform_bind, perform_answerPlan rfl rfl hrun]
  rfl

/-- A nested plan asked about, a plan from a model, and a login form that is planned, built, and read again. -/
theorem rereading_agrees_login :
    (∃ a, Request.runBy Prompt.classify ⟨"login form", some Plan.nested⟩ wideLimits = .ok a ∧
      a.plan.Reread wideLimits) ∧
    Plan.Reread {} ⟨"default", [Component.card "Card" [Component.button "Action"]]⟩ ∧
    noFiles.perform (build { loginOptions with prompt := "" } true).run =
      (.error (.rejected .emptyPrompt), noFiles) ∧
    ∃ (r : Report) (v : Json) (d₂ : Directory),
      noFiles.perform (plan loginOptions).run = (.ok (r.shown .text), noFiles) ∧
      Json.parse (r.shown .json) = .ok v ∧ v.get? "plan" = some r.plan.toValue ∧
      d₂.read "p.json" = .ok (r.plan.toJson.pretty ++ "\n") ∧
      ∃ markup explanation, d₂.perform (generate "p.json" true none).run = (.ok markup, d₂) ∧
        d₂.perform (explain "p.json" "login form" none).run = (explanation, d₂) ∧
        noFiles.perform (build loginOptions true).run =
          (explanation.map (r.built .text markup), noFiles) := by
  obtain ⟨hanswer, hmodel, _, hfails, hcommand⟩ := rereading_agrees
  have hq : Request.runBy Prompt.classify ⟨"login form", some Plan.nested⟩ wideLimits = .ok _ :=
    Request.runBy_of_last_ok rfl rfl
  refine ⟨⟨_, hq, hanswer _ _ _ _ hq⟩, hmodel _ _ _ planOf_bareCard, hfails _ _ _ _ rfl true, ?_⟩
  obtain ⟨r₀, hmake, hversion⟩ := makePlan_login
  have hplan : noFiles.perform (plan loginOptions).run = (.ok (r₀.shown .text), noFiles) := by
    rw [run_plan, Directory.perform_bind]
    simp only [loadSettings, show loginOptions.config = none from rfl, Directory.perform_pure, Directory.perform_bind,
      hmake]
    rfl
  obtain ⟨s, r, hs, hm, _, hparse, hjson, hfile⟩ := hcommand _ _ _ _ hplan
  cases hs
  rw [hmake] at hm
  cases hm
  obtain ⟨v, hv, hget⟩ := hjson (by simp [hversion])
  let text : String := r₀.plan.toJson.pretty ++ "\n"
  let d₂ : Directory := ⟨[("p.json", .text text)], []⟩
  have hread : d₂.read "p.json" = .ok text :=
    Directory.read_of_target (d₂.target_of_plain (by decide)) (by decide)
  have hparse : Json.parse text = .ok r₀.plan.toValue := by
    simpa [text, String.ofList_append] using hparse [] ['\n'] Json.gap_nil rfl
  exact ⟨r₀, v, d₂, hplan, hv, hget, hread, hfile true d₂ "p.json" text rfl hread hparse⟩

end Command

end Wireframe
