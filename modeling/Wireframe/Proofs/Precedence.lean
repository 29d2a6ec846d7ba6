import Wireframe.Proofs.Recording

/-!
# What a command fails for first

A prompt that is turned down is what a command fails for, unless the command reads the file of the last plan before it
looks at the prompt, and this file cannot be used.

* **Giving up** (`turnDown`): the last plan is read, if there is one to be read, and nothing else is done.
* **Making a plan** (`makePlan_of_rejected`): on any host, this is all that is done with a prompt that is turned down.
* **Plan files** (`perform_turnDown_of_ok`, `perform_turnDown_of_error`): in a directory it fails for the prompt, or
  else for the file of the last plan.
* **Commands** (`Command.rejected_unless_last_plan_fails`): so do all commands with a prompt. Explaining a plan and
  asking the model come without a last plan.
-/

namespace Wireframe

/-- The file of the last plan that is read for some options: the model is asked without it. -/
def PlanOptions.lastPlan? (o : PlanOptions) : Option String := if o.model then none else o.previous

/-! ## Giving up -/

section

variable {m : Type → Type} [Monad m] [LawfulMonad m] {α β : Type}

/-- Nothing is done after a failure. -/
theorem throw_bind (e : CommandError) (f : α → Step m β) : (throw e : Step m α) >>= f = throw e := by
  refine ExceptT.ext ?_
  rw [ExceptT.run_bind, ExceptT.run_throw, pure_bind]
  rfl

variable [Host m]

/-- The last plan is read, and the prompt is turned down. -/
def turnDown (last : Option String) (x : Rejection) : Step m α := do
  let _ ← last.mapM loadValue
  throw (.rejected x)

theorem turnDown_bind (last : Option String) (x : Rejection) (f : α → Step m β) :
    turnDown last x >>= f = turnDown last x := by
  rw [turnDown, turnDown, bind_assoc]
  exact bind_congr fun _ => throw_bind _ f

theorem turnDown_none (x : Rejection) : (turnDown none x : Step m α) = throw (.rejected x) := by
  rw [turnDown, Option.mapM_none, pure_bind]

/-! ## Making a plan -/

variable {s : Settings} {o : PlanOptions} {x : Rejection}

theorem answerPlan_of_rejected (h : Prompt.check o.prompt s.limits = .error x) :
    (answerPlan s o : Step m (Source × Plan)) = turnDown o.lastPlan? x := by
  have hrun (last : Option Json) : Request.run ⟨o.prompt, last⟩ s.limits = .error x := Request.runBy_of_check_error h
  unfold answerPlan PlanOptions.lastPlan?
  cases o.model with
  | true => rw [if_pos rfl, if_pos rfl, turnDown_none, h, liftResult, throw_bind]
  | false =>
    rw [if_neg Bool.false_ne_true, if_neg Bool.false_ne_true, turnDown]
    refine bind_congr fun last => ?_
    rw [hrun last, liftResult, throw_bind]

/-- **A prompt that is turned down ends the making of a plan**, on any host. -/
theorem makePlan_of_rejected (h : Prompt.check o.prompt s.limits = .error x) :
    (makePlan s o : Step m Report) = turnDown o.lastPlan? x := by
  rw [makePlan, answerPlan_of_rejected h, turnDown_bind]

end

/-! ## Plan files -/

section

variable {d : Directory} {last : Option String} {x : Rejection} {α : Type}

theorem perform_turnDown_some (d : Directory) (path : String) (x : Rejection) :
    d.perform (turnDown (some path) x : Step _ α) = match d.planValue path with
      | .ok _ => (.error (.rejected x), d)
      | .error e => (.error (.planFile path e), d) := by
  rw [turnDown, Option.mapM_some, ← bind_pure_comp, bind_assoc, Directory.perform_bind, Directory.perform_loadValue]
  cases d.planValue path <;> rfl

/-- A prompt is turned down when the last plan has a value, or none is to be read. -/
theorem perform_turnDown_of_ok (hlast : ∀ p, last = some p → ∃ v, d.planValue p = .ok v) :
    d.perform (turnDown last x : Step _ α) = (.error (.rejected x), d) := by
  cases last with
  | none => rw [turnDown_none]; rfl
  | some p =>
    obtain ⟨v, hv⟩ := hlast p rfl
    rw [perform_turnDown_some, hv]

/-- A last plan without a value comes before the prompt. -/
theorem perform_turnDown_of_error {p : String} {e : PlanFileError} (he : d.planValue p = .error e) :
    d.perform (turnDown (some p) x : Step _ α) = (.error (.planFile p e), d) := by
  rw [perform_turnDown_some, he]

end

/-! ## Commands -/

namespace Command

/-- The settings file and the prompt of a command that has a prompt. -/
def prompted? : Command → Option (Option String × String)
  | plan o => some (o.config, o.prompt)
  | build o _ => some (o.config, o.prompt)
  | explain _ prompt config => some (config, prompt)
  | _ => none

def lastPlan? : Command → Option String
  | plan o => o.lastPlan?
  | build o _ => o.lastPlan?
  | _ => none

variable {d : Directory} {s : Settings} {x : Rejection} {c : Command} {config : Option String} {prompt : String}

/-- A command whose prompt is turned down does nothing but read the last plan. -/
theorem perform_run_of_rejected (hc : c.prompted? = some (config, prompt))
    (hs : d.perform (loadSettings config) = (.ok s, d)) (h : Prompt.check prompt s.limits = .error x) :
    d.perform c.run = d.perform (turnDown c.lastPlan? x) := by
  cases c with
  | plan o =>
    cases hc
    rw [run, Directory.perform_bind, hs]
    simp only [makePlan_of_rejected h, turnDown_bind, lastPlan?]
  | build o asModule =>
    cases hc
    rw [run, Directory.perform_bind, hs]
    simp only [makePlan_of_rejected h, turnDown_bind, lastPlan?]
  | explain file prompt config =>
    cases hc
    rw [run, Directory.perform_bind, hs]
    simp only [h, liftResult, throw_bind, lastPlan?, turnDown_none]
  | _ => cases hc

/-- **A prompt that is turned down is what a command fails for**, whatever plan files hold and whether they are there or
not, unless there is a last plan to be read, without the model, and its file has no value: then the command fails for
this file. A request is turned down for its prompt whatever its last plan is. -/
theorem rejected_unless_last_plan_fails (hc : c.prompted? = some (config, prompt))
    (hs : d.perform (loadSettings config) = (.ok s, d)) (h : Prompt.check prompt s.limits = .error x) :
    ((∀ p, c.lastPlan? = some p → ∃ v, d.planValue p = .ok v) → d.perform c.run = (.error (.rejected x), d)) ∧
    (∀ p e, c.lastPlan? = some p → d.planValue p = .error e → d.perform c.run = (.error (.planFile p e), d)) ∧
    ∀ last, Request.run ⟨prompt, last⟩ s.limits = .error x := by
  have hrun := perform_run_of_rejected hc hs h
  refine ⟨fun hlast => hrun.trans (perform_turnDown_of_ok hlast), fun p e hp he => ?_,
    fun last => Request.runBy_of_check_error h⟩
  rw [hrun, hp]
  exact perform_turnDown_of_error he

/-- The options of a command without a prompt, about a last plan. -/
def silentOptions : PlanOptions := ⟨"", some "p.json", false, none, none, .text⟩

def bare : Directory := ⟨[], []⟩

theorem planValue_bare : bare.planValue "p.json" = .error (.file .notFound) := by
  have hread : bare.read "p.json" = .error .notFound :=
    Directory.read_of_target (bare.target_of_plain (by decide)) (by decide)
  rw [Directory.planValue, hread]

/-- Without a prompt, explaining a plan that is not there fails for the prompt, and so does asking the model; a plan
that is made from a last plan fails for the file of this plan. -/
theorem rejected_unless_last_plan_fails_silent :
    bare.perform (explain "p.json" "" none).run = (.error (.rejected .emptyPrompt), bare) ∧
    bare.perform (build { silentOptions with model := true } true).run = (.error (.rejected .emptyPrompt), bare) ∧
    bare.perform (plan silentOptions).run = (.error (.planFile "p.json" (.file .notFound)), bare) := by
  have hs : bare.perform (loadSettings none) = (.ok {}, bare) := rfl
  have hcheck : Prompt.check "" ({} : Settings).limits = .error .emptyPrompt := rfl
  have hexplain : (explain "p.json" "" none).prompted? = some (none, "") := rfl
  have hmodel : (build { silentOptions with model := true } true).prompted? = some (none, "") := rfl
  have hplan : (plan silentOptions).prompted? = some (none, "") := rfl
  have hmissing := (rejected_unless_last_plan_fails hplan hs hcheck).2.1 "p.json" _ rfl planValue_bare
  exact ⟨(rejected_unless_last_plan_fails hexplain hs hcheck).1 (by rintro p ⟨⟩),
    (rejected_unless_last_plan_fails hmodel hs hcheck).1 (by rintro p ⟨⟩), hmissing⟩

/-- A last plan that is not there is what a command without a prompt fails for, although the prompt is turned down. -/
theorem missing_last_plan_first :
    bare.perform (loadSettings silentOptions.config) = (.ok {}, bare) ∧
    Prompt.check silentOptions.prompt ({} : Settings).limits = .error .emptyPrompt ∧
    bare.perform (plan silentOptions).run = (.error (.planFile "p.json" (.file .notFound)), bare) ∧
    bare.perform (plan silentOptions).run ≠ (.error (.rejected .emptyPrompt), bare) := by
  have hs : bare.perform (loadSettings silentOptions.config) = (.ok {}, bare) := rfl
  have hcheck : Prompt.check silentOptions.prompt ({} : Settings).limits = .error .emptyPrompt := rfl
  have hrun : bare.perform (plan silentOptions).run = (.error (.planFile "p.json" (.file .notFound)), bare) :=
    (perform_run_of_rejected rfl hs hcheck).trans (perform_turnDown_of_error planValue_bare)
  refine ⟨hs, hcheck, hrun, fun h => ?_⟩
  rw [hrun] at h
  cases h

end Command

end Wireframe
