import Wireframe.Proofs.Decoding
import Wireframe.Proofs.Performing
import Wireframe.Proofs.Session

/-!
# What failing commands leave behind

* **Steps that only read** (`Reads`): loading settings, values and histories and making a plan change no file, and do
  not fail for the length of an explanation.
* **Making a plan** (`makePlan_error`, `makePlan_ok`): the entry is written last, so a failure here changes nothing.
* **Commands** (`Command.failure_leaves`): showing a plan cannot fail, but the explanation of a build can be too long
  after the entry was written. By this failure one can tell whether the plan is in the history.
-/

namespace Wireframe

/-! ## Steps that only read -/

/-- A failure for the length of an explanation. -/
def CommandError.TooLong (e : CommandError) : Prop := ∃ length max, e = .rejected (.explanationTooLong length max)

/-- A step that leaves every directory as it is, and that does not fail for the length of an explanation. -/
structure Reads {α : Type} (s : Step (StateM Directory) α) : Prop where
  same {d d₁ : Directory} {r : Except CommandError α} : d.perform s = (r, d₁) → d₁ = d
  notTooLong {d d₁ : Directory} {e : CommandError} : d.perform s = (.error e, d₁) → ¬e.TooLong

section

variable {α β : Type}

theorem reads_pure (a : α) : Reads (pure a) where
  same h := (Prod.mk.inj h).2.symm
  notTooLong h := by cases h

theorem reads_throw {e : CommandError} (he : ¬e.TooLong) : Reads (throw e : Step (StateM Directory) α) where
  same h := (Prod.mk.inj h).2.symm
  notTooLong h := by
    cases h
    exact he

theorem reads_liftResult {ε : Type} {f : ε → CommandError} {r : Except ε α}
    (hr : ∀ x, r = .error x → ¬(f x).TooLong) : Reads (liftResult f r) := by
  cases r with
  | ok a => exact reads_pure a
  | error x => exact reads_throw (hr x rfl)

/-- An effect that keeps the directory only reads. -/
theorem reads_lift {x : StateM Directory α} (hx : ∀ d, (x.run d).2 = d) : Reads (liftM x) where
  same {d _ _} h := by
    rw [Directory.perform_lift] at h
    exact (Prod.mk.inj h).2.symm.trans (hx d)
  notTooLong h := by cases h

theorem Reads.bind {s : Step (StateM Directory) α} {f : α → Step (StateM Directory) β} (hs : Reads s)
    (hf : ∀ a, Reads (f a)) : Reads (s >>= f) where
  same h := by
    rw [Directory.perform_bind] at h
    split at h
    · next a d₂ ha =>
      obtain rfl := hs.same ha
      exact (hf a).same h
    · next e d₂ he =>
      obtain rfl := hs.same he
      exact (Prod.mk.inj h).2.symm
  notTooLong h := by
    rcases Directory.of_perform_bind_error h with he | ⟨a, _, _, he⟩
    · exact hs.notTooLong he
    · exact (hf a).notTooLong he

/-- What fails after a step that only reads fails in the same directory, or the step itself does so. -/
theorem Reads.of_bind_error {s : Step (StateM Directory) α} {f : α → Step (StateM Directory) β} {d d₁ : Directory}
    {e : CommandError} (hs : Reads s) (h : d.perform (s >>= f) = (.error e, d₁)) :
    (¬e.TooLong ∧ d₁ = d) ∨ ∃ a, d.perform s = (.ok a, d) ∧ d.perform (f a) = (.error e, d₁) := by
  rcases Directory.of_perform_bind_error h with he | ⟨a, d₂, ha, hf⟩
  · exact .inl ⟨hs.notTooLong he, hs.same he⟩
  · obtain rfl := hs.same ha
    exact .inr ⟨a, ha, hf⟩

/-- What succeeds after a step that only reads does so in the same directory. -/
theorem Reads.of_bind_ok {s : Step (StateM Directory) α} {f : α → Step (StateM Directory) β} {d d₁ : Directory} {b : β}
    (hs : Reads s) (h : d.perform (s >>= f) = (.ok b, d₁)) :
    ∃ a, d.perform s = (.ok a, d) ∧ d.perform (f a) = (.ok b, d₁) := by
  obtain ⟨a, d₂, ha, hf⟩ := Directory.of_perform_bind_ok h
  obtain rfl := hs.same ha
  exact ⟨a, ha, hf⟩

theorem reads_mapM {f : α → Step (StateM Directory) β} (hf : ∀ a, Reads (f a)) (xs : List α) : Reads (xs.mapM f) := by
  induction xs with
  | nil =>
    rw [List.mapM_nil]
    exact reads_pure []
  | cons x xs ih =>
    rw [List.mapM_cons]
    exact (hf x).bind fun _ => ih.bind fun _ => reads_pure _

end

theorem reads_readText (path : String) {f : FileError → CommandError} (hf : ∀ x, ¬(f x).TooLong) :
    Reads (readText path f) :=
  (reads_lift fun _ => rfl).bind fun _ => reads_liftResult fun x _ => hf x

/-- Settings are only read, and so are the variables that they name. -/
theorem reads_loadSettings (path : Option String) : Reads (loadSettings path) := by
  cases path with
  | none => exact reads_pure _
  | some p =>
    refine (reads_readText p (by rintro _ ⟨_, _, ⟨⟩⟩)).bind fun text => ?_
    refine Reads.bind (reads_mapM (fun n => ?_) _) fun _ => reads_liftResult (by rintro _ _ ⟨_, _, ⟨⟩⟩)
    exact (reads_lift fun _ => rfl).bind fun _ => reads_pure _

theorem reads_loadValue (path : String) : Reads (loadValue path) :=
  (reads_readText path (by rintro _ ⟨_, _, ⟨⟩⟩)).bind fun _ => reads_liftResult (by rintro _ _ ⟨_, _, ⟨⟩⟩)

theorem reads_loadHistory (path : String) : Reads (loadHistory path) := by
  refine (reads_lift fun _ => rfl).bind fun r => ?_
  split
  · exact reads_liftResult (by rintro _ _ ⟨_, _, ⟨⟩⟩)
  · exact reads_pure _
  · exact reads_throw (by rintro ⟨_, _, ⟨⟩⟩)

theorem reads_askPlan (s : Settings) (prompt : String) : Reads (askPlan s prompt) := by
  refine (reads_lift fun _ => rfl).bind fun r => ?_
  split
  · exact reads_throw (by rintro ⟨_, _, ⟨⟩⟩)
  · exact reads_liftResult (by rintro _ _ ⟨_, _, ⟨⟩⟩)

/-- A prompt is turned down for itself. -/
theorem Prompt.not_tooLong_of_check {prompt : String} {l : Limits} {x : Rejection} (h : check prompt l = .error x) :
    ¬(CommandError.rejected x).TooLong := by
  rintro ⟨_, _, ⟨⟩⟩
  rw [check] at h
  split at h
  · cases h
  · split at h <;> cases h

/-- A request is turned down for its prompt or its last plan. -/
theorem Request.not_tooLong_of_run {r : Request} {l : Limits} {x : Rejection} (h : r.run l = .error x) :
    ¬(CommandError.rejected x).TooLong := by
  rcases runBy_eq_error_iff.mp h with hcheck | ⟨_, v, _, hv⟩
  · exact Prompt.not_tooLong_of_check hcheck
  · rintro ⟨_, _, ⟨⟩⟩
    rw [Plan.check] at hv
    split at hv <;> cases hv

theorem reads_answerPlan (s : Settings) (o : PlanOptions) : Reads (answerPlan s o) := by
  unfold answerPlan
  split
  · refine Reads.bind (reads_liftResult fun _ h => Prompt.not_tooLong_of_check h) fun _ => ?_
    exact (reads_askPlan s o.prompt).bind fun _ => reads_pure _
  · refine Reads.bind ?_ fun last => ?_
    · cases o.previous with
      | none => exact reads_pure _
      | some p => exact (reads_loadValue p).bind fun _ => reads_pure _
    · exact (reads_liftResult fun _ h => Request.not_tooLong_of_run h).bind fun _ => reads_pure _

/-! ## Making a plan -/

variable {d d₁ : Directory} {o : PlanOptions} {s : Settings} {e : CommandError}

/-- Without a last plan, and unless the model is asked, the plan is that of the answer to the prompt. -/
theorem perform_answerPlan {a : Answer} (hmodel : o.model = false) (hprevious : o.previous = none)
    (ha : Request.run ⟨o.prompt, none⟩ s.limits = .ok a) :
    d.perform (answerPlan s o) = (.ok (.answer a.classification a.branch, a.plan), d) := by
  rw [answerPlan, hmodel, if_neg (by decide), hprevious, Directory.perform_bind]
  simp only [Option.mapM_none, Directory.perform_pure, Directory.perform_bind, Directory.perform_liftResult, ha,
    Except.mapError]

theorem appendHistory_error {path prompt : String} {h : History} {p : Plan}
    (ha : d.perform (appendHistory path h prompt p) = (.error e, d₁)) : ¬e.TooLong ∧ d₁ = d := by
  rw [Directory.perform_appendHistory] at ha
  split at ha
  · cases ha
  · cases ha
    exact ⟨by rintro ⟨_, _, ⟨⟩⟩, rfl⟩

/-- A plan that is not made or not kept leaves the files alone. -/
theorem makePlan_error (hm : d.perform (makePlan s o) = (.error e, d₁)) : ¬e.TooLong ∧ d₁ = d := by
  rcases (reads_answerPlan s o).of_bind_error hm with hsame | ⟨⟨source, plan⟩, _, hk⟩
  · exact hsame
  simp only at hk
  split at hk
  · cases hk
  · next path _ =>
    rcases (reads_loadHistory path).of_bind_error hk with hsame | ⟨h, _, hw⟩
    · exact hsame
    rcases Directory.of_perform_bind_error hw with hw | ⟨_, _, _, hr⟩
    · exact appendHistory_error hw
    · cases hr

/-- The line of a plan stands at the end of the history that the options name, after the text that was there before, if
any. Nothing else has changed. -/
def Recorded (o : PlanOptions) (s : Settings) (plan : Plan) (d d₁ : Directory) : Prop :=
  ∃ path name h before, historyTarget o s = some path ∧ d.target path = .ok (.name name) ∧
    d.perform (loadHistory path) = (.ok h, d) ∧ (d.files.lookup name).getD (.text "") = .text before ∧
    d₁ = { d with files := Directory.putFile name (.text (before ++ (h.next o.prompt plan).line)) d.files }

/-- A history that was loaded is a text, so what is appended to it follows a text. -/
theorem recorded_of_append {path : String} {h : History} {plan : Plan} (ht : historyTarget o s = some path)
    (hl : d.perform (loadHistory path) = (.ok h, d)) (ha : d.append path (h.next o.prompt plan).line = .ok d₁) :
    Recorded o s plan d d₁ := by
  obtain ⟨name, htarget, hslash, rfl⟩ := Directory.append_eq_ok_iff.mp ha
  cases hc : d.files.lookup name with
  | none =>
    refine ⟨path, name, h, "", ht, htarget, hl, by rw [hc]; rfl, ?_⟩
    rw [String.empty_append]
    rfl
  | some c =>
    cases c with
    | text before => exact ⟨path, name, h, before, ht, htarget, hl, by rw [hc]; rfl, rfl⟩
    | bytes bs =>
      rw [Directory.perform_loadHistory, Directory.read_of_target htarget hslash, hc] at hl
      cases hl

/-- A plan that is made is kept in the history, if there is one to keep it in. -/
theorem makePlan_ok {r : Report} (hm : d.perform (makePlan s o) = (.ok r, d₁)) :
    d.perform (answerPlan s o) = (.ok (r.source, r.plan), d) ∧
      ((historyTarget o s = none ∧ d₁ = d) ∨ Recorded o s r.plan d d₁) := by
  obtain ⟨⟨source, plan⟩, ha, hk⟩ := (reads_answerPlan s o).of_bind_ok hm
  simp only at hk
  split at hk
  · next ht =>
    cases hk
    exact ⟨ha, .inl ⟨ht, rfl⟩⟩
  · next path ht =>
    obtain ⟨h, hl, hw⟩ := (reads_loadHistory path).of_bind_ok hk
    obtain ⟨h₁, d₂, hw, hr⟩ := Directory.of_perform_bind_ok hw
    cases hr
    obtain ⟨hd, _⟩ := Directory.of_perform_appendHistory hw
    exact ⟨ha, .inr (recorded_of_append ht hl hd)⟩

/-! ## Commands -/

namespace Command

theorem plan_error (hc : d.perform (plan o).run = (.error e, d₁)) : d₁ = d := by
  rw [run] at hc
  rcases (reads_loadSettings o.config).of_bind_error hc with ⟨_, hsame⟩ | ⟨s, _, hm⟩
  · exact hsame
  rcases Directory.of_perform_bind_error hm with hm | ⟨r, d₂, _, hr⟩
  · exact (makePlan_error hm).2
  · split at hr <;> cases hr

/-- The only thing that can be wrong with an explanation is its length. -/
theorem explain_eq_error_iff {prompt : String} {p : Plan} {l : Limits} {x : Rejection} :
    Plan.explain prompt p l = .error x ↔ l.maxExplanation < (Plan.explanationText prompt p l).length ∧
      x = .explanationTooLong (Plan.explanationText prompt p l).length l.maxExplanation := by
  rw [Plan.explain]
  split <;> simp [*, eq_comm]

/-- The plan of a build has been made, and its entry appended if there is a history to keep it in, but its explanation
is too long. -/
def Unexplained (o : PlanOptions) (e : CommandError) (d d₁ : Directory) : Prop :=
  ∃ s source plan, d.perform (loadSettings o.config) = (.ok s, d) ∧
    d.perform (answerPlan s o) = (.ok (source, plan), d) ∧
    s.limits.maxExplanation < (Plan.explanationText o.prompt plan s.limits).length ∧
    e = .rejected (.explanationTooLong (Plan.explanationText o.prompt plan s.limits).length s.limits.maxExplanation) ∧
    ((historyTarget o s = none ∧ d₁ = d) ∨ Recorded o s plan d d₁)

/-- A build that fails leaves the files alone, unless its explanation is too long; then its plan is in the history. -/
theorem build_error {asModule : Bool} (hc : d.perform (build o asModule).run = (.error e, d₁)) :
    (¬e.TooLong ∧ d₁ = d) ∨ (e.TooLong ∧ Unexplained o e d d₁) := by
  rw [run] at hc
  rcases (reads_loadSettings o.config).of_bind_error hc with hsame | ⟨s, hs, hm⟩
  · exact .inl hsame
  rcases Directory.of_perform_bind_error hm with hm | ⟨r, d₂, hm, hx⟩
  · exact .inl (makePlan_error hm)
  obtain ⟨ha, hkept⟩ := makePlan_ok hm
  -- the plan is kept by now, and only the explanation is still asked for
  rcases Directory.of_perform_bind_error hx with hx | ⟨x, d₃, _, hr⟩
  · rw [Directory.perform_liftResult] at hx
    cases hp : Plan.explain o.prompt r.plan s.limits with
    | ok x =>
      rw [hp] at hx
      cases hx
    | error x =>
      rw [hp] at hx
      cases hx
      obtain ⟨hlt, rfl⟩ := explain_eq_error_iff.mp hp
      exact .inr ⟨⟨_, _, rfl⟩, s, r.source, r.plan, hs, ha, hlt, rfl, hkept⟩
  · split at hr <;> cases hr

/-- A failing command leaves all files as they were if it shows a plan. If it builds one, it does so as well, unless it
fails because the explanation is too long: then the plan was made, and its entry is what has been appended to the
history, if there is one to keep it in. -/
theorem failure_leaves (o : PlanOptions) (asModule : Bool) (e : CommandError) (d d₁ : Directory) :
    (d.perform (plan o).run = (.error e, d₁) → d₁ = d) ∧
    (d.perform (build o asModule).run = (.error e, d₁) →
      (¬e.TooLong ∧ d₁ = d) ∨ (e.TooLong ∧ Unexplained o e d d₁)) :=
  ⟨plan_error, build_error⟩

/-! ## A build without room for its explanation -/

/-- Limits that leave no room for explanations. -/
def tightLimits : Limits := { maxExplanation := 1 }

def tightSettings : Json := .obj [("limits", .obj [("max_explanation_chars", .ofNat 1)])]

def tight : Directory := ⟨[("c.json", .text tightSettings.compact)], []⟩

def tightOptions : PlanOptions := ⟨"x", none, false, some "c.json", some "h.jsonl", .text⟩

/-- The options of a command with this history, the usual settings, and nothing to be asked. -/
def wordlessOptions : PlanOptions := { tightOptions with prompt := "", config := none }

theorem decode_tightLimits {x : Json.Doc} (h : Json.Doc.Holds (.obj [("max_explanation_chars", .ofNat 1)]) x) :
    Limits.decode x = .ok tightLimits := by
  cases h with
  | obj _ _ hes =>
  cases hes with
  | cons _ _ hn hes =>
  cases hes
  refine Json.Record.ofEntries_closed (p := { maxExplanation := some 1 }) ?_ rfl
  exact Json.Record.readEntries_cons rfl rfl rfl (Json.Record.read_of (Json.size_of_holds hn)) rfl

theorem decode_tightSettings (x : Json.Doc) (h : Json.Doc.Holds tightSettings x) :
    Settings.decode x = .ok { limits := tightLimits } := by
  cases h with
  | obj _ _ hes =>
  cases hes with
  | cons _ _ hlimits hes =>
  cases hes
  refine Json.Record.ofEntries_closed (p := { limits := some tightLimits }) ?_ rfl
  exact Json.Record.readEntries_cons rfl rfl rfl (Json.Record.read_of (decode_tightLimits hlimits)) rfl

theorem load_tight : tight.perform (loadSettings (some "c.json")) =
    (.ok { limits := tightLimits }, tight) := by
  have hread : tight.read "c.json" = .ok tightSettings.compact :=
    Directory.read_of_target (tight.target_of_plain (by decide)) (by decide)
  have hplain : '$' ∉ tightSettings.compact.toList := by decide
  have hformat : Settings.Format.ofPath "c.json" = .json := by decide
  have hreadable : tightSettings.Readable 2 :=
    ⟨by decide, ⟨by decide, Json.Reader.legible_int ⟨by decide, by decide⟩, trivial⟩, trivial⟩
  have hdecode : Json.decodeText Settings.decode tightSettings.compact = .ok { limits := tightLimits } := by
    have h := Json.decodeText_spells (a := []) (b := []) decode_tightSettings (Json.spells_write tightSettings)
      hreadable (by decide) Json.gap_nil Json.gap_nil
    simpa [Json.compact] using h
  have htext : ∀ env, Settings.ofText env "c.json" tightSettings.compact =
      .ok { limits := tightLimits } := fun env => by
    rw [Settings.ofText, Placeholder.expand_of_not_mem hplain]
    simp only [hformat, Settings.read, hdecode]
    exact Settings.checked_of_issues rfl
  rw [loadSettings, Directory.perform_bind, readText, Directory.perform_bind, Directory.perform_readFile, hread]
  simp only [Directory.perform_liftResult, Except.mapError, Directory.perform_bind, Directory.perform_pure, htext,
    Placeholder.names_of_not_mem hplain, List.mapM_nil]

theorem one_lt_length_explanationText (prompt : String) (p : Plan) (l : Limits) :
    1 < (Plan.explanationText prompt p l).length := by
  simp [Plan.explanationText, Plan.explanationLines, Text.joinWith]

theorem answerPlan_tight :
    ∃ source plan, tight.perform (answerPlan { limits := tightLimits } tightOptions) = (.ok (source, plan), tight) := by
  have hcheck : Prompt.check "x" tightLimits = .ok () := by rfl
  exact ⟨_, _, perform_answerPlan rfl rfl (Request.runBy_none hcheck)⟩

theorem target_tight : tight.target "h.jsonl" = .ok (.name "h.jsonl") ∧ tight.read "h.jsonl" = .error .notFound := by
  have htarget : tight.target "h.jsonl" = .ok (.name "h.jsonl") := tight.target_of_plain (by decide)
  exact ⟨htarget, Directory.read_of_target htarget (by decide)⟩

theorem loadHistory_tight : tight.perform (loadHistory "h.jsonl") = (.ok ⟨[]⟩, tight) := by
  rw [Directory.perform_loadHistory, target_tight.2]

/-- What was recorded here is the first line of a new file. -/
theorem read_of_recorded_tight {p : Plan} (hr : Recorded tightOptions { limits := tightLimits } p tight d₁) :
    d₁.read "h.jsonl" = .ok (History.next ⟨[]⟩ "x" p).line := by
  obtain ⟨path, name, h, before, hpath, hname, hload, hbefore, rfl⟩ := hr
  cases hpath
  obtain ⟨htarget, _⟩ := target_tight
  rw [htarget] at hname
  cases hname
  rw [loadHistory_tight] at hload
  cases hload
  cases hbefore
  rw [Directory.read_of_target (Directory.target_of_ok htarget _) (by decide), Directory.lookup_putFile, if_pos rfl,
    String.empty_append]
  rfl

/-- A build with these options makes a plan, records it, and then fails. -/
theorem build_tight : ∃ d₁ n, tight.perform (build tightOptions false).run =
      (.error (.rejected (.explanationTooLong n 1)), d₁) ∧ ∃ text, d₁.read "h.jsonl" = .ok text := by
  obtain ⟨htarget, hmissing⟩ := target_tight
  obtain ⟨source, plan, ha⟩ := answerPlan_tight
  obtain ⟨d₁, hd⟩ := Directory.accepts_of_target htarget (by decide) (History.next ⟨[]⟩ "x" plan).line
  have hmake : tight.perform (makePlan { limits := tightLimits } tightOptions) = (.ok ⟨source, some 1, plan⟩, d₁) := by
    rw [makePlan, Directory.perform_bind, ha]
    simp only [historyTarget, tightOptions, Option.some_or, Directory.perform_bind, loadHistory_tight,
      Directory.perform_appendHistory, hd, Directory.perform_pure]
    rfl
  have hlong : Plan.explain "x" plan tightLimits =
      .error (.explanationTooLong (Plan.explanationText "x" plan tightLimits).length 1) :=
    explain_eq_error_iff.mpr ⟨one_lt_length_explanationText "x" plan tightLimits, rfl⟩
  refine ⟨d₁, (Plan.explanationText "x" plan tightLimits).length, ?_, _, Directory.read_append_missing hd hmissing⟩
  rw [run, Directory.perform_bind]
  simp only [show tightOptions.config = some "c.json" from rfl, load_tight]
  rw [Directory.perform_bind, hmake]
  simp only [show tightOptions.prompt = "x" from rfl, Directory.perform_bind, Directory.perform_liftResult, hlong]
  rfl

/-- A build that fails because its explanation is too long has changed its history. -/
theorem failed_build_recorded : ∃ (o : PlanOptions) (e : CommandError) (d d₁ : Directory),
    d.perform (build o false).run = (.error e, d₁) ∧ o.model = false ∧ o.history = some "h.jsonl" ∧
      d.read "h.jsonl" = .error .notFound ∧ ∃ text, d₁.read "h.jsonl" = .ok text := by
  obtain ⟨d₁, n, hrun, hread⟩ := build_tight
  exact ⟨tightOptions, _, tight, d₁, hrun, rfl, rfl, target_tight.2, hread⟩

/-- Without a prompt, a plan and a build leave the files alone. A build without room for its explanation has appended
the entry of its plan, in a line of its own, to the history. -/
theorem failure_leaves_tight :
    (∃ d₁, tight.perform (plan wordlessOptions).run = (.error (.rejected .emptyPrompt), d₁) ∧ d₁ = tight) ∧
    (∃ d₁, tight.perform (build wordlessOptions true).run = (.error (.rejected .emptyPrompt), d₁) ∧ d₁ = tight) ∧
    ∃ n d₁ p, tight.perform (build tightOptions false).run = (.error (.rejected (.explanationTooLong n 1)), d₁) ∧
      Recorded tightOptions { limits := tightLimits } p tight d₁ ∧
      d₁.read "h.jsonl" = .ok (History.next ⟨[]⟩ "x" p).line := by
  have hplan : tight.perform (plan wordlessOptions).run = (.error (.rejected .emptyPrompt), tight) := rfl
  have hbuild : tight.perform (build wordlessOptions true).run = (.error (.rejected .emptyPrompt), tight) := rfl
  refine ⟨⟨tight, hplan, (failure_leaves _ false _ _ _).1 hplan⟩, ⟨tight, hbuild, ?_⟩, ?_⟩
  · rcases (failure_leaves _ _ _ _ _).2 hbuild with ⟨_, hsame⟩ | ⟨⟨_, _, hlong⟩, _⟩
    · exact hsame
    · cases hlong
  · obtain ⟨d₁, n, hrun, _⟩ := build_tight
    rcases (failure_leaves _ _ _ _ _).2 hrun with ⟨hshort, _⟩ | ⟨_, s, _, p, hs, _, _, _, hkept⟩
    · exact absurd ⟨n, 1, rfl⟩ hshort
    obtain rfl : { limits := tightLimits } = s := by
      rw [show tightOptions.config = some "c.json" from rfl, load_tight] at hs
      cases hs
      rfl
    rcases hkept with ⟨hnone, _⟩ | hrecorded
    · cases hnone
    · exact ⟨n, d₁, p, hrun, hrecorded, read_of_recorded_tight hrecorded⟩

end Command

end Wireframe
