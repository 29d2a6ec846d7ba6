import Wireframe.Proofs.HistoryLines
import Wireframe.Proofs.Performing

/-!
# The history file as a log

* **Texts** (`History.text`, `History.ofText_text`): the lines of the entries one after the other, and reading them.
* **Uses** (`History.Use`, `History.session`): a handle on a file is loaded again or appends a plan.
* **Logs** (`History.Log`): a handle and its file agree, the versions count the entries, and the digests are those of
  the plans; loading and appending keep this (`History.Log.load`, `History.Log.append`), and so do all uses in a row
  (`History.Log.foldlM`).
-/

namespace Wireframe.History

/-! ## Texts -/

def text (h : History) : String := String.join (h.entries.map Entry.line)

theorem toList_text (h : History) : h.text.toList = h.entries.flatMap fun e => e.line.toList := by
  rw [text, String.toList_join, List.flatMap_map]

/-- Entries that can be read back are read from their lines. -/
theorem readLines_flatMap_line {es : List Entry} (hk : ∀ e ∈ es, e.Kept) (n : Nat) :
    readLines n (Text.lines (es.flatMap fun e => e.line.toList)) = .ok es := by
  induction es generalizing n with
  | nil => rfl
  | cons e es ih =>
    obtain ⟨he, hes⟩ := List.forall_mem_cons.mp hk
    have hended : Text.Ended e.line.toList := .inr ⟨_, e.line_eq.1⟩
    have hline : Text.lines e.line.toList = [e.toJson.write] := by
      simpa using e.lines_append_line (s := []) (by simp)
    have hread : Entry.ofLine e.toJson.write = .ok e := he.ofLine (a := []) Json.gap_nil
    have hblank : e.toJson.write.all Text.isBlank = false := e.not_all_isBlank []
    rw [List.flatMap_cons, Text.lines_append hended, hline, List.singleton_append, readLines_cons hblank hread, ih hes]
    rfl

/-- A history whose entries can be read back is read from its text. -/
theorem ofText_text {h : History} (hk : ∀ e ∈ h.entries, e.Kept) : ofText h.text = .ok h := by
  rw [ofText, toList_text, readLines_flatMap_line hk]
  rfl

theorem text_append (h : History) (prompt : String) (p : Plan) :
    (h.append prompt p).text = h.text ++ (h.next prompt p).line := by
  rw [text, History.append, List.map_append, String.join_append]
  simp [text, String.join]

/-! ## Uses of a file -/

/-- What is done with a history file by a handle on it. -/
inductive Use where
  /-- The file is loaded again. -/
  | load
  /-- A plan is appended with its prompt. -/
  | append (prompt : String) (plan : Plan)

namespace Use

def request? : Use → Option (String × Plan)
  | load => none
  | append prompt p => some (prompt, p)

/-- The handle after a use of its file. -/
def run (path : String) (h : History) : Use → Step (StateM Directory) History
  | load => loadHistory path
  | append prompt p => appendHistory path h prompt p

end Use

/-- A handle on a file that is loaded first and then used. -/
def session (path : String) (us : List Use) : Step (StateM Directory) History := do
  us.foldlM (Use.run path) (← loadHistory path)

/-! ## Logs -/

/-- Versions count the entries from 1 when each one is the place of its entry. -/
theorem map_version_eq_iff {h : History} : h.entries.map Entry.version = List.range' 1 h.entries.length ↔
    ∀ (i : Nat) (hi : i < h.entries.length), h.entries[i].version = i + 1 := by
  constructor
  · intro hv i hi
    have hi' : i < (h.entries.map Entry.version).length := by simpa using hi
    have hget : (h.entries.map Entry.version)[i] = 1 + 1 * i := by
      rw [List.getElem_of_eq hv hi', List.getElem_range']
    rw [List.getElem_map] at hget
    omega
  · intro hv
    refine List.ext_getElem (by simp) fun i hi _ => ?_
    rw [List.getElem_map, List.getElem_range', hv i (by simpa using hi)]
    omega

/-- A handle that agrees with its file, which can be written to: the file holds the lines of the entries or does not
exist yet, the versions count the entries from 1, and the digests are those of the plans. -/
structure Log (path : String) (h : History) (d : Directory) : Prop where
  accepts : d.Accepts path
  file : d.read path = if h.entries.isEmpty then .error .notFound else .ok h.text
  version : ∀ (i : Nat) (hi : i < h.entries.length), h.entries[i].version = i + 1
  hash : ∀ e ∈ h.entries, e.hash = e.plan.fingerprint
  shallow : ∀ e ∈ h.entries, e.plan.Shallow

namespace Log

variable {path : String} {h : History} {d : Directory}

/-- The entries of a log can be read back as long as they can be counted. -/
theorem kept (hl : Log path h d) (hn : h.entries.length ≤ Limits.greatestCount) : ∀ e ∈ h.entries, e.Kept := by
  intro e he
  obtain ⟨i, hi, rfl⟩ := List.getElem_of_mem he
  exact ⟨by rw [hl.version i hi]; omega, hl.shallow _ he⟩

/-- Loading the file of a log gives the handle again. -/
theorem load (hl : Log path h d) (hn : h.entries.length ≤ Limits.greatestCount) :
    d.perform (loadHistory path) = (.ok h, d) := by
  rw [Directory.perform_loadHistory, hl.file]
  cases he : h.entries.isEmpty with
  | true =>
    obtain ⟨es⟩ := h
    obtain rfl : es = [] := List.isEmpty_iff.mp he
    rfl
  | false =>
    rw [if_neg (by simp)]
    simp only [ofText_text (hl.kept hn)]
    rfl

/-- Appending a shallow plan to a log gives a log. -/
theorem append (hl : Log path h d) (prompt : String) {p : Plan} (hp : p.Shallow) :
    ∃ d₁, d.perform (appendHistory path h prompt p) = (.ok (h.append prompt p), d₁) ∧
      Log path (h.append prompt p) d₁ := by
  obtain ⟨d₁, hd⟩ := hl.accepts (h.next prompt p).line
  refine ⟨d₁, by rw [Directory.perform_appendHistory, hd], ?_⟩
  refine ⟨Directory.accepts_of_append hd d₁, ?_, ?_, ?_, ?_⟩
  · -- the line is the first text of the file, or stands after what it held
    have hfile := hl.file
    have hne : (h.append prompt p).entries.isEmpty = false := by simp [History.append]
    rw [hne, text_append]
    split at hfile
    · next he =>
      have hnil : h.text = "" := by
        rw [text, List.isEmpty_iff.mp he]
        rfl
      rw [Directory.read_append_missing hd hfile, hnil, String.empty_append]
      rfl
    · exact Directory.read_append hd hfile
  · -- the new entry stands last, and its version is the new number of entries
    intro i hi
    simp only [History.append, List.getElem_append]
    split
    · exact hl.version i _
    · next hge =>
      have hlast : i = h.entries.length := by
        simp only [History.append, List.length_append, List.length_singleton] at hi
        omega
      subst hlast
      simp [next]
  · intro e he
    rcases List.mem_append.mp he with he | he
    · exact hl.hash e he
    · rw [List.mem_singleton.mp he]
      rfl
  · intro e he
    rcases List.mem_append.mp he with he | he
    · exact hl.shallow e he
    · rw [List.mem_singleton.mp he]
      exact hp

end Log

def requests (h : History) : List (String × Plan) := h.entries.map fun e => (e.prompt, e.plan)

/-- Uses of a log with shallow plans succeed and leave a log of what was appended. -/
theorem Log.foldlM {path : String} {us : List Use} : ∀ {h : History} {d : Directory}, Log path h d →
    (∀ r ∈ us.filterMap Use.request?, r.2.Shallow) →
    h.entries.length + (us.filterMap Use.request?).length ≤ Limits.greatestCount →
    ∃ h₁ d₁, d.perform (us.foldlM (Use.run path) h) = (.ok h₁, d₁) ∧ Log path h₁ d₁ ∧
      h₁.requests = h.requests ++ us.filterMap Use.request? := by
  -- by induction on the uses, for any handle: each of them goes on from the log that the one before left
  induction us with
  | nil => exact fun hl _ _ => ⟨_, _, rfl, hl, by simp⟩
  | cons u us ih =>
    intro h d hl hp hn
    rw [List.foldlM_cons, Directory.perform_bind]
    cases u with
    | load =>
      rw [Use.run, hl.load (by omega)]
      exact ih hl hp hn
    | append prompt p =>
      simp only [List.filterMap_cons, Use.request?, List.length_cons] at hp hn
      obtain ⟨hp, hps⟩ := List.forall_mem_cons.mp hp
      obtain ⟨d₁, hd, hl₁⟩ := hl.append prompt hp
      rw [Use.run, hd]
      obtain ⟨h₂, d₂, hrun, hl₂, hr⟩ := ih hl₁ hps (by
        simp only [History.append, List.length_append, List.length_singleton]
        omega)
      refine ⟨h₂, d₂, hrun, hl₂, ?_⟩
      rw [hr]
      simp [requests, History.append, next, Use.request?]

/-- A missing file that can be written to is the log of no entries. -/
theorem Log.missing {path : String} {d : Directory} (hd : d.read path = .error .notFound) (hw : d.Accepts path) :
    Log path ⟨[]⟩ d :=
  ⟨hw, hd, fun _ hi => absurd hi (Nat.not_lt_zero _), by simp, by simp⟩

theorem Log.map_version {path : String} {h : History} {d : Directory} (hl : Log path h d) :
    h.entries.map Entry.version = List.range' 1 h.entries.length :=
  map_version_eq_iff.mpr hl.version

/-- The history file is a faithful log. A file that does not exist yet is loaded and then used, by loading it again and
by appending shallow plans with any prompts, no more than can be counted with 64 bits. All this succeeds, and then: the
entries are what was appended; the file holds their lines, each with one line feed, at its end; loading it gives the
same entries; the versions count the entries, and an entry is found by its version and no other; and the digests are
those of the plans. -/
theorem session_faithful (d : Directory) (path : String) (us : List Use) (hmissing : d.read path = .error .notFound)
    (hwrite : d.Accepts path) (hshallow : ∀ r ∈ us.filterMap Use.request?, r.2.Shallow)
    (hcount : (us.filterMap Use.request?).length ≤ Limits.greatestCount) :
    ∃ h d₁, d.perform (session path us) = (.ok h, d₁) ∧
      h.requests = us.filterMap Use.request? ∧
      d₁.read path = (if h.entries.isEmpty then .error .notFound else .ok (String.join (h.entries.map Entry.line))) ∧
      (∀ e ∈ h.entries, ∃ s, e.line.toList = s ++ ['\n'] ∧ '\n' ∉ s) ∧
      d₁.perform (loadHistory path) = (.ok h, d₁) ∧
      h.entries.map Entry.version = List.range' 1 h.entries.length ∧
      (∀ (i : Nat) (hi : i < h.entries.length), h.get? (i + 1) = some h.entries[i] ∧ h.entries[i].version = i + 1) ∧
      h.get? 0 = none ∧ (∀ k, h.entries.length < k → h.get? k = none) ∧
      ∀ e ∈ h.entries, e.hash = e.plan.fingerprint := by
  have hl := Log.missing hmissing hwrite
  obtain ⟨h, d₁, hrun, hl₁, hr⟩ := hl.foldlM hshallow (by simpa using hcount)
  have hrequests : h.requests = us.filterMap Use.request? := by simpa [requests] using hr
  have hlen : h.entries.length ≤ Limits.greatestCount := by
    have h := congrArg List.length hrequests
    rw [requests, List.length_map] at h
    omega
  have hsession : d.perform (session path us) = (.ok h, d₁) := by
    rw [session, Directory.perform_bind, hl.load (Nat.zero_le _)]
    exact hrun
  have hbeyond : ∀ k, h.entries.length < k → h.get? k = none := fun k hk => by
    rw [get?, if_neg (by omega), List.getElem?_eq_none (by omega)]
  exact ⟨h, d₁, hsession, hrequests, hl₁.file, fun e _ => ⟨_, e.line_eq⟩, hl₁.load hlen, hl₁.map_version,
    fun i hi => ⟨by simp [get?, hi], hl₁.version i hi⟩, rfl, hbeyond, hl₁.hash⟩

/-- Two plans are appended under prompts with a line feed and a quote, and the file is loaded again between them. -/
theorem session_faithful_reload :
    ∃ h d₁, (Directory.mk [] []).perform (session "h.jsonl" [.append "a\n\"b\"" ⟨"x", [.card "\x07"]⟩, .load,
        .append "" ⟨"y", []⟩]) = (.ok h, d₁) ∧
      h.entries.map Entry.version = [1, 2] ∧ d₁.perform (loadHistory "h.jsonl") = (.ok h, d₁) := by
  have htarget : (Directory.mk [] []).target "h.jsonl" = .ok (.name "h.jsonl") :=
    Directory.target_of_plain _ (by decide)
  have hmissing : (Directory.mk [] []).read "h.jsonl" = .error .notFound :=
    Directory.read_of_target htarget (by decide)
  have hwrite := Directory.accepts_of_target htarget (by decide)
  have hcard : Plan.Shallow ⟨"x", [.card "\x07"]⟩ := by
    intro n hn
    cases hn
    decide
  have hempty : Plan.Shallow ⟨"y", []⟩ := fun n hn => by cases hn
  obtain ⟨h, d₁, hrun, hr, _, _, hload, hversion, _⟩ := session_faithful ⟨[], []⟩ "h.jsonl"
    [.append "a\n\"b\"" ⟨"x", [.card "\x07"]⟩, .load, .append "" ⟨"y", []⟩] hmissing hwrite
    (List.forall_mem_cons.mpr ⟨hcard, List.forall_mem_singleton.mpr hempty⟩) (by decide)
  refine ⟨h, d₁, hrun, ?_, hload⟩
  have hlen := congrArg List.length hr
  rw [requests, List.length_map] at hlen
  rw [hversion, hlen]
  rfl

end Wireframe.History
