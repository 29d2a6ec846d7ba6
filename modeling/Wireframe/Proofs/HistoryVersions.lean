import Wireframe.Proofs.HistoryEnds

/-!
# Versions that are listed and versions that are shown

A history is listed with the versions in its file, a version is shown by its place there, and loading compares neither.

* **Places** (`History.get?_eq_some_iff`): what is found at a version stands at that place, whatever its own version is.
* **Numbered histories** (`History.Numbered`): each version is the place of its entry. Then, and only then, what is
  found at a version has it (`numbered_iff_found`), and what is listed with a version is found at it
  (`Numbered.get?_version`); a plan that is appended keeps this (`Numbered.append`).
* **Commands** (`perform_historyList`, `perform_historyShow`): what is shown of a history that was opened; whether that
  is what was listed (`shown_as_listed`).
* **Files** (`open_oneFile`, `listed_version_not_shown`): entries with any versions are accepted.
-/

namespace Wireframe.History

variable {h : History} {e : Entry}

/-! ## Places -/

theorem get?_eq_some_iff {v : Nat} : h.get? v = some e ↔ ∃ i, v = i + 1 ∧ h.entries[i]? = some e := by
  cases v with
  | zero => simp [get?]
  | succ i => simp [get?]

/-! ## Numbered histories -/

/-- A history whose versions count its entries from 1. -/
def Numbered (h : History) : Prop := h.entries.map Entry.version = List.range' 1 h.entries.length

instance : DecidablePred Numbered := fun h =>
  inferInstanceAs (Decidable (h.entries.map Entry.version = List.range' 1 h.entries.length))

/-- Only in a numbered history everything that is found at a version has it. -/
theorem numbered_iff_found : h.Numbered ↔ ∀ v e, h.get? v = some e → e.version = v := by
  rw [Numbered, map_version_eq_iff]
  constructor
  · intro hv v e he
    obtain ⟨i, rfl, hi⟩ := get?_eq_some_iff.mp he
    obtain ⟨hlt, rfl⟩ := List.getElem?_eq_some_iff.mp hi
    exact hv i hlt
  · intro hv i hi
    exact hv (i + 1) _ (get?_eq_some_iff.mpr ⟨i, rfl, List.getElem?_eq_getElem hi⟩)

theorem Numbered.get?_version (hn : h.Numbered) (he : e ∈ h.entries) : h.get? e.version = some e := by
  obtain ⟨i, hi, rfl⟩ := List.getElem_of_mem he
  rw [map_version_eq_iff.mp hn i hi]
  exact get?_eq_some_iff.mpr ⟨i, rfl, List.getElem?_eq_getElem hi⟩

theorem Numbered.append (hn : h.Numbered) (prompt : String) (p : Plan) : (h.append prompt p).Numbered := by
  show (h.entries ++ [h.next prompt p]).map Entry.version = List.range' 1 (h.entries ++ [h.next prompt p]).length
  rw [List.map_append, hn, List.length_append, List.length_singleton, List.range'_concat]
  simp [next, Nat.add_comm]

/-! ## Commands -/

variable {d d₁ : Directory} {history config : Option String} {path : String}

def listing (path : String) (h : History) : OutputFormat → String
  | .text => historyText path h
  | .json => (historyJson h).pretty

def showing (h : History) (v : Nat) : Except CommandError String :=
  match h.get? v with
  | some e => .ok e.plan.toJson.pretty
  | none => .error (.noVersion v h.entries.length)

theorem perform_historyList (ho : d.perform (openHistory history config) = (.ok (path, h), d₁)) (f : OutputFormat) :
    d.perform (Command.historyList history config f).run = (.ok (h.listing path f), d₁) := by
  rw [Command.run, Directory.perform_bind, ho]
  cases f <;> rfl

theorem perform_historyShow (ho : d.perform (openHistory history config) = (.ok (path, h), d₁)) (v : Nat) :
    d.perform (Command.historyShow v history config).run = (h.showing v, d₁) := by
  rw [Command.run, Directory.perform_bind, ho, showing]
  dsimp only
  cases h.get? v <;> rfl

theorem perform_openHistory (hl : d.perform (loadHistory path) = (.ok h, d)) (config : Option String) :
    d.perform (openHistory (some path) config) = (.ok (path, h), d) := by
  rw [openHistory, Directory.perform_bind]
  show d.perform (loadHistory path >>= fun h => pure (path, h)) = _
  rw [Directory.perform_bind, hl]
  rfl

/-- Whether a history is shown as it is listed. A history that was opened is listed entry by entry with the versions in
its file, and shown by the places of entries. What is listed with a version is found at it, and what is found at a
version has it, just when the history is numbered; then the plan of each entry is shown at the version with which it is
listed, and a plan that is appended keeps the history numbered. -/
theorem shown_as_listed (d d₁ : Directory) (history config : Option String) (path : String) (h : History)
    (hopen : d.perform (openHistory history config) = (.ok (path, h), d₁)) :
    (∀ f, d.perform (Command.historyList history config f).run = (.ok (h.listing path f), d₁)) ∧
    (∀ v, d.perform (Command.historyShow v history config).run = (h.showing v, d₁)) ∧
    (h.Numbered ↔ (∀ e ∈ h.entries, ∃ f, h.get? e.version = some f ∧ f.version = e.version) ∧
      ∀ v e, h.get? v = some e → e.version = v) ∧
    (h.Numbered → (∀ e ∈ h.entries, h.showing e.version = .ok e.plan.toJson.pretty) ∧
      ∀ prompt p, (h.append prompt p).Numbered) := by
  refine ⟨perform_historyList hopen, perform_historyShow hopen, ⟨fun hn => ⟨?_, numbered_iff_found.mp hn⟩, ?_⟩, ?_⟩
  · intro e he
    exact ⟨e, hn.get?_version he, rfl⟩
  · rintro ⟨_, hfound⟩
    exact numbered_iff_found.mpr hfound
  · intro hn
    refine ⟨fun e he => ?_, hn.append⟩
    rw [showing, hn.get?_version he]

/-! ## Files with given versions -/

/-- Whatever the versions of entries are, the file with their lines is accepted. -/
theorem open_oneFile (hk : ∀ e ∈ h.entries, e.Kept) :
    (oneFile h.text).perform (openHistory (some "h.jsonl") none) = (.ok ("h.jsonl", h), oneFile h.text) :=
  perform_openHistory (loadHistory_of_ok (read_oneFile _) (ofText_text hk)) none

def pair : History := append ⟨[first]⟩ "b" ⟨"y", []⟩

theorem shown_as_listed_pair :
    (oneFile pair.text).perform (openHistory (some "h.jsonl") none) = (.ok ("h.jsonl", pair), oneFile pair.text) ∧
    (oneFile pair.text).perform (Command.historyShow 2 (some "h.jsonl") none).run =
      (.ok (Plan.toJson ⟨"y", []⟩).pretty, oneFile pair.text) ∧
    ∀ v e, pair.get? v = some e → e.version = v := by
  have hsecond : (next ⟨[first]⟩ "b" ⟨"y", []⟩).Kept :=
    ⟨(by decide : 2 ≤ Limits.greatestCount), (by decide : Plan.Shallow ⟨"y", []⟩)⟩
  have hopen := open_oneFile (h := pair) (List.forall_mem_cons.mpr ⟨kept_first, List.forall_mem_singleton.mpr hsecond⟩)
  have hn : pair.Numbered := rfl
  obtain ⟨_, hshow, hiff, hplans⟩ := shown_as_listed _ _ (some "h.jsonl") none "h.jsonl" pair hopen
  have htwo : pair.showing 2 = .ok (Plan.toJson ⟨"y", []⟩).pretty :=
    (hplans hn).1 (next ⟨[first]⟩ "b" ⟨"y", []⟩) (by simp [pair, History.append])
  exact ⟨hopen, by rw [hshow, htwo], (hiff.mp hn).2⟩

def fifthOnly : History := ⟨[⟨5, "a", "", ⟨"x", []⟩⟩]⟩

/-- A file with one entry of version 5 is accepted. It is listed with this version, at which nothing is found; and the
entry is found at version 1, which it does not have. -/
theorem listed_version_not_shown :
    (oneFile fifthOnly.text).perform (loadHistory "h.jsonl") = (.ok fifthOnly, oneFile fifthOnly.text) ∧
    (oneFile fifthOnly.text).perform (Command.historyList (some "h.jsonl") none .text).run =
      (.ok "5  a", oneFile fifthOnly.text) ∧
    fifthOnly.get? 5 = none ∧
    (oneFile fifthOnly.text).perform (Command.historyShow 5 (some "h.jsonl") none).run =
      (.error (.noVersion 5 1), oneFile fifthOnly.text) ∧
    ∃ e, fifthOnly.get? 1 = some e ∧ e.version = 5 := by
  have hk : ∀ e ∈ fifthOnly.entries, e.Kept :=
    List.forall_mem_singleton.mpr ⟨by decide, by decide⟩
  have hopen := open_oneFile hk
  exact ⟨loadHistory_of_ok (read_oneFile _) (ofText_text hk), perform_historyList hopen .text, rfl,
    perform_historyShow hopen 5, _, rfl, rfl⟩

end Wireframe.History
