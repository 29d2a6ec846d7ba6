import Mathlib.Data.List.DropRight
import Wireframe.Proofs.Continuation
import Wireframe.Proofs.HistoryLog

/-!
# Appending to a history that was accepted

A history is accepted with any blanks between its lines, and with or without a line feed at its end; a new line is
written where the file ends.

* **Last lines** (`Text.lastLine`): what a new line goes on with.
* **Gaps** (`History.ofText_append_of_gap`): after blanks of documents the new entry is read.
* **Anything else** (`History.ofText_append_of_not_gap`): after other blanks or an entry the last line is no entry any
  more.
-/

namespace Wireframe

open Json (Gap)

namespace Text

/-- What stands after the last line feed of a text. -/
def lastLine (s : List Char) : List Char := s.rtakeWhile (· ≠ '\n')

theorem exists_lastLine (s : List Char) : ∃ a, Ended a ∧ s = a ++ lastLine s := by
  refine ⟨s.rdropWhile (· ≠ '\n'), ?_, List.rdropWhile_append_rtakeWhile.symm⟩
  by_cases h : s.rdropWhile (· ≠ '\n') = []
  · exact .inl h
  · have hlast := List.rdropWhile_last_not (fun c => decide (c ≠ '\n')) s h
    refine .inr ⟨(s.rdropWhile (· ≠ '\n')).dropLast, ?_⟩
    rw [← List.dropLast_append_getLast h]
    simpa using hlast

theorem lastLine_append_feed (s : List Char) : lastLine (s ++ ['\n']) = [] :=
  List.rtakeWhile_concat_neg _ _ _ (by simp)

theorem lastLine_of_not_mem {s : List Char} (h : '\n' ∉ s) : lastLine s = s :=
  List.rtakeWhile_eq_self_iff.mpr fun c hc => by simpa using ne_of_mem_of_not_mem hc h

theorem not_mem_lastLine (s : List Char) : '\n' ∉ lastLine s := fun h => by
  simpa using List.mem_rtakeWhile_imp h

end Text

namespace History

variable {l : List Char} {s : String} {h : History} {e : Entry}

/-! ## Lines that go on with an entry -/

theorem all_isBlank_of_gap (hl : Gap l) : l.all Text.isBlank = true := by
  have hc := List.dropWhile_eq_nil_iff.mp hl
  refine List.all_eq_true.mpr fun c hmem => ?_
  have h := hc c hmem
  simp only [Bool.or_eq_true, decide_eq_true_eq] at h
  rcases h with ((rfl | rfl) | rfl) | rfl <;> rfl

/-- No blank character starts a value. -/
theorem not_starts_of_isBlank {c : Char} (hc : Text.isBlank c = true) :
    c ∉ ['[', '{', '"', 'n', 't', 'f', '-'] ∧ Json.Scanner.isDigit c = false := by
  constructor
  · intro h
    simp only [List.mem_cons, List.not_mem_nil, or_false] at h
    rcases h with rfl | rfl | rfl | rfl | rfl | rfl | rfl <;> revert hc <;> decide
  · by_contra hd
    have hd : 48 ≤ c.toNat ∧ c.toNat ≤ 57 := by
      simpa [Json.Scanner.isDigit, Char.le_def, UInt32.le_iff_toNat_le] using hd
    simp only [Text.isBlank, Text.inTable, Text.blanks, List.any_cons, List.any_nil, Bool.or_false, Bool.or_eq_true,
      Bool.and_eq_true, decide_eq_true_eq] at hc
    omega

/-- Blanks that are no gap keep an entry from being read. -/
theorem ofLine_of_blank (hb : l.all Text.isBlank = true) (hl : ¬Gap l) (e : Entry) :
    ∃ x, Entry.ofLine (l ++ e.toJson.write) = .error x := by
  obtain ⟨c, t, hskip⟩ := List.exists_cons_of_ne_nil hl
  have hmem : c ∈ l := (List.dropWhile_sublist _).subset (by
    rw [← Json.Scanner.skipBlanks, hskip]
    exact List.mem_cons_self)
  obtain ⟨hstart, hdigit⟩ := not_starts_of_isBlank (List.all_eq_true.mp hb c hmem)
  rw [Entry.ofLine, e.trimEnd_append_write, Json.decodeText, String.toList_ofList, Json.Doc.ofText,
    Json.Scanner.skipBlanks_append hskip, Json.Reader.part_other hstart hdigit]
  exact ⟨_, rfl⟩

/-- After an entry no other one can stand on the same line. -/
theorem ofLine_append {f : Entry} (hl : Entry.ofLine l = .ok f) (e : Entry) :
    ∃ x, Entry.ofLine (l ++ e.toJson.write) = .error x := by
  obtain ⟨t, ht, _⟩ := Text.trimEnd_append_blank l
  have hgap : ¬Gap (t ++ e.toJson.write) := fun hg => by
    have hblank := all_isBlank_of_gap hg
    rw [e.not_all_isBlank] at hblank
    cases hblank
  obtain ⟨x, hx⟩ := Json.decodeText_append_error (r := record) hl hgap
  rw [Entry.ofLine, e.trimEnd_append_write]
  refine ⟨x, ?_⟩
  rw [← ht, List.append_assoc]
  exact hx

/-! ## Texts that go on with a line -/

/-- A new line goes on with the last line of a text; all lines before stay. -/
theorem exists_lines (s : List Char) (e : Entry) : ∃ ls : List (List Char),
    Text.lines s = ls ++ Text.lines (Text.lastLine s) ∧
      Text.lines (s ++ e.line.toList) = ls ++ [Text.lastLine s ++ e.toJson.write] := by
  obtain ⟨a, ha, hs⟩ := Text.exists_lastLine s
  refine ⟨Text.lines a, ?_, ?_⟩
  · rw [← Text.lines_append ha, ← hs]
  · rw [← e.lines_append_line (Text.not_mem_lastLine s), ← Text.lines_append ha, ← List.append_assoc, ← hs]

theorem ofText_eq_ok_iff : ofText s = .ok h ↔ readLines 1 (Text.lines s.toList) = .ok h.entries := by
  obtain ⟨es⟩ := h
  rw [ofText]
  cases readLines 1 (Text.lines s.toList) <;> simp [Except.map]

/-- After a gap a new entry is read. -/
theorem ofText_append_of_gap (hs : ofText s = .ok h) (hg : Gap (Text.lastLine s.toList)) (he : e.Kept) :
    ofText (s ++ e.line) = .ok ⟨h.entries ++ [e]⟩ := by
  obtain ⟨ls, hold, hnew⟩ := exists_lines s.toList e
  have hlast : ∀ n, readLines n (Text.lines (Text.lastLine s.toList)) = .ok [] := fun n => by
    rw [Text.lines_of_not_mem (Text.not_mem_lastLine _)]
    split
    · rfl
    · rw [readLines, all_isBlank_of_gap hg]
      rfl
  have hentry : ∀ n, readLines n [Text.lastLine s.toList ++ e.toJson.write] = .ok [e] := fun n => by
    rw [readLines_cons (e.not_all_isBlank _) (he.ofLine hg)]
    rfl
  rw [ofText_eq_ok_iff, hold, readLines_append, hlast] at hs
  rw [ofText_eq_ok_iff, String.toList_append, hnew, readLines_append, hentry]
  cases hls : readLines 1 ls with
  | error b =>
    rw [hls] at hs
    cases hs
  | ok es =>
    rw [hls] at hs
    simp only [Except.bind, Except.map, List.append_nil, Except.ok.injEq] at hs
    simp [Except.bind, Except.map, hs]

/-- After anything but a gap a new entry is not read. -/
theorem ofText_append_of_not_gap (hs : ofText s = .ok h) (hg : ¬Gap (Text.lastLine s.toList)) (e : Entry) :
    ∃ x, ofText (s ++ e.line) = .error ⟨(Text.lines s.toList).length, x⟩ := by
  obtain ⟨ls, hold, hnew⟩ := exists_lines s.toList e
  have hne : Text.lastLine s.toList ≠ [] := fun hnil => hg (by rw [hnil]; exact Json.gap_nil)
  rw [Text.lines_of_not_mem (Text.not_mem_lastLine _), if_neg hne] at hold
  rw [ofText_eq_ok_iff, hold, readLines_append] at hs
  cases hls : readLines 1 ls with
  | error b =>
    rw [hls] at hs
    cases hs
  | ok es =>
    -- the text was accepted, so its last line is blank or an entry, and neither can have an entry after it
    obtain ⟨x, hx⟩ : ∃ x, Entry.ofLine (Text.lastLine s.toList ++ e.toJson.write) = .error x := by
      cases hb : (Text.lastLine s.toList).all Text.isBlank with
      | true => exact ofLine_of_blank hb hg e
      | false =>
        cases hl : Entry.ofLine (Text.lastLine s.toList) with
        | error x => simp [hls, readLines, hb, hl, Except.bind, Except.map] at hs
        | ok f => exact ofLine_append hl e
    have hread : readLines (1 + ls.length) [Text.lastLine s.toList ++ e.toJson.write] =
        .error ⟨1 + ls.length, x⟩ := by
      rw [readLines, e.not_all_isBlank, hx]
      rfl
    have hlen : (Text.lines s.toList).length = 1 + ls.length := by
      rw [hold, List.length_append, List.length_singleton, Nat.add_comm]
    refine ⟨x, ?_⟩
    rw [hlen, ofText, String.toList_append, hnew, readLines_append, hls]
    simp only [Except.bind, hread]
    rfl

/-! ## Appending to a file -/

variable {d d₁ : Directory} {path prompt : String} {p : Plan}

/-- A history that is loaded is that of the text in the file, or has no entries if there is no file. -/
theorem of_loadHistory (hl : d.perform (loadHistory path) = (.ok h, d)) :
    (d.read path = .error .notFound ∧ h = ⟨[]⟩) ∨ ∃ s, d.read path = .ok s ∧ ofText s = .ok h := by
  rw [Directory.perform_loadHistory] at hl
  cases hr : d.read path with
  | ok s =>
    right
    rw [hr] at hl
    refine ⟨s, rfl, ?_⟩
    cases hs : ofText s with
    | error b => simp [hs, Except.mapError] at hl
    | ok g => simpa [hs, Except.mapError] using hl
  | error x =>
    left
    rw [hr] at hl
    cases x with
    | notFound => exact ⟨rfl, by simpa using hl.symm⟩
    | _ => simp at hl

theorem loadHistory_of_ok (hr : d.read path = .ok s) (hs : ofText s = .ok h) :
    d.perform (loadHistory path) = (.ok h, d) := by
  rw [Directory.perform_loadHistory, hr]
  simp only [hs]
  rfl

theorem loadHistory_of_error {b : BadLine} (hr : d.read path = .ok s) (hs : ofText s = .error b) :
    d.perform (loadHistory path) = (.error (.history (.line path b)), d) := by
  rw [Directory.perform_loadHistory, hr]
  simp only [hs]
  rfl

/-- Whether a plan can be appended to a history that was accepted is decided by what stands after the last line feed of
its file. If that is a gap, or if there is no file, the file is accepted with the new entry after the old ones.
Otherwise the new entry is written on the line of another one or after blanks that documents do not have, and the file
is not accepted any more because of that line. -/
theorem append_accepted (d d₁ : Directory) (path : String) (h h₁ : History) (prompt : String) (p : Plan)
    (hload : d.perform (loadHistory path) = (.ok h, d)) (hcount : h.entries.length < Limits.greatestCount)
    (hp : p.Shallow) (happend : d.perform (appendHistory path h prompt p) = (.ok h₁, d₁)) :
    h₁.entries = h.entries ++ [h.next prompt p] ∧
    ((∀ s, d.read path = .ok s → Gap (Text.lastLine s.toList)) → d₁.perform (loadHistory path) = (.ok h₁, d₁)) ∧
    ∀ s, d.read path = .ok s → ¬Gap (Text.lastLine s.toList) → ∃ x, d₁.perform (loadHistory path) =
      (.error (.history (.line path ⟨(Text.lines s.toList).length, x⟩)), d₁) := by
  have hkept : (h.next prompt p).Kept := ⟨by simp only [next]; omega, hp⟩
  obtain ⟨hd, rfl⟩ := Directory.of_perform_appendHistory happend
  refine ⟨rfl, fun hgap => ?_, fun s hr hgap => ?_⟩
  · rcases of_loadHistory hload with ⟨hr, rfl⟩ | ⟨s, hr, hs⟩
    · have hempty : ofText "" = .ok ⟨[]⟩ := rfl
      have hread := ofText_append_of_gap hempty Json.gap_nil hkept
      rw [String.empty_append] at hread
      exact loadHistory_of_ok (Directory.read_append_missing hd hr) hread
    · exact loadHistory_of_ok (Directory.read_append hd hr) (ofText_append_of_gap hs (hgap s hr) hkept)
  · rcases of_loadHistory hload with ⟨hr', _⟩ | ⟨s', hr', hs⟩
    · rw [hr'] at hr
      cases hr
    · rw [hr'] at hr
      cases hr
      obtain ⟨x, hx⟩ := ofText_append_of_not_gap hs hgap (h.next prompt p)
      exact ⟨x, loadHistory_of_error (Directory.read_append hd hr') hx⟩

/-! ## Two files -/

/-- The first entry of a history, with a digest that was not computed here. -/
def first : Entry := ⟨1, "a", "", ⟨"x", []⟩⟩

def oneFile (text : String) : Directory := ⟨[("h.jsonl", .text text)], []⟩

theorem kept_first : first.Kept := ⟨by decide, fun n hn => by cases hn⟩

theorem target_oneFile (text : String) : (oneFile text).target "h.jsonl" = .ok (.name "h.jsonl") :=
  Directory.target_of_plain _ (by decide)

theorem read_oneFile (text : String) : (oneFile text).read "h.jsonl" = .ok text :=
  Directory.read_of_target (target_oneFile text) (by decide)

/-- A plan is appended to a file with the line of an entry. -/
theorem append_accepted_line : ∃ d₁, (oneFile first.line).perform (appendHistory "h.jsonl" ⟨[first]⟩ "b" ⟨"y", []⟩) =
      (.ok (append ⟨[first]⟩ "b" ⟨"y", []⟩), d₁) ∧
    d₁.perform (loadHistory "h.jsonl") = (.ok (append ⟨[first]⟩ "b" ⟨"y", []⟩), d₁) := by
  have hline : text ⟨[first]⟩ = first.line := String.empty_append
  have hload : (oneFile first.line).perform (loadHistory "h.jsonl") = (.ok ⟨[first]⟩, oneFile first.line) :=
    loadHistory_of_ok (read_oneFile _) (hline ▸ ofText_text (List.forall_mem_singleton.mpr kept_first))
  obtain ⟨d₁, hd⟩ := Directory.accepts_of_target (target_oneFile first.line) (by decide)
    (next ⟨[first]⟩ "b" ⟨"y", []⟩).line
  have happend : (oneFile first.line).perform (appendHistory "h.jsonl" ⟨[first]⟩ "b" ⟨"y", []⟩) =
      (.ok (append ⟨[first]⟩ "b" ⟨"y", []⟩), d₁) := by
    rw [Directory.perform_appendHistory, hd]
  have hgap : Gap (Text.lastLine first.line.toList) := by
    rw [first.line_eq.1, Text.lastLine_append_feed]
    exact Json.gap_nil
  refine ⟨d₁, happend, (append_accepted _ d₁ "h.jsonl" ⟨[first]⟩ _ "b" ⟨"y", []⟩ hload (by decide)
    (fun n hn => by cases hn) happend).2.1 fun s hs => ?_⟩
  rw [read_oneFile] at hs
  cases hs
  exact hgap

/-- A file with an entry but no line feed is accepted; after a plan is appended to it, it is not. -/
theorem unfinished_line_damaged : ∃ d₁ x,
    (oneFile first.toJson.compact).perform (loadHistory "h.jsonl") = (.ok ⟨[first]⟩, oneFile first.toJson.compact) ∧
    (oneFile first.toJson.compact).perform (appendHistory "h.jsonl" ⟨[first]⟩ "b" ⟨"y", []⟩) =
      (.ok (append ⟨[first]⟩ "b" ⟨"y", []⟩), d₁) ∧
    d₁.perform (loadHistory "h.jsonl") = (.error (.history (.line "h.jsonl" ⟨1, x⟩)), d₁) := by
  have hfeed := first.line_eq.2
  have hnot : first.toJson.write.all Text.isBlank = false := first.not_all_isBlank []
  have hentry : Entry.ofLine first.toJson.write = .ok first := kept_first.ofLine (a := []) Json.gap_nil
  have hlines : Text.lines first.toJson.compact.toList = [first.toJson.write] := by
    rw [Json.compact, String.toList_ofList, Text.lines_of_not_mem hfeed]
    rfl
  have hread : ofText first.toJson.compact = .ok ⟨[first]⟩ := by
    rw [ofText_eq_ok_iff, hlines, readLines_cons hnot hentry]
    rfl
  have hgap : ¬Gap (Text.lastLine first.toJson.compact.toList) := fun hg => by
    rw [Json.compact, String.toList_ofList, Text.lastLine_of_not_mem hfeed] at hg
    have hblank := all_isBlank_of_gap hg
    rw [hnot] at hblank
    cases hblank
  obtain ⟨d₁, hd⟩ := Directory.accepts_of_target (target_oneFile first.toJson.compact) (by decide)
    (next ⟨[first]⟩ "b" ⟨"y", []⟩).line
  obtain ⟨x, hx⟩ := ofText_append_of_not_gap hread hgap (next ⟨[first]⟩ "b" ⟨"y", []⟩)
  rw [hlines] at hx
  refine ⟨d₁, x, loadHistory_of_ok (read_oneFile _) hread, ?_,
    loadHistory_of_error (Directory.read_append hd (read_oneFile _)) hx⟩
  rw [Directory.perform_appendHistory, hd]

end History

end Wireframe
