import Wireframe.Proofs.Returns
import Wireframe.Proofs.Tags

/-!
# The markup in a module

A module holds the lines of the markup, indented, between two lines of its own.

* **Unwrapping** (`Plan.wrapped`, `Plan.unwrap`): the lines between those two, without their indent.
* **Modules** (`Plan.toList_asModule`, `Plan.wrapped_asModule`): a module by its lines; none of the indented ones can be
  taken for the line that closes the element around them, whatever stands in a text.
* **Carriage returns** (`Tag.returnless_join`): they stand right before line feeds in markup only where they do so in a
  key or a text.
* **Markup** (`Plan.module_wraps_markup`): a module holds the markup without such carriage returns, which is the markup
  itself exactly when no key and no text that is shown has one (`Plan.return_lost_in_module`).
-/

namespace Wireframe

open Text (Returnless)

namespace Plan

/-! ## Unwrapping -/

/-- The line of a module that opens the element around the markup. -/
def wrapperStart : List Char := "    <div className=\"generated-ui\">".toList

def wrapperStop : List Char := "    </div>".toList

/-- The lines of a text after the first one that opens the element, up to the next one that closes it. -/
def wrapped (s : List Char) : List (List Char) :=
  (((Text.splitOn '\n' s).dropWhile (· ≠ wrapperStart)).drop 1).takeWhile (· ≠ wrapperStop)

/-- What stands in the element, without the indents. -/
def unwrap (s : List Char) : List Char := Text.joinWith ['\n'] ((wrapped s).map (List.drop moduleIndent.length))

/-! ## Modules -/

/-- The lines of a module before the element around the markup. -/
def moduleTop : List (List Char) := [
  "import React from \"react\";".toList,
  "import \x7b Card, Input, Button, Modal \x7d from \"./components\";".toList,
  [],
  "export default function GeneratedUI() \x7b".toList,
  "  return (".toList]

def moduleBottom : List (List Char) := ["  );".toList, "\x7d".toList]

theorem toList_moduleHead : moduleHead.toList = (moduleTop ++ [wrapperStart]).flatMap (· ++ ['\n']) := by
  unfold moduleHead moduleTop wrapperStart
  simp only [String.toList_append]
  -- a literal is `String.ofList` of its characters, so that its bytes need not be decoded
  repeat rw [String.toList_ofList]
  rfl

theorem toList_moduleFoot : moduleFoot.toList = (wrapperStop :: moduleBottom).flatMap (· ++ ['\n']) := by
  unfold moduleFoot moduleBottom wrapperStop
  simp only [String.toList_append]
  repeat rw [String.toList_ofList]
  rfl

/-- The body of a module is the indented lines of the markup, each ended, even if there are none. -/
theorem moduleBody_eq (p : Plan) : p.moduleBody =
    ((Text.lines p.markup.toList).map (moduleIndent ++ ·)).flatMap (· ++ ['\n']) := by
  rw [moduleBody, markup, String.toList_ofList]
  cases hl : Text.lines (Component.markupAll p.components) with
  | nil => rfl
  | cons line lines =>
    have hne : (line :: lines).map (moduleIndent ++ ·) ≠ [] := List.cons_ne_nil _ _
    have hbody : Text.joinWith ['\n'] ((line :: lines).map (moduleIndent ++ ·)) ≠ [] := by
      intro h
      have hended := Text.joinWith_append_sep ['\n'] hne
      rw [h] at hended
      simp [moduleIndent] at hended
    simp only [List.isEmpty_iff, if_neg hbody, Text.joinWith_append_sep _ hne]

/-- **A module by its lines.** -/
theorem toList_asModule (p : Plan) : p.asModule.toList =
    (moduleTop ++ wrapperStart :: ((Text.lines p.markup.toList).map (moduleIndent ++ ·) ++
      wrapperStop :: moduleBottom)).flatMap (· ++ ['\n']) := by
  rw [asModule, String.toList_append, String.toList_append, String.toList_ofList, toList_moduleHead, toList_moduleFoot,
    moduleBody_eq]
  simp only [List.flatMap_append, List.flatMap_cons, List.flatMap_nil, List.append_nil, List.append_assoc]

/-- An indented line does not close the element. -/
theorem indent_ne_wrapperStop (line : List Char) : moduleIndent ++ line ≠ wrapperStop := by
  intro h
  have hfifth : some ' ' = some '<' := congrArg (fun s => (s.drop 4).head?) h
  exact absurd hfifth (by decide)

theorem not_mem_moduleLines (p : Plan) : ∀ line ∈ moduleTop ++ wrapperStart ::
    ((Text.lines p.markup.toList).map (moduleIndent ++ ·) ++ wrapperStop :: moduleBottom), '\n' ∉ line := by
  refine List.forall_mem_append.mpr ⟨by decide +kernel, List.forall_mem_cons.mpr ⟨by decide, ?_⟩⟩
  refine List.forall_mem_append.mpr ⟨List.forall_mem_map.mpr fun line hline => ?_, by decide⟩
  rw [List.mem_append, not_or]
  exact ⟨by decide, Text.not_mem_of_mem_lines hline⟩

/-- The lines in the element are those of the markup, indented. -/
theorem wrapped_asModule (p : Plan) :
    wrapped p.asModule.toList = (Text.lines p.markup.toList).map (moduleIndent ++ ·) := by
  have htop : ∀ line ∈ moduleTop, decide (line ≠ wrapperStart) = true := by decide
  have hindented : ∀ line ∈ (Text.lines p.markup.toList).map (moduleIndent ++ ·),
      decide (line ≠ wrapperStop) = true :=
    List.forall_mem_map.mpr fun line _ => decide_eq_true (indent_ne_wrapperStop line)
  rw [wrapped, toList_asModule, Text.splitOn_ended (not_mem_moduleLines p), List.append_assoc,
    List.dropWhile_append_of_pos htop, List.cons_append, List.append_assoc, List.dropWhile_cons_of_neg (by simp),
    List.drop_one, List.tail_cons, List.takeWhile_append_of_pos hindented, List.cons_append,
    List.takeWhile_cons_of_neg (by simp), List.append_nil]

/-- Without their indents, the lines in the element are those of the markup. -/
theorem unwrap_asModule (p : Plan) : unwrap p.asModule.toList = Text.joinWith ['\n'] (Text.lines p.markup.toList) := by
  have hdrop : List.drop moduleIndent.length ∘ (moduleIndent ++ ·) = id := funext fun _ => List.drop_left
  rw [unwrap, wrapped_asModule, List.map_map, hdrop, List.map_id]

end Plan

/-! ## Carriage returns -/

namespace Markup

variable {c : Char} {s : List Char}

theorem return_not_mem_escapeChar (hc : c ≠ '\r') : '\r' ∉ escapeChar c := by
  unfold escapeChar
  split
  · decide
  · decide
  · decide
  · decide
  · exact fun h => hc (List.mem_singleton.mp h).symm

theorem head?_escape : (escape s).head? = some '\n' ↔ s.head? = some '\n' := by
  cases s with
  | nil => rfl
  | cons c s =>
    rw [escape, List.flatMap_cons]
    unfold escapeChar
    split <;> simp

/-- Escaping does not change where carriage returns stand before line feeds. -/
theorem returnless_escape : Returnless (escape s) ↔ Returnless s := by
  induction s with
  | nil => rfl
  | cons c s ih =>
    have hcons : escape (c :: s) = escapeChar c ++ escape s := rfl
    by_cases hc : c = '\r'
    · subst hc
      rw [hcons, show escapeChar '\r' = ['\r'] from rfl, List.singleton_append, Text.returnless_cons,
        Text.returnless_cons, ih, ne_eq, head?_escape]
    · have hs : '\r' ∉ [c] := fun h => hc (List.mem_singleton.mp h).symm
      rw [hcons, Text.returnless_append_of_not_mem (return_not_mem_escapeChar hc), ih, ← List.singleton_append,
        Text.returnless_append_of_not_mem hs]

end Markup

namespace Tag

/-- Neither the keys nor the texts have a carriage return right before a line feed. -/
def ReturnlessTexts (ms : List (String × String)) : Prop :=
  ∀ m ∈ ms, Returnless m.1.toList ∧ Returnless m.2.toList

/-- Between the signs around them, keys and texts can be looked at alone. -/
theorem returnless_attrs_append (ms : List (String × String)) (r : List Char) :
    Returnless (attrs ms ++ r) ↔ ReturnlessTexts ms ∧ Returnless r := by
  induction ms with
  | nil => simp [attrs, ReturnlessTexts]
  | cons m ms ih =>
    have hsplit : attrs (m :: ms) ++ r = [] ++ ' ' :: (m.1.toList ++ '=' :: ([] ++ '"' ::
        (Markup.escape m.2.toList ++ '"' :: (attrs ms ++ r)))) := by
      simp [attrs, Markup.attr]
    rw [hsplit]
    simp (disch := decide) only [Text.returnless_append_cons, Text.returnless_nil, Markup.returnless_escape, ih,
      ReturnlessTexts, List.forall_mem_cons, true_and, and_assoc]

/-- The name and the end of a tag have no carriage returns, so what is after the tag can be looked at alone. -/
theorem returnless_text_append (t : Tag) (r : List Char) :
    Returnless (t.text ++ r) ↔ ReturnlessTexts t.texts ∧ Returnless r := by
  have hname : '\r' ∉ '<' :: t.name := List.not_mem_cons_of_ne_of_not_mem (by decide) (not_mem_name (by decide) t)
  have htail : '\r' ∉ t.tail := fun h => not_mem_tail (c := '\r') (by decide) t (List.mem_append_left _ h)
  have hsplit : t.text ++ r = ('<' :: t.name) ++ (attrs t.texts ++ (t.tail ++ r)) := by simp [text]
  rw [hsplit, Text.returnless_append_of_not_mem hname, returnless_attrs_append,
    Text.returnless_append_of_not_mem htail]

theorem join_cons (t : Tag) {ts : List Tag} (h : ts ≠ []) : join (t :: ts) = t.text ++ '\n' :: join ts :=
  join_append (List.cons_ne_nil t []) h

/-- In the text of tags, a carriage return stands right before a line feed only inside a key or a text. -/
theorem returnless_join (ts : List Tag) : Returnless (join ts) ↔ ∀ t ∈ ts, ReturnlessTexts t.texts := by
  induction ts with
  | nil => exact iff_of_true Text.returnless_nil nofun
  | cons t ts ih =>
    rw [List.forall_mem_cons, ← ih]
    by_cases hts : ts = []
    · subst hts
      have hone : join [t] = t.text ++ [] := (List.append_nil _).symm
      rw [hone, returnless_text_append]
      rfl
    · rw [join_cons t hts, returnless_text_append, ← List.singleton_append,
        Text.returnless_append_of_not_mem (s := ['\n']) (by decide)]

theorem getLast?_text (t : Tag) : t.text.getLast? = some '>' := by
  have htail : t.tail.getLast? = some '>' := by cases t <;> rfl
  rw [text, ← List.cons_append, List.getLast?_append, htail]
  rfl

theorem getLast?_join {ts : List Tag} (h : ts ≠ []) : (join ts).getLast? = some '>' := by
  induction ts with
  | nil => exact absurd rfl h
  | cons t ts ih =>
    by_cases hts : ts = []
    · subst hts
      exact getLast?_text t
    · simp [join_cons t hts, List.getLast?_append, List.getLast?_cons, ih hts]

/-- The text of tags does not end with a line feed. -/
theorem join_ne_ended (ts : List Tag) (s : List Char) : join ts ≠ s ++ ['\n'] := by
  intro h
  by_cases hts : ts = []
  · subst hts
    simp [join, Text.joinWith] at h
  · have hends := getLast?_join hts
    rw [h] at hends
    simp at hends

end Tag

namespace Plan

/-! ## Markup -/

/-- **A module holds the markup, without the carriage returns right before its line feeds.** Its lines between the one
that opens the element and the one that closes it are indented; joined again without their indents, they are the markup
exactly when no key and no text that the markup shows has a carriage return right before a line feed. -/
theorem module_wraps_markup (p : Plan) :
    (∀ line ∈ wrapped p.asModule.toList, moduleIndent <+: line) ∧
    unwrap p.asModule.toList = Text.withoutReturns p.markup.toList ∧
    (unwrap p.asModule.toList = p.markup.toList ↔
      ∀ t ∈ p.tags, ∀ m ∈ t.texts, Returnless m.1.toList ∧ Returnless m.2.toList) := by
  have hunwrap : unwrap p.asModule.toList = Text.withoutReturns p.markup.toList := by
    rw [unwrap_asModule]
    exact Text.joinWith_lines (p.toList_markup ▸ Tag.join_ne_ended p.tags)
  refine ⟨?_, hunwrap, ?_⟩
  · rw [wrapped_asModule]
    exact List.forall_mem_map.mpr fun line _ => List.prefix_append _ line
  · rw [hunwrap, Text.withoutReturns_eq_self_iff, toList_markup]
    exact Tag.returnless_join p.tags

/-- A button with a carriage return before a line feed in its label. -/
def returning : Plan := ⟨"a", [.button "a\r\nb"]⟩

/-- The label loses the carriage return in the module, and keeps it in the markup. -/
theorem return_lost_in_module : unwrap returning.asModule.toList = "<Button label=\"a\nb\" />".toList ∧
    returning.markup.toList = "<Button label=\"a\r\nb\" />".toList ∧
    unwrap returning.asModule.toList ≠ returning.markup.toList := by
  have hmarkup : returning.markup.toList = "<Button label=\"a\r\nb\" />".toList := rfl
  have hmodule : unwrap returning.asModule.toList = "<Button label=\"a\nb\" />".toList := by
    rw [unwrap_asModule, hmarkup]
    rfl
  refine ⟨hmodule, hmarkup, ?_⟩
  rw [hmodule, hmarkup]
  decide

end Plan

end Wireframe
