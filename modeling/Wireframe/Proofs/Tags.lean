import Wireframe.Plan.Markup
import Wireframe.Proofs.Lines

/-!
# Markup as a list of tags

* **Visible components** (`Visible`, `Component.visible`): what markup shows of a component: its kind, its texts that
  are not empty, and what a container holds.
* **Tags** (`Tag`, `Visible.tags`): a visible component with nothing inside is one tag, another one is an opening tag,
  the tags of what is inside, and a closing tag.
* **Markup** (`Component.markupAll_eq`): the texts of the tags with a line feed between them.
* **Signs** (`Tag.begins_of_join`, `Tag.quotes_of_join`): an angle bracket that opens stands only where a tag begins,
  and a quote only around the value of an attribute, as long as the keys of the texts are those that components show.
-/

namespace Wireframe

/-! ## Visible components -/

/-- What markup shows of a component. -/
structure Visible where
  kind : Kind
  texts : List (String × String)
  inside : List Visible

/-- The texts that are not empty. -/
def Props.shown (p : Props) : List (String × String) := p.entries.filter fun m => !m.2.isEmpty

namespace Component

mutual

/-- What markup shows of a component; only a container shows what it holds. -/
def visible : Component → Visible
  | ⟨k, p, cs⟩ => ⟨k, p.shown, if k.isContainer then visibleAll cs else []⟩

def visibleAll : List Component → List Visible
  | [] => []
  | c :: cs => visible c :: visibleAll cs

end

end Component

def Plan.visible (p : Plan) : List Visible := Component.visibleAll p.components

/-! ## Tags -/

/-- A tag of markup: of a component with nothing inside, or the one that opens or closes a component. -/
inductive Tag where
  | leaf (kind : Kind) (texts : List (String × String))
  | start (kind : Kind) (texts : List (String × String))
  | stop (kind : Kind)

namespace Tag

/-- The texts in a tag. -/
def texts : Tag → List (String × String)
  | leaf _ ts => ts
  | start _ ts => ts
  | stop _ => []

/-- What names a tag: the name of a kind, with a slash before it in a closing tag. -/
def name : Tag → List Char
  | leaf k _ => k.name.toList
  | start k _ => k.name.toList
  | stop k => '/' :: k.name.toList

/-- What ends a tag. -/
def tail : Tag → List Char
  | leaf _ _ => [' ', '/', '>']
  | start _ _ => ['>']
  | stop _ => ['>']

def attrs (ts : List (String × String)) : List Char := ts.flatMap fun m => Markup.attr m.1 m.2

def text (t : Tag) : List Char := '<' :: (t.name ++ attrs t.texts ++ t.tail)

def lines (ts : List Tag) : List Char := ts.flatMap fun t => t.text ++ ['\n']

end Tag

namespace Visible

mutual

def tags : Visible → List Tag
  | ⟨k, ts, []⟩ => [.leaf k ts]
  | ⟨k, ts, v :: vs⟩ => .start k ts :: (tags v ++ tagsAll vs) ++ [.stop k]

def tagsAll : List Visible → List Tag
  | [] => []
  | v :: vs => tags v ++ tagsAll vs

end

theorem tags_ne_nil (v : Visible) : v.tags ≠ [] := by
  obtain ⟨k, ts, inside⟩ := v
  cases inside <;> simp [tags]

/-- The tags of a component that holds something stand around the tags of what it holds. -/
theorem tags_of_ne_nil (k : Kind) (ts : List (String × String)) {vs : List Visible} (h : vs ≠ []) :
    tags ⟨k, ts, vs⟩ = .start k ts :: tagsAll vs ++ [.stop k] := by
  cases vs with
  | nil => exact absurd rfl h
  | cons v vs => rw [tags, tagsAll]

end Visible

def Plan.tags (p : Plan) : List Tag := Visible.tagsAll p.visible

/-! ## Markup -/

namespace Tag

theorem text_leaf (k : Kind) (p : Props) : (leaf k p.shown).text = Markup.leaf k p := rfl

/-- The texts of tags, on lines of their own. -/
def join (ts : List Tag) : List Char := Text.joinWith ['\n'] (ts.map text)

/-- The lines of tags are the lines of the first ones and those of the others. -/
theorem join_append {ts us : List Tag} (ht : ts ≠ []) (hu : us ≠ []) :
    join (ts ++ us) = join ts ++ '\n' :: join us := by
  rw [join, List.map_append, Text.joinWith_append ['\n'] (by simpa using ht) (by simpa using hu), List.append_assoc]
  rfl

/-- The tags around some others stand on lines of their own. -/
theorem join_around (k : Kind) (p : Props) {ts : List Tag} (h : ts ≠ []) :
    join (start k p.shown :: ts ++ [stop k]) = Markup.element k p (join ts) := by
  have hs : join (start k p.shown :: ts) = (start k p.shown).text ++ '\n' :: join ts := by
    rw [← List.singleton_append, join_append (by simp) h]
    rfl
  rw [join_append (by simp) (by simp), hs]
  simp [Markup.element, join, text, name, tail, texts, attrs, Markup.attributes, Props.shown, Text.joinWith]

end Tag

namespace Component

mutual

theorem markup_eq : (c : Component) → c.markup = Tag.join c.visible.tags
  | ⟨k, p, cs⟩ => by
    rw [markup, visible]
    cases hk : k.isContainer with
    | false => simp [Visible.tags, Tag.join, Text.joinWith, Tag.text_leaf]
    | true =>
      cases cs with
      | nil => simp [visibleAll, Visible.tags, Tag.join, Text.joinWith, Tag.text_leaf]
      | cons c cs =>
        have hv : visibleAll (c :: cs) ≠ [] := by simp [visibleAll]
        have ht : Visible.tagsAll (visibleAll (c :: cs)) ≠ [] := by
          simp [visibleAll, Visible.tagsAll, Visible.tags_ne_nil]
        rw [if_neg (by simp), if_pos rfl, Visible.tags_of_ne_nil k p.shown hv, Tag.join_around k p ht,
          markupAll_eq (c :: cs)]

/-- The markup of components is the text of their tags. -/
theorem markupAll_eq : (cs : List Component) → markupAll cs = Tag.join (Visible.tagsAll (visibleAll cs))
  | [] => rfl
  | [c] => by
    rw [markupAll, visibleAll, visibleAll, Visible.tagsAll, Visible.tagsAll, List.append_nil, markup_eq c]
  | c :: d :: r => by
    have ht : Visible.tagsAll (visibleAll (d :: r)) ≠ [] := by
      simp [visibleAll, Visible.tagsAll, Visible.tags_ne_nil]
    have hv : Visible.tagsAll (visibleAll (c :: d :: r)) = c.visible.tags ++ Visible.tagsAll (visibleAll (d :: r)) :=
      rfl
    rw [markupAll, markup_eq c, markupAll_eq (d :: r), hv, Tag.join_append (Visible.tags_ne_nil _) ht]

end

end Component

/-- The markup of a plan is the text of its tags. -/
theorem Plan.toList_markup (p : Plan) : p.markup.toList = Tag.join p.tags := by
  rw [markup, String.toList_ofList, Component.markupAll_eq]
  rfl

/-! ## Where a character stands -/

namespace Text

variable {c : Char} {u v : List Char}

/-- A character that is not in the first text stands in the second one. -/
theorem peel_left {a m : List Char} (hc : c ∉ a) (h : a ++ m = u ++ c :: v) : ∃ u', u = a ++ u' ∧ m = u' ++ c :: v := by
  rcases List.append_eq_append_iff.mp h with ⟨w, hu, hm⟩ | ⟨w, ha, hw⟩
  · exact ⟨w, hu, hm⟩
  · cases w with
    | nil => exact ⟨[], by simpa using ha.symm, hw.symm⟩
    | cons d w =>
      obtain ⟨rfl, _⟩ := List.cons.inj hw
      exact absurd (by simp [ha]) hc

/-- A character that is not in the second text stands in the first one. -/
theorem peel_right {m b : List Char} (hc : c ∉ b) (h : m ++ b = u ++ c :: v) :
    ∃ v', v = v' ++ b ∧ m = u ++ c :: v' := by
  rcases List.append_eq_append_iff.mp h with ⟨w, _, hb⟩ | ⟨w, hm, hw⟩
  · exact absurd (by simp [hb]) hc
  · cases w with
    | nil =>
      rw [List.nil_append] at hw
      exact absurd (hw ▸ List.mem_cons_self) hc
    | cons d w =>
      obtain ⟨rfl, hv⟩ := List.cons.inj hw
      exact ⟨w, hv, hm⟩

/-- A character in joined texts stands in one of them. -/
theorem exists_of_flatMap_eq {α : Type} {f : α → List Char} {xs : List α} (h : xs.flatMap f = u ++ c :: v) :
    ∃ before x after u' v', xs = before ++ x :: after ∧ u = before.flatMap f ++ u' ∧ f x = u' ++ c :: v' ∧
      v = v' ++ after.flatMap f := by
  induction xs generalizing u with
  | nil => simp at h
  | cons x xs ih =>
    have later : ∀ w, u = f x ++ w → xs.flatMap f = w ++ c :: v →
        ∃ before y after u' v', x :: xs = before ++ y :: after ∧ u = before.flatMap f ++ u' ∧ f y = u' ++ c :: v' ∧
          v = v' ++ after.flatMap f := by
      intro w hu hw
      obtain ⟨before, y, after, u', v', hxs, hw', hy, hv⟩ := ih hw
      exact ⟨x :: before, y, after, u', v', by rw [hxs, List.cons_append],
        by rw [hu, hw', List.flatMap_cons, List.append_assoc], hy, hv⟩
    rw [List.flatMap_cons] at h
    rcases List.append_eq_append_iff.mp h with ⟨w, hu, hw⟩ | ⟨w, hx, hw⟩
    · exact later w hu hw
    · cases w with
      | nil => exact later [] (by rw [hx, List.append_nil, List.append_nil]) hw.symm
      | cons d w =>
        obtain ⟨rfl, hv⟩ := List.cons.inj hw
        exact ⟨[], x, xs, u, w, rfl, rfl, hx, hv⟩

/-- A text that is followed by something in a text with a line feed after it is an initial part of that text. -/
theorem prefix_of_append_eq {w x : List Char} (hx : x ≠ []) (h : w ++ x = v ++ ['\n']) : w <+: v := by
  have hw : w <+: v ++ ['\n'] := h ▸ List.prefix_append w x
  have hv : v <+: v ++ ['\n'] := List.prefix_append v _
  have hl := congrArg List.length h
  have hpos := List.length_pos_iff.mpr hx
  simp only [List.length_append, List.length_cons, List.length_nil] at hl
  exact List.prefix_of_prefix_length_le hw hv (by omega)

end Text

/-! ## Signs -/

namespace Markup

def textKeys : List String := ["label", "placeholder", "title"]

theorem not_mem_escapeChar {c : Char} (hc : c ∈ ['<', '>', '"']) (d : Char) : c ∉ escapeChar d := by
  simp only [List.mem_cons, List.not_mem_nil, or_false] at hc
  unfold escapeChar
  split
  · rcases hc with rfl | rfl | rfl <;> decide
  · rcases hc with rfl | rfl | rfl <;> decide
  · rcases hc with rfl | rfl | rfl <;> decide
  · rcases hc with rfl | rfl | rfl <;> decide
  · intro hd
    rw [List.mem_singleton.mp hd] at hc
    simp_all

theorem not_mem_escape {c : Char} (hc : c ∈ ['<', '>', '"']) (s : List Char) : c ∉ escape s := by
  intro h
  obtain ⟨d, _, hd⟩ := List.mem_flatMap.mp h
  exact not_mem_escapeChar hc d hd

theorem not_mem_key {c : Char} (hc : c ∈ ['<', '>', '"']) {key : String} (hk : key ∈ textKeys) : c ∉ key.toList := by
  simp only [textKeys, List.mem_cons, List.not_mem_nil, or_false] at hc hk
  rcases hc with rfl | rfl | rfl <;> rcases hk with rfl | rfl | rfl <;> decide

end Markup

namespace Tag

open Markup (escape attr textKeys)

/-- A tag whose texts have the keys that components show, in their order. -/
def Plain (t : Tag) : Prop := (t.texts.map Prod.fst).Sublist textKeys

theorem Plain.mem {t : Tag} (ht : t.Plain) {m : String × String} (hm : m ∈ t.texts) : m.1 ∈ textKeys :=
  ht.subset (List.mem_map_of_mem hm)

/-- The name of a kind has no brackets, no quotes and no carriage returns. -/
theorem not_mem_kindName {c : Char} (hc : c ∈ ['<', '"', '\r']) (k : Kind) : c ∉ k.name.toList := by
  simp only [List.mem_cons, List.not_mem_nil, or_false] at hc
  rcases hc with rfl | rfl | rfl <;> cases k <;> decide

theorem not_mem_name {c : Char} (hc : c ∈ ['<', '"', '\r']) (t : Tag) : c ∉ t.name := by
  cases t with
  | leaf k _ => exact not_mem_kindName hc k
  | start k _ => exact not_mem_kindName hc k
  | stop k =>
    have hs : c ≠ '/' := by
      rintro rfl
      revert hc
      decide
    exact List.not_mem_cons_of_ne_of_not_mem hs (not_mem_kindName hc k)

/-- The end of a tag, with a line feed, has no quotes, no bracket that opens and no carriage returns. -/
theorem not_mem_tail {c : Char} (hc : c ∈ ['<', '"', '\r']) (t : Tag) : c ∉ t.tail ++ ['\n'] := by
  simp only [List.mem_cons, List.not_mem_nil, or_false] at hc
  rcases hc with rfl | rfl | rfl <;> cases t <;> simp [tail]

theorem bracket_not_mem_attrs {t : Tag} (ht : t.Plain) : '<' ∉ attrs t.texts := by
  intro h
  obtain ⟨m, hm, h⟩ := List.mem_flatMap.mp h
  have hk := Markup.not_mem_key (c := '<') (by decide) (ht.mem hm)
  have he := Markup.not_mem_escape (c := '<') (by decide) m.2.toList
  simp [attr, hk, he] at h

/-- What stands before the quote that opens the value of `m` in the tag `t`, which has `shown` before that. -/
def upTo (before : List Tag) (t : Tag) (shown : List (String × String)) (m : String × String) : List Char :=
  lines before ++ ('<' :: (t.name ++ (attrs shown ++ ' ' :: (m.1.toList ++ ['=']))))

/-- A bracket between `u` and `v` begins a tag. -/
def Begins (ts : List Tag) (u v : List Char) : Prop :=
  ∃ before t after, ts = before ++ t :: after ∧ u = lines before ∧ t.text <+: '<' :: v

/-- A quote between `u` and `v` opens or closes the value of an attribute of a tag. -/
def Quotes (ts : List Tag) (u v : List Char) : Prop :=
  ∃ before t after shown m more, ts = before ++ t :: after ∧ t.texts = shown ++ m :: more ∧
    (u = upTo before t shown m ∧ escape m.2.toList ++ ['"'] <+: v ∨
      u = upTo before t shown m ++ '"' :: escape m.2.toList)

/-- The texts of tags with a line feed after the last one too. -/
theorem join_append_line {ts : List Tag} (h : ts ≠ []) : join ts ++ ['\n'] = lines ts := by
  rw [join, Text.joinWith_append_sep ['\n'] (by simpa using h), List.flatMap_map, lines]

/-- A character of joined tags that is no line feed stands in one of them. -/
theorem exists_of_join {ts : List Tag} {c : Char} {u v : List Char} (h : join ts = u ++ c :: v) :
    ∃ before t after u' v', ts = before ++ t :: after ∧ u = lines before ++ u' ∧ t.text ++ ['\n'] = u' ++ c :: v' ∧
      v ++ ['\n'] = v' ++ lines after := by
  have hts : ts ≠ [] := by
    rintro rfl
    simp [join, Text.joinWith] at h
  have hl : lines ts = u ++ c :: (v ++ ['\n']) := by
    rw [← join_append_line hts, h, List.append_assoc]
    rfl
  exact Text.exists_of_flatMap_eq hl

/-- In the text of plain tags every bracket that opens begins a tag. -/
theorem begins_of_join {ts : List Tag} (hp : ∀ t ∈ ts, t.Plain) {u v : List Char} (h : join ts = u ++ '<' :: v) :
    Begins ts u v := by
  obtain ⟨before, t, after, u', v', rfl, rfl, ht, hv⟩ := exists_of_join h
  have hn : '<' ∉ t.name ++ attrs t.texts ++ t.tail ++ ['\n'] := by
    have ha := bracket_not_mem_attrs (hp t (by simp))
    rw [List.append_assoc, List.mem_append, List.mem_append, not_or, not_or]
    exact ⟨⟨not_mem_name (by decide) t, ha⟩, not_mem_tail (by decide) t⟩
  rw [text, List.cons_append] at ht
  cases u' with
  | cons d u' =>
    have hm := (List.cons.inj ht).2
    exact absurd (hm ▸ by simp) hn
  | nil =>
    have hm : v' = t.name ++ attrs t.texts ++ t.tail ++ ['\n'] := (List.cons.inj ht).2.symm
    rw [hm, List.append_assoc] at hv
    refine ⟨before, t, after, rfl, List.append_nil _, ?_⟩
    rw [text, List.cons_prefix_cons]
    exact ⟨rfl, Text.prefix_of_append_eq (by simp) hv.symm⟩

/-- A quote in an attribute opens or closes its value. -/
theorem quote_of_attr {m : String × String} (hk : m.1 ∈ textKeys) {u v : List Char}
    (h : attr m.1 m.2 = u ++ '"' :: v) :
    u = ' ' :: (m.1.toList ++ ['=']) ∧ v = escape m.2.toList ++ ['"'] ∨
      u = ' ' :: (m.1.toList ++ ['=']) ++ '"' :: escape m.2.toList ∧ v = [] := by
  have he : attr m.1 m.2 = ' ' :: (m.1.toList ++ ['=']) ++ '"' :: (escape m.2.toList ++ ['"']) := by simp [attr]
  have hkey : '"' ∉ ' ' :: (m.1.toList ++ ['=']) := by
    simp [Markup.not_mem_key (c := '"') (by decide) hk]
  rw [he] at h
  obtain ⟨w, rfl, hw⟩ := Text.peel_left hkey h
  cases w with
  | nil => exact .inl ⟨List.append_nil _, (List.cons.inj hw).2.symm⟩
  | cons d w =>
    obtain ⟨rfl, hval⟩ := List.cons.inj hw
    obtain ⟨x, rfl, hx⟩ := Text.peel_left (Markup.not_mem_escape (c := '"') (by decide) _) hval
    cases x with
    | nil => exact .inr ⟨by simp, (List.cons.inj hx).2.symm⟩
    | cons d x => simp at hx

/-- In the text of plain tags every quote opens or closes the value of an attribute. -/
theorem quotes_of_join {ts : List Tag} (hp : ∀ t ∈ ts, t.Plain) {u v : List Char} (h : join ts = u ++ '"' :: v) :
    Quotes ts u v := by
  obtain ⟨before, t, after, u', v', rfl, rfl, ht, hv⟩ := exists_of_join h
  have hname : '"' ∉ '<' :: t.name := by simp [not_mem_name (c := '"') (by decide) t]
  have hsplit : t.text ++ ['\n'] = '<' :: t.name ++ (attrs t.texts ++ (t.tail ++ ['\n'])) := by simp [text]
  rw [hsplit] at ht
  obtain ⟨u₁, rfl, hrest⟩ := Text.peel_left hname ht
  obtain ⟨v₁, rfl, hattrs⟩ := Text.peel_right (not_mem_tail (c := '"') (by decide) t) hrest
  obtain ⟨shown, m, more, u₂, v₂, hts, rfl, hm, rfl⟩ := Text.exists_of_flatMap_eq hattrs
  have hk : m.1 ∈ textKeys := (hp t (by simp)).mem (by simp [hts])
  refine ⟨before, t, after, shown, m, more, rfl, hts, ?_⟩
  rcases quote_of_attr hk hm with ⟨rfl, rfl⟩ | ⟨rfl, rfl⟩
  · refine .inl ⟨by simp [upTo, attrs],
      Text.prefix_of_append_eq (x := attrs more ++ (t.tail ++ ['\n']) ++ lines after) ?_ ?_⟩
    · simp
    · rw [hv, attrs]
      simp only [List.append_assoc]
  · exact .inr (by simp [upTo, attrs])

end Tag

end Wireframe
