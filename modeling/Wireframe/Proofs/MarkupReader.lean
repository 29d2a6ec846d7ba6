import Mathlib.Data.List.Sort
import Wireframe.Proofs.Canonical
import Wireframe.Proofs.Tags

/-!
# Reading markup

Markup of plans whose texts have the usual keys can be read back.

* **Texts** (`Markup.unescape_escape`, `Markup.readTexts_attrs`): escaping is undone character by character, and the
  attributes of a tag are read key by key, in the order of the keys.
* **Tags** (`Markup.readTag_text`, `Markup.readTags_join`): a tag is read from the front of any text.
* **Components** (`Markup.build_tagsAll`): the tags of components build these again, with the open ones on a stack.
* **Plans** (`Plan.Plain`): the plans whose texts have the usual keys, among them all that the pipeline gives.
* **Markup** (`Plan.markup_lossless`): what a plan shows is read from its markup, so equal markups show the same.
-/

namespace Wireframe

namespace Markup

/-! ## Texts -/

/-- A text with entities read as the characters that they stand for. -/
def unescape : List Char → List Char
  | '&' :: 'a' :: 'm' :: 'p' :: ';' :: s => '&' :: unescape s
  | '&' :: 'q' :: 'u' :: 'o' :: 't' :: ';' :: s => '"' :: unescape s
  | '&' :: 'l' :: 't' :: ';' :: s => '<' :: unescape s
  | '&' :: 'g' :: 't' :: ';' :: s => '>' :: unescape s
  | c :: s => c :: unescape s
  | [] => []

theorem unescape_cons {c : Char} (h : c ≠ '&') (s : List Char) : unescape (c :: s) = c :: unescape s := by
  rw [unescape.eq_def]
  split <;> simp_all

theorem unescape_escapeChar_append (c : Char) (s : List Char) : unescape (escapeChar c ++ s) = c :: unescape s := by
  unfold escapeChar
  split
  · rfl
  · rfl
  · rfl
  · rfl
  · next hamp _ _ _ => exact unescape_cons hamp s

theorem unescape_escape (s : List Char) : unescape (escape s) = s := by
  induction s with
  | nil => rfl
  | cons c s ih =>
    rw [escape, List.flatMap_cons, unescape_escapeChar_append]
    exact congrArg (c :: ·) ih

def opening (key : String) : List Char := ' ' :: (key.toList ++ ['=', '"'])

/-- The texts with some keys, read in the order of the keys, and what is left. -/
def readTexts : List String → List Char → List (String × String) × List Char
  | [], s => ([], s)
  | key :: keys, s =>
    if (opening key).isPrefixOf s then
      let value := (s.drop (opening key).length).takeWhile (· ≠ '"')
      let rest := (s.drop (opening key).length).dropWhile (· ≠ '"')
      let more := readTexts keys (rest.drop 1)
      ((key, String.ofList (unescape value)) :: more.1, more.2)
    else readTexts keys s

/-- The beginnings of different keys differ. -/
theorem opening_not_prefix {a b : String} (ha : a ∈ textKeys) (hb : b ∈ textKeys) (h : a ≠ b) (s : List Char) :
    (opening a).isPrefixOf (opening b ++ s) = false := by
  simp only [textKeys, List.mem_cons, List.not_mem_nil, or_false] at ha hb
  rcases ha with rfl | rfl | rfl <;> rcases hb with rfl | rfl | rfl <;> first | exact absurd rfl h | rfl

theorem attr_append (key value : String) (s : List Char) :
    attr key value ++ s = opening key ++ (escape value.toList ++ '"' :: s) := by
  simp [attr, opening]

/-- A value is read up to the quote that closes it. -/
theorem readTexts_attr (key value : String) (keys : List String) (s : List Char) :
    readTexts (key :: keys) (attr key value ++ s) = ((key, value) :: (readTexts keys s).1, (readTexts keys s).2) := by
  have hq : ∀ c ∈ escape value.toList, (decide (c ≠ '"')) = true := by
    intro c hc
    have hne : c ≠ '"' := fun h => not_mem_escape (by decide) _ (h ▸ hc)
    simpa using hne
  rw [readTexts, attr_append, if_pos (by simp)]
  simp only [List.drop_left, List.takeWhile_append_of_pos hq, List.dropWhile_append_of_pos hq]
  simp [unescape_escape]

/-- The attributes of texts are read as the texts. -/
theorem readTexts_attrs {keys : List String} (hk : keys.Nodup) (hs : ∀ k ∈ keys, k ∈ textKeys) {s : List Char}
    (hrest : ∀ k ∈ textKeys, (opening k).isPrefixOf s = false) :
    ∀ {ts : List (String × String)}, (ts.map Prod.fst).Sublist keys → readTexts keys (Tag.attrs ts ++ s) = (ts, s) := by
  induction keys with
  | nil =>
    intro ts h
    have hn : ts = [] := by simpa using h
    rw [hn]
    rfl
  | cons key keys ih =>
    intro ts h
    obtain ⟨hkey, hks⟩ := List.forall_mem_cons.mp hs
    obtain ⟨hnot, hnd⟩ := List.nodup_cons.mp hk
    rcases List.sublist_cons_iff.mp h with hsub | ⟨others, hts, hsub⟩
    · have hno : (opening key).isPrefixOf (Tag.attrs ts ++ s) = false := by
        cases ts with
        | nil => exact hrest key hkey
        | cons m ts =>
          have hm : m.1 ∈ keys := hsub.subset (by simp)
          have hne : key ≠ m.1 := fun e => hnot (e ▸ hm)
          rw [Tag.attrs, List.flatMap_cons, List.append_assoc, attr_append]
          exact opening_not_prefix hkey (hks _ hm) hne _
      rw [readTexts, if_neg (by simp [hno]), ih hnd hks hsub]
    · cases ts with
      | nil => cases hts
      | cons m ts =>
        obtain ⟨hm, ho⟩ := List.cons.inj hts
        have hmore := ih hnd hks (ho ▸ hsub : (ts.map Prod.fst).Sublist keys)
        rw [Tag.attrs, List.flatMap_cons, List.append_assoc, ← hm, readTexts_attr]
        rw [Tag.attrs] at hmore
        rw [hmore]

/-! ## Tags -/

/-- The kind whose name stands in front of a text, and what is left. -/
def readKind (s : List Char) : Option (Kind × List Char) :=
  Kind.all.findSome? fun k => if k.name.toList.isPrefixOf s then some (k, s.drop k.name.toList.length) else none

theorem readKind_name (k : Kind) (s : List Char) : readKind (k.name.toList ++ s) = some (k, s) := by
  cases k <;> rfl

/-- The tag of a kind and some texts that ends in front of a text, and what is left. -/
def readEnd (k : Kind) : List (String × String) × List Char → Option (Tag × List Char)
  | (ts, '>' :: r) => some (.start k ts, r)
  | (ts, ' ' :: '/' :: '>' :: r) => some (.leaf k ts, r)
  | _ => none

/-- The closing tag of a kind that ends in front of a text, and what is left. -/
def readStop (k : Kind) : List Char → Option (Tag × List Char)
  | '>' :: r => some (.stop k, r)
  | _ => none

/-- The tag in front of a text, and what is left. -/
def readTag : List Char → Option (Tag × List Char)
  | '<' :: '/' :: s => (readKind s).bind fun q => readStop q.1 q.2
  | '<' :: s => (readKind s).bind fun q => readEnd q.1 (readTexts textKeys q.2)
  | _ => none

/-- A bracket before the name of a kind does not begin a closing tag. -/
theorem readTag_name (k : Kind) (s : List Char) :
    readTag ('<' :: (k.name.toList ++ s)) = readEnd k (readTexts textKeys s) := by
  cases k <;> rfl

/-- No attribute begins where a tag ends. -/
theorem opening_not_prefix_tail {key : String} (hk : key ∈ textKeys) (t : Tag) (s : List Char) :
    (opening key).isPrefixOf (t.tail ++ s) = false := by
  simp only [textKeys, List.mem_cons, List.not_mem_nil, or_false] at hk
  rcases hk with rfl | rfl | rfl <;> cases t <;> rfl

/-- A plain tag is read from the front of any text. -/
theorem readTag_text {t : Tag} (ht : t.Plain) (s : List Char) : readTag (t.text ++ s) = some (t, s) := by
  have hread : readTexts textKeys (Tag.attrs t.texts ++ (t.tail ++ s)) = (t.texts, t.tail ++ s) :=
    readTexts_attrs (by decide) (fun _ h => h) (fun _ hk => opening_not_prefix_tail hk t s) ht
  have htext : t.text ++ s = '<' :: (t.name ++ (Tag.attrs t.texts ++ (t.tail ++ s))) := by simp [Tag.text]
  rw [htext]
  cases t with
  | leaf k ts =>
    rw [Tag.name, readTag_name, hread]
    rfl
  | start k ts =>
    rw [Tag.name, readTag_name, hread]
    rfl
  | stop k =>
    show (readKind (k.name.toList ++ _)).bind _ = _
    rw [readKind_name]
    rfl

/-- At most `n` tags, each on lines of its own. -/
def readTags : Nat → List Char → Option (List Tag)
  | 0, _ => none
  | n + 1, s =>
    match readTag s with
    | some (t, []) => some [t]
    | some (t, '\n' :: r) => (readTags n r).map (t :: ·)
    | _ => none

/-- Plain tags are read from their text. -/
theorem readTags_join {ts : List Tag} (hn : ts ≠ []) (hp : ∀ t ∈ ts, t.Plain) {n : Nat} (h : ts.length ≤ n) :
    readTags n (Tag.join ts) = some ts := by
  induction ts generalizing n with
  | nil => exact absurd rfl hn
  | cons t ts ih =>
    obtain ⟨m, rfl⟩ : ∃ m, n = m + 1 := ⟨n - 1, by simp only [List.length_cons] at h; omega⟩
    obtain ⟨ht, hts⟩ := List.forall_mem_cons.mp hp
    cases ts with
    | nil =>
      have hr := readTag_text ht []
      rw [List.append_nil] at hr
      have hj : Tag.join [t] = t.text := rfl
      rw [readTags, hj, hr]
    | cons t' ts =>
      have hj : Tag.join (t :: t' :: ts) = t.text ++ '\n' :: Tag.join (t' :: ts) := by
        rw [← List.singleton_append, Tag.join_append (by simp) (by simp)]
        rfl
      have hm : (t' :: ts).length ≤ m := by simp only [List.length_cons] at h ⊢; omega
      rw [readTags, hj, readTag_text ht]
      show (readTags m _).map _ = _
      rw [ih (by simp) hts hm]
      rfl

/-- There are no more tags than characters in their text. -/
theorem length_le_join (ts : List Tag) : ts.length ≤ (Tag.join ts).length := by
  cases ts with
  | nil => exact Nat.le_refl 0
  | cons t ts =>
    have hl := congrArg List.length (Tag.join_append_line (List.cons_ne_nil t ts))
    have hs : ∀ us : List Tag, 2 * us.length ≤ (Tag.lines us).length := by
      intro us
      induction us with
      | nil => exact Nat.le_refl 0
      | cons u us ih =>
        rw [Tag.lines, List.flatMap_cons, ← Tag.lines]
        simp only [Tag.text, List.length_append, List.length_cons, List.length_nil]
        omega
    have := hs (t :: ts)
    simp only [List.length_append, List.length_cons, List.length_nil] at hl this ⊢
    omega

/-! ## Components -/

/-- A component that is open: what its opening tag says, and what stands before it at its level, the last one first. -/
structure Opened where
  kind : Kind
  texts : List (String × String)
  before : List Visible

/-- The components of tags, where `stack` is open and `done` is read at the level of the innermost one. -/
def build : List Tag → List Opened → List Visible → Option (List Visible)
  | [], [], done => some done.reverse
  | [], _ :: _, _ => none
  | .leaf k ts :: r, stack, done => build r stack (⟨k, ts, []⟩ :: done)
  | .start k ts :: r, stack, done => build r (⟨k, ts, done⟩ :: stack) []
  | .stop k :: r, o :: stack, done =>
    if k = o.kind then build r stack (⟨o.kind, o.texts, done.reverse⟩ :: o.before) else none
  | .stop _ :: _, [], _ => none

mutual

theorem build_tags : (v : Visible) → ∀ (r : List Tag) (stack : List Opened) (done : List Visible),
    build (v.tags ++ r) stack done = build r stack (v :: done)
  | ⟨k, ts, []⟩, r, stack, done => rfl
  | ⟨k, ts, v :: vs⟩, r, stack, done => by
    have ht : Visible.tags ⟨k, ts, v :: vs⟩ ++ r =
        .start k ts :: (v.tags ++ (Visible.tagsAll vs ++ (.stop k :: r))) := by
      simp [Visible.tags]
    rw [ht, build, build_tags v, build_tagsAll vs, build, if_pos rfl]
    simp

/-- The tags of components build them. -/
theorem build_tagsAll : (vs : List Visible) → ∀ (r : List Tag) (stack : List Opened) (done : List Visible),
    build (Visible.tagsAll vs ++ r) stack done = build r stack (vs.reverse ++ done)
  | [], r, stack, done => rfl
  | v :: vs, r, stack, done => by
    rw [Visible.tagsAll, List.append_assoc, build_tags v, build_tagsAll vs]
    simp

end

/-- What is shown by a markup. -/
def read (s : List Char) : Option (List Visible) :=
  -- no tag is empty, so there are no more of them than characters
  if s = [] then some [] else (readTags s.length s).bind fun ts => build ts [] []

/-- Components whose tags are plain are read from the text of these. -/
theorem read_join {vs : List Visible} (hp : ∀ t ∈ Visible.tagsAll vs, t.Plain) :
    read (Tag.join (Visible.tagsAll vs)) = some vs := by
  cases vs with
  | nil => rfl
  | cons v vs =>
    have hn : Visible.tagsAll (v :: vs) ≠ [] := by simp [Visible.tagsAll, Visible.tags_ne_nil]
    have hl := length_le_join (Visible.tagsAll (v :: vs))
    have hj : Tag.join (Visible.tagsAll (v :: vs)) ≠ [] := by
      intro h
      rw [h] at hl
      exact hn (List.length_eq_zero_iff.mp (Nat.le_zero.mp hl))
    have hb := build_tagsAll (v :: vs) [] [] []
    rw [List.append_nil, List.append_nil] at hb
    rw [read, if_neg hj, readTags_join hn hp hl, Option.bind_some, hb, build, List.reverse_reverse]

end Markup

/-! ## Plans -/

namespace Component

mutual

/-- The texts of a component, and of what is inside, have keys that components show. -/
def Plain : Component → Prop
  | ⟨_, p, cs⟩ => (∀ m ∈ p.entries, m.1 ∈ Markup.textKeys) ∧ PlainAll cs

def PlainAll : List Component → Prop
  | [] => True
  | c :: cs => Plain c ∧ PlainAll cs

end

theorem plainAll_iff {cs : List Component} : PlainAll cs ↔ ∀ c ∈ cs, c.Plain := by
  induction cs with
  | nil => simp [PlainAll]
  | cons c cs ih => rw [PlainAll, ih, List.forall_mem_cons]

end Component

/-- Texts whose keys components show are shown in the order of these keys. -/
theorem Props.keys_shown {p : Props} (h : ∀ m ∈ p.entries, m.1 ∈ Markup.textKeys) :
    (p.shown.map Prod.fst).Sublist Markup.textKeys := by
  have hsub : (p.shown.map Prod.fst).Sublist (p.entries.map Prod.fst) := List.filter_sublist.map Prod.fst
  have hentries : (p.entries.map Prod.fst).Pairwise (fun a b : String => a < b) := List.pairwise_map.mpr p.ascending
  have hshown := hentries.sublist hsub
  have hkeys : Markup.textKeys.Pairwise (fun a b : String => a < b) := by decide
  have hmem : p.shown.map Prod.fst ⊆ Markup.textKeys := by
    intro k hk
    obtain ⟨m, hm, rfl⟩ := List.mem_map.mp (hsub.subset hk)
    exact h m hm
  exact List.sublist_of_subperm_of_pairwise (List.subperm_of_subset hshown.nodup hmem) hshown hkeys

theorem Tag.plain_stop (k : Kind) : (Tag.stop k).Plain := List.nil_sublist _

namespace Component

mutual

theorem Plain.tags : {c : Component} → c.Plain → ∀ t ∈ c.visible.tags, t.Plain
  | ⟨k, p, cs⟩, h => by
    have hp := Props.keys_shown h.1
    have hin : ∀ t ∈ Visible.tagsAll (visibleAll cs), t.Plain := PlainAll.tags h.2
    rw [visible]
    -- whether there is a closing tag depends on what is shown inside, not on what is inside
    by_cases hv : (if k.isContainer then visibleAll cs else []) = []
    · rw [hv, Visible.tags]
      exact List.forall_mem_singleton.mpr hp
    · rw [Visible.tags_of_ne_nil k p.shown hv]
      have hk : k.isContainer = true := by
        by_contra hk
        exact hv (if_neg hk)
      rw [if_pos hk, List.cons_append]
      refine List.forall_mem_cons.mpr ⟨hp, fun t ht => ?_⟩
      rcases List.mem_append.mp ht with ht | ht
      · exact hin t ht
      · exact List.mem_singleton.mp ht ▸ Tag.plain_stop k

theorem PlainAll.tags : {cs : List Component} → PlainAll cs → ∀ t ∈ Visible.tagsAll (visibleAll cs), t.Plain
  | [], _ => by simp [visibleAll, Visible.tagsAll]
  | c :: cs, h => by
    intro t ht
    rw [visibleAll, Visible.tagsAll] at ht
    rcases List.mem_append.mp ht with ht | ht
    · exact Plain.tags h.1 t ht
    · exact PlainAll.tags h.2 t ht

end

end Component

/-- The keys of the texts that a kind has are keys that components show. -/
theorem Kind.HasTexts.mem_textKeys {k : Kind} {p : Props} (h : k.HasTexts p) :
    ∀ m ∈ p.entries, m.1 ∈ Markup.textKeys := by
  cases k <;> obtain ⟨s, _, hp⟩ := h <;> simp [hp, Markup.textKeys]

namespace Plan

def Plain (p : Plan) : Prop := Component.PlainAll p.components

theorem Canonical.plain_of_stands {l : Limits} {p : Plan} (hp : Canonical l p) (c : Component) :
    ∀ {around : List Component}, p.Stands around c → c.Plain := by
  induction c using Component.induct with
  | mk kind props children ih =>
    intro around hs
    have ht : kind.HasTexts props := hp.texts around _ hs
    exact ⟨ht.mem_textKeys, Component.plainAll_iff.mpr fun d hd => ih d hd (hs.inside hd)⟩

theorem Canonical.plain {l : Limits} {p : Plan} (hp : Canonical l p) : p.Plain :=
  Component.plainAll_iff.mpr fun c hc => hp.plain_of_stands c (.top hc)

variable {p q : Plan}

/-- What a plain plan shows is read from its markup. -/
theorem Plain.read_markup (hp : p.Plain) : Markup.read p.markup.toList = some p.visible := by
  rw [toList_markup]
  exact Markup.read_join (Component.PlainAll.tags hp)

/-- Plain plans with the same markup show the same. -/
theorem Plain.visible_eq (hp : p.Plain) (hq : q.Plain) (h : p.markup = q.markup) : p.visible = q.visible := by
  have hr := hp.read_markup
  rw [h, hq.read_markup] at hr
  exact (Option.some.inj hr).symm

/-- **Markup is lossless, and nothing is injected.** What plans with the usual keys show is read from their markup, so
two of them with the same markup show the same. Each angle bracket that opens begins a tag of the plan, and each quote
opens or closes the value of an attribute. All plans that the pipeline gives have the usual keys. -/
theorem markup_lossless :
    (∀ p q : Plan, p.Plain → q.Plain → p.markup = q.markup → p.visible = q.visible) ∧
    (∀ p : Plan, p.Plain →
      Markup.read p.markup.toList = some p.visible ∧
      (∀ u v, p.markup.toList = u ++ '<' :: v → Tag.Begins p.tags u v) ∧
      (∀ u v, p.markup.toList = u ++ '"' :: v → Tag.Quotes p.tags u v)) ∧
    (∀ (v : Json) (l : Limits) (p : Plan), accept v l = .ok p → p.Plain) ∧
    (∀ (v : Json) (l : Limits) (p : Plan), recover v l = .ok p → p.Plain) ∧
    (∀ (p : Plan) (l : Limits), (p.refine l).Plain) ∧
    (∀ (read : String → Classification) (r : Request) (l : Limits) (a : Answer),
      r.runBy read l = .ok a → a.plan.Plain) := by
  refine ⟨fun p q hp hq h => hp.visible_eq hq h, fun p hp => ⟨hp.read_markup, fun u v h => ?_, fun u v h => ?_⟩,
    fun v l p h => ?_, fun v l p h => ?_, fun p l => (canonical_refine p l).plain,
    fun _ _ _ _ h => (canonical_of_runBy h).plain⟩
  · rw [toList_markup] at h
    exact Tag.begins_of_join (Component.PlainAll.tags hp) h
  · rw [toList_markup] at h
    exact Tag.quotes_of_join (Component.PlainAll.tags hp) h
  · rw [eq_restore_of_accept h]
    exact (canonical_restore v l).plain
  · rw [eq_restore_of_recover h]
    exact (canonical_restore v l).plain

def signed (inside : Component) : Plan := ⟨"a", [.card "\"<b>\n&lt;" [inside]]⟩

/-- Two plans whose difference markup does not show, a bracket and a quote of their markup, and plans that the pipeline
gives. -/
theorem markup_lossless_signed :
    (signed ⟨.input, Props.ofList [("label", "x"), ("placeholder", "")], []⟩).visible =
      (signed ⟨.input, Props.ofList [("label", "x")], [.button "y"]⟩).visible ∧
    Markup.read (signed (.input "x")).markup.toList = some (signed (.input "x")).visible ∧
    Tag.Begins (signed (.input "x")).tags "<Card title=\"&quot;&lt;b&gt;\n&amp;lt;\">\n".toList
      "Input label=\"x\" />\n</Card>".toList ∧
    Tag.Quotes (signed (.input "x")).tags "<Card title=".toList
      "&quot;&lt;b&gt;\n&amp;lt;\">\n<Input label=\"x\" />\n</Card>".toList ∧
    (restore nested {}).Plain ∧ (restore .null {}).Plain ∧
    ∃ a, Request.runBy Prompt.classify ⟨"login form", some nested⟩ {} = .ok a ∧ a.plan.Plain := by
  obtain ⟨hsame, hplain, haccept, hrecover, _, hanswer⟩ := markup_lossless
  have hp : (signed ⟨.input, Props.ofList [("label", "x"), ("placeholder", "")], []⟩).Plain :=
    ⟨⟨by decide, ⟨by decide, trivial⟩, trivial⟩, trivial⟩
  have hq : (signed ⟨.input, Props.ofList [("label", "x")], [.button "y"]⟩).Plain :=
    ⟨⟨by decide, ⟨by decide, ⟨by decide, trivial⟩, trivial⟩, trivial⟩, trivial⟩
  have hx : (signed (.input "x")).Plain := ⟨⟨by decide, ⟨by decide, trivial⟩, trivial⟩, trivial⟩
  obtain ⟨hread, hbegins, hquotes⟩ := hplain _ hx
  have ha : Request.runBy Prompt.classify ⟨"login form", some nested⟩ {} = .ok _ :=
    Request.runBy_of_last_ok rfl rfl
  exact ⟨hsame _ _ hp hq rfl, hread, hbegins _ _ ((toList_markup _).trans rfl),
    hquotes _ _ ((toList_markup _).trans rfl), haccept nested {} _ rfl, hrecover .null {} _ rfl, _, ha,
    hanswer _ _ _ _ ha⟩

end Plan

end Wireframe
