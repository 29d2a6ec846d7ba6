import Mathlib.Data.List.Infix
import Wireframe.Settings.Placeholder

/-!
# Texts with placeholders

What expanding a text means, said on the text as it is written: literals, and names between a dollar sign with an
opening brace and a closing brace.

* **Templates** (`Template`): a text cut at its placeholders. It is cut exactly (`Template.Exact`) when no literal has
  an opening and no name a closing brace; a name may hold an opening, and a literal may end with a dollar sign.
* **Pieces** (`Template.pieces_text`): the scan of a text finds the literals and the names of its template.
* **Expansion** (`Template.expandPieces_eq_ok`, `Template.expandPieces_eq_refusal`,
  `Template.expandPieces_eq_unterminated`): by induction on the template, since a placeholder that has a value leaves the
  result of what comes after it as it is, and one that has none hides it.
* **Every text** (`Template.exists_text_eq`, `Template.text_inj`): by induction on the scan there is a template, and only
  one, so these are all the cases.
-/

namespace Wireframe.Placeholder

/-- No placeholder begins in a text. -/
def Free (s : List Char) : Prop := ¬ ['$', '{'] <:+: s

/-- A text cut at its placeholders: a literal, and then how the text goes on. -/
inductive Template where
  /-- The text ends. -/
  | plain (literal : List Char)
  /-- A placeholder begins that has no end. -/
  | opened (literal rest : List Char)
  /-- A placeholder with a name follows, and what comes after it. -/
  | hole (literal name : List Char) (after : Template)

/-- A name that is there and has a value. -/
def Bound (env : String → Option String) (name : List Char) : Prop :=
  name ≠ [] ∧ (env (String.ofList name)).isSome

instance (env : String → Option String) (name : List Char) : Decidable (Bound env name) :=
  inferInstanceAs (Decidable (_ ∧ _))

/-- Why a placeholder with a name that is not bound cannot be expanded. -/
def refusal (name : List Char) : Failure := if name = [] then .empty else .missing (String.ofList name)

namespace Template

def text : Template → List Char
  | plain l => l
  | opened l s => l ++ '$' :: '{' :: s
  | hole l n t => l ++ '$' :: '{' :: (n ++ '}' :: t.text)

def names : Template → List (List Char)
  | plain _ => []
  | opened _ _ => []
  | hole _ n t => n :: t.names

/-- Every placeholder has an end. -/
def Closed : Template → Prop
  | plain _ => True
  | opened _ _ => False
  | hole _ _ t => t.Closed

/-- No placeholder begins in a literal, and none ends in a name, or in what follows an opening without an end. -/
def Exact : Template → Prop
  | plain l => Free l
  | opened l s => Free l ∧ '}' ∉ s
  | hole l n t => Free l ∧ '}' ∉ n ∧ t.Exact

def fill (env : String → Option String) : Template → List Char
  | plain l => l
  | opened l _ => l
  | hole l n t => l ++ ((env (String.ofList n)).getD "").toList ++ t.fill env

/-- What the scan finds in the text of a template. -/
def pieces : Template → List Piece
  | plain l => l.map .literal
  | opened l _ => l.map .literal ++ [.opened]
  | hole l n t => l.map .literal ++ .name n :: t.pieces

end Template

/-! ## The scan -/

theorem free_cons {c : Char} {s : List Char} (hs : Free s) (h : c = '$' → s.head? ≠ some '{') : Free (c :: s) := by
  intro hin
  rcases List.infix_cons_iff.mp hin with hbegin | hin
  · obtain ⟨hc, t, rfl⟩ := List.cons_prefix_cons.mp hbegin
    exact h hc.symm rfl
  · exact hs hin

theorem Free.tail {c : Char} {s : List Char} (h : Free (c :: s)) : Free s :=
  fun hin => h (hin.trans (List.suffix_cons c s).isInfix)

theorem pieces_cons {c : Char} {s : List Char} (h : c = '$' → s.head? ≠ some '{') :
    pieces (c :: s) = .literal c :: pieces s := by
  rw [pieces]
  rintro t rfl rfl
  exact h rfl rfl

/-- A literal is found character by character, if the text after it does not complete an opening. -/
theorem pieces_append {l s : List Char} (hl : Free l) (hs : s.head? ≠ some '{') :
    pieces (l ++ s) = l.map .literal ++ pieces s := by
  induction l with
  | nil => rfl
  | cons c l ih =>
    have hopen : c = '$' → (l ++ s).head? ≠ some '{' := by
      rintro rfl
      cases l with
      | nil => exact hs
      | cons d l =>
        rintro hd
        cases hd
        exact hl (List.infix_append [] ['$', '{'] l)
    rw [List.cons_append, pieces_cons hopen, ih hl.tail, List.map_cons, List.cons_append]

theorem pieces_of_free {l : List Char} (hl : Free l) : pieces l = l.map .literal := by
  have h := pieces_append (s := []) hl (by simp)
  rwa [List.append_nil, pieces, List.append_nil] at h

/-- A name goes up to the first closing brace. -/
theorem named_append {n : List Char} (hn : '}' ∉ n) (acc s : List Char) :
    named acc (n ++ '}' :: s) = .name (acc.reverse ++ n) :: pieces s := by
  induction n generalizing acc with
  | nil => simp [named]
  | cons c n ih =>
    obtain ⟨hc, hn⟩ := not_or.mp (mt List.mem_cons.mpr hn)
    rw [List.cons_append, named, if_neg (Ne.symm hc), ih hn, List.reverse_cons, List.append_assoc, List.singleton_append]

/-- Without a closing brace a placeholder stays open. -/
theorem named_of_not_mem {s : List Char} (hs : '}' ∉ s) (acc : List Char) : named acc s = [.opened] := by
  induction s generalizing acc with
  | nil => rfl
  | cons c s ih =>
    obtain ⟨hc, hs⟩ := not_or.mp (mt List.mem_cons.mpr hs)
    rw [named, if_neg (Ne.symm hc), ih hs]

/-- **The scan of a text finds what its template says.** -/
theorem Template.pieces_text {t : Template} (ht : t.Exact) : Placeholder.pieces t.text = t.pieces := by
  induction t with
  | plain l => exact pieces_of_free ht
  | opened l s =>
    obtain ⟨hl, hs⟩ := ht
    rw [text, pieces_append hl (by simp), Placeholder.pieces, named_of_not_mem hs, pieces]
  | hole l n t ih =>
    obtain ⟨hl, hn, ht⟩ := ht
    rw [text, pieces_append hl (by simp), Placeholder.pieces, named_append hn, ih ht, List.reverse_nil, List.nil_append,
      pieces]

/-! ## Expansion -/

section Expansion

variable {env : String → Option String}

/-- Literals stand in front of what the pieces after them are expanded to. -/
theorem expandPieces_literal_append (l : List Char) (ps : List Piece) :
    expandPieces env (l.map .literal ++ ps) = (expandPieces env ps).map (l ++ ·) := by
  induction l with
  | nil =>
    rw [List.map_nil, List.nil_append]
    cases expandPieces env ps <;> rfl
  | cons c l ih =>
    rw [List.map_cons, List.cons_append, expandPieces, ih]
    cases expandPieces env ps <;> rfl

theorem expand_of_bound {n : List Char} (h : Bound env n) :
    (Piece.name n).expand env = .ok ((env (String.ofList n)).getD "").toList := by
  obtain ⟨hn, hv⟩ := h
  obtain ⟨v, hv⟩ := Option.isSome_iff_exists.mp hv
  rw [Piece.expand.eq_4 env n hn, hv]
  rfl

theorem expand_of_not_bound {n : List Char} (h : ¬ Bound env n) : (Piece.name n).expand env = .error (refusal n) := by
  by_cases hn : n = []
  · subst hn
    rfl
  · have hv : env (String.ofList n) = none := by
      by_contra hv
      exact h ⟨hn, Option.isSome_iff_ne_none.mpr hv⟩
    rw [Piece.expand.eq_4 env n hn, hv, refusal, if_neg hn]

/-- A name that is not bound fails, whatever comes after it. -/
theorem expandPieces_of_not_bound {n : List Char} (h : ¬ Bound env n) (l : List Char) (ps : List Piece) :
    expandPieces env (l.map .literal ++ .name n :: ps) = .error (refusal n) := by
  rw [expandPieces_literal_append, expandPieces, expand_of_not_bound h]
  rfl

theorem expandPieces_of_bound {n : List Char} (h : Bound env n) (l : List Char) (ps : List Piece) :
    expandPieces env (l.map .literal ++ .name n :: ps) =
      (expandPieces env ps).map (l ++ ((env (String.ofList n)).getD "").toList ++ ·) := by
  rw [expandPieces_literal_append, expandPieces, expand_of_bound h]
  cases expandPieces env ps with
  | error f => rfl
  | ok s => exact congrArg Except.ok (List.append_assoc ..).symm

namespace Template

variable {t : Template}

/-- With an end and a value for every placeholder, a template is filled. -/
theorem expandPieces_eq_ok (hclosed : t.Closed) (hbound : ∀ n ∈ t.names, Bound env n) :
    expandPieces env t.pieces = .ok (t.fill env) := by
  induction t with
  | plain l => exact expandPieces_literal env l
  | opened l s => exact absurd hclosed id
  | hole l n t ih =>
    obtain ⟨hn, hnames⟩ := List.forall_mem_cons.mp hbound
    rw [pieces, expandPieces_of_bound hn, ih hclosed hnames]
    rfl

/-- The leftmost placeholder that is not bound decides the failure. -/
theorem expandPieces_eq_refusal {before after : List (List Char)} {n : List Char} (hnames : t.names = before ++ n :: after)
    (hbefore : ∀ m ∈ before, Bound env m) (hn : ¬ Bound env n) : expandPieces env t.pieces = .error (refusal n) := by
  induction t generalizing before with
  | plain l => simp [names] at hnames
  | opened l s => simp [names] at hnames
  | hole l m t ih =>
    rw [pieces]
    cases before with
    | nil =>
      obtain ⟨rfl, -⟩ := List.cons.inj hnames
      exact expandPieces_of_not_bound hn l t.pieces
    | cons b before =>
      obtain ⟨rfl, hlater⟩ := List.cons.inj hnames
      obtain ⟨hm, hbefore⟩ := List.forall_mem_cons.mp hbefore
      rw [expandPieces_of_bound hm, ih hlater hbefore]
      rfl

/-- A placeholder without an end is found out when all before it are bound. -/
theorem expandPieces_eq_unterminated (hopen : ¬ t.Closed) (hbound : ∀ n ∈ t.names, Bound env n) :
    expandPieces env t.pieces = .error .unterminated := by
  induction t with
  | plain l => exact absurd trivial hopen
  | opened l s =>
    rw [pieces, expandPieces_literal_append]
    rfl
  | hole l n t ih =>
    obtain ⟨hn, hnames⟩ := List.forall_mem_cons.mp hbound
    rw [pieces, expandPieces_of_bound hn, ih hopen hnames]
    rfl

end Template

end Expansion

/-! ## Every text -/

namespace Template

def prepend (c : Char) : Template → Template
  | plain l => plain (c :: l)
  | opened l s => opened (c :: l) s
  | hole l n t => hole (c :: l) n t

theorem text_prepend (c : Char) (t : Template) : (t.prepend c).text = c :: t.text := by
  cases t <;> rfl

/-- A character in front that does not begin a placeholder belongs to the first literal. -/
theorem Exact.prepend {c : Char} {t : Template} (ht : t.Exact) (h : c = '$' → t.text.head? ≠ some '{') :
    (t.prepend c).Exact := by
  have hfree {l s : List Char} (hl : Free l) (hs : c = '$' → (l ++ s).head? ≠ some '{') : Free (c :: l) := by
    refine free_cons hl fun hc hd => hs hc ?_
    rw [List.head?_append, hd, Option.some_or]
  cases t with
  | plain l => exact free_cons ht h
  | opened l s => exact ⟨hfree ht.1 h, ht.2⟩
  | hole l n t => exact ⟨hfree ht.1 h, ht.2⟩

/-- **Every text has a template.** A text that begins inside a placeholder has a template after the end of that, if it
has an end. -/
theorem exists_text_eq (s : List Char) : ∃ t : Template, t.Exact ∧ t.text = s := by
  refine Placeholder.pieces.induct (fun s => ∃ t : Template, t.Exact ∧ t.text = s)
    (fun _ s => '}' ∈ s → ∃ n, ∃ t : Template, '}' ∉ n ∧ t.Exact ∧ n ++ '}' :: t.text = s)
    ?opening ?literal ?done ?unclosed ?closing ?name s
  case opening =>
    intro s ih
    by_cases hs : '}' ∈ s
    · obtain ⟨n, t, hn, ht, rfl⟩ := ih hs
      exact ⟨hole [] n t, ⟨by simp [Free], hn, ht⟩, rfl⟩
    · exact ⟨opened [] s, ⟨by simp [Free], hs⟩, rfl⟩
  case literal =>
    rintro c _ hopen ⟨t, ht, rfl⟩
    refine ⟨t.prepend c, ht.prepend fun hc hd => ?_, text_prepend c t⟩
    obtain ⟨s, hs⟩ := List.head?_eq_some_iff.mp hd
    exact hopen s hc hs
  case done => exact ⟨plain [], by simp [Exact, Free], rfl⟩
  case unclosed => exact fun _ h => absurd h List.not_mem_nil
  case closing =>
    rintro _ _ ⟨t, ht, rfl⟩ _
    exact ⟨[], t, List.not_mem_nil, ht, rfl⟩
  case name =>
    intro _ c s hc ih h
    obtain ⟨n, t, hn, ht, rfl⟩ := ih (List.mem_of_ne_of_mem (Ne.symm hc) h)
    exact ⟨c :: n, t, List.not_mem_cons_of_ne_of_not_mem (Ne.symm hc) hn, ht, rfl⟩

/-- What comes after a literal: nothing, or an opening. -/
def Turns (s : List Char) : Prop := s = [] ∨ ∃ r, s = '$' :: '{' :: r

/-- A literal that goes on where another one may end does not go on. -/
theorem eq_nil_of_turns {l x s : List Char} (hl : Free (l ++ x)) (hx : Turns (x ++ s)) (hs : Turns s) : x = [] := by
  match x with
  | [] => rfl
  | [c] =>
    rcases hx with hx | ⟨r, hx⟩
    · cases hx
    · obtain ⟨-, rfl⟩ := List.cons.inj hx
      simp [Turns] at hs
  | c :: d :: y =>
    rcases hx with hx | ⟨r, hx⟩
    · cases hx
    · simp only [List.cons_append, List.cons.injEq] at hx
      obtain ⟨rfl, rfl, -⟩ := hx
      exact absurd ⟨l, y, by simp⟩ hl

/-- The literal in front of a text is determined, and so is what comes after it. -/
theorem literal_inj {l m s u : List Char} (hl : Free l) (hm : Free m) (hs : Turns s) (hu : Turns u)
    (h : l ++ s = m ++ u) : l = m ∧ s = u := by
  rcases List.append_eq_append_iff.mp h with ⟨x, rfl, rfl⟩ | ⟨x, rfl, rfl⟩
  · obtain rfl := eq_nil_of_turns hm hs hu
    exact ⟨by rw [List.append_nil], rfl⟩
  · obtain rfl := eq_nil_of_turns hl hu hs
    exact ⟨by rw [List.append_nil], rfl⟩

def literal : Template → List Char
  | plain l => l
  | opened l _ => l
  | hole l _ _ => l

def rest : Template → List Char
  | plain _ => []
  | opened _ s => '$' :: '{' :: s
  | hole _ n t => '$' :: '{' :: (n ++ '}' :: t.text)

theorem text_eq (t : Template) : t.text = t.literal ++ t.rest := by
  cases t with
  | plain l => exact (List.append_nil l).symm
  | opened l s | hole l n t => rfl

theorem turns_rest (t : Template) : Turns t.rest := by
  cases t with
  | plain l => exact .inl rfl
  | opened l s | hole l n t => exact .inr ⟨_, rfl⟩

theorem Exact.free {t : Template} (ht : t.Exact) : Free t.literal := by
  cases t with
  | plain l => exact ht
  | opened l s | hole l n t => exact ht.1

theorem name_inj {n k s u : List Char} (hn : '}' ∉ n) (hk : '}' ∉ k) (h : n ++ '}' :: s = k ++ '}' :: u) :
    n = k ∧ s = u := by
  have hscan := congrArg (named []) h
  rw [named_append hn, named_append hk] at hscan
  obtain rfl : n = k := Piece.name.inj (List.cons.inj hscan).1
  exact ⟨rfl, (List.cons.inj (List.append_cancel_left h)).2⟩

/-- **A text has no other template.** -/
theorem text_inj {t u : Template} (ht : t.Exact) (hu : u.Exact) (h : t.text = u.text) : t = u := by
  -- an opening that has no end is not one that has
  have hended (s n v : List Char) (hs : '}' ∉ s) : '$' :: '{' :: s ≠ '$' :: '{' :: (n ++ '}' :: v) := by
    rintro ⟨⟩
    exact hs (by simp)
  induction t generalizing u with
  | plain l =>
    rw [text_eq, text_eq u] at h
    obtain ⟨hl, hrest⟩ := literal_inj ht.free hu.free (turns_rest _) u.turns_rest h
    cases u with
    | plain m => exact congrArg plain hl
    | opened m s | hole m n u => cases hrest
  | opened l s =>
    rw [text_eq, text_eq u] at h
    obtain ⟨hl, hrest⟩ := literal_inj ht.free hu.free (turns_rest _) u.turns_rest h
    cases u with
    | plain m => cases hrest
    | opened m r =>
      cases hrest
      exact congrArg (opened · s) hl
    | hole m n u => exact absurd hrest (hended s n u.text ht.2)
  | hole l n t ih =>
    rw [text_eq, text_eq u] at h
    obtain ⟨hl, hrest⟩ := literal_inj ht.free hu.free (turns_rest _) u.turns_rest h
    cases u with
    | plain m => cases hrest
    | opened m s => exact absurd hrest.symm (hended s n t.text hu.2)
    | hole m k u =>
      obtain ⟨rfl, htext⟩ := name_inj ht.2.1 hu.2.1 (List.cons.inj (List.cons.inj hrest).2).2
      rw [ih ht.2.2 hu.2.2 htext, show l = m from hl]

end Template

/-! ## The grammar -/

section Grammar

variable {env : String → Option String} {t : Template}

theorem expand_text (ht : t.Exact) :
    expand env (String.ofList t.text) = (expandPieces env t.pieces).map String.ofList := by
  rw [expand, String.toList_ofList, t.pieces_text ht]

/-- Of names that are not all bound one is the leftmost. -/
theorem exists_leftmost {names : List (List Char)} (h : ¬ ∀ n ∈ names, Bound env n) :
    ∃ before n after, names = before ++ n :: after ∧ (∀ m ∈ before, Bound env m) ∧ ¬ Bound env n := by
  induction names with
  | nil => exact absurd (List.forall_mem_nil _) h
  | cons n names ih =>
    by_cases hn : Bound env n
    · have hlater : ¬ ∀ m ∈ names, Bound env m := fun hall => h (List.forall_mem_cons.mpr ⟨hn, hall⟩)
      obtain ⟨before, m, after, rfl, hbefore, hm⟩ := ih hlater
      exact ⟨n :: before, m, after, rfl, List.forall_mem_cons.mpr ⟨hn, hbefore⟩, hm⟩
    · exact ⟨[], n, names, rfl, List.forall_mem_nil _, hn⟩

/-- **Expanding reads exactly the grammar of templates.** Every text has one template, which is cut exactly. Under any
environment the text can be expanded exactly when every placeholder has an end and a name that is bound, and then it is
the literals with the values between them as they are. Otherwise the leftmost placeholder whose name is empty or not
bound decides the failure, and only where there is none an opening without an end does. -/
theorem expand_parses :
    (∀ (env : String → Option String) (t : Template), t.Exact →
      ((∃ s, expand env (String.ofList t.text) = .ok s) ↔ t.Closed ∧ ∀ n ∈ t.names, Bound env n) ∧
      (t.Closed → (∀ n ∈ t.names, Bound env n) →
        expand env (String.ofList t.text) = .ok (String.ofList (t.fill env))) ∧
      (∀ before n after, t.names = before ++ n :: after → (∀ m ∈ before, Bound env m) → ¬ Bound env n →
        expand env (String.ofList t.text) = .error (refusal n)) ∧
      (¬ t.Closed → (∀ n ∈ t.names, Bound env n) →
        expand env (String.ofList t.text) = .error .unterminated)) ∧
    ∀ text : String, ∃! t : Template, t.Exact ∧ String.ofList t.text = text := by
  refine ⟨fun env t ht => ?_, fun text => ?_⟩
  · have hfilled (hclosed : t.Closed) (hbound : ∀ n ∈ t.names, Bound env n) :
        expand env (String.ofList t.text) = .ok (String.ofList (t.fill env)) := by
      rw [expand_text ht, Template.expandPieces_eq_ok hclosed hbound]
      rfl
    have hrefused (before : List (List Char)) (n : List Char) (after : List (List Char))
        (hnames : t.names = before ++ n :: after) (hbefore : ∀ m ∈ before, Bound env m) (hn : ¬ Bound env n) :
        expand env (String.ofList t.text) = .error (refusal n) := by
      rw [expand_text ht, Template.expandPieces_eq_refusal hnames hbefore hn]
      rfl
    have hunterminated (hopen : ¬ t.Closed) (hbound : ∀ n ∈ t.names, Bound env n) :
        expand env (String.ofList t.text) = .error .unterminated := by
      rw [expand_text ht, Template.expandPieces_eq_unterminated hopen hbound]
      rfl
    refine ⟨⟨?_, fun ⟨hclosed, hbound⟩ => ⟨_, hfilled hclosed hbound⟩⟩, hfilled, hrefused, hunterminated⟩
    rintro ⟨s, hs⟩
    have hbound : ∀ n ∈ t.names, Bound env n := by
      by_contra hall
      obtain ⟨before, n, after, hnames, hbefore, hn⟩ := exists_leftmost hall
      rw [hrefused before n after hnames hbefore hn] at hs
      cases hs
    refine ⟨?_, hbound⟩
    by_contra hopen
    rw [hunterminated hopen hbound] at hs
    cases hs
  · obtain ⟨t, ht, htext⟩ := Template.exists_text_eq text.toList
    refine ⟨t, ⟨ht, by rw [htext, String.ofList_toList]⟩, fun u ⟨hu, hutext⟩ => Template.text_inj hu ht ?_⟩
    rw [htext, ← hutext, String.toList_ofList]

/-- An environment with one variable, whose value looks like a placeholder. -/
def onlyA (name : String) : Option String := if name = "A" then some "$\x7bB\x7d" else none

/-- The value stays as it is, also after a dollar sign that belongs to no placeholder. An empty name is refused before
an opening without an end is found, and a name may hold an opening. -/
theorem expand_parses_nested :
    expand onlyA "$$\x7bA\x7d-$\x7bA\x7d\x7d" = .ok "$$\x7bB\x7d-$\x7bB\x7d\x7d" ∧
    expand onlyA "$\x7bA\x7d$\x7b\x7d$\x7bB" = .error .empty ∧
    expand onlyA "$\x7b$\x7bA\x7d" = .error (.missing "$\x7bA") ∧
    expand onlyA "$\x7bA\x7d$\x7bB" = .error .unterminated := by
  obtain ⟨hparses, -⟩ := expand_parses
  have hA : ∀ n ∈ [['A']], Bound onlyA n := List.forall_mem_singleton.mpr (by decide)
  have hfree : Free [] ∧ Free ['$'] ∧ Free ['-'] ∧ Free ['}'] := by simp [Free, List.infix_cons_iff]
  obtain ⟨hempty, hdollar, hminus, hbrace⟩ := hfree
  refine ⟨?_, ?_, ?_, ?_⟩
  · obtain ⟨-, hfilled, -⟩ := hparses onlyA (.hole ['$'] ['A'] (.hole ['-'] ['A'] (.plain ['}'])))
      ⟨hdollar, by decide, hminus, by decide, hbrace⟩
    have hnames : ∀ n ∈ [['A'], ['A']], Bound onlyA n := List.forall_mem_cons.mpr ⟨hA _ List.mem_cons_self, hA⟩
    exact (hfilled trivial hnames).trans (by decide)
  · obtain ⟨-, -, hrefused, -⟩ := hparses onlyA (.hole [] ['A'] (.hole [] [] (.opened [] ['B'])))
      ⟨hempty, by decide, hempty, by decide, hempty, by decide⟩
    exact hrefused [['A']] [] [] rfl hA (by decide)
  · obtain ⟨-, -, hrefused, -⟩ := hparses onlyA (.hole [] ['$', '{', 'A'] (.plain [])) ⟨hempty, by decide, hempty⟩
    exact hrefused [] ['$', '{', 'A'] [] rfl (List.forall_mem_nil _) (by decide)
  · obtain ⟨-, -, -, hunterminated⟩ := hparses onlyA (.hole [] ['A'] (.opened [] ['B']))
      ⟨hempty, by decide, hempty, by decide⟩
    exact hunterminated id hA

end Grammar

end Wireframe.Placeholder
