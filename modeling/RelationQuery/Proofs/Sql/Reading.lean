import RelationQuery.Proofs.Sql.Placeholders

/-!
Reading statements back. Where two sequences of pieces are written alike, they can be compared
from the front: texts that are different stop the comparison, and a quoted name ends at the first
mark that is not doubled, provided that no mark follows it. Parts of a kind are read back if this
finds them equal wherever what is behind them begins in one of a few known ways.
-/

namespace RelationQuery

/-- Quoted names are alike only if they are the same, where no mark is behind them. -/
lemma Text.double_cancel {mark : Char} {m n x y : List Char} (hx : ¬ [mark] <+: x)
    (hy : ¬ [mark] <+: y) (h : double mark m ++ mark :: x = double mark n ++ mark :: y) :
    m = n ∧ x = y := by
  -- a mark that closes one name cannot be a doubled mark of the other
  have hclosed : ∀ {c : Char} {n x y : List Char}, ¬ [mark] <+: x →
      mark :: x ≠ double mark (c :: n) ++ mark :: y := by
    intro c n x y hx h
    by_cases hc : c = mark
    · simp only [double, hc, if_true, List.cons_append, List.cons.injEq, true_and] at h
      exact hx ⟨_, h.symm⟩
    · simp only [double, hc, if_false, List.cons_append, List.cons.injEq] at h
      exact hc h.1.symm
  induction m generalizing n with
  | nil =>
    cases n with
    | nil => simpa [double] using h
    | cons c n => exact absurd h (hclosed hx)
  | cons c m ih =>
    cases n with
    | nil => exact absurd h.symm (hclosed hy)
    | cons c' n =>
      have hsame : c = c' ∧ double mark m ++ mark :: x = double mark n ++ mark :: y := by
        by_cases hc : c = mark <;> by_cases hc' : c' = mark <;>
          simp only [double, hc, hc', if_true, if_false, List.cons_append, List.cons.injEq,
            true_and] at h
        · exact ⟨hc.trans hc'.symm, h⟩
        · exact absurd h.1.symm hc'
        · exact h.1.elim
        · exact h
      obtain ⟨hnames, hbehind⟩ := ih hsame.2
      exact ⟨by rw [hsame.1, hnames], hbehind⟩

/-- Neither text begins with the other. -/
def Apart (s t : List Char) : Prop := ¬ s <+: t ∧ ¬ t <+: s

instance (s t : List Char) : Decidable (Apart s t) := inferInstanceAs (Decidable (_ ∧ _))

lemma Apart.excludes {s t text : List Char} (h : Apart s t) (hs : s <+: text) : ¬ t <+: text :=
  fun ht => (List.prefix_or_prefix_of_prefix hs ht).elim h.1 h.2

namespace Piece

variable {d : Dialect} {p q r : List Piece} {s t : String} {starts : List String}

/-- The pieces are written alike, behind equally many values. -/
def Same (d : Dialect) (p q : List Piece) : Prop := ∃ bound, write d bound p = write d bound q

/-- What is written begins with one of the texts, if with anything. -/
def Begins (d : Dialect) (starts : List String) (p : List Piece) : Prop :=
  ∀ bound, write d bound p = [] ∨ ∃ s ∈ starts, s.toList <+: write d bound p

lemma begins_nil (d : Dialect) (starts : List String) : Begins d starts [] := fun _ => .inl rfl

lemma begins_text (hs : s ∈ starts) : Begins d starts (.text s :: p) :=
  fun _ => .inr ⟨s, hs, List.prefix_append _ _⟩

lemma begins_self : Begins d [s] (.text s :: p) := begins_text List.mem_cons_self

lemma Begins.mono {others : List String} (h : Begins d starts p) (hsub : starts ⊆ others) :
    Begins d others p := by
  intro bound
  rcases h bound with hnil | ⟨s, hs, hstart⟩
  · exact .inl hnil
  · exact .inr ⟨s, hsub hs, hstart⟩

lemma Begins.excludes (h : Begins d starts p) {text : List Char} (hne : text ≠ [])
    (hapart : ∀ s ∈ starts, Apart s.toList text) (bound : Nat) : ¬ text <+: write d bound p := by
  rcases h bound with hnil | ⟨s, hs, hstart⟩
  · rw [hnil, List.prefix_nil]
    exact hne
  · exact (hapart s hs).excludes hstart

namespace Same

lemma symm (h : Same d p q) : Same d q p := h.imp fun _ => Eq.symm

lemma text (h : Same d (.text s :: p) (.text s :: q)) : Same d p q :=
  h.imp fun _ h => List.append_cancel_left h

lemma value {v w : Value} (h : Same d (.value v :: p) (.value w :: q)) : Same d p q := by
  obtain ⟨bound, h⟩ := h
  exact ⟨bound + 1, List.append_cancel_left h⟩

lemma ident {m n : String} (h : Same d (.ident m :: p) (.ident n :: q)) (hp : Begins d starts p)
    (hq : Begins d starts q) (hmark : ∀ s ∈ starts, Apart s.toList [d.nameMark]) :
    m = n ∧ Same d p q := by
  obtain ⟨bound, h⟩ := h
  simp only [write, Dialect.quoteName, Text.quote, String.toList_ofList, Text.enclose,
    List.cons_append, List.append_assoc, List.cons.injEq, true_and, List.nil_append] at h
  obtain ⟨hname, hrest⟩ := Text.double_cancel (hp.excludes (List.cons_ne_nil _ _) hmark bound)
    (hq.excludes (List.cons_ne_nil _ _) hmark bound) h
  exact ⟨String.toList_injective hname, bound, hrest⟩

/-- Texts that are apart are not written alike. -/
lemma not_apart (h : Same d (.text s :: p) (.text t :: q)) : ¬ Apart s.toList t.toList := by
  obtain ⟨bound, h⟩ := h
  intro hapart
  refine hapart.excludes (List.prefix_append _ (write d bound p)) ?_
  have h' : s.toList ++ write d bound p = t.toList ++ write d bound q := h
  rw [h']
  exact List.prefix_append _ _

/-- A text is not written like what cannot begin with it. -/
lemma not_begins (h : Same d (.text s :: p) q) (hq : Begins d starts q) (hs : s ≠ "")
    (hapart : ∀ t ∈ starts, Apart t.toList s.toList) : False := by
  obtain ⟨bound, h⟩ := h
  refine hq.excludes ?_ hapart bound ?_
  · simpa using hs
  · rw [← h]
    exact List.prefix_append _ _

end Same

/-! ### Kinds of parts -/

section Reads

variable {α β γ δ : Type} {ok : α → Prop} {pieces : α → List Piece} {view : α → β}

/-- Where two parts of a kind are written alike, they are the same up to `view`, and so is what is
behind them, provided that it begins with one of the texts. -/
def Reads (d : Dialect) (ok : α → Prop) (pieces : α → List Piece) (view : α → β)
    (starts : List String) : Prop :=
  ∀ ⦃x y p q⦄, ok x → ok y → Begins d starts p → Begins d starts q →
    Same d (pieces x ++ p) (pieces y ++ q) → view x = view y ∧ Same d p q

/-- Parts that are written as others are. -/
lemma Reads.of_eq {ok' : γ → Prop} {pieces' : γ → List Piece} {view' : γ → δ}
    (h : Reads d ok pieces view starts) (f : γ → α) (hok : ∀ z, ok' z → ok (f z))
    (hpieces : ∀ z, pieces' z = pieces (f z))
    (hview : ∀ z w, view (f z) = view (f w) → view' z = view' w) :
    Reads d ok' pieces' view' starts := by
  intro z w p q hz hw hp hq hsame
  rw [hpieces, hpieces] at hsame
  obtain ⟨heq, hsame⟩ := h (hok z hz) (hok w hw) hp hq hsame
  exact ⟨hview z w heq, hsame⟩

lemma reads_ident (hmark : ∀ s ∈ starts, Apart s.toList [d.nameMark]) :
    Reads d (fun _ => True) (fun name => [.ident name]) id starts :=
  fun _ _ _ _ _ _ hp hq hsame => hsame.ident hp hq hmark

lemma reads_value : Reads d (fun _ => True) (fun v => [.value v]) (fun _ => ()) starts :=
  fun _ _ _ _ _ _ _ _ hsame => ⟨rfl, hsame.value⟩

/-- A text and a part, if there is one. -/
def optional (first : String) (pieces : α → List Piece) : Option α → List Piece
  | some x => .text first :: pieces x
  | none => []

lemma begins_optional (x : Option α) (hp : Begins d starts p) :
    Begins d (s :: starts) (optional s pieces x ++ p) := by
  cases x with
  | none => exact hp.mono (List.subset_cons_self _ _)
  | some x => exact begins_text List.mem_cons_self

/-- A part that may have another one behind a text. -/
lemma Reads.optional {ok' : γ → Prop} {pieces' : γ → List Piece} {view' : γ → δ}
    (h : Reads d ok pieces view (s :: starts)) (h' : Reads d ok' pieces' view' starts)
    (hs : s ≠ "") (hapart : ∀ t ∈ starts, Apart t.toList s.toList) :
    Reads d (fun x : α × Option γ => ok x.1 ∧ ∀ z ∈ x.2, ok' z)
      (fun x => pieces x.1 ++ Piece.optional s pieces' x.2)
      (fun x => (view x.1, x.2.map view')) starts := by
  rintro ⟨x, z⟩ ⟨x', z'⟩ p q ⟨hx, hz⟩ ⟨hx', hz'⟩ hp hq hsame
  simp only [List.append_assoc] at hsame
  obtain ⟨hview, hsame⟩ := h hx hx' (begins_optional z hp) (begins_optional z' hq) hsame
  cases z with
  | none =>
    cases z' with
    | none => exact ⟨by simp [hview], hsame⟩
    | some z' => exact (Same.not_begins hsame.symm hp hs hapart).elim
  | some z =>
    cases z' with
    | none => exact (Same.not_begins hsame hq hs hapart).elim
    | some z' =>
      obtain ⟨hview', hsame⟩ := h' (hz _ rfl) (hz' _ rfl) hp hq hsame.text
      exact ⟨by simp [hview, hview'], hsame⟩

/-! ### Lists of parts -/

lemma begins_flatMap {firsts : List String} {l : List α} (hfirst : ∀ x ∈ l, ∀ p bound,
      ∃ s ∈ firsts, s ≠ "" ∧ s.toList <+: write d bound (pieces x ++ p))
    (hp : Begins d starts p) : Begins d (firsts ++ starts) (l.flatMap pieces ++ p) := by
  cases l with
  | nil => exact hp.mono (List.subset_append_right _ _)
  | cons x rest =>
    intro bound
    obtain ⟨s, hs, -, hstart⟩ := hfirst x List.mem_cons_self (rest.flatMap pieces ++ p) bound
    exact .inr ⟨s, List.mem_append_left _ hs, by simpa using hstart⟩

lemma begins_row (l : List α) (hp : Begins d starts p) :
    Begins d (s :: starts) ((l.flatMap fun x => .text s :: pieces x) ++ p) := by
  cases l with
  | nil => exact hp.mono (List.subset_cons_self _ _)
  | cons x rest => exact begins_text List.mem_cons_self

/-- Parts in a row, each of which begins in a way that what is behind the row does not. -/
lemma Reads.flatMap {firsts : List String} (h : Reads d ok pieces view (firsts ++ starts))
    (hfirst : ∀ x, ok x → ∀ p bound,
      ∃ s ∈ firsts, s ≠ "" ∧ s.toList <+: write d bound (pieces x ++ p))
    (hapart : ∀ s ∈ firsts, ∀ t ∈ starts, Apart t.toList s.toList) :
    Reads d (fun l => ∀ x ∈ l, ok x) (List.flatMap pieces) (List.map view) starts := by
  have hstop : ∀ {x : α} {p q}, ok x → Begins d starts q → ¬ Same d (pieces x ++ p) q := by
    rintro x p q hx hq ⟨bound, hsame⟩
    obtain ⟨s, hs, hne, hstart⟩ := hfirst x hx p bound
    rw [hsame] at hstart
    exact hq.excludes (by simpa using hne) (hapart s hs) bound hstart
  intro l l' p q hl hl' hp hq hsame
  induction l generalizing l' with
  | nil =>
    cases l' with
    | nil => exact ⟨rfl, hsame⟩
    | cons y rest' =>
      simp only [List.flatMap_nil, List.flatMap_cons, List.append_assoc, List.nil_append] at hsame
      exact absurd hsame.symm (hstop (hl' y List.mem_cons_self) hp)
  | cons x rest ih =>
    cases l' with
    | nil =>
      simp only [List.flatMap_nil, List.flatMap_cons, List.append_assoc, List.nil_append] at hsame
      exact absurd hsame (hstop (hl x List.mem_cons_self) hq)
    | cons y rest' =>
      rw [List.forall_mem_cons] at hl hl'
      simp only [List.flatMap_cons, List.append_assoc] at hsame
      obtain ⟨hview, hsame⟩ := h hl.1 hl'.1
        (begins_flatMap (fun z hz => hfirst z (hl.2 z hz)) hp)
        (begins_flatMap (fun z hz => hfirst z (hl'.2 z hz)) hq) hsame
      obtain ⟨hviews, hsame⟩ := ih hl.2 hl'.2 hsame
      exact ⟨by rw [List.map_cons, List.map_cons, hview, hviews], hsame⟩

/-- Parts with a text before each. -/
lemma Reads.row (h : Reads d ok pieces view (s :: starts)) (hs : s ≠ "")
    (hapart : ∀ t ∈ starts, Apart t.toList s.toList) :
    Reads d (fun l => ∀ x ∈ l, ok x) (List.flatMap fun x => .text s :: pieces x) (List.map view)
      starts := by
  have hbehind : Reads d ok (fun x => .text s :: pieces x) view ([s] ++ starts) :=
    fun _ _ _ _ hx hy hp hq hsame => h hx hy hp hq hsame.text
  refine hbehind.flatMap (fun x _ p bound => ?_) (by simpa using hapart)
  exact ⟨s, List.mem_singleton_self s, hs, List.prefix_append _ _⟩

/-- Parts with a text between each two. -/
lemma Reads.separate (h : Reads d ok pieces view (s :: starts)) (hs : s ≠ "")
    (hapart : ∀ t ∈ starts, Apart t.toList s.toList) :
    Reads d (fun l => l ≠ [] ∧ ∀ x ∈ l, ok x) (fun l => Piece.separate s (l.map pieces))
      (List.map view) starts := by
  have hrow := h.row hs hapart
  rintro (_ | ⟨x, rest⟩) (_ | ⟨y, rest'⟩) p q ⟨hne, hl⟩ ⟨hne', hl'⟩ hp hq hsame
  · exact absurd rfl hne
  · exact absurd rfl hne
  · exact absurd rfl hne'
  · rw [List.forall_mem_cons] at hl hl'
    simp only [List.map_cons, separate_cons, List.flatMap_map, List.append_assoc] at hsame
    obtain ⟨hview, hsame⟩ := h hl.1 hl'.1 (begins_row rest hp) (begins_row rest' hq) hsame
    obtain ⟨hviews, hsame⟩ := hrow hl.2 hl'.2 hp hq hsame
    exact ⟨by rw [List.map_cons, List.map_cons, hview, hviews], hsame⟩

/-- Parts behind a text, with another text between each two, if there are any. -/
lemma Reads.clause {first : String} (h : Reads d ok pieces view (s :: starts)) (hs : s ≠ "")
    (hapart : ∀ t ∈ starts, Apart t.toList s.toList) (hfirst : first ≠ "")
    (hapart' : ∀ t ∈ starts, Apart t.toList first.toList) :
    Reads d (fun l => ∀ x ∈ l, ok x) (fun l => Piece.clause first s (l.map pieces))
      (List.map view) starts := by
  have hlist := h.separate hs hapart
  rintro (_ | ⟨x, rest⟩) (_ | ⟨y, rest'⟩) p q hl hl' hp hq hsame
  · exact ⟨rfl, hsame⟩
  · exact (Same.not_begins hsame.symm hp hfirst hapart').elim
  · exact (Same.not_begins hsame hq hfirst hapart').elim
  · simp only [List.map_cons, clause_cons] at hsame
    exact hlist ⟨List.cons_ne_nil _ _, hl⟩ ⟨List.cons_ne_nil _ _, hl'⟩ hp hq hsame.text

lemma begins_clause {first next : String} {parts : List (List Piece)} (hfirst : first ∈ starts)
    (hp : Begins d starts p) : Begins d starts (Piece.clause first next parts ++ p) := by
  cases parts with
  | nil => exact hp
  | cons part rest => exact begins_text hfirst

end Reads

end Piece

end RelationQuery
