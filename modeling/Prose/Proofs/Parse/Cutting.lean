import Prose.Proofs.Parse.Sentence

/-!
# Where a sentence is cut

A cutting of a text takes runs of blanks out of it and leaves the pieces between them. It is exact
(`Cutting.IsExact`) when the runs are all those that stand before the start of a lexeme, each from
its first blank on. A text has one exact cutting, and the lexemes of a sentence are the pieces of
it, but for a first piece that is empty (`existsUnique_cutting_and_splitLexemes`).
-/

namespace Prose.Parse

open Text

/-- A text with runs taken out: the piece in front of the first run, and each run with the piece
behind it. -/
structure Cutting where
  first : Text
  cuts : List (Text × Text)

namespace Cutting

/-- The runs and the pieces behind them. -/
def rest (cuts : List (Text × Text)) : Text :=
  cuts.flatMap fun cut => cut.1 ++ cut.2

/-- The pieces with the runs back between them. -/
def text (c : Cutting) : Text :=
  c.first ++ rest c.cuts

def pieces (c : Cutting) : List Text :=
  c.first :: c.cuts.map (·.2)

/-- The pieces, but for a first one that is empty. -/
def kept (c : Cutting) : List Text :=
  if c.first = [] then c.cuts.map (·.2) else c.pieces

/-- The runs are runs of blanks in front of the start of a lexeme, and they are all there are: no
piece holds a blank in front of such a start, and no piece in front of a run ends in a blank. -/
structure IsExact (c : Cutting) : Prop where
  runs : ∀ cut ∈ c.cuts, cut.1 ≠ [] ∧ ∀ b ∈ cut.1, isBlank b
  starts : ∀ cut ∈ c.cuts, ∃ d ∈ cut.2.head?, startsLexeme d
  inside : ∀ piece ∈ c.pieces, piece.IsChain fun b d => isBlank b → startsLexeme d = false
  ends : ∀ piece ∈ c.pieces.dropLast, ∀ d ∈ piece.getLast?, isBlank d = false

/-- Does the text start with a run of blanks in front of the start of a lexeme? -/
def AtCut (t : Text) : Prop :=
  (∃ b ∈ t.head?, isBlank b) ∧ ∃ d ∈ (t.dropWhile isBlank).head?, startsLexeme d

theorem atCut_cons {c : Char} {t : Text} :
    AtCut (c :: t) ↔ isBlank c ∧ ∃ d ∈ (t.dropWhile isBlank).head?, startsLexeme d := by
  cases hc : isBlank c <;> simp [AtCut, hc]

section

variable {first : Text} {run piece : Text} {cuts : List (Text × Text)} {c : Char}

theorem pieces_dropLast_cons :
    (pieces ⟨first, (run, piece) :: cuts⟩).dropLast = first :: (pieces ⟨piece, cuts⟩).dropLast :=
  rfl

theorem text_cons : text ⟨c :: first, cuts⟩ = c :: text ⟨first, cuts⟩ :=
  rfl

theorem rest_cons : Cutting.rest ((run, piece) :: cuts) = run ++ text ⟨piece, cuts⟩ := by
  rw [Cutting.rest, List.flatMap_cons, List.append_assoc]
  rfl

theorem IsExact.tail (h : IsExact ⟨c :: first, cuts⟩) : IsExact ⟨first, cuts⟩ where
  runs := h.runs
  starts := h.starts
  inside := by
    have hInside := List.forall_mem_cons.1 h.inside
    exact List.forall_mem_cons.2 ⟨hInside.1.tail, hInside.2⟩
  ends := by
    have hEnds := h.ends
    cases cuts with
    | nil => exact List.forall_mem_nil _
    | cons cut cuts =>
      rw [pieces_dropLast_cons, List.forall_mem_cons] at hEnds ⊢
      refine ⟨fun d hd => hEnds.1 d ?_, hEnds.2⟩
      rw [List.getLast?_cons, Option.mem_def.1 hd]
      rfl

theorem IsExact.behind (h : IsExact ⟨first, (run, piece) :: cuts⟩) : IsExact ⟨piece, cuts⟩ where
  runs := (List.forall_mem_cons.1 h.runs).2
  starts := (List.forall_mem_cons.1 h.starts).2
  inside := (List.forall_mem_cons.1 h.inside).2
  ends := by
    have hEnds := h.ends
    rw [pieces_dropLast_cons] at hEnds
    exact (List.forall_mem_cons.1 hEnds).2

/-- What stands behind a run is no blank. -/
theorem IsExact.isBlank_head? (h : IsExact ⟨first, (run, piece) :: cuts⟩) :
    ∀ d ∈ (text ⟨piece, cuts⟩).head?, isBlank d = false := by
  obtain ⟨d, hd, hStarts⟩ := (List.forall_mem_cons.1 h.starts).1
  obtain ⟨rest, rfl⟩ := List.head?_eq_some_iff.1 hd
  intro e he
  obtain rfl : d = e := Option.some.inj he
  exact isBlank_eq_false_of_startsLexeme hStarts

theorem IsExact.takeWhile_rest (h : IsExact ⟨first, (run, piece) :: cuts⟩) :
    (Cutting.rest ((run, piece) :: cuts)).takeWhile isBlank = run ∧
      (Cutting.rest ((run, piece) :: cuts)).dropWhile isBlank = text ⟨piece, cuts⟩ := by
  have hRun := (List.forall_mem_cons.1 h.runs).1.2
  rw [rest_cons]
  exact ⟨takeWhile_append_of_head? hRun h.isBlank_head?,
    dropWhile_append_of_head? hRun h.isBlank_head?⟩

/-- Behind the first piece stands a run, if anything. -/
theorem IsExact.atCut_rest (h : IsExact ⟨first, (run, piece) :: cuts⟩) :
    AtCut (Cutting.rest ((run, piece) :: cuts)) := by
  obtain ⟨hNe, hBlank⟩ := (List.forall_mem_cons.1 h.runs).1
  obtain ⟨b, rest, rfl⟩ := List.exists_cons_of_ne_nil hNe
  obtain ⟨d, hd, hStarts⟩ := (List.forall_mem_cons.1 h.starts).1
  refine ⟨⟨b, rfl, hBlank b List.mem_cons_self⟩, d, ?_, hStarts⟩
  obtain ⟨rest, rfl⟩ := List.head?_eq_some_iff.1 hd
  rw [h.takeWhile_rest.2]
  rfl

/-- No run stands inside the first piece, nor does one start there. -/
theorem IsExact.not_atCut (h : IsExact ⟨c :: first, cuts⟩) : ¬ AtCut (text ⟨c :: first, cuts⟩) := by
  induction first generalizing c with
  | nil =>
    rw [text_cons, atCut_cons]
    rintro ⟨hBlank, d, hd, -⟩
    cases cuts with
    | nil => cases hd
    | cons cut cuts =>
      have hEnds := h.ends
      rw [pieces_dropLast_cons] at hEnds
      rw [(List.forall_mem_cons.1 hEnds).1 c rfl] at hBlank
      cases hBlank
  | cons e first ih =>
    rw [text_cons, atCut_cons]
    rintro ⟨hBlank, d, hd, hStarts⟩
    by_cases hNext : isBlank e
    · exact ih h.tail ⟨⟨e, rfl, hNext⟩, d, hd, hStarts⟩
    · rw [text_cons, List.dropWhile_cons_of_neg hNext] at hd
      obtain rfl : e = d := Option.some.inj hd
      have hChain := (List.forall_mem_cons.1 h.inside).1
      rw [(List.isChain_cons_cons.1 hChain).1 hBlank] at hStarts
      cases hStarts

/-- A text that starts with a lexeme does not start with a run. -/
theorem IsExact.head?_first (h : IsExact ⟨first, cuts⟩)
    (hStarts : ∃ d ∈ (text ⟨first, cuts⟩).head?, startsLexeme d) :
    ∃ d ∈ first.head?, startsLexeme d := by
  obtain ⟨d, hd, hStarts⟩ := hStarts
  cases first with
  | nil =>
    cases cuts with
    | nil => cases hd
    | cons cut cuts =>
      obtain ⟨⟨b, hb, hBlank⟩, -⟩ := h.atCut_rest
      obtain rfl : d = b := Option.some.inj (hd.symm.trans hb)
      rw [isBlank_eq_false_of_startsLexeme hStarts] at hBlank
      cases hBlank
  | cons e first =>
    obtain rfl : e = d := Option.some.inj hd
    exact ⟨e, rfl, hStarts⟩

/-- A run in front of the start of a lexeme is taken out. -/
theorem IsExact.cut (h : IsExact ⟨first, cuts⟩) (hRun : run ≠ [] ∧ ∀ b ∈ run, isBlank b)
    (hStarts : ∃ d ∈ (text ⟨first, cuts⟩).head?, startsLexeme d) :
    IsExact ⟨[], (run, first) :: cuts⟩ where
  runs := List.forall_mem_cons.2 ⟨hRun, h.runs⟩
  starts := List.forall_mem_cons.2 ⟨h.head?_first hStarts, h.starts⟩
  inside := List.forall_mem_cons.2 ⟨.nil, h.inside⟩
  ends := by
    rw [pieces_dropLast_cons]
    exact List.forall_mem_cons.2 ⟨by simp, h.ends⟩

/-- Any other character is kept. -/
theorem IsExact.keep (h : IsExact ⟨first, cuts⟩) (hNot : ¬ AtCut (c :: text ⟨first, cuts⟩)) :
    IsExact ⟨c :: first, cuts⟩ where
  runs := h.runs
  starts := h.starts
  inside := by
    have hInside := List.forall_mem_cons.1 h.inside
    refine List.forall_mem_cons.2 ⟨List.isChain_cons.2 ⟨fun d hd hc => ?_, hInside.1⟩, hInside.2⟩
    obtain ⟨first, rfl⟩ := List.head?_eq_some_iff.1 hd
    by_contra hStarts
    rw [Bool.not_eq_false] at hStarts
    refine hNot (atCut_cons.2 ⟨hc, d, ?_, hStarts⟩)
    rw [text_cons, List.dropWhile_cons_of_neg (by simp [isBlank_eq_false_of_startsLexeme hStarts])]
    rfl
  ends := by
    cases cuts with
    | nil => exact List.forall_mem_nil _
    | cons cut cuts =>
      have hEnds := h.ends
      rw [pieces_dropLast_cons, List.forall_mem_cons] at hEnds ⊢
      refine ⟨fun d hd => ?_, hEnds.2⟩
      cases first with
      | nil =>
        obtain rfl : c = d := Option.some.inj hd
        by_contra hBlank
        rw [Bool.not_eq_false] at hBlank
        exact hNot (atCut_cons.2 ⟨hBlank, h.atCut_rest.2⟩)
      | cons e first =>
        rw [List.getLast?_cons_cons] at hd
        exact hEnds.1 d hd

end

/-! ### One exact cutting -/

theorem IsExact.text_eq_nil_or_atCut {cuts : List (Text × Text)} (h : IsExact ⟨[], cuts⟩) :
    cuts = [] ∨ AtCut (text ⟨[], cuts⟩) := by
  cases cuts with
  | nil => exact .inl rfl
  | cons cut cuts => exact .inr h.atCut_rest

theorem IsExact.first_eq {first first' : Text} {cuts cuts' : List (Text × Text)}
    (h : IsExact ⟨first, cuts⟩) (h' : IsExact ⟨first', cuts'⟩)
    (hText : text ⟨first, cuts⟩ = text ⟨first', cuts'⟩) : first = first' := by
  induction first generalizing first' with
  | nil =>
    cases first' with
    | nil => rfl
    | cons c first' =>
      rcases h.text_eq_nil_or_atCut with rfl | hCut
      · cases hText
      · exact absurd (hText ▸ hCut) h'.not_atCut
  | cons c first ih =>
    cases first' with
    | nil =>
      rcases h'.text_eq_nil_or_atCut with rfl | hCut
      · cases hText
      · exact absurd (hText ▸ hCut) h.not_atCut
    | cons c' first' =>
      obtain ⟨hHead, hTail⟩ := List.cons.inj hText
      rw [hHead, ih h.tail h'.tail hTail]

theorem IsExact.unique {first first' : Text} {cuts cuts' : List (Text × Text)}
    (h : IsExact ⟨first, cuts⟩) (h' : IsExact ⟨first', cuts'⟩)
    (hText : text ⟨first, cuts⟩ = text ⟨first', cuts'⟩) :
    (⟨first, cuts⟩ : Cutting) = ⟨first', cuts'⟩ := by
  induction cuts generalizing first first' cuts' with
  | nil =>
    obtain rfl := h.first_eq h' hText
    have hBehind : Cutting.rest [] = Cutting.rest cuts' := List.append_cancel_left hText
    cases cuts' with
    | nil => rfl
    | cons cut cuts' =>
      obtain ⟨⟨b, hb, -⟩, -⟩ := h'.atCut_rest
      rw [← hBehind] at hb
      cases hb
  | cons cut cuts ih =>
    obtain rfl := h.first_eq h' hText
    have hBehind : Cutting.rest (cut :: cuts) = Cutting.rest cuts' :=
      List.append_cancel_left hText
    cases cuts' with
    | nil =>
      obtain ⟨⟨b, hb, -⟩, -⟩ := h.atCut_rest
      rw [hBehind] at hb
      cases hb
    | cons cut' cuts' =>
      obtain ⟨hRun, hRest⟩ := h.takeWhile_rest
      obtain ⟨hRun', hRest'⟩ := h'.takeWhile_rest
      rw [hBehind, hRun'] at hRun
      rw [hBehind, hRest'] at hRest
      obtain ⟨hPiece, hCuts⟩ := Cutting.mk.inj (ih h.behind h'.behind hRest.symm)
      have hCut : cut = cut' := Prod.ext hRun.symm hPiece
      rw [hCut, hCuts]

theorem IsExact.filter_pieces {c : Cutting} (h : c.IsExact) :
    c.pieces.filter (!·.isEmpty) = c.kept := by
  have hCuts : ∀ piece ∈ c.cuts.map (·.2), piece ≠ [] := by
    intro piece hPiece
    obtain ⟨cut, hCut, rfl⟩ := List.mem_map.1 hPiece
    obtain ⟨d, hd, -⟩ := h.starts cut hCut
    rintro hNil
    rw [hNil] at hd
    cases hd
  have hFilter : (c.cuts.map (·.2)).filter (!·.isEmpty) = c.cuts.map (·.2) :=
    List.filter_eq_self.2 fun piece hPiece => by simp [hCuts piece hPiece]
  rw [kept, pieces, List.filter_cons, hFilter]
  by_cases hFirst : c.first = [] <;> simp [hFirst]

end Cutting

/-! ### The pieces of a sentence -/

open Cutting

/-- The pieces of a sentence are those of an exact cutting. -/
theorem exists_isExact (t : Text) :
    ∃ c : Cutting, c.text = t ∧ c.IsExact ∧ lexemePieces t = c.pieces := by
  fun_induction lexemePieces t with
  | case1 => exact ⟨⟨[], []⟩, rfl, ⟨by simp, by simp, by simp [pieces], by simp [pieces]⟩, rfl⟩
  | case2 c rest hCut ih =>
    obtain ⟨⟨first, cuts⟩, hText, hExact, hPieces⟩ := ih
    obtain ⟨hBlank, hStarts⟩ := Bool.and_eq_true_iff.1 hCut
    rw [Option.any_eq_true, ← hText] at hStarts
    have hRun : ∀ d ∈ c :: rest.takeWhile isBlank, isBlank d :=
      List.forall_mem_cons.2 ⟨hBlank, fun d hd => List.mem_takeWhile_imp hd⟩
    refine ⟨⟨[], (c :: rest.takeWhile isBlank, first) :: cuts⟩, ?_,
      hExact.cut ⟨List.cons_ne_nil _ _, hRun⟩ hStarts, congrArg _ hPieces⟩
    rw [text, rest_cons, hText, List.nil_append, List.cons_append, List.takeWhile_append_dropWhile]
  | case3 c rest hKeep ih =>
    obtain ⟨⟨first, cuts⟩, rfl, hExact, hPieces⟩ := ih
    rw [Bool.and_eq_true, Option.any_eq_true] at hKeep
    have hNot : ¬ AtCut (c :: text ⟨first, cuts⟩) := mt atCut_cons.1 hKeep
    exact ⟨⟨c :: first, cuts⟩, rfl, hExact.keep hNot, by rw [hPieces]; rfl⟩

/-- A text has exactly one exact cutting. Its pieces, but for a first one that is empty, are the
lexemes of the text, and none of these is empty. -/
theorem existsUnique_cutting_and_splitLexemes (t : Text) :
    (∃! c : Cutting, c.text = t ∧ c.IsExact) ∧
      (∀ c : Cutting, c.text = t → c.IsExact → splitLexemes t = c.kept) ∧
      ∀ piece ∈ splitLexemes t, piece ≠ [] := by
  obtain ⟨c, hText, hExact, hPieces⟩ := exists_isExact t
  have hUnique : ∀ c' : Cutting, c'.text = t ∧ c'.IsExact → c' = c :=
    fun c' h => h.2.unique hExact (h.1.trans hText.symm)
  refine ⟨⟨c, ⟨hText, hExact⟩, hUnique⟩, fun c' hText' hExact' => ?_, fun piece hPiece => ?_⟩
  · rw [hUnique c' ⟨hText', hExact'⟩, splitLexemes, hPieces, hExact.filter_pieces]
  · simpa using (List.mem_filter.1 hPiece).2

/-- The first piece is empty, a comma keeps the blank before it, and the line break at the end stays
where it is. -/
theorem splitLexemes_of_blanks_at_ends :
    let c : Cutting := ⟨[], [(['\t', ' '], ['a', ' ', ',', 'b']), ([' '], ['-', 'c', '\n'])]⟩
    c.text = "\t a ,b -c\n".toList ∧ c.IsExact ∧
      splitLexemes "\t a ,b -c\n".toList = ["a ,b".toList, "-c\n".toList] := by
  intro c
  have hText : c.text = "\t a ,b -c\n".toList := by cbv
  have hExact : c.IsExact := {
    runs := by simp [c, isBlank]
    starts := by simp [c, startsLexeme, isWordChar]
    inside := by simp [c, pieces, isBlank, startsLexeme, isWordChar]
    ends := by simp [c, pieces, isBlank] }
  refine ⟨hText, hExact, ?_⟩
  rw [(existsUnique_cutting_and_splitLexemes _).2.1 c hText hExact]
  cbv

end Prose.Parse
