import Roster.Proofs.ClusterBoundary

/-! Columns of tokens. A column counts the clusters of the words in front of a token, each cut on
its own. Carets at the columns stand under the tokens exactly if no cluster of the source reaches
over the end of a word. -/
namespace Roster
namespace Text

theorem graphemeRule_cons (before : Text) (n : Char) (after after' : Text) :
    graphemeRule before (n :: after) = graphemeRule before (n :: after') := by
  cases before <;> rfl

theorem graphemeRule_append {u v before : Text} (hu : u ≠ []) (hv : v ≠ [])
    (hsource : ∀ c ∈ u, IsSourceChar c) (hsource' : ∀ c ∈ v, IsSourceChar c)
    (hbefore : ∀ c ∈ before, IsSourceChar c) (after : Text) :
    graphemeRule (u.reverse ++ before) (v ++ after) = graphemeRule u.reverse v := by
  obtain ⟨n, v, rfl⟩ := List.exists_cons_of_ne_nil hv
  obtain ⟨p, t, ht⟩ := List.exists_cons_of_ne_nil (List.reverse_ne_nil_iff.2 hu)
  have hn := hsource' n (by simp)
  have hback : ∀ c ∈ p :: t, IsSourceChar c := by
    intro c hc
    rw [← ht] at hc
    exact hsource c (List.mem_reverse.1 hc)
  have hfront : ∀ c ∈ p :: (t ++ before), IsSourceChar c := by
    rw [← List.cons_append, List.forall_mem_append]
    exact ⟨hback, hbefore⟩
  rw [ht, List.cons_append, List.cons_append, graphemeRule_eq hfront hn, graphemeRule_eq hback hn]

/-- Where the rule cuts behind a word, the clusters of the word are those it has on its own. -/
theorem cut_graphemes_append {u v before : Text} (hsource : ∀ c ∈ u, IsSourceChar c)
    (hbefore : ∀ c ∈ before, IsSourceChar c)
    (hrule : graphemeRule (u.reverse ++ before) v = true) :
    cut graphemeRule before (u ++ v) = graphemes u ++ cut graphemeRule (u.reverse ++ before) v := by
  have hflat : (graphemes u).flatten = u := flatten_cut _ _ _
  have hself : IsCut graphemeRule [] (graphemes u) [] := isCut_cut graphemeRule_nil [] u
  have hcut : IsCut graphemeRule before (graphemes u) v := by
    refine (isCut_congr fun x y hxy hx => ?_).1 hself
    rw [hflat] at hxy
    subst hxy
    rw [List.forall_mem_append] at hsource
    cases y with
    | nil =>
      rw [List.append_nil] at hrule
      rw [List.nil_append, List.nil_append, graphemeRule_nil, hrule]
    | cons c y =>
      rw [graphemeRule_append hx (by simp) hsource.1 hsource.2 hbefore, List.append_nil,
        List.append_nil]
  have heq := hcut.cut_eq
  rwa [hflat] at heq

/-- Where it does not, the last cluster of the word takes in some of what follows. -/
theorem exists_cut_graphemes {u v before : Text} (hu : u ≠ [])
    (hrule : graphemeRule (u.reverse ++ before) v = false) :
    ∃ front last ext tail, cut graphemeRule before u = front ++ [last] ∧
      cut graphemeRule before (u ++ v) = front ++ (last ++ ext) :: tail ∧ ext ≠ [] ∧
        ext ++ tail.flatten = v := by
  induction u generalizing before with
  | nil => exact absurd rfl hu
  | cons c u ih =>
    cases u with
    | nil =>
      have hv : v ≠ [] := by
        rintro rfl
        rw [graphemeRule_nil] at hrule
        cases hrule
      have hne : cut graphemeRule (c :: before) v ≠ [] := cut_ne_nil hv
      obtain ⟨ext, tail, hcut⟩ := List.exists_cons_of_ne_nil hne
      have hext : ext ≠ [] := cut_pieces_ne_nil graphemeRule (c :: before) v ext (by simp [hcut])
      have hflat := flatten_cut graphemeRule (c :: before) v
      rw [hcut] at hflat
      have hrule' : graphemeRule (c :: before) v = false := hrule
      refine ⟨[], [c], ext, tail, rfl, ?_, hext, hflat⟩
      rw [List.singleton_append, cut_cons hcut, hrule']
      rfl
    | cons d u =>
      have hrule' : graphemeRule ((d :: u).reverse ++ (c :: before)) v = false := by
        simpa using hrule
      obtain ⟨front, last, ext, tail, hself, hcut, hext, hflat⟩ := ih (by simp) hrule'
      have hlocal : graphemeRule (c :: before) (d :: u ++ v) =
          graphemeRule (c :: before) (d :: u) := graphemeRule_cons _ _ _ _
      rw [List.cons_append]
      cases front with
      | nil =>
        rw [cut_cons hself, cut_cons hcut, hlocal]
        cases graphemeRule (c :: before) (d :: u) with
        | true => exact ⟨[[c]], last, ext, tail, rfl, rfl, hext, hflat⟩
        | false => exact ⟨[], c :: last, ext, tail, rfl, rfl, hext, hflat⟩
      | cons piece front =>
        rw [cut_cons hself, cut_cons hcut, hlocal]
        cases graphemeRule (c :: before) (d :: u) with
        | true => exact ⟨[c] :: piece :: front, last, ext, tail, rfl, rfl, hext, hflat⟩
        | false => exact ⟨(c :: piece) :: front, last, ext, tail, rfl, rfl, hext, hflat⟩

/-- Within a cluster no control follows what is no control. -/
theorem isControl_of_unbroken {u v before after : Text} {n : Char}
    (hu : Unbroken graphemeRule before (u ++ n :: v) after)
    (hsource : ∀ c ∈ u ++ n :: v, IsSourceChar c) (hbefore : ∀ c ∈ before, IsSourceChar c)
    (hn : (GraphemeBreak.ofChar n).isControl = false) :
    ∀ c ∈ v, (GraphemeBreak.ofChar c).isControl = false := by
  induction v generalizing u n with
  | nil => simp
  | cons c v ih =>
    have hback : ∀ d ∈ n :: (u.reverse ++ before), IsSourceChar d := by
      intro d hd
      rw [List.mem_cons, List.mem_append, List.mem_reverse] at hd
      rcases hd with rfl | hd | hd
      · exact hsource d (by simp)
      · exact hsource d (by simp [hd])
      · exact hbefore d hd
    have hrule := hu (u ++ [n]) (c :: v) (by simp) (by simp) (by simp)
    have happ : (u ++ [n]).reverse ++ before = n :: (u.reverse ++ before) := by simp
    rw [happ, List.cons_append, graphemeRule_eq hback (hsource c (by simp))] at hrule
    have hc : (GraphemeBreak.ofChar c).isControl = false := by
      have hcr : GraphemeBreak.ofChar n ≠ .cr := by
        intro hcr
        rw [hcr] at hn
        cases hn
      simp only [GraphemeBreak.clings, Bool.not_eq_false', Bool.or_eq_true, Bool.and_eq_true,
        beq_iff_eq, hcr, false_and, false_or, Bool.not_eq_true', Bool.or_eq_false_iff] at hrule
      exact hrule.1.2
    have hassoc : u ++ n :: c :: v = (u ++ [n]) ++ c :: v := by simp
    rw [hassoc] at hu hsource
    exact List.forall_mem_cons.2 ⟨hc, ih hu hsource hc⟩

/-- No vowel sign begins the cluster behind one that a vowel sign goes on. -/
theorem head_ne_spacingMark {before front last ext : Text} {n m : Char} {fronts tail : List Text}
    (hcut : IsCut graphemeRule before (fronts ++ (last ++ n :: ext) :: (m :: front) :: tail) [])
    (hsource : ∀ c ∈ (fronts ++ (last ++ n :: ext) :: (m :: front) :: tail).flatten, IsSourceChar c)
    (hbefore : ∀ c ∈ before, IsSourceChar c) (hn : GraphemeBreak.ofChar n = .spacingMark) :
    GraphemeBreak.ofChar m ≠ .spacingMark := by
  intro hm
  obtain ⟨-, -, hunbroken, hrule, -⟩ := isCut_append.1 hcut
  simp only [List.flatten_append, List.flatten_cons, List.forall_mem_append] at hsource
  obtain ⟨hfronts, hcluster, hhead, -⟩ := hsource
  have hcontext : ∀ c ∈ fronts.flatten.reverse ++ before, IsSourceChar c := by
    intro c hc
    rcases List.mem_append.1 hc with hc | hc
    · exact hfronts c (List.mem_reverse.1 hc)
    · exact hbefore c hc
  have hcluster' : ∀ c ∈ last ++ n :: ext, IsSourceChar c := by
    rw [List.forall_mem_append]
    exact hcluster
  have hnone : (GraphemeBreak.ofChar n).isControl = false := by rw [hn]; rfl
  have hrest := isControl_of_unbroken hunbroken hcluster' hcontext hnone
  -- the last character of the cluster is no control
  obtain ⟨k, t, ht⟩ := List.exists_cons_of_ne_nil (l := (n :: ext).reverse) (by simp)
  have hk : k ∈ n :: ext := List.mem_reverse.1 (by simp [ht])
  have hcontrol : (GraphemeBreak.ofChar k).isControl = false := by
    rcases List.mem_cons.1 hk with rfl | hk
    · exact hnone
    · exact hrest k hk
  have hback : (last ++ n :: ext).reverse ++ (fronts.flatten.reverse ++ before) =
      k :: (t ++ last.reverse ++ (fronts.flatten.reverse ++ before)) := by
    rw [List.reverse_append, ht]
    simp
  have hsources : ∀ c ∈ k :: (t ++ last.reverse ++ (fronts.flatten.reverse ++ before)),
      IsSourceChar c := by
    rw [← hback, List.forall_mem_append]
    refine ⟨fun c hc => hcluster' c (List.mem_reverse.1 hc), hcontext⟩
  rw [hback, List.flatten_cons, List.cons_append, List.cons_append,
    graphemeRule_eq hsources (hhead m (by simp)), hm,
    GraphemeBreak.clings_spacingMark hcontrol] at hrule
  cases hrule

end Text

/-- The clusters of its line that the carets of a token stand under. -/
def Token.underlined (t : Token) : Text :=
  let marks := pointer t.value.text t.column
  ((t.line.graphemes.drop marks.1.length).take marks.2.length).flatten

theorem classify_text {s : Text} (h : (classify s).kind ≠ .whitespace) : (classify s).text = s := by
  unfold classify at h ⊢
  split
  next hb =>
    rw [if_pos hb] at h
    exact absurd rfl h
  next => split <;> [rfl; split <;> rfl]

open Text

theorem underlined_ofSegment {text line : Text} {lineNumber k : Nat}
    (h : (classify text).kind ≠ .whitespace) :
    (Token.ofSegment ⟨text, line, lineNumber, k + 1⟩).underlined =
      ((line.graphemes.drop k).take text.graphemeLength).flatten := by
  have hk : ((k + 1 : Nat) - 1 : Int).toNat = k := by omega
  simp only [Token.underlined, Token.ofSegment, pointer, List.length_replicate, classify_text h, hk]

/-- The rule cuts behind each piece. -/
def CutsBehind (rule : CutRule) : Text → List Text → Prop
  | _, [] => True
  | before, piece :: pieces =>
    rule (piece.reverse ++ before) pieces.flatten = true ∧
      CutsBehind rule (piece.reverse ++ before) pieces

theorem cut_graphemes_self {u before : Text} (hsource : ∀ c ∈ u, IsSourceChar c)
    (hbefore : ∀ c ∈ before, IsSourceChar c) : cut graphemeRule before u = graphemes u := by
  have h := cut_graphemes_append (v := []) hsource hbefore (graphemeRule_nil _)
  simpa using h

/-- Carets under a token whose last cluster goes on behind it cover more than its text. -/
theorem underlined_ne_of_extended {word line : Text} {lineNumber k : Nat} {front tail : List Text}
    {last ext : Text} (hkind : (classify word).kind ≠ .whitespace)
    (hself : graphemes word = front ++ [last])
    (hdrop : line.graphemes.drop k = front ++ (last ++ ext) :: tail) (hext : ext ≠ []) :
    (Token.ofSegment ⟨word, line, lineNumber, k + 1⟩).underlined ≠ word := by
  have hflat : (graphemes word).flatten = word := flatten_cut _ _ _
  have hlength : word.graphemeLength = (front ++ [last ++ ext]).length := by
    rw [graphemeLength, hself]
    simp
  have hsplit : front ++ (last ++ ext) :: tail = (front ++ [last ++ ext]) ++ tail := by simp
  rw [underlined_ofSegment hkind, hdrop, hsplit, hlength, List.take_left]
  intro heq
  rw [← hflat, hself] at heq
  simp [hext] at heq

/-- Carets that begin at another character do not stand under a token. -/
theorem underlined_ne_of_head {word line : Text} {lineNumber k : Nat} {n : Char}
    {tail : List Text} (hkind : (classify (n :: word)).kind ≠ .whitespace)
    (hdrop : line.graphemes.drop k = tail) (hne : ∀ piece ∈ tail, piece ≠ [])
    (hhead : ∀ m piece pieces, tail = (m :: piece) :: pieces → m ≠ n) :
    (Token.ofSegment ⟨n :: word, line, lineNumber, k + 1⟩).underlined ≠ n :: word := by
  have hword : graphemes (n :: word) ≠ [] := cut_ne_nil (by simp)
  obtain ⟨j, hj⟩ : ∃ j, graphemeLength (n :: word) = j + 1 :=
    Nat.exists_eq_succ_of_ne_zero (by simpa [graphemeLength] using hword)
  rw [underlined_ofSegment hkind, hdrop, hj]
  intro heq
  rcases tail with _ | ⟨_ | ⟨m, piece⟩, pieces⟩
  · simp at heq
  · exact hne [] (by simp) rfl
  · rw [List.take_succ_cons, List.flatten_cons, List.cons_append] at heq
    exact hhead m piece pieces rfl (List.cons.inj heq).1

/-- Behind a blank a cluster goes on with a vowel sign, and no carets begin under it. -/
theorem underlined_ne_behind_blank {line word next before : Text} {lineNumber k : Nat} {n : Char}
    {front tail : List Text} {last ext : Text} (hmark : GraphemeBreak.ofChar n = .spacingMark)
    (hn : isBlank n = false) (hself : graphemes word = front ++ [last])
    (hdrop : line.graphemes.drop k = front ++ (last ++ n :: ext) :: tail)
    (hcut : IsCut graphemeRule before (front ++ (last ++ n :: ext) :: tail) [])
    (hsource : ∀ c ∈ (front ++ (last ++ n :: ext) :: tail).flatten, IsSourceChar c)
    (hbefore : ∀ c ∈ before, IsSourceChar c) :
    (Token.ofSegment ⟨n :: next, line, lineNumber, k + word.graphemeLength + 1⟩).underlined ≠
      n :: next := by
  have hkind : (classify (n :: next)).kind ≠ .whitespace := by
    intro hblank
    rw [blanks_of_classify hblank n (by simp)] at hn
    cases hn
  have hlength : word.graphemeLength = (front ++ [last ++ n :: ext]).length := by
    rw [graphemeLength, hself]
    simp
  have hsplit : front ++ (last ++ n :: ext) :: tail = (front ++ [last ++ n :: ext]) ++ tail := by
    simp
  have htail : line.graphemes.drop (k + word.graphemeLength) = tail := by
    rw [← List.drop_drop, hdrop, hsplit, hlength, List.drop_left]
  refine underlined_ne_of_head hkind htail ?_ ?_
  · intro piece hpiece
    exact hcut.ne_nil piece (by simp [hpiece])
  · rintro m piece pieces rfl rfl
    exact head_ne_spacingMark hcut hsource hbefore hmark hmark

/-- A cluster that goes on behind a word puts carets in the wrong place: under the word itself or,
if it is blank, under the next one. -/
theorem exists_misplaced {line word before : Text} (lineNumber : Nat) {k : Nat}
    {pieces : List Text}
    (hdrop : line.graphemes.drop k = cut graphemeRule before (word ++ pieces.flatten))
    (hcut : IsCut wordRule before (word :: pieces) [])
    (hkinds : ∀ p ∈ word :: pieces, (classify p).kind ≠ .unknown)
    (hbefore : ∀ c ∈ before, IsSourceChar c)
    (hrule : graphemeRule (word.reverse ++ before) pieces.flatten = false) :
    ∃ s ∈ Segment.place line lineNumber (k + 1) (word :: pieces),
      (classify s.text).kind ≠ .whitespace ∧ (Token.ofSegment s).underlined ≠ s.text := by
  obtain ⟨hne, -, hcuts, hpieces⟩ := hcut
  rw [List.forall_mem_cons] at hkinds
  have hsource := isSourceChar_of_classify hkinds.1
  have hself := cut_graphemes_self hsource hbefore
  obtain ⟨front, last, ext, tail, hword, hextended, hext, hflat⟩ := exists_cut_graphemes hne hrule
  have hwhole := isCut_cut graphemeRule_nil before (word ++ pieces.flatten)
  have hflatten := flatten_cut graphemeRule before (word ++ pieces.flatten)
  rw [hself] at hword
  rw [hextended] at hdrop hwhole hflatten
  by_cases hkind : (classify word).kind = .whitespace
  · cases pieces with
    | nil =>
      rw [List.flatten_nil, graphemeRule_nil] at hrule
      cases hrule
    | cons next pieces =>
      obtain ⟨n, next, rfl⟩ := List.exists_cons_of_ne_nil hpieces.1
      have hchars : ∀ c ∈ word ++ ((n :: next) :: pieces).flatten, IsSourceChar c := by
        rw [List.forall_mem_append]
        refine ⟨hsource, fun c hc => ?_⟩
        obtain ⟨piece, hpiece, hc⟩ := List.mem_flatten.1 hc
        exact isSourceChar_of_classify (hkinds.2 piece hpiece) c hc
      rw [List.append_nil] at hcuts
      rw [List.flatten_cons, List.cons_append] at hrule hcuts hflat
      obtain ⟨p, hp, hstraddles⟩ :=
        (graphemeRule_eq_false_iff hne hsource hbefore (hchars n (by simp)) hcuts).1 hrule
      obtain ⟨hmark, hn⟩ :=
        hstraddles.of_isBlank (blanks_of_classify hkind p (List.mem_of_mem_getLast? hp))
      obtain ⟨d, ext, rfl⟩ := List.exists_cons_of_ne_nil hext
      obtain ⟨rfl, -⟩ := List.cons.inj hflat
      rw [← hflatten] at hchars
      have hcolumn : k + 1 + word.graphemeLength = k + word.graphemeLength + 1 := by omega
      refine ⟨⟨d :: next, line, lineNumber, k + word.graphemeLength + 1⟩, ?_, ?_, ?_⟩
      · simp [Segment.place, hcolumn]
      · intro hblank
        rw [blanks_of_classify hblank d (by simp)] at hn
        cases hn
      · exact underlined_ne_behind_blank hmark hn hword hdrop hwhole hchars hbefore
  · exact ⟨_, List.mem_cons_self, hkind, underlined_ne_of_extended hkind hword hdrop hext⟩

/-- The words of a line from a place on have their carets exactly if the cluster rule cuts behind
each of them. -/
theorem forall_place_iff {line before : Text} (lineNumber : Nat) {k : Nat} {pieces : List Text}
    (hdrop : line.graphemes.drop k = cut graphemeRule before pieces.flatten)
    (hcut : IsCut wordRule before pieces []) (hkinds : ∀ p ∈ pieces, (classify p).kind ≠ .unknown)
    (hbefore : ∀ c ∈ before, IsSourceChar c) :
    (∀ s ∈ Segment.place line lineNumber (k + 1) pieces, (classify s.text).kind ≠ .whitespace →
      (Token.ofSegment s).underlined = s.text) ↔ CutsBehind graphemeRule before pieces := by
  induction pieces generalizing before k with
  | nil => simp [Segment.place, CutsBehind]
  | cons word pieces ih =>
    obtain ⟨hne, hunbroken, hword, hpieces⟩ := hcut
    rw [List.forall_mem_cons] at hkinds
    have hsource := isSourceChar_of_classify hkinds.1
    have hbefore' : ∀ c ∈ word.reverse ++ before, IsSourceChar c := by
      intro c hc
      rcases List.mem_append.1 hc with hc | hc
      · exact hsource c (List.mem_reverse.1 hc)
      · exact hbefore c hc
    have hself := cut_graphemes_self hsource hbefore
    rw [List.flatten_cons] at hdrop
    rw [Segment.place, List.forall_mem_cons, CutsBehind]
    cases hrule : graphemeRule (word.reverse ++ before) pieces.flatten with
    | true =>
      rw [cut_graphemes_append hsource hbefore hrule] at hdrop
      have hflat : (graphemes word).flatten = word := flatten_cut _ _ _
      have hunder : (classify word).kind ≠ .whitespace →
          (Token.ofSegment ⟨word, line, lineNumber, k + 1⟩).underlined = word := by
        intro hkind
        rw [underlined_ofSegment hkind, hdrop, graphemeLength, List.take_left, hflat]
      have hnext : line.graphemes.drop (k + word.graphemeLength) =
          cut graphemeRule (word.reverse ++ before) pieces.flatten := by
        rw [← List.drop_drop, hdrop, graphemeLength, List.drop_left]
      have hcolumn : k + 1 + word.graphemeLength = k + word.graphemeLength + 1 := by omega
      rw [hcolumn, ih hnext hpieces hkinds.2 hbefore']
      exact ⟨fun h => ⟨rfl, h.2⟩, fun h => ⟨hunder, h.2⟩⟩
    | false =>
      obtain ⟨s, hs, hkind, hmisplaced⟩ := exists_misplaced lineNumber hdrop
        ⟨hne, hunbroken, hword, hpieces⟩ (List.forall_mem_cons.2 hkinds) hbefore hrule
      constructor
      · intro h
        rw [Segment.place, List.mem_cons] at hs
        rcases hs with rfl | hs
        · exact absurd (h.1 hkind) hmisplaced
        · exact absurd (h.2 s hs hkind) hmisplaced
      · intro h
        cases h.1

theorem cutsBehind_iff_isChain {pieces : List Text} {before : Text}
    (hcut : IsCut wordRule before pieces []) (hkinds : ∀ p ∈ pieces, (classify p).kind ≠ .unknown)
    (hbefore : ∀ c ∈ before, IsSourceChar c) :
    CutsBehind graphemeRule before pieces ↔
      pieces.flatten.IsChain fun p n => ¬Straddles p n := by
  induction pieces generalizing before with
  | nil => simp [CutsBehind]
  | cons word pieces ih =>
    obtain ⟨hne, hunbroken, hword, hpieces⟩ := hcut
    have hsource : ∀ p ∈ word :: pieces, ∀ c ∈ p, IsSourceChar c := fun p hp =>
      isSourceChar_of_classify (hkinds p hp)
    rw [List.forall_mem_cons] at hkinds hsource
    have hbefore' : ∀ c ∈ word.reverse ++ before, IsSourceChar c := by
      rw [List.forall_mem_append]
      exact ⟨fun c hc => hsource.1 c (List.mem_reverse.1 hc), hbefore⟩
    have hrule : graphemeRule (word.reverse ++ before) pieces.flatten = true ↔
        ∀ p ∈ word.getLast?, ∀ n ∈ pieces.flatten.head?, ¬Straddles p n := by
      cases hflat : pieces.flatten with
      | nil => simp [graphemeRule_nil]
      | cons n after =>
        rw [List.append_nil, hflat] at hword
        obtain ⟨piece, hpiece, hn⟩ := List.mem_flatten.1 (hflat ▸ List.mem_cons_self : n ∈ _)
        have hiff := graphemeRule_eq_false_iff hne hsource.1 hbefore
          (hsource.2 piece hpiece n hn) hword
        rw [← Bool.not_eq_false, hiff]
        simp
    have hchain := isChain_of_unbroken hkinds.1 hunbroken
    rw [CutsBehind, List.flatten_cons, List.isChain_append, ih hpieces hkinds.2 hbefore', hrule]
    exact ⟨fun h => ⟨hchain, h.2, h.1⟩, fun h => ⟨h.2.2, h.2.1⟩⟩

/-- Every line but the last ends in a line feed. -/
theorem isChain_of_isCut_lines {R : Char → Char → Prop} (hR : ∀ c, R '\n' c) {ls : List Text}
    {before : Text} (h : IsCut lineRule.orEnd before ls []) :
    ls.IsChain fun l l' => ∀ p ∈ l.getLast?, ∀ n ∈ l'.head?, R p n := by
  induction ls generalizing before with
  | nil => exact .nil
  | cons l ls ih =>
    obtain ⟨hl, -, hrule, hls⟩ := h
    cases ls with
    | nil => exact .singleton l
    | cons l' ls =>
      refine List.isChain_cons_cons.2 ⟨fun p hp n _ => ?_, ih hls⟩
      obtain ⟨w, rfl⟩ := List.getLast?_eq_some_iff.1 hp
      have hlast : p = '\n' := by
        simpa [CutRule.orEnd, lineRule, hls.1] using hrule
      rw [hlast]
      exact hR n

theorem isChain_iff_lines {R : Char → Char → Prop} (hR : ∀ c, R '\n' c) (s : Text) :
    s.IsChain R ↔ ∀ line ∈ s.lines, line.IsChain R := by
  have hflat : s.lines.flatten = s := flatten_cut _ _ _
  have hcut := isCut_lines s
  have hne : [] ∉ s.lines := fun h => cut_pieces_ne_nil lineRule [] s [] h rfl
  have h := List.isChain_flatten (R := R) hne
  rw [hflat] at h
  rw [h, and_iff_left (isChain_of_isCut_lines hR hcut)]

theorem not_straddles_lineFeed (c : Char) : ¬Straddles '\n' c := by
  intro h
  have hblank : isBlank '\n' = true := by decide
  have hline := GraphemeBreak.isLineEnd_of_suits (GraphemeBreak.ofChar_of_isBlank hblank).2 h.before
  rw [WordBreak.ofChar_newline] at hline
  cases hline

theorem forall_ofLines_iff {ls : List Text} (lineNumber : Nat)
    (hkinds : ∀ line ∈ ls, ∀ w ∈ line.words, (classify w).kind ≠ .unknown) :
    (∀ s ∈ Segment.ofLines lineNumber ls, (classify s.text).kind ≠ .whitespace →
      (Token.ofSegment s).underlined = s.text) ↔
      ∀ line ∈ ls, line.IsChain fun p n => ¬Straddles p n := by
  induction ls generalizing lineNumber with
  | nil => simp [Segment.ofLines]
  | cons line ls ih =>
    rw [List.forall_mem_cons] at hkinds
    have hcut : IsCut wordRule [] line.words [] := isCut_cut wordRule_nil [] line
    have hnone : ∀ c ∈ ([] : Text), IsSourceChar c := by simp
    have hdrop : line.graphemes.drop 0 = cut graphemeRule [] line.words.flatten := by
      rw [flatten_words]
      rfl
    have hline := (forall_place_iff lineNumber hdrop hcut hkinds.1 hnone).trans
      (cutsBehind_iff_isChain hcut hkinds.1 hnone)
    rw [flatten_words] at hline
    rw [Segment.ofLines, List.forall_mem_append, List.forall_mem_cons, ih _ hkinds.2]
    exact and_congr hline Iff.rfl

/-- The carets of all tokens stand under their texts exactly if no cluster of the source straddles
two words. -/
theorem underlined_iff_isChain {source : Text} {ts : List Token} (h : tokenize source = .ok ts) :
    (∀ t ∈ ts, t.value.kind ≠ .whitespace → t.underlined = t.value.text) ↔
      (source.trim isBlank).IsChain fun p n => ¬Straddles p n := by
  obtain ⟨rfl, hkinds⟩ := tokenize_eq_ok_iff.1 h
  rw [sourceValues, ← flatMap_words_lines, List.forall_mem_map] at hkinds
  have hlines : ∀ line ∈ (source.trim isBlank).lines, ∀ w ∈ line.words,
      (classify w).kind ≠ .unknown := by
    intro line hline w hw
    exact hkinds w (List.mem_flatMap.2 ⟨line, hline, hw⟩)
  rw [isChain_iff_lines not_straddles_lineFeed, ← forall_ofLines_iff 1 hlines, List.forall_mem_map]
  constructor
  · intro hall s hs hkind
    have htext := hall s hs hkind
    rwa [Token.ofSegment, classify_text hkind] at htext
  · intro hall s hs hkind
    have htext := hall s hs hkind
    rwa [← classify_text hkind] at htext

/-- One syllable of three letters in front of the full stop. -/
def syllableTokens : List Token :=
  let line := "Show \u1112\u1161\u11AB.".toList
  [⟨.word "Show".toList, line, 1, 1⟩, ⟨.blank, line, 1, 5⟩,
    ⟨.word "\u1112\u1161\u11AB".toList, line, 1, 6⟩, ⟨.punctuation ['.'], line, 1, 7⟩]

theorem underlined_syllable :
    tokenize "Show \u1112\u1161\u11AB.".toList = .ok syllableTokens ∧
      ∀ t ∈ syllableTokens, t.value.kind ≠ .whitespace → t.underlined = t.value.text := by
  have htokens : tokenize "Show \u1112\u1161\u11AB.".toList = .ok syllableTokens :=
    tokenize_eq_ok_iff.2 ⟨by decide +kernel, by decide +kernel⟩
  exact ⟨htokens, (underlined_iff_isChain htokens).2 (by decide +kernel)⟩

/-- A consonant and the vowel sign behind it, two words but one cluster. -/
def vowelSignTokens : List Token :=
  let line := "\u0E01\u0E33.".toList
  [⟨.word ['\u0E01'], line, 1, 1⟩, ⟨.word ['\u0E33'], line, 1, 2⟩, ⟨.punctuation ['.'], line, 1, 3⟩]

theorem underlined_vowelSign :
    tokenize "\u0E01\u0E33.".toList = .ok vowelSignTokens ∧
      ∃ t ∈ vowelSignTokens, t.value.kind ≠ .whitespace ∧ t.underlined ≠ t.value.text :=
  ⟨tokenize_eq_ok_iff.2 ⟨by decide +kernel, by decide +kernel⟩, by decide +kernel⟩

end Roster
