import Roster.Proofs.Respacing

/-! Sources one after another. Two sources that give operations, joined by a line feed, give the
operations of both: what stands around the line feed is one run of blanks, and the statements on
its two sides are cut as they are alone. -/
namespace Roster
open Grammar Text Vocabulary WordBreak

namespace Grammar

theorem Program.append {vs vs' : List TokenValue} {ops ops' : List Operation} (h : Program vs ops)
    (h' : Program vs' ops') : Program (vs ++ vs') (ops ++ ops') := by
  induction h with
  | blank hgap => exact h'.of_gap hgap
  | sentence hgap hs _ ih =>
    rw [List.append_assoc, List.append_assoc]
    exact .sentence hgap hs ih

theorem Program.eq_nil {ops : List Operation} (h : Program [] ops) : ops = [] := by
  generalize hvs : ([] : List TokenValue) = vs at h
  cases h with
  | blank => rfl
  | sentence hgap hs _ =>
    obtain ⟨k, init, m, rfl, -⟩ := hs.terminated
    simp at hvs

theorem Program.gap_of_nil {vs : List TokenValue} (h : Program vs []) : Gap vs := by
  cases h with
  | blank hgap => exact hgap

/-- What begins with no whitespace begins with a keyword. -/
theorem Program.head {v : TokenValue} {vs : List TokenValue} {ops : List Operation}
    (h : Program (v :: vs) ops) (hv : v.kind ≠ .whitespace) : ∃ k : Keyword, v = k.value := by
  generalize hvs : v :: vs = us at h
  cases h with
  | blank hgap =>
    subst hvs
    exact absurd (gap_cons.1 hgap).1 hv
  | @sentence gap ws rest _ _ hgap hs _ =>
    obtain ⟨k, init, m, rfl, -⟩ := hs.terminated
    cases gap with
    | nil =>
      refine ⟨k, ?_⟩
      simpa using (List.cons.inj hvs).1
    | cons w gap =>
      obtain rfl := (List.cons.inj hvs).1
      exact absurd (gap_cons.1 hgap).1 hv

end Grammar

/-- Words without blanks at their ends, over a run of blanks without the narrow space between them,
when no attached mark begins the second text. -/
theorem words_append_run {u r v : Text} (hu : ∀ c ∈ u.getLast?, IsInk c) (hr : IsRun r)
    (hnarrow : '\u202F' ∉ r) (hv : ∀ c ∈ v.head?, IsInk c ∧ ofChar c ≠ .extend) :
    ∃ gap, Gap gap ∧ (words (u ++ (r ++ v))).map classify =
      (words u).map classify ++ (gap ++ (words v).map classify) := by
  have hlone : ∀ c ∈ r, (ofChar c).isLone = true := by
    intro c hc
    rcases ofChar_of_isBlank (hr.blank c hc) with ⟨h, -⟩ | ⟨-, rfl⟩
    · exact h
    · exact absurd hc hnarrow
  have hbehind : LoneHead (r ++ v) := by
    obtain ⟨c, r, rfl⟩ := List.exists_cons_of_ne_nil hr.ne_nil
    simpa [LoneHead] using hlone c (by simp)
  have hfront : LoneHead (r.reverse ++ u.reverse) := by
    obtain ⟨init, c, rfl⟩ := (List.eq_nil_or_concat r).resolve_left hr.ne_nil
    simpa [LoneHead] using hlone c (by simp)
  have hcutu : u ≠ [] → wordRule u.reverse (r ++ v) = true := by
    intro hne
    obtain ⟨init, p, rfl⟩ := (List.eq_nil_or_concat u).resolve_left hne
    obtain ⟨n, r, rfl⟩ := List.exists_cons_of_ne_nil hr.ne_nil
    rw [List.concat_eq_append, List.reverse_append, List.reverse_singleton, List.singleton_append,
      List.cons_append, wordRule_before_blank (hu p (by simp)) (hr.blank n (by simp))]
    rintro rfl
    exact absurd (by simp) hnarrow
  have hcutr : wordRule (r.reverse ++ u.reverse) v = true := by
    obtain ⟨init, p, rfl⟩ := (List.eq_nil_or_concat r).resolve_left hr.ne_nil
    cases v with
    | nil => exact wordRule_nil _
    | cons n v =>
      obtain ⟨hn, hext⟩ := hv n rfl
      rw [List.concat_eq_append, List.reverse_append, List.reverse_singleton, List.singleton_append,
        List.cons_append, wordRule_behind_blank (hr.blank p (by simp)) hn]
      refine ⟨fun h => absurd h hext, ?_⟩
      rintro rfl
      exact absurd (by simp) hnarrow
  obtain ⟨ps, hps, hcut, hgap, -⟩ := exists_gap hr hcutr
  have hnone : LoneHead [] := by simp [LoneHead]
  have hwords : IsCut wordRule (r.reverse ++ u.reverse) (words v) [] :=
    isCut_words hfront hnone fun _ => wordRule_nil _
  refine ⟨ps.map classify, hgap, ?_⟩
  have hrest : IsCut wordRule u.reverse (ps ++ words v) [] := by
    rw [isCut_append, flatten_words, List.append_nil, hps]
    exact ⟨hcut, hwords⟩
  have hflat : (ps ++ words v).flatten = r ++ v := by
    rw [List.flatten_append, hps, flatten_words]
  rw [words_append hflat hbehind hcutu hrest, List.map_append, List.map_append]

/-- A keyword begins with no attached mark. -/
theorem ofChar_head_of_keyword {k : Keyword} {piece : Text} (h : classify piece = k.value) :
    ∀ c ∈ piece.head?, ofChar c ≠ .extend := by
  have hkind : (classify piece).kind = .word := by rw [h]; rfl
  have hword := (letters_of_classify hkind).2.2
  rw [h] at hword
  obtain rfl : k.kind.name = piece := congrArg TokenValue.text hword
  intro c hc
  cases k <;> obtain rfl := Option.some.inj hc <;> decide

theorem exists_words_cons {s : Text} (h : s ≠ []) :
    ∃ piece pieces, words s = piece :: pieces ∧ piece.head? = s.head? ∧ piece ≠ [] := by
  have hcut : words s ≠ [] := cut_ne_nil h
  obtain ⟨piece, pieces, hw⟩ := List.exists_cons_of_ne_nil hcut
  have hmem : piece ∈ words s := by simp [hw]
  have hne : piece ≠ [] := cut_pieces_ne_nil wordRule [] s piece hmem
  refine ⟨piece, pieces, hw, ?_, hne⟩
  have hflat := flatten_words s
  rw [hw, List.flatten_cons] at hflat
  rw [← hflat, List.head?_append_of_ne_nil _ hne]

/-- A program that begins with no whitespace begins with no attached mark. -/
theorem ofChar_head_of_program {s : Text} {ops : List Operation}
    (h : Program ((words s).map classify) ops) (hs : ∀ c ∈ s.head?, isBlank c = false) :
    ∀ c ∈ s.head?, ofChar c ≠ .extend := by
  intro c hc
  have hne : s ≠ [] := by
    rintro rfl
    cases hc
  obtain ⟨piece, pieces, hw, hhead, hpiece⟩ := exists_words_cons hne
  have hkind : (classify piece).kind ≠ .whitespace := by
    intro hblank
    obtain ⟨t, rfl⟩ := List.head?_eq_some_iff.1 (hhead.trans hc)
    have hc' := blanks_of_classify hblank c (by simp)
    rw [hs c hc] at hc'
    cases hc'
  rw [hw, List.map_cons] at h
  obtain ⟨k, hk⟩ := h.head hkind
  exact ofChar_head_of_keyword hk c (hhead ▸ hc)

/-- A line feed between two texts is trimmed with the blanks around it, if nothing else stands on
one of its sides; else they stay as a run of blanks between what is left of the two. -/
theorem trim_append_line (s t : Text) :
    s.trim isBlank = [] ∧ (s ++ '\n' :: t).trim isBlank = t.trim isBlank ∨
      t.trim isBlank = [] ∧ (s ++ '\n' :: t).trim isBlank = s.trim isBlank ∨
        ∃ r, IsRun r ∧ r ⊆ s ++ '\n' :: t ∧
          (s ++ '\n' :: t).trim isBlank = s.trim isBlank ++ (r ++ t.trim isBlank) := by
  have hfeed : isBlank '\n' = true := by decide
  obtain ⟨lead, tail, hs, hlead, htail⟩ := exists_trim isBlank s
  obtain ⟨lead', tail', ht, hlead', htail'⟩ := exists_trim isBlank t
  obtain ⟨hhead, hlast⟩ := trim_ends isBlank s
  obtain ⟨hhead', hlast'⟩ := trim_ends isBlank t
  by_cases hu : s.trim isBlank = []
  · refine .inl ⟨hu, ?_⟩
    have hblank : ∀ c ∈ s ++ ['\n'], isBlank c = true :=
      List.forall_mem_append.2 ⟨trim_eq_nil_iff.1 hu, by simpa using hfeed⟩
    have htrim := trim_append (s := t) hblank (List.forall_mem_nil _)
    simpa using htrim
  by_cases hv : t.trim isBlank = []
  · refine .inr (.inl ⟨hv, ?_⟩)
    have hblank : ∀ c ∈ '\n' :: t, isBlank c = true :=
      List.forall_mem_cons.2 ⟨hfeed, trim_eq_nil_iff.1 hv⟩
    exact trim_append (List.forall_mem_nil _) hblank
  · refine .inr (.inr ⟨tail ++ '\n' :: lead', ⟨by simp, ?_⟩, ?_, ?_⟩)
    · simp only [List.forall_mem_append, List.forall_mem_cons]
      exact ⟨htail, hfeed, hlead'⟩
    · intro c hc
      rw [hs, ht]
      simp only [List.mem_append, List.mem_cons] at hc ⊢
      tauto
    · generalize s.trim isBlank = u at *
      generalize t.trim isBlank = v at *
      subst hs ht
      have hends : (u ++ (tail ++ '\n' :: lead' ++ v)).trim isBlank =
          u ++ (tail ++ '\n' :: lead' ++ v) := by
        apply trim_eq_self
        · rwa [List.head?_append_of_ne_nil _ hu]
        · rwa [← List.append_assoc, List.getLast?_append_of_ne_nil _ hv]
      have htrim := trim_append (s := u ++ (tail ++ '\n' :: lead' ++ v)) hlead htail'
      rw [hends] at htrim
      simpa using htrim

/-- A source behind another one. -/
theorem parseSource_append_line {s t : Text} {ops ops' : List Operation}
    (hs : parseSource s = .ok ops) (ht : parseSource t = .ok ops')
    (hnarrow : '\u202F' ∉ s ++ '\n' :: t) :
    parseSource (s ++ '\n' :: t) = .ok (ops ++ ops') := by
  rw [parseSource_eq_ok_iff, sourceValues] at hs ht ⊢
  rcases trim_append_line s t with ⟨hnil, heq⟩ | ⟨hnil, heq⟩ | ⟨r, hr, hsub, heq⟩
  · rw [hnil] at hs
    obtain rfl := Program.eq_nil hs
    rwa [heq]
  · rw [hnil] at ht
    obtain rfl := Program.eq_nil ht
    rwa [heq, List.append_nil]
  · have hu : ∀ c ∈ (s.trim isBlank).getLast?, IsInk c := by
      intro c hc
      refine ((sourceChars_of_words hs.kind_ne_unknown).1 c ?_).isInk ((trim_ends isBlank s).2 c hc)
      exact List.mem_of_mem_getLast? hc
    have hv : ∀ c ∈ (t.trim isBlank).head?, IsInk c ∧ ofChar c ≠ .extend := by
      intro c hc
      have hhead := (trim_ends isBlank t).1
      have hsource := (sourceChars_of_words ht.kind_ne_unknown).1 c (List.mem_of_mem_head? hc)
      exact ⟨hsource.isInk (hhead c hc), ofChar_head_of_program ht hhead c hc⟩
    obtain ⟨gap, hgap, hwords⟩ := words_append_run hu hr (fun h => hnarrow (hsub h)) hv
    rw [heq, hwords]
    exact hs.append (ht.of_gap hgap)

end Roster
