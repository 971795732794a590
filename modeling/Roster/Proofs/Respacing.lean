import Roster.Proofs.BlankBoundary
import Roster.Proofs.GapChange
import Roster.Proofs.RoundTrip

/-! Sources that differ in their blanks only. When each run of blanks is replaced by another one,
the new source gives the same operations exactly if its blanks stand apart from their
neighbours. -/
namespace Roster
open Text WordBreak Grammar Vocabulary

namespace Text

/-- Blanks, and at least one. -/
structure IsRun (r : Text) : Prop where
  ne_nil : r ≠ []
  blank : ∀ c ∈ r, isBlank c = true

/-- Text without blanks. -/
def NoBlank (w : Text) : Prop := ∀ c ∈ w, isBlank c = false

/-- A text that does not begin with a blank. -/
def NoBlankHead (s : Text) : Prop := ∀ c ∈ s.head?, isBlank c = false

/-- The second text has some run of blanks for each maximal run of the first. -/
inductive Respaced : Text → Text → Prop
  | ink {w : Text} : NoBlank w → Respaced w w
  | run {w r r' s s' : Text} : NoBlank w → IsRun r → IsRun r' → NoBlankHead s → Respaced s s' →
      Respaced (w ++ (r ++ s)) (w ++ (r' ++ s'))

theorem NoBlank.trimEnd_eq {w : Text} (h : NoBlank w) : trimEnd isBlank w = w := by
  rcases List.eq_nil_or_concat w with rfl | ⟨w, c, rfl⟩
  · rfl
  · rw [List.concat_eq_append] at h ⊢
    have hc : isBlank c = false := h c (by simp)
    simp [trimEnd, hc]

theorem NoBlankHead.dropWhile_eq {s : Text} (h : NoBlankHead s) : s.dropWhile isBlank = s := by
  cases s with
  | nil => rfl
  | cons c s => rw [List.dropWhile_cons_of_neg (by simpa using h c rfl)]

theorem IsRun.dropWhile_append {r s : Text} (hr : IsRun r) (hs : NoBlankHead s) :
    (r ++ s).dropWhile isBlank = s := by
  rw [List.dropWhile_append_of_pos hr.blank, hs.dropWhile_eq]

/-- A text that begins with no blank is not trimmed away. -/
theorem NoBlankHead.trimEnd {s : Text} (h : NoBlankHead s) (hs : s ≠ []) :
    trimEnd isBlank s ≠ [] ∧ NoBlankHead (trimEnd isBlank s) := by
  obtain ⟨c, s, rfl⟩ := List.exists_cons_of_ne_nil hs
  have hc : NoBlank [c] := by
    intro d hd
    rw [List.mem_singleton.1 hd]
    exact h c rfl
  by_cases hrest : Text.trimEnd isBlank s = []
  · have hblank : ∀ d ∈ s, isBlank d = true := by
      simpa [Text.trimEnd, List.dropWhile_eq_nil_iff] using hrest
    have htrim : Text.trimEnd isBlank ([c] ++ s) = [c] := by
      rw [trimEnd_append_of_forall [c] hblank, hc.trimEnd_eq]
    rw [List.singleton_append] at htrim
    rw [htrim]
    exact ⟨by simp, h⟩
  · have htrim := trimEnd_append [c] hrest
    rw [List.singleton_append] at htrim
    rw [htrim]
    exact ⟨by simp, h⟩

namespace Respaced

variable {s s' : Text}

theorem eq_nil_iff (h : Respaced s s') : s = [] ↔ s' = [] := by
  cases h with
  | ink => rfl
  | run _ hr hr' _ _ => simp [hr.ne_nil, hr'.ne_nil]

theorem noBlankHead (h : Respaced s s') (hs : NoBlankHead s) : NoBlankHead s' := by
  cases h with
  | ink => exact hs
  | @run w r r' s s' hw hr _ _ _ =>
    cases w with
    | nil =>
      obtain ⟨c, r, rfl⟩ := List.exists_cons_of_ne_nil hr.ne_nil
      have hc : isBlank c = false := hs c rfl
      rw [hr.blank c (by simp)] at hc
      cases hc
    | cons c w => exact hs

theorem dropWhile (h : Respaced s s') :
    Respaced (s.dropWhile isBlank) (s'.dropWhile isBlank) := by
  cases h with
  | ink hw =>
    have hhead : NoBlankHead s := fun c hc => hw c (List.mem_of_mem_head? hc)
    rw [hhead.dropWhile_eq]
    exact .ink hw
  | @run w r r' s s' hw hr hr' hs h =>
    cases w with
    | nil =>
      rw [List.nil_append, List.nil_append, hr.dropWhile_append hs,
        hr'.dropWhile_append (h.noBlankHead hs)]
      exact h
    | cons c w =>
      have hc : isBlank c = false := hw c (by simp)
      rw [List.cons_append, List.cons_append, List.dropWhile_cons_of_neg (by simp [hc]),
        List.dropWhile_cons_of_neg (by simp [hc])]
      exact .run hw hr hr' hs h

theorem trimEnd (h : Respaced s s') :
    Respaced (trimEnd isBlank s) (trimEnd isBlank s') := by
  induction h with
  | ink hw =>
    rw [hw.trimEnd_eq]
    exact .ink hw
  | @run w r r' s s' hw hr hr' hs h ih =>
    by_cases hnil : s = []
    · obtain rfl := h.eq_nil_iff.1 hnil
      subst hnil
      rw [List.append_nil, List.append_nil, trimEnd_append_of_forall w hr.blank,
        trimEnd_append_of_forall w hr'.blank, hw.trimEnd_eq]
      exact .ink hw
    · obtain ⟨hne, hhead⟩ := hs.trimEnd hnil
      have hne' : Text.trimEnd isBlank s' ≠ [] := by
        rwa [Ne, ← ih.eq_nil_iff]
      rw [← List.append_assoc, ← List.append_assoc, trimEnd_append _ hne, trimEnd_append _ hne',
        List.append_assoc, List.append_assoc]
      exact .run hw hr hr' hhead ih

theorem trim (h : Respaced s s') : Respaced (s.trim isBlank) (s'.trim isBlank) :=
  h.dropWhile.trimEnd

end Respaced

/-- A part behind which the rule cuts is cut into pieces. -/
theorem exists_isCut {rule : CutRule} {before u after : Text}
    (h : u ≠ [] → rule (u.reverse ++ before) after = true) :
    ∃ ps, ps.flatten = u ∧ IsCut rule before ps after := by
  let within : CutRule := fun b a => a.isEmpty || rule b (a ++ after)
  have hcut : IsCut within before (cut within before u) [] := isCut_cut (fun _ => rfl) before u
  refine ⟨cut within before u, flatten_cut _ _ _, (isCut_congr fun x y hxy hx => ?_).1 hcut⟩
  rw [flatten_cut] at hxy
  cases y with
  | nil =>
    rw [List.append_nil] at hxy
    subst hxy
    exact (h hx).symm
  | cons c y => simp [within]

theorem Precedes.of_append {before u v : Text} (h : Precedes before (u ++ v)) :
    Precedes before u := by
  refine ⟨h.blank, fun d hd => h.lineEnd d ?_⟩
  obtain ⟨t, rfl⟩ := List.head?_eq_some_iff.1 hd
  rfl

/-- A run of letters and marks is cut alike wherever it stands between blanks. -/
theorem isCut_ink {ps : List Text} {before before' after after' : Text}
    (hink : ∀ c ∈ ps.flatten, IsInk c) (hb : Precedes before ps.flatten)
    (hb' : Precedes before' ps.flatten) (ha : BlankHead after) (ha' : BlankHead after')
    (hend : ps.flatten ≠ [] → wordRule (ps.flatten.reverse ++ before) after = true)
    (hend' : ps.flatten ≠ [] → wordRule (ps.flatten.reverse ++ before') after' = true)
    (h : IsCut wordRule before ps after) : IsCut wordRule before' ps after' := by
  refine (isCut_congr fun u v huv hu => ?_).1 h
  cases v with
  | nil =>
    rw [List.append_nil] at huv
    subst huv
    rw [List.nil_append, List.nil_append, hend hu, hend' hu]
  | cons c v =>
    rw [huv] at hink hb hb'
    rw [wordRule_within hu (by simp) hink hb.of_append ha,
      wordRule_within hu (by simp) hink hb'.of_append ha']

theorem IsRun.blankHead {r : Text} (hr : IsRun r) (s : Text) : BlankHead (r ++ s) := by
  obtain ⟨c, r, rfl⟩ := List.exists_cons_of_ne_nil hr.ne_nil
  intro d hd
  obtain rfl := Option.some.inj hd
  exact hr.blank c (by simp)

theorem IsRun.reverse {r : Text} (hr : IsRun r) : IsRun r.reverse :=
  ⟨List.reverse_ne_nil_iff.2 hr.ne_nil, fun c hc => hr.blank c (List.mem_reverse.1 hc)⟩

/-- Behind a run the rule cuts, and what follows it is preceded by blanks. -/
theorem CutsAtBlanks.behind_run {before r s : Text} (h : CutsAtBlanks before (r ++ s))
    (hr : IsRun r) (hs : NoBlankHead s) :
    wordRule (r.reverse ++ before) s = true ∧ Precedes (r.reverse ++ before) s := by
  have hrule : wordRule (r.reverse ++ before) s = true := by
    refine h.cuts_between hr.ne_nil fun p hp n hn => ?_
    rw [hr.blank p (List.mem_of_mem_getLast? hp), hs n hn]
    decide
  refine ⟨hrule, hr.reverse.blankHead before, ?_⟩
  intro d hd hext c hc
  obtain ⟨v, rfl⟩ := List.head?_eq_some_iff.1 hd
  obtain ⟨t, ht⟩ := List.head?_eq_some_iff.1 hc
  rw [ht] at hrule
  by_contra hline
  rw [wordRule_of_isAttached (by simpa using hline) (by simp [hext, isAttached])] at hrule
  cases hrule

/-- Between a text without blanks and a run the rule cuts. -/
theorem CutsAtBlanks.before_run {before w r s : Text} (h : CutsAtBlanks before (w ++ (r ++ s)))
    (hw : NoBlank w) (hr : IsRun r) (hne : w ≠ []) :
    wordRule (w.reverse ++ before) (r ++ s) = true := by
  refine h.cuts_between hne fun p hp n hn => ?_
  rw [hw p (List.mem_of_mem_getLast? hp), hr.blankHead s n hn]
  decide

end Text

theorem classify_of_blanks {piece : Text} (h : ∀ c ∈ piece, isBlank c = true) :
    classify piece = .blank := by
  rw [classify, List.all_eq_true.2 h]
  rfl

theorem kind_classify_ne_whitespace {piece : Text} (hne : piece ≠ []) (h : NoBlank piece) :
    (classify piece).kind ≠ .whitespace := by
  intro hkind
  obtain ⟨c, piece, rfl⟩ := List.exists_cons_of_ne_nil hne
  have hc := blanks_of_classify hkind c (by simp)
  rw [h c (by simp)] at hc
  cases hc

/-- A run of blanks is a gap between tokens. -/
theorem exists_gap {before r s : Text} (hr : IsRun r)
    (hrule : wordRule (r.reverse ++ before) s = true) :
    ∃ ps, ps.flatten = r ∧ IsCut wordRule before ps s ∧ Gap (ps.map classify) ∧
      ps.map classify ≠ [] := by
  obtain ⟨ps, hflat, hcut⟩ := exists_isCut fun _ => hrule
  refine ⟨ps, hflat, hcut, ?_, ?_⟩
  · intro v hv
    obtain ⟨piece, hpiece, rfl⟩ := List.mem_map.1 hv
    have hblank : ∀ c ∈ piece, isBlank c = true := by
      intro c hc
      exact hr.blank c (hflat ▸ List.mem_flatten_of_mem hpiece hc)
    rw [classify_of_blanks hblank]
    rfl
  · rw [Ne, List.map_eq_nil_iff]
    rintro rfl
    exact hr.ne_nil hflat.symm

/-- Values of pieces without blanks stay as they are. -/
theorem regapped_of_noBlank {ps : List Text} (hne : ∀ piece ∈ ps, piece ≠ [])
    (h : NoBlank ps.flatten) : Regapped (ps.map classify) (ps.map classify) := by
  induction ps with
  | nil => exact .nil
  | cons piece ps ih =>
    have hpiece : NoBlank piece := fun c hc => h c (by simp [hc])
    have hps : NoBlank ps.flatten := fun c hc => h c (by simp [hc])
    rw [List.forall_mem_cons] at hne
    exact .value (kind_classify_ne_whitespace hne.1 hpiece) (ih hne.2 hps)

/-- Pieces of a text without blanks, of the run behind it and of what is left. -/
theorem map_classify_cut {ps : List Text} {before w r s : Text} (hw : ps.flatten = w)
    (hps : IsCut wordRule before ps (r ++ s)) (hc : CutsAtBlanks before (w ++ (r ++ s)))
    (hr : IsRun r) (hs : NoBlankHead s) :
    ∃ gap, Gap gap ∧ gap ≠ [] ∧ (cut wordRule before (w ++ (r ++ s))).map classify =
      ps.map classify ++
        (gap ++ (cut wordRule (r.reverse ++ (w.reverse ++ before)) s).map classify) := by
  have hrule := (hc.of_append.behind_run hr hs).1
  obtain ⟨gs, hgs, hcut, hgap, hne⟩ := exists_gap hr hrule
  refine ⟨gs.map classify, hgap, hne, ?_⟩
  have hword := hps.cut_eq
  have hblank := hcut.cut_eq
  rw [hw] at hword
  rw [hgs] at hblank
  rw [hword, hblank, List.map_append, List.map_append]

/-- Where both texts are cut at their blanks, the pieces between the blanks are the same. -/
theorem Text.Respaced.regapped {s s' : Text} (h : Respaced s s') (hs : ∀ c ∈ s, IsSourceChar c)
    {before before' : Text} (hc : CutsAtBlanks before s) (hc' : CutsAtBlanks before' s')
    (hb : Precedes before s) (hb' : Precedes before' s') :
    Regapped ((cut wordRule before s).map classify) ((cut wordRule before' s').map classify) := by
  induction h generalizing before before' with
  | @ink w hw =>
    have hink : ∀ c ∈ w, IsInk c := fun c hc => (hs c hc).isInk (hw c hc)
    have hcut := isCut_cut wordRule_nil before w
    have hflat := flatten_cut wordRule before w
    have hnone : BlankHead [] := by simp [BlankHead]
    have hcut' : IsCut wordRule before' (cut wordRule before w) [] := by
      refine isCut_ink ?_ ?_ ?_ hnone hnone (fun _ => wordRule_nil _) (fun _ => wordRule_nil _) hcut
      all_goals rw [hflat]; assumption
    have heq := hcut'.eq_cut
    rw [hflat] at heq
    rw [heq]
    exact regapped_of_noBlank hcut.ne_nil (by rwa [hflat])
  | @run w r r' s s' hw hr hr' hhead h ih =>
    have hhead' := h.noBlankHead hhead
    have hink : ∀ c ∈ w, IsInk c := fun c hc => (hs c (by simp [hc])).isInk (hw c hc)
    obtain ⟨ps, hflat, hcut⟩ := exists_isCut (hc.before_run hw hr)
    have hcut' : IsCut wordRule before' ps (r' ++ s') := by
      subst hflat
      exact isCut_ink hink hb.of_append hb'.of_append (hr.blankHead s) (hr'.blankHead s')
        (hc.before_run hw hr) (hc'.before_run hw hr') hcut
    obtain ⟨gap, hgap, hne, heq⟩ := map_classify_cut hflat hcut hc hr hhead
    obtain ⟨gap', hgap', hne', heq'⟩ := map_classify_cut hflat hcut' hc' hr' hhead'
    have htail := ih (fun c hc => hs c (by simp [hc])) hc.of_append.of_append
      hc'.of_append.of_append (hc.of_append.behind_run hr hhead).2
      (hc'.of_append.behind_run hr' hhead').2
    have hpieces : Regapped (ps.map classify) (ps.map classify) :=
      regapped_of_noBlank hcut.ne_nil (by rwa [hflat])
    rw [heq, heq']
    exact hpieces.append (.gap hgap hgap' hne hne' htail)

theorem Text.Respaced.isSourceChar {s s' : Text} (h : Respaced s s')
    (hs : ∀ c ∈ s, IsSourceChar c) : ∀ c ∈ s', IsSourceChar c := by
  induction h with
  | ink => exact hs
  | run hw hr hr' hhead h ih =>
    simp only [List.forall_mem_append] at hs ⊢
    exact ⟨hs.1, fun c hc => .inl (hr'.blank c hc), ih hs.2.2⟩

instance (w : Text) : Decidable (NoBlank w) :=
  decidable_of_iff (w.all (fun c => !isBlank c) = true) (by simp [NoBlank])

instance (s : Text) : Decidable (NoBlankHead s) :=
  decidable_of_iff (s.head?.all (fun c => !isBlank c) = true) (by cases s <;> simp [NoBlankHead])

instance (r : Text) : Decidable (IsRun r) :=
  decidable_of_iff (r ≠ [] ∧ r.all isBlank = true)
    ⟨fun h => ⟨h.1, List.all_eq_true.1 h.2⟩, fun h => ⟨h.ne_nil, List.all_eq_true.2 h.blank⟩⟩

/-- With other blanks a source gives the same operations exactly if its blanks stand apart. -/
theorem parseSource_respaced_iff {source source' : Text} {ops : List Operation}
    (h : parseSource source = .ok ops) (hr : Respaced source source') :
    parseSource source' = .ok ops ↔ Parted (source'.trim isBlank) := by
  rw [parseSource_eq_ok_iff] at h ⊢
  obtain ⟨hchars, hcut⟩ := sourceChars_of_words h.kind_ne_unknown
  have hchars' := hr.trim.isSourceChar hchars
  rw [← cutsAtBlanks_iff_parted hchars']
  constructor
  · intro h'
    exact (sourceChars_of_words h'.kind_ne_unknown).2
  · intro hcut'
    have hstart : ∀ s, Precedes [] s := fun s => ⟨by simp [BlankHead], by simp⟩
    exact (hr.trim.regapped hchars hcut hcut' (hstart _) (hstart _)).program h

theorem respaced_brokenName :
    Respaced "Show Ann\nLee.".toList "Show\u3000\tAnn\u2003Lee.".toList := by
  have hname : Respaced ("Ann".toList ++ (['\n'] ++ "Lee.".toList))
      ("Ann".toList ++ (['\u2003'] ++ "Lee.".toList)) :=
    .run (by decide) (by decide) (by decide) (by decide) (.ink (by decide))
  have h : Respaced ("Show".toList ++ ([' '] ++ ("Ann".toList ++ (['\n'] ++ "Lee.".toList))))
      ("Show".toList ++ (['\u3000', '\t'] ++ ("Ann".toList ++ (['\u2003'] ++ "Lee.".toList)))) :=
    .run (by decide) (by decide) (by decide) (by decide) hname
  exact h

theorem parseSource_respaced_brokenName :
    Respaced "Show Ann\nLee.".toList "Show\u3000\tAnn\u2003Lee.".toList ∧
      parseSource "Show Ann\nLee.".toList = .ok [.display ["Ann Lee".toList] .plain] ∧
        parseSource "Show\u3000\tAnn\u2003Lee.".toList =
          .ok [.display ["Ann Lee".toList] .plain] :=
  ⟨respaced_brokenName, parseSource_brokenName,
    (parseSource_respaced_iff parseSource_brokenName respaced_brokenName).2
      (parted_of_all (by decide +kernel))⟩

/-- A narrow no-break space holds on to the letters around it, a space does not. -/
theorem parseSource_narrowSpace :
    Respaced "Show HR.".toList "Show\u202FHR.".toList ∧
      parseSource "Show HR.".toList = .ok [.display ["HR".toList] .plain] ∧
        parseSource "Show\u202FHR.".toList ≠ .ok [.display ["HR".toList] .plain] := by
  refine ⟨?_, ?_, ?_⟩
  · have h : Respaced ("Show".toList ++ ([' '] ++ "HR.".toList))
        ("Show".toList ++ (['\u202F'] ++ "HR.".toList)) :=
      .run (by decide) (by decide) (by decide) (by decide) (.ink (by decide))
    exact h
  · have hvalues : sourceValues "Show HR.".toList =
        [.word "Show".toList, .blank, .word "HR".toList, .punctuation ['.']] := by decide
    rw [parseSource_eq_ok_iff, hvalues]
    have hname : Element [.word "HR".toList] "HR".toList := .word (by decide)
    exact (Sentence.display (m := .plain) (.mk gap_blank (.last hname gap_nil)) (by decide)).program
  · intro h
    have hunknown : .unknown "Show\u202FHR".toList ∈ sourceValues "Show\u202FHR.".toList := by
      decide +kernel
    exact (parseSource_eq_ok_iff.1 h).kind_ne_unknown _ hunknown rfl

end Roster
