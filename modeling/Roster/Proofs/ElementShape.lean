import Roster.Proofs.RoundTrip

/-! The shape of what a source gives: operations that keep their constraints, with names and
departments of letters and single spaces. Words that stand side by side are glued into one piece,
but the rule never cuts within a reserved word, so gluing never makes one. -/
namespace Roster
open Grammar Text Vocabulary

namespace Text

theorem splitAt_append {separator : Char} {u s p : Text} {ps : List Text}
    (hu : separator ∉ u) (h : splitAt separator s = p :: ps) :
    splitAt separator (u ++ s) = (u ++ p) :: ps := by
  induction u with
  | nil => exact h
  | cons c u ih =>
    have hc : c ≠ separator := fun hc => hu (by simp [hc])
    have hrest := ih fun hmem => hu (List.mem_cons_of_mem c hmem)
    rw [List.cons_append, splitAt, hrest]
    simp [hc]

theorem exists_splitAt_cons (separator : Char) (s : Text) :
    ∃ p ps, splitAt separator s = p :: ps := by
  cases s with
  | nil => exact ⟨[], [], rfl⟩
  | cons c s =>
    rw [splitAt]
    split
    · exact ⟨_, _, rfl⟩
    · split
      · exact ⟨_, _, rfl⟩
      · exact ⟨_, _, rfl⟩

theorem splitAt_cons_separator (separator : Char) (s : Text) :
    splitAt separator (separator :: s) = [] :: splitAt separator s := by
  obtain ⟨p, ps, h⟩ := exists_splitAt_cons separator s
  rw [splitAt, h]
  simp

/-- A text that begins with another character has it at the front of its first piece. -/
theorem splitAt_cons_of_ne {separator c : Char} (hc : c ≠ separator) (s : Text) :
    ∃ p ps, splitAt separator (c :: s) = (c :: p) :: ps := by
  obtain ⟨p, ps, h⟩ := exists_splitAt_cons separator s
  exact ⟨p, ps, splitAt_append (u := [c]) (by simpa using hc.symm) h⟩

end Text

theorem isLetter_of_reserved {w : Text} (h : .word w ∈ reserved) :
    ∀ c ∈ w, (WordBreak.ofChar c).isLetter = true := by
  have hall : ∀ v ∈ reserved, v.text.all (fun c => (WordBreak.ofChar c).isLetter) = true := by
    decide
  exact List.all_eq_true.1 (hall (.word w) h)

/-- Two words between which the rule cuts are no reserved word together. -/
theorem IsWord.append {u w : Text} {c : Char} (hu : IsWord u) (hw : IsWord (c :: w))
    {before after : Text} (hcut : wordRule (u.reverse ++ before) (c :: after) = true) :
    IsWord (u ++ c :: w) := by
  refine ⟨by simp, ?_, ?_⟩
  · intro d hd
    rcases List.mem_append.1 hd with hd | hd
    · exact hu.letters d hd
    · exact hw.letters d hd
  · intro hreserved
    have hletters := isLetter_of_reserved hreserved
    obtain ⟨p, u', hp⟩ := List.exists_cons_of_ne_nil (List.reverse_ne_nil_iff.2 hu.ne_nil)
    have hmem : p ∈ u := List.mem_reverse.1 (by simp [hp])
    rw [hp, List.cons_append,
      wordRule_of_isLetter (hletters p (by simp [hmem])) (hletters c (by simp))] at hcut
    cases hcut

/-- What stands between the spaces of an element are words; the first of them begins as the element
does. -/
theorem isWord_of_mem_splitAt {vs : List TokenValue} {e : Text} (h : Element vs e)
    {ps : List Text} (hps : ps.map classify = vs) {before after : Text}
    (hcut : IsCut wordRule before ps after) :
    (∃ c s s', ps.flatten = c :: s ∧ e = c :: s') ∧ ∀ piece ∈ e.splitAt ' ', IsWord piece := by
  have hspace : ∀ {w : Text}, IsWord w → ' ' ∉ w := fun hw hmem => hw.ne_space hmem rfl
  induction h generalizing ps before with
  | @word v hv =>
    obtain ⟨w, rfl, rfl⟩ := List.map_eq_singleton_iff.1 hps
    have hw := isWord_of_isName hv
    have htext : (classify w).text = w := by rw [hw.classify_eq, TokenValue.word]
    obtain ⟨c, s, rfl⟩ := List.exists_cons_of_ne_nil hw.ne_nil
    rw [htext]
    refine ⟨⟨c, s, s, by simp, rfl⟩, ?_⟩
    have hsplit : splitAt ' ' (c :: s ++ []) = [c :: s ++ []] := splitAt_append (hspace hw) rfl
    rw [List.append_nil] at hsplit
    simpa [hsplit] using hw
  | @next v gap vs text hv hgap he ih =>
    obtain ⟨w, rest, rfl, rfl, hrest⟩ := List.map_eq_cons_iff.1 hps
    obtain ⟨gs, ps, rfl, hgs, hps⟩ := List.map_eq_append_iff.1 hrest
    have hw := isWord_of_isName hv
    have htext : (classify w).text = w := by rw [hw.classify_eq, TokenValue.word]
    obtain ⟨-, -, hr, hcut⟩ := hcut
    obtain ⟨⟨c, s, s', hflat, rfl⟩, hpieces⟩ := ih hps (isCut_append.1 hcut).2
    obtain ⟨d, u, hdu⟩ := List.exists_cons_of_ne_nil hw.ne_nil
    rw [htext]
    refine ⟨⟨d, u ++ (gs ++ ps).flatten, u ++ space gap ++ c :: s', ?_, ?_⟩, ?_⟩
    · rw [List.flatten_cons, hdu, List.cons_append]
    · rw [hdu, List.cons_append, List.cons_append]
    rcases gap with _ | ⟨g, gap⟩
    · obtain rfl := List.map_eq_nil_iff.1 hgs
      rw [space_nil, List.append_nil]
      have hc : c ≠ ' ' := by
        rintro rfl
        rw [splitAt_cons_separator] at hpieces
        exact (hpieces [] (by simp)).ne_nil rfl
      obtain ⟨p, pieces, hsplit⟩ := splitAt_cons_of_ne hc s'
      rw [hsplit, List.forall_mem_cons] at hpieces
      rw [splitAt_append (hspace hw) hsplit, List.forall_mem_cons]
      -- the rule cuts in front of `c`, where the next piece begins
      rw [List.flatten_append, hflat] at hr
      exact ⟨hw.append hpieces.1 hr, hpieces.2⟩
    · rw [space_cons, List.append_assoc, List.singleton_append]
      have hsplit := splitAt_cons_separator ' ' (c :: s')
      rw [splitAt_append (hspace hw) hsplit, List.append_nil, List.forall_mem_cons]
      exact ⟨hw, hpieces⟩

/-- Words with single spaces between them; neither is a piece between spaces a reserved word. -/
structure WellSpaced (e : Text) : Prop where
  ne_nil : e ≠ []
  chars : ∀ c ∈ e, isLetter c = true ∨ c = ' '
  head : e.head? ≠ some ' '
  last : e.getLast? ≠ some ' '
  single : ¬[' ', ' '] <:+: e
  pieces : ∀ piece ∈ e.splitAt ' ', .word piece ∉ reserved

/-- The constraints of an operation that a statement gives, and the shape of its elements. -/
structure Operation.WellFormed (op : Operation) : Prop where
  known : op ≠ .unknown
  departments : ∃ first others, op.departments? = some (first :: others)
  names : op.kind = .add → ∃ first others, op.names? = some (first :: others)
  allowed : op.kind.allows op.modifier = true
  notOverwrite : op.kind = .display ∨ op.kind = .remove → op.modifier ≠ .overwrite
  elements : ∀ e ∈ op.elements, WellSpaced e

theorem Phrase.wellSpaced {ps : List Text} (h : Phrase ps)
    (hpieces : ∀ piece ∈ splitAt ' ' ps.flatten, IsWord piece) : WellSpaced ps.flatten := by
  have hchain := h.isChain
  refine ⟨h.ne_nil, h.chars, ?_, h.getLast_ne_space, ?_, fun piece hp => (hpieces piece hp).free⟩
  · intro hhead
    obtain ⟨s, hs⟩ := List.head?_eq_some_iff.1 hhead
    rw [hs] at hchain
    exact (List.isChain_cons_cons.1 hchain).1 rfl rfl
  · rintro ⟨u, v, huv⟩
    rw [← huv, List.append_assoc] at hchain
    exact (List.isChain_append_cons_cons.1 hchain.tail).2.1 rfl rfl

theorem wellSpaced_of_parse {source : Text} {ops : List Operation}
    (h : parseSource source = .ok ops) {op : Operation} (hop : op ∈ ops) {e : Text}
    (he : e ∈ op.elements) : WellSpaced e := by
  obtain ⟨ps, hphrase, rfl, -⟩ := phrase_of_parse h hop he
  obtain ⟨qs, before, after, hel, hcut⟩ := exists_cut_of_parse h hop he
  exact hphrase.wellSpaced (isWord_of_mem_splitAt hel rfl hcut).2

namespace Operation

theorem exists_department {op : Operation} (hv : op.isValid = true) (hknown : op ≠ .unknown) :
    ∃ first others, op.departments? = some (first :: others) := by
  cases hd : op.departments? with
  | none => cases op <;> simp_all [departments?]
  | some departments =>
    obtain ⟨first, others, rfl⟩ := List.exists_cons_of_ne_nil (departments_ne_nil hv hd)
    exact ⟨first, others, rfl⟩

theorem exists_name {op : Operation} (hv : op.isValid = true) (hk : op.kind = .add) :
    ∃ first others, op.names? = some (first :: others) := by
  cases op with
  | add names departments m =>
    have hne : names ≠ [] := by
      rintro rfl
      cases hv
    obtain ⟨first, others, rfl⟩ := List.exists_cons_of_ne_nil hne
    exact ⟨first, others, rfl⟩
  | create | remove | display | unknown => cases hk

theorem allows_of_isValid {op : Operation} (hv : op.isValid = true) :
    op.kind.allows op.modifier = true := by
  cases op with
  | unknown => rfl
  | create | add | remove | display =>
    unfold isValid at hv
    exact (Bool.and_eq_true_iff.1 hv).2

end Operation

/-- Every operation that a source gives is well formed. -/
theorem wellFormed_of_parseSource {source : Text} {ops : List Operation}
    (h : parseSource source = .ok ops) : ∀ op ∈ ops, op.WellFormed := by
  intro op hop
  obtain ⟨hv, hknown⟩ := (parseSource_eq_ok_iff.1 h).isValid op hop
  have hallowed := Operation.allows_of_isValid hv
  refine ⟨hknown, Operation.exists_department hv hknown, Operation.exists_name hv, hallowed, ?_,
    fun e he => wellSpaced_of_parse h hop he⟩
  rintro (hk | hk) hm
  · rw [hk, hm] at hallowed
    cases hallowed
  · rw [hk, hm] at hallowed
    cases hallowed

/-- `Add` with words of two scripts; those of the second are glued to one name. -/
theorem parseSource_gluedName :
    parseSource "Add Ann\u2003\u2003Lee and 花子 to Sales!".toList =
      .ok [.add ["Ann Lee".toList, "花子".toList] ["Sales".toList] .overwrite] := by
  have hvalues : sourceValues "Add Ann\u2003\u2003Lee and 花子 to Sales!".toList =
      [.word "Add".toList, .blank, .word "Ann".toList, .blank, .word "Lee".toList, .blank,
        .word "and".toList, .blank, .word "花".toList, .word "子".toList, .blank,
        .word "to".toList, .blank, .word "Sales".toList, .punctuation ['!']] := by decide +kernel
  rw [parseSource_eq_ok_iff, hvalues]
  have hann : Element (.word "Ann".toList :: ([.blank] ++ [.word "Lee".toList]))
      "Ann Lee".toList := .next (by decide) (by decide) (.word (by decide))
  have hglued : Element (.word "花".toList :: ([] ++ [.word "子".toList])) "花子".toList :=
    .next (by decide) (by decide) (.word (by decide))
  have hnames : Names _ ["Ann Lee".toList, "花子".toList] :=
    .mk gap_blank (.more hann gap_blank .and gap_blank (.last hglued gap_blank))
  have hdepartments : Names _ ["Sales".toList] :=
    .mk gap_blank (.last (.word (v := .word "Sales".toList) (by decide)) gap_nil)
  exact (Sentence.add (m := .overwrite) hnames hdepartments).program

theorem wellFormed_gluedName :
    parseSource "Add Ann\u2003\u2003Lee and 花子 to Sales!".toList =
        .ok [.add ["Ann Lee".toList, "花子".toList] ["Sales".toList] .overwrite] ∧
      (Operation.add ["Ann Lee".toList, "花子".toList] ["Sales".toList] .overwrite).WellFormed :=
  ⟨parseSource_gluedName, wellFormed_of_parseSource parseSource_gluedName _ (by simp)⟩

end Roster
