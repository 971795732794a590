import Roster.Text.Cut

/-! What a rule cuts a text into, as a property of the pieces: no cut within a piece, one behind
each. It composes, and only the rule's answers along the text matter. -/
namespace Roster.Text

/-- The rule cuts nowhere within a piece that stands between two texts. -/
def Unbroken (rule : CutRule) (before piece after : Text) : Prop :=
  ∀ u v, piece = u ++ v → u ≠ [] → v ≠ [] → rule (u.reverse ++ before) (v ++ after) = false

/-- The pieces, between two texts, are what the rule cuts; it also cuts behind the last of them. -/
def IsCut (rule : CutRule) : Text → List Text → Text → Prop
  | _, [], _ => True
  | before, piece :: pieces, after =>
    piece ≠ [] ∧ Unbroken rule before piece (pieces.flatten ++ after) ∧
      rule (piece.reverse ++ before) (pieces.flatten ++ after) = true ∧
      IsCut rule (piece.reverse ++ before) pieces after

@[simp] theorem isCut_nil (rule : CutRule) (before after : Text) : IsCut rule before [] after :=
  trivial

theorem unbroken_singleton (rule : CutRule) (before after : Text) (c : Char) :
    Unbroken rule before [c] after := by
  intro u v h hu hv
  rcases u with _ | ⟨a, _ | ⟨b, u⟩⟩
  · exact absurd rfl hu
  · exact absurd (List.cons.inj h).2.symm hv
  · simp at h

theorem isCut_singleton {rule : CutRule} {before after : Text} {c : Char} :
    IsCut rule before [[c]] after ↔ rule (c :: before) after = true := by
  simp [IsCut, unbroken_singleton]

theorem isCut_append {rule : CutRule} {before after : Text} {ps qs : List Text} :
    IsCut rule before (ps ++ qs) after ↔
      IsCut rule before ps (qs.flatten ++ after) ∧
        IsCut rule (ps.flatten.reverse ++ before) qs after := by
  induction ps generalizing before with
  | nil => simp
  | cons p ps ih => simp [IsCut, ih, and_assoc]

theorem IsCut.ne_nil {rule : CutRule} {before after : Text} {ps : List Text}
    (h : IsCut rule before ps after) : ∀ p ∈ ps, p ≠ [] := by
  induction ps generalizing before with
  | nil => simp
  | cons p ps ih => exact List.forall_mem_cons.2 ⟨h.1, ih h.2.2.2⟩

theorem IsCut.unbroken_of_mem {rule : CutRule} {before after : Text} {ps : List Text}
    (h : IsCut rule before ps after) {p : Text} (hp : p ∈ ps) :
    ∃ u v, ps.flatten = u ++ (p ++ v) ∧ Unbroken rule (u.reverse ++ before) p (v ++ after) := by
  induction ps generalizing before with
  | nil => cases hp
  | cons q ps ih =>
    obtain ⟨-, hu, -, hps⟩ := h
    rcases List.mem_cons.1 hp with rfl | hp
    · exact ⟨[], ps.flatten, rfl, hu⟩
    · obtain ⟨u, v, heq, huv⟩ := ih hps hp
      exact ⟨q ++ u, v, by simp [heq], by simpa using huv⟩

/-- Only the rule's answers along the text matter. -/
theorem isCut_congr {rule rule' : CutRule} {before before' after after' : Text} {ps : List Text}
    (h : ∀ u v, ps.flatten = u ++ v → u ≠ [] →
      rule (u.reverse ++ before) (v ++ after) = rule' (u.reverse ++ before') (v ++ after')) :
    IsCut rule before ps after ↔ IsCut rule' before' ps after' := by
  induction ps generalizing before before' with
  | nil => simp
  | cons p ps ih =>
    by_cases hp : p = []
    · simp [IsCut, hp]
    have inner : ∀ u v, p = u ++ v → u ≠ [] →
        rule (u.reverse ++ before) (v ++ (ps.flatten ++ after)) =
          rule' (u.reverse ++ before') (v ++ (ps.flatten ++ after')) := by
      intro u v heq hu
      have := h u (v ++ ps.flatten) (by simp [heq]) hu
      simpa using this
    have rest := @ih (p.reverse ++ before) (p.reverse ++ before') (by
      intro u v heq hu
      have := h (p ++ u) v (by simp [heq]) (by simp [hp])
      simpa using this)
    have piece : Unbroken rule before p (ps.flatten ++ after) ↔
        Unbroken rule' before' p (ps.flatten ++ after') := by
      constructor
      · intro hu u v heq hune hvne
        rw [← inner u v heq hune]
        exact hu u v heq hune hvne
      · intro hu u v heq hune hvne
        rw [inner u v heq hune]
        exact hu u v heq hune hvne
    have behind := inner p [] (by simp) hp
    simp only [List.nil_append] at behind
    simp only [IsCut, piece, behind, rest]

theorem cut_ne_nil {rule : CutRule} {before s : Text} (h : s ≠ []) : cut rule before s ≠ [] := by
  intro hnil
  have := flatten_cut rule before s
  simp [hnil, h.symm] at this

/-- A character in front of a text is a piece of its own or goes on into the first one. -/
theorem cut_cons {rule : CutRule} {before s piece : Text} {pieces : List Text} {c : Char}
    (h : cut rule (c :: before) s = piece :: pieces) :
    cut rule before (c :: s) =
      if rule (c :: before) s then [c] :: piece :: pieces else (c :: piece) :: pieces := by
  rw [cut, h]

theorem cut_piece {rule : CutRule} {before piece after : Text} (hp : piece ≠ [])
    (hu : Unbroken rule before piece after)
    (hr : rule (piece.reverse ++ before) after = true) :
    cut rule before (piece ++ after) = piece :: cut rule (piece.reverse ++ before) after := by
  induction piece generalizing before with
  | nil => exact absurd rfl hp
  | cons c piece ih =>
    cases piece with
    | nil =>
      simp only [List.reverse_singleton, List.singleton_append] at hr ⊢
      rw [cut]
      split
      next hnil =>
        by_cases ha : after = []
        · simp [ha]
        · exact absurd hnil (cut_ne_nil ha)
      next heq => simp [hr, heq]
    | cons d piece =>
      have hinner : rule (c :: before) (d :: piece ++ after) = false :=
        hu [c] (d :: piece) rfl (by simp) (by simp)
      have htail : cut rule (c :: before) (d :: piece ++ after) =
          (d :: piece) :: cut rule ((d :: piece).reverse ++ (c :: before)) after := by
        apply ih (by simp)
        · intro u v heq hune hvne
          have := hu (c :: u) v (by simp [heq]) (by simp) hvne
          simpa using this
        · simpa using hr
      rw [List.cons_append, cut, htail]
      simp only [hinner, Bool.false_eq_true, ↓reduceIte]
      simp

/-- Pieces that a rule cuts are pieces of the whole. -/
theorem IsCut.cut_eq {rule : CutRule} {before after : Text} {ps : List Text}
    (h : IsCut rule before ps after) :
    cut rule before (ps.flatten ++ after) =
      ps ++ cut rule (ps.flatten.reverse ++ before) after := by
  induction ps generalizing before with
  | nil => simp
  | cons p ps ih =>
    obtain ⟨hp, hu, hr, hps⟩ := h
    rw [List.flatten_cons, List.append_assoc, cut_piece hp hu hr, ih hps]
    simp

/-- What is cut is a cut, for a rule that cuts at the end of a text. -/
theorem isCut_cut {rule : CutRule} (hend : ∀ before, rule before [] = true) (before s : Text) :
    IsCut rule before (cut rule before s) [] := by
  induction s generalizing before with
  | nil => simp
  | cons c s ih =>
    have h := ih (c :: before)
    have hflat := flatten_cut rule (c :: before) s
    rw [cut]
    split
    next => simp [IsCut, unbroken_singleton, hend]
    next p ps heq =>
      rw [heq] at h hflat
      obtain ⟨hp, hu, hr, hps⟩ := h
      by_cases hrule : rule (c :: before) s = true
      · rw [if_pos hrule]
        have hbehind : rule (c :: before) ((p :: ps).flatten ++ []) = true := by
          rw [hflat, List.append_nil]
          exact hrule
        exact ⟨by simp, unbroken_singleton _ _ _ _, hbehind, hp, hu, hr, hps⟩
      · rw [if_neg hrule]
        refine ⟨by simp, ?_, by simpa using hr, by simpa using hps⟩
        intro u v heq' hune hvne
        rcases u with _ | ⟨d, u⟩
        · exact absurd rfl hune
        · obtain ⟨rfl, rfl⟩ := List.cons.inj heq'
          by_cases hu' : u = []
          · subst hu'
            have hs : v ++ (ps.flatten ++ []) = s := by simpa using hflat
            rw [hs]
            exact Bool.eq_false_iff.2 hrule
          · have := hu u v rfl hu' hvne
            simpa using this

/-- The rule that also cuts at the end of a text. -/
def CutRule.orEnd (rule : CutRule) : CutRule := fun before after =>
  after.isEmpty || rule before after

theorem cut_orEnd (rule : CutRule) (before s : Text) :
    cut rule.orEnd before s = cut rule before s := by
  induction s generalizing before with
  | nil => rfl
  | cons c s ih =>
    rw [cut, cut, ih]
    cases s with
    | nil => rfl
    | cons d s => rfl

/-- Lines are cut behind line feeds, and the last one where the text ends. -/
theorem isCut_lines (s : Text) : IsCut lineRule.orEnd [] s.lines [] := by
  rw [lines, ← cut_orEnd]
  exact isCut_cut (fun _ => rfl) [] s

theorem IsCut.eq_cut {rule : CutRule} {before : Text} {ps : List Text}
    (h : IsCut rule before ps []) : cut rule before ps.flatten = ps := by
  simpa using h.cut_eq

/-- Characters that are not cut apart stand in one piece. -/
theorem mem_cut_of_rule_eq_false {rule : CutRule} {before u v : Text} {c d : Char}
    (h : rule (c :: (u.reverse ++ before)) (d :: v) = false) :
    ∃ piece ∈ cut rule before (u ++ c :: d :: v), c ∈ piece ∧ d ∈ piece := by
  induction u generalizing before with
  | nil =>
    have hd : ∃ piece pieces, cut rule (c :: before) (d :: v) = piece :: pieces ∧ d ∈ piece := by
      rw [cut]
      split
      · exact ⟨_, _, rfl, by simp⟩
      · split
        · exact ⟨_, _, rfl, by simp⟩
        · exact ⟨_, _, rfl, by simp⟩
    obtain ⟨piece, pieces, heq, hmem⟩ := hd
    simp only [List.reverse_nil, List.nil_append] at h
    rw [List.nil_append, cut, heq]
    simp [h, hmem]
  | cons e u ih =>
    obtain ⟨piece, hpiece, hc, hd⟩ := @ih (e :: before) (by simpa using h)
    rw [List.cons_append, cut]
    split
    next hnil => simp [hnil] at hpiece
    next p ps heq =>
      rw [heq] at hpiece
      split
      · exact ⟨piece, List.mem_cons_of_mem _ hpiece, hc, hd⟩
      · rcases List.mem_cons.1 hpiece with rfl | hpiece
        · exact ⟨_, List.mem_cons_self, List.mem_cons_of_mem _ hc, List.mem_cons_of_mem _ hd⟩
        · exact ⟨piece, List.mem_cons_of_mem _ hpiece, hc, hd⟩

end Roster.Text
