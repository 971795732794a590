import Mathlib.Data.List.Chain
import Roster.Proofs.SourceTokens

/-! Canonical list elements, the texts that a source gives back as it was written. Their words are
the same in a sentence as on their own. -/
namespace Roster
open Grammar Text Vocabulary

/-- No letter of class Extend stands first or behind a space. -/
def Anchored (e : Text) : Prop :=
  (' ' :: e).IsChain fun c d => c = ' ' → WordBreak.ofChar d ≠ .extend

instance (e : Text) : Decidable (Anchored e) := inferInstanceAs (Decidable (List.IsChain _ _))

/-- Letters and single spaces, neither first nor last, and no reserved word among the words. -/
structure Canonical (e : Text) : Prop where
  ne_nil : e ≠ []
  chars : ∀ c ∈ e, isLetter c = true ∨ c = ' '
  single : (' ' :: e).IsChain fun c d => c = ' ' → d ≠ ' '
  last : e.getLast? ≠ some ' '
  anchored : Anchored e
  words : ∀ w ∈ words e, .word w ∉ reserved

instance (e : Text) : Decidable (Canonical e) :=
  decidable_of_iff
    (e ≠ [] ∧ (e.all fun c => isLetter c || c == ' ') = true ∧
      ((' ' :: e).IsChain fun c d => c = ' ' → d ≠ ' ') ∧ e.getLast? ≠ some ' ' ∧ Anchored e ∧
        ∀ w ∈ Text.words e, .word w ∉ reserved)
    ⟨fun ⟨h₁, h₂, h₃, h₄, h₅, h₆⟩ => ⟨h₁, by simpa using h₂, h₃, h₄, h₅, h₆⟩,
      fun ⟨h₁, h₂, h₃, h₄, h₅, h₆⟩ => ⟨h₁, by simpa using h₂, h₃, h₄, h₅, h₆⟩⟩

/-- Letters that are no reserved word. -/
structure IsWord (w : Text) : Prop where
  ne_nil : w ≠ []
  letters : ∀ c ∈ w, isLetter c = true
  free : .word w ∉ reserved

/-- Words, with at most one space between two of them. -/
inductive Phrase : List Text → Prop
  | word {w : Text} : IsWord w → Phrase [w]
  | next {w : Text} {ps : List Text} : IsWord w → Phrase ps → Phrase (w :: ps)
  | spaced {w : Text} {ps : List Text} : IsWord w → Phrase ps → Phrase (w :: [' '] :: ps)

theorem isLetter_space : isLetter ' ' = false := by decide

theorem classify_space : classify [' '] = .blank := by decide

theorem IsWord.classify_eq {w : Text} (h : IsWord w) : classify w = .word w :=
  classify_of_letters h.ne_nil h.letters

theorem IsWord.isName {w : Text} (h : IsWord w) : IsName (.word w) := ⟨rfl, h.free⟩

theorem isWord_of_isName {w : Text} (h : IsName (classify w)) : IsWord w := by
  obtain ⟨hne, hletters, heq⟩ := letters_of_classify h.1
  exact ⟨hne, hletters, heq ▸ h.2⟩

theorem IsWord.ne_space {w : Text} (h : IsWord w) {c : Char} (hc : c ∈ w) : c ≠ ' ' := by
  rintro rfl
  simpa [isLetter_space] using h.letters ' ' hc

/-- The element that a phrase stands for is its text. -/
theorem Phrase.element {ps : List Text} (h : Phrase ps) :
    Element (ps.map classify) ps.flatten := by
  induction h with
  | @word w hw =>
    have : Element [.word w] w := .word hw.isName
    simpa [hw.classify_eq] using this
  | @next w ps hw _ ih =>
    have : Element (.word w :: ([] ++ ps.map classify)) (w ++ space [] ++ ps.flatten) :=
      .next hw.isName gap_nil ih
    simpa [hw.classify_eq] using this
  | @spaced w ps hw _ ih =>
    have : Element (.word w :: ([.blank] ++ ps.map classify))
        (w ++ space [.blank] ++ ps.flatten) := .next hw.isName (by decide) ih
    simpa [hw.classify_eq, classify_space] using this

theorem Phrase.mem {ps : List Text} (h : Phrase ps) : ∀ p ∈ ps, p = [' '] ∨ IsWord p := by
  induction h with
  | word hw => simpa using Or.inr hw
  | next hw _ ih => exact List.forall_mem_cons.2 ⟨.inr hw, ih⟩
  | spaced hw _ ih => exact List.forall_mem_cons.2 ⟨.inr hw, List.forall_mem_cons.2 ⟨.inl rfl, ih⟩⟩

theorem Phrase.head {w : Text} {ps : List Text} (h : Phrase (w :: ps)) : IsWord w := by
  cases h <;> assumption

/-- Behind a word, only what follows it matters. -/
theorem IsWord.isChain_append_iff {w : Text} (hw : IsWord w) (P : Char → Prop) (s : Text) :
    (' ' :: (w ++ s)).IsChain (fun c d => c = ' ' → P d) ↔
      (∀ c ∈ w.head?, P c) ∧ s.IsChain fun c d => c = ' ' → P d := by
  have skip : ∀ {w : Text}, (∀ c ∈ w, c ≠ ' ') →
      ((w ++ s).IsChain (fun c d => c = ' ' → P d) ↔ s.IsChain fun c d => c = ' ' → P d) := by
    intro w hw
    induction w with
    | nil => rfl
    | cons c w ih =>
      rw [List.cons_append, List.isChain_cons, ih fun d hd => hw d (List.mem_cons_of_mem _ hd)]
      exact and_iff_right fun d _ hc => absurd hc (hw c List.mem_cons_self)
  obtain ⟨c, w', rfl⟩ := List.exists_cons_of_ne_nil hw.ne_nil
  rw [List.cons_append, List.isChain_cons_cons, ← List.cons_append, skip fun d hd => hw.ne_space hd]
  simp

theorem Phrase.ne_nil {ps : List Text} (h : Phrase ps) : ps.flatten ≠ [] := by
  cases h with
  | word hw => simpa using hw.ne_nil
  | next hw _ => simp [hw.ne_nil]
  | spaced => simp

theorem Phrase.isChain {ps : List Text} (h : Phrase ps) :
    (' ' :: ps.flatten).IsChain fun c d => c = ' ' → d ≠ ' ' := by
  have head : ∀ {w : Text}, IsWord w → ∀ c ∈ w.head?, c ≠ ' ' :=
    fun hw c hc => hw.ne_space (List.mem_of_mem_head? hc)
  induction h with
  | word hw => simpa using (hw.isChain_append_iff _ []).2 ⟨head hw, .nil⟩
  | next hw _ ih => exact (hw.isChain_append_iff _ _).2 ⟨head hw, ih.tail⟩
  | spaced hw _ ih => exact (hw.isChain_append_iff _ _).2 ⟨head hw, ih⟩

theorem Phrase.getLast_ne_space {ps : List Text} (h : Phrase ps) :
    ps.flatten.getLast? ≠ some ' ' := by
  induction h with
  | word hw =>
    rw [List.flatten_singleton]
    exact fun hlast => hw.ne_space (List.mem_of_getLast? hlast) rfl
  | next _ hps ih =>
    rwa [List.flatten_cons, List.getLast?_append_of_ne_nil _ hps.ne_nil]
  | spaced _ hps ih =>
    rwa [List.flatten_cons, List.flatten_cons, ← List.append_assoc,
      List.getLast?_append_of_ne_nil _ hps.ne_nil]

theorem Phrase.chars {ps : List Text} (h : Phrase ps) :
    ∀ c ∈ ps.flatten, isLetter c = true ∨ c = ' ' := by
  intro c hc
  obtain ⟨p, hp, hcp⟩ := List.mem_flatten.1 hc
  rcases h.mem p hp with rfl | hw
  · exact .inr (List.mem_singleton.1 hcp)
  · exact .inl (hw.letters c hcp)

/-- An anchored text whose words are a phrase is canonical. -/
theorem Phrase.canonical {ps : List Text} (h : Phrase ps) (ha : Anchored ps.flatten)
    (hwords : words ps.flatten = ps) : Canonical ps.flatten := by
  refine ⟨h.ne_nil, h.chars, h.isChain, h.getLast_ne_space, ha, ?_⟩
  rw [hwords]
  intro p hp
  rcases h.mem p hp with rfl | hw
  · decide
  · exact hw.free

/-- Where a word begins with no attached mark, the rule sees it alike wherever it stands. -/
theorem IsWord.beginsWord {w : Text} (h : IsWord w)
    (ha : ∀ c ∈ w.head?, WordBreak.ofChar c ≠ .extend) : BeginsWord w := by
  obtain ⟨c, s, rfl⟩ := List.exists_cons_of_ne_nil h.ne_nil
  exact ⟨fun d hd => .inl (h.letters d hd), c, rfl, ha c rfl⟩

theorem IsWord.rule_of_endsWord {w : Text} (h : IsWord w) (hb : BeginsWord w) {after : Text}
    (ha : EndsWord after) (before : Text) : wordRule (w.reverse ++ before) after = true :=
  hb.wordRule_of_endsWord (endsLetter_of_letters h.ne_nil h.letters) ha before

/-- A mark that belongs to the character before it is not cut off. -/
theorem IsWord.ne_extend_of_rule {w : Text} (h : IsWord w) {n : Char} {before after : Text}
    (hr : wordRule (w.reverse ++ before) (n :: after) = true) : WordBreak.ofChar n ≠ .extend := by
  intro hn
  obtain ⟨p, s, hp⟩ := List.exists_cons_of_ne_nil (List.reverse_ne_nil_iff.2 h.ne_nil)
  have hletter : IsElementChar p := .inl (h.letters p (List.mem_reverse.1 (by simp [hp])))
  have hline := hletter.isLineEnd_eq_false.1
  rw [hp, List.cons_append, wordRule_of_isAttached hline (by simp [hn, WordBreak.isAttached])] at hr
  cases hr

/-- A word with the next one right behind it. -/
theorem IsWord.isCut_next {w : Text} (hw : IsWord w) (hb : BeginsWord w) {before rest : Text}
    {n : Char} (hn : isLetter n = true) (hu : Unbroken wordRule before w (n :: rest))
    (hr : wordRule (w.reverse ++ before) (n :: rest) = true) {ps : List Text} {s : Text}
    (hflat : ps.flatten = n :: s) (hps : ∀ before', IsCut wordRule before' ps [])
    (before' : Text) : IsCut wordRule before' (w :: ps) [] := by
  have hrule : wordRule (w.reverse ++ before') (ps.flatten ++ []) = true := by
    rw [hflat, List.append_nil, ← hr]
    exact hb.wordRule_eq (.inl hn) _ _ _ _
  exact ⟨hw.ne_nil, hb.unbroken hu _ _, hrule, hps _⟩

/-- A word with a space behind it. -/
theorem IsWord.isCut_spaced {w : Text} (hw : IsWord w) (hb : BeginsWord w) {before after : Text}
    (hu : Unbroken wordRule before w after) {ps : List Text} {n : Char} {s : Text}
    (hflat : ps.flatten = n :: s) (hn : (WordBreak.ofChar n).isFree = true)
    (hps : ∀ before', IsCut wordRule before' ps []) (before' : Text) :
    IsCut wordRule before' (w :: [' '] :: ps) [] := by
  have hspace : wordRule ([' '].reverse ++ (w.reverse ++ before')) (ps.flatten ++ []) = true := by
    rw [hflat]
    exact wordRule_space hn
  exact ⟨hw.ne_nil, hb.unbroken hu _ _, hw.rule_of_endsWord hb (endsWord_space _) _, by simp,
    unbroken_singleton _ _ _ _, hspace, hps _⟩

/-- The pieces of an element, with a space for each gap, are its words if it is anchored. -/
theorem exists_phrase {vs : List TokenValue} {e : Text} (h : Element vs e) {ps : List Text}
    (hps : ps.map classify = vs) {before after : Text} (hcut : IsCut wordRule before ps after) :
    ∃ w ps' qs, ps = w :: ps' ∧ Phrase (w :: qs) ∧ (w :: qs).flatten = e ∧
      (Anchored e → ∀ before', IsCut wordRule before' (w :: qs) []) := by
  induction h generalizing ps before with
  | @word v hv =>
    obtain ⟨w, rfl, rfl⟩ := List.map_eq_singleton_iff.1 hps
    have hw := isWord_of_isName hv
    have htext : (classify w).text = w ++ [] := by simp [hw.classify_eq, TokenValue.word]
    refine ⟨w, [], [], rfl, .word hw, by simp [htext], fun ha before' => ?_⟩
    rw [htext] at ha
    have hb := hw.beginsWord ((hw.isChain_append_iff _ _).1 ha).1
    exact ⟨hw.ne_nil, hb.unbroken hcut.2.1 _ _, wordRule_nil _, trivial⟩
  | @next v gap vs text hv hgap he ih =>
    obtain ⟨w, rest, rfl, rfl, hrest⟩ := List.map_eq_cons_iff.1 hps
    obtain ⟨gs, ps, rfl, hgs, hps⟩ := List.map_eq_append_iff.1 hrest
    have hw := isWord_of_isName hv
    have htext : (classify w).text = w := by rw [hw.classify_eq, TokenValue.word]
    obtain ⟨-, hu, hr, hcut⟩ := hcut
    obtain ⟨w', ps', qs, rfl, hphrase, rfl, hqs⟩ := ih hps (isCut_append.1 hcut).2
    obtain ⟨c, s, rfl⟩ := List.exists_cons_of_ne_nil hphrase.head.ne_nil
    have hletter : isLetter c = true := hphrase.head.letters c (by simp)
    rw [htext]
    rcases gap with _ | ⟨g, gap⟩
    · obtain rfl := List.map_eq_nil_iff.1 hgs
      refine ⟨w, _, (c :: s) :: qs, rfl, .next hw hphrase, by simp, fun ha => ?_⟩
      rw [space_nil, List.append_nil] at ha
      obtain ⟨hhead, hchain⟩ := (hw.isChain_append_iff _ _).1 ha
      -- the cut between the two words tells that no attached mark begins the second
      have hanchored : Anchored ((c :: s) :: qs).flatten :=
        List.isChain_cons_cons.2 ⟨fun _ => hw.ne_extend_of_rule hr, hchain⟩
      exact hw.isCut_next (hw.beginsWord hhead) hletter hu hr rfl (hqs hanchored)
    · refine ⟨w, _, [' '] :: (c :: s) :: qs, rfl, .spaced hw hphrase, by simp, fun ha => ?_⟩
      rw [space_cons, List.append_assoc] at ha
      obtain ⟨hhead, hanchored⟩ := (hw.isChain_append_iff _ _).1 ha
      have hc : WordBreak.ofChar c ≠ .extend := (List.isChain_cons_cons.1 hanchored).1 rfl
      exact hw.isCut_spaced (hw.beginsWord hhead) hu rfl (WordBreak.isFree_of_isLetter hletter hc)
        (hqs hanchored)

theorem Canonical.behind_space {e : Text} (h : Canonical e) {u v : Text} {d : Char}
    (heq : e = u ++ ' ' :: d :: v) :
    isLetter d = true ∧ (WordBreak.ofChar d).isFree = true := by
  have hsingle := h.single.tail
  have hanchored := h.anchored.tail
  subst heq
  have hd : d ≠ ' ' := (List.isChain_append_cons_cons.1 hsingle).2.1 rfl
  have hext : WordBreak.ofChar d ≠ .extend := (List.isChain_append_cons_cons.1 hanchored).2.1 rfl
  have hletter : isLetter d = true := (h.chars d (by simp)).resolve_right hd
  exact ⟨hletter, WordBreak.isFree_of_isLetter hletter hext⟩

theorem Canonical.before_space {e : Text} (h : Canonical e) {u v : Text} {c : Char}
    (heq : e = u ++ c :: ' ' :: v) : WordBreak.ofChar c ≠ .wSegSpace := by
  have hsingle := h.single.tail
  subst heq
  have hc : c ≠ ' ' := fun hc => (List.isChain_append_cons_cons.1 hsingle).2.1 hc rfl
  exact ofChar_ne_wSegSpace ((h.chars c (by simp)).resolve_right hc)

theorem Canonical.piece {e : Text} (h : Canonical e) {p : Text} (hp : p ∈ Text.words e) :
    p = [' '] ∨ IsWord p := by
  have hcut : IsCut wordRule [] (Text.words e) [] := isCut_cut wordRule_nil [] e
  obtain ⟨u, v, heq, hu⟩ := hcut.unbroken_of_mem hp
  rw [flatten_words] at heq
  -- a space is cut off on both sides, so a piece that holds one is that space
  by_cases hspace : ' ' ∈ p
  · obtain ⟨x, y, rfl⟩ := List.append_of_mem hspace
    left
    have hy : y = [] := by
      by_contra hy
      obtain ⟨d, y, rfl⟩ := List.exists_cons_of_ne_nil hy
      have hfree := (h.behind_space (u := u ++ x) (d := d) (v := y ++ v) (by simp [heq])).2
      have hfalse := hu (x ++ [' ']) (d :: y) (by simp) (by simp) (by simp)
      rw [List.reverse_append, List.reverse_singleton, List.singleton_append, List.cons_append,
        List.cons_append, wordRule_space hfree] at hfalse
      cases hfalse
    have hx : x = [] := by
      by_contra hx
      obtain ⟨x, c, rfl⟩ := (List.eq_nil_or_concat x).resolve_left hx
      rw [List.concat_eq_append] at heq hu
      have hc := h.before_space (u := u ++ x) (c := c) (v := y ++ v) (by simp [heq])
      have hfalse := hu (x ++ [c]) (' ' :: y) (by simp) (by simp) (by simp)
      rw [List.reverse_append, List.reverse_singleton, List.singleton_append, List.cons_append,
        List.cons_append, wordRule_before_space hc] at hfalse
      cases hfalse
    rw [hx, hy, List.nil_append]
  · right
    refine ⟨hcut.ne_nil p hp, fun c hc => ?_, h.words p hp⟩
    refine (h.chars c (by simp [heq, hc])).resolve_right ?_
    rintro rfl
    exact hspace hc

theorem phrase_of_pieces : ∀ {ps : List Text}, ps ≠ [] → (∀ p ∈ ps, p = [' '] ∨ IsWord p) →
    ((' ' :: ps.flatten).IsChain fun c d => c = ' ' → d ≠ ' ') →
    ps.flatten.getLast? ≠ some ' ' → Phrase ps
  | [], hne, _, _, _ => absurd rfl hne
  | [p], _, hps, hchain, _ => by
    rcases hps p (by simp) with rfl | hp
    · exact absurd rfl ((List.isChain_cons_cons.1 hchain).1 rfl)
    · exact .word hp
  | p :: q :: ps, _, hps, hchain, hlast => by
    rcases hps p (by simp) with rfl | hp
    · exact absurd rfl ((List.isChain_cons_cons.1 hchain).1 rfl)
    · have hrest := ((hp.isChain_append_iff _ _).1 hchain).2
      rcases hps q (by simp) with rfl | hq
      · have hflat : ps.flatten ≠ [] := by
          intro hnil
          simp [hnil] at hlast
        refine .spaced hp (phrase_of_pieces (fun hnil => hflat (by simp [hnil]))
          (fun r hr => hps r (by simp [hr])) hrest ?_)
        rwa [List.flatten_cons, List.flatten_cons, ← List.append_assoc,
          List.getLast?_append_of_ne_nil _ hflat] at hlast
      · refine .next hp (phrase_of_pieces (by simp) (fun r hr => hps r (by simp [hr])) ?_ ?_)
        · obtain ⟨c, q, rfl⟩ := List.exists_cons_of_ne_nil hq.ne_nil
          exact List.isChain_cons_cons.2 ⟨fun _ => hq.ne_space (by simp), hrest⟩
        · rwa [List.flatten_cons, List.getLast?_append_of_ne_nil _ (by simp [hq.ne_nil])] at hlast

theorem Canonical.phrase {e : Text} (h : Canonical e) : Phrase (Text.words e) := by
  refine phrase_of_pieces (cut_ne_nil h.ne_nil) (fun p hp => h.piece hp) ?_ ?_
  · rw [flatten_words]
    exact h.single
  · rw [flatten_words]
    exact h.last

theorem Canonical.beginsWord {e : Text} (h : Canonical e) : BeginsWord e := by
  obtain ⟨c, e, rfl⟩ := List.exists_cons_of_ne_nil h.ne_nil
  exact ⟨h.chars, c, rfl, (List.isChain_cons_cons.1 h.anchored).1 rfl⟩

theorem Canonical.isLetter_head {e : Text} (h : Canonical e) :
    ∀ c ∈ e.head?, isLetter c = true := by
  intro c hc
  refine (h.chars c (List.mem_of_mem_head? hc)).resolve_right ?_
  rintro rfl
  obtain ⟨e, rfl⟩ := List.head?_eq_some_iff.1 hc
  exact (List.isChain_cons_cons.1 h.single).1 rfl rfl

theorem Canonical.endsLetter {e : Text} (h : Canonical e) : EndsLetter e := by
  refine ⟨e.getLast h.ne_nil, List.getLast?_eq_some_getLast h.ne_nil, ?_⟩
  refine (h.chars _ (List.getLast_mem h.ne_nil)).resolve_right fun hspace => h.last ?_
  rw [List.getLast?_eq_some_getLast h.ne_nil, hspace]

/-- The words of a canonical element are its words in any sentence. -/
theorem Canonical.isCut {e : Text} (h : Canonical e) {after : Text} (ha : EndsWord after)
    (before : Text) : IsCut wordRule before (Text.words e) after :=
  h.beginsWord.isCut h.endsLetter ha before

end Roster
