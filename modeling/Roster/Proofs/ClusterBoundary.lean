import Mathlib.Data.List.Chain
import Roster.Proofs.BlankBoundary
import Roster.Text.Grapheme

/-! Where the words of a source meet grapheme clusters. No character of a token links a conjunct, an
emoji or a flag, so the cluster rule asks for the classes on both sides of a position only. It joins
what the word rule cuts in two places: in front of a vowel sign that is a letter, and behind a
letter that is prepended to what follows. -/
namespace Roster.Text

namespace CodeTable

variable {α : Type} [DecidableEq α]

/-- Whether all codes from `lo` to `hi` have the class `a` in a table with the class `d` in its
gaps. -/
def isConst (d a : α) (lo hi : Nat) : CodeTable α → Bool
  | [] => a = d
  | (first, last, b) :: table =>
    if last < lo ∧ first ≤ last then isConst d a lo hi table
    else if hi < first then a = d
    else decide (first ≤ lo ∧ hi ≤ last ∧ b = a)

theorem getD_find?_of_isConst {d a : α} {lo hi n : Nat} {table : CodeTable α}
    (h : isConst d a lo hi table = true) (hlo : lo ≤ n) (hhi : n ≤ hi) :
    (table.find? n).getD d = a := by
  induction table with
  | nil =>
    have ha : a = d := by simpa [isConst] using h
    rw [ha]
    rfl
  | cons entry table ih =>
    obtain ⟨first, last, b⟩ := entry
    unfold isConst at h
    unfold CodeTable.find?
    split at h
    next hlast =>
      have hfirst : ¬n < first := by omega
      have hn : ¬n ≤ last := by omega
      rw [if_neg hfirst, if_neg hn]
      exact ih h
    next =>
      split at h
      next hfirst =>
        have hn : n < first := by omega
        have ha : a = d := by simpa using h
        rw [if_pos hn, ha]
        rfl
      next =>
        obtain ⟨hfirst, hlast, hb⟩ := of_decide_eq_true h
        have hn : ¬n < first := by omega
        have hn' : n ≤ last := by omega
        rw [if_neg hn, if_pos hn', hb]
        rfl

end CodeTable

namespace GraphemeBreak

/-- Entries of the table with letters among their codes. -/
def letterEntries : CodeTable GraphemeBreak := [
  (0xD4E, 0xD4E, .prepend), (0xE33, 0xE33, .spacingMark), (0xEB3, 0xEB3, .spacingMark),
  (0x1100, 0x115F, .leading), (0x1160, 0x11A7, .vowel), (0x11A8, 0x11FF, .trailing),
  (0xA960, 0xA97C, .leading), (0xD7B0, 0xD7C6, .vowel), (0xD7CB, 0xD7FB, .trailing),
  (0xFF9E, 0xFF9F, .extend), (0x111C2, 0x111C3, .prepend), (0x1193F, 0x1193F, .prepend),
  (0x11941, 0x11941, .prepend), (0x11A3A, 0x11A3A, .prepend), (0x11A84, 0x11A89, .prepend),
  (0x11D46, 0x11D46, .prepend)]

/-- Whether a character of a token can have both classes. -/
def suits : GraphemeBreak → WordBreak → Bool
  | .other, w => !w.isLineEnd
  | .control, _ => true
  | .cr, w => w == .cr
  | .lf, w => w == .lf
  | .extend, w => w == .extend
  | .spacingMark, w => w == .other
  | .zwj, _ | .regionalIndicator, _ => false
  | _, w => w == .aLetter

/-- The word class of a letter with a cluster class of its own. -/
def wordClass : GraphemeBreak → WordBreak
  | .extend => .extend
  | .spacingMark => .other
  | _ => .aLetter

theorem letters_avoid_table :
    CodeRanges.avoids (fun entry => !letterEntries.contains entry) letterRanges table = true := by
  decide +kernel

theorem letterEntries_isConst : ∀ entry ∈ letterEntries,
    CodeTable.isConst .other (wordClass entry.2.2) entry.1 entry.2.1
      (if entry.2.1 < 0x10000 then WordBreak.basicTable else WordBreak.supplementaryTable) =
        true := by
  decide +kernel

theorem syllables_isConst :
    CodeTable.isConst .other .aLetter 0xAC00 0xD7A3 WordBreak.basicTable = true := by
  decide +kernel

theorem ofChar_of_mem_letterEntries {c : Char} {entry : Nat × Nat × GraphemeBreak}
    (h : entry ∈ letterEntries) (hfirst : entry.1 ≤ c.toNat) (hlast : c.toNat ≤ entry.2.1) :
    WordBreak.ofChar c = wordClass entry.2.2 := by
  have hplanes : ∀ entry ∈ letterEntries, entry.2.1 < 0x10000 ∨ 0x10000 ≤ entry.1 := by decide
  have hconst := letterEntries_isConst entry h
  have hclass := CodeTable.getD_find?_of_isConst hconst hfirst hlast
  rcases hplanes entry h with hbasic | hsupplementary
  · rw [if_pos hbasic] at hclass
    rw [WordBreak.ofChar, if_pos (by omega), hclass]
  · rw [if_neg (by omega)] at hclass
    rw [WordBreak.ofChar, if_neg (by omega), hclass]

theorem suits_of_isLetter {c : Char} (h : isLetter c = true) :
    suits (ofChar c) (WordBreak.ofChar c) = true := by
  have hentries : ∀ entry ∈ letterEntries, suits entry.2.2 (wordClass entry.2.2) = true := by
    decide
  rw [ofChar]
  cases hfind : table.find? c.toNat with
  | some g =>
    obtain ⟨first, last, hfirst, hlast, hmem⟩ :=
      CodeRanges.avoids_sound letters_avoid_table h hfind
    have hmem : (first, last, g) ∈ letterEntries := by simpa using hmem
    rw [ofChar_of_mem_letterEntries hmem hfirst hlast]
    exact hentries _ hmem
  | none =>
    rw [Option.getD_none, ofSyllable]
    split
    next hsyllable =>
      have hclass : WordBreak.ofChar c = .aLetter := by
        rw [WordBreak.ofChar, if_pos (by omega)]
        exact CodeTable.getD_find?_of_isConst syllables_isConst hsyllable.1 hsyllable.2
      rw [hclass]
      split <;> rfl
    next =>
      rcases WordBreak.ofChar_of_isLetter h with hfree | hext
      · revert hfree
        cases WordBreak.ofChar c <;> decide
      · rw [hext]
        rfl

/-- Blanks are controls or stand alone. -/
theorem ofChar_of_isBlank {c : Char} (h : isBlank c = true) :
    (ofChar c = .other ∨ (ofChar c).isControl = true) ∧
      suits (ofChar c) (WordBreak.ofChar c) = true := by
  refine forall_isBlank (P := fun c => (ofChar c = .other ∨ (ofChar c).isControl = true) ∧
    suits (ofChar c) (WordBreak.ofChar c) = true) ?_ h
  decide +kernel

theorem suits_of_isSourceChar {c : Char} (h : IsSourceChar c) :
    suits (ofChar c) (WordBreak.ofChar c) = true := by
  rcases h with hblank | hletter | hmark
  · exact (ofChar_of_isBlank hblank).2
  · exact suits_of_isLetter hletter
  · rcases WordBreak.eq_of_isMark hmark with rfl | rfl | rfl | rfl
    all_goals decide

end GraphemeBreak

namespace ConjunctBreak

theorem letters_avoid_linkers :
    CodeRanges.avoids (fun entry => entry.2.2 == ConjunctBreak.linker) letterRanges table =
      true := by
  decide +kernel

theorem ofChar_ne_linker {c : Char} (h : IsSourceChar c) : ofChar c ≠ .linker := by
  rcases h with hblank | hletter | hmark
  · exact forall_isBlank (P := fun c => ofChar c ≠ .linker) (by decide +kernel) hblank
  · intro hlinker
    rw [ofChar] at hlinker
    cases hfind : table.find? c.toNat with
    | none =>
      rw [hfind] at hlinker
      cases hlinker
    | some a =>
      obtain ⟨_, _, _, _, hok⟩ := CodeRanges.avoids_sound letters_avoid_linkers hletter hfind
      rw [hfind, Option.getD_some] at hlinker
      simp [hlinker] at hok
  · rcases WordBreak.eq_of_isMark hmark with rfl | rfl | rfl | rfl
    all_goals decide

/-- Without linkers no conjunct is open. -/
theorem isOpen_eq_false {s : Text} (h : ∀ c ∈ s, ofChar c ≠ .linker) : isOpen false s = false := by
  induction s with
  | nil => rfl
  | cons c s ih =>
    rw [List.forall_mem_cons] at h
    rw [isOpen]
    split
    next hc => exact absurd hc h.1
    next => exact ih h.2
    all_goals rfl

end ConjunctBreak

namespace GraphemeBreak

/-- Whether neighbours of classes `l` and `r` stand in one cluster. -/
def clings (l r : GraphemeBreak) : Bool :=
  l == .cr && r == .lf ||
    !(l.isControl || r.isControl) &&
      (joinsSyllable l r || r == .extend || r == .spacingMark || l == .prepend)

end GraphemeBreak

theorem graphemeRule_nil (before : Text) : graphemeRule before [] = true := by
  cases before <;> rfl

/-- Characters of tokens stand in one cluster by the classes of neighbours alone. -/
theorem graphemeRule_eq {p n : Char} {before after : Text}
    (hbefore : ∀ c ∈ p :: before, IsSourceChar c) (hn : IsSourceChar n) :
    graphemeRule (p :: before) (n :: after) =
      !(GraphemeBreak.ofChar p).clings (GraphemeBreak.ofChar n) := by
  have hopen : ConjunctBreak.isOpen false (p :: before) = false :=
    ConjunctBreak.isOpen_eq_false fun c hc => ConjunctBreak.ofChar_ne_linker (hbefore c hc)
  have hclass : ∀ {c}, IsSourceChar c →
      GraphemeBreak.ofChar c ≠ .zwj ∧ GraphemeBreak.ofChar c ≠ .regionalIndicator := by
    intro c hc
    have hsuits := GraphemeBreak.suits_of_isSourceChar hc
    constructor
    all_goals
      intro heq
      rw [heq] at hsuits
      cases hsuits
  obtain ⟨hzwj, hindicator⟩ := hclass (hbefore p (by simp))
  obtain ⟨hzwj', -⟩ := hclass hn
  unfold graphemeRule GraphemeBreak.clings
  simp only [hopen, hzwj, hzwj', hindicator]
  by_cases hcrlf : GraphemeBreak.ofChar p = .cr ∧ GraphemeBreak.ofChar n = .lf
  · simp [hcrlf]
  · have hcrlf' : (GraphemeBreak.ofChar p == .cr && GraphemeBreak.ofChar n == .lf) = false := by
      simpa using hcrlf
    rw [if_neg hcrlf, hcrlf', Bool.false_or]
    cases hcontrol : (GraphemeBreak.ofChar p).isControl || (GraphemeBreak.ofChar n).isControl
    · cases hsyllable : (GraphemeBreak.ofChar p).joinsSyllable (GraphemeBreak.ofChar n)
      · simp [Bool.beq_eq_decide_eq, Bool.and_assoc]
      · simp
    · simp

/-- Neighbours in one cluster that are not in one word: a vowel sign behind anything that is no
control, or what is no letter of a word behind a prepended letter. -/
structure Straddles (p n : Char) : Prop where
  before : (GraphemeBreak.ofChar p).isControl = false
  behind : (GraphemeBreak.ofChar n).isControl = false
  joined : GraphemeBreak.ofChar n = .spacingMark ∨ GraphemeBreak.ofChar p = .prepend ∧
    (WordBreak.ofChar n).isLetter = false ∧ WordBreak.ofChar n ≠ .extend

instance (p n : Char) : Decidable (Straddles p n) :=
  decidable_of_iff ((GraphemeBreak.ofChar p).isControl = false ∧
    (GraphemeBreak.ofChar n).isControl = false ∧ (GraphemeBreak.ofChar n = .spacingMark ∨
      GraphemeBreak.ofChar p = .prepend ∧ (WordBreak.ofChar n).isLetter = false ∧
        WordBreak.ofChar n ≠ .extend))
    ⟨fun h => ⟨h.1, h.2.1, h.2.2⟩, fun h => ⟨h.before, h.behind, h.joined⟩⟩

namespace GraphemeBreak

/-- A vowel sign belongs to anything that is no control. -/
theorem clings_spacingMark {l : GraphemeBreak} (hl : l.isControl = false) :
    l.clings .spacingMark = true := by
  have hr : isControl .spacingMark = false := rfl
  simp [clings, hl, hr]

theorem prepend_clings {r : GraphemeBreak} (hr : r.isControl = false) :
    clings .prepend r = true := by
  have hl : isControl .prepend = false := rfl
  simp [clings, hl, hr]

theorem isLineEnd_of_suits {g : GraphemeBreak} {w : WordBreak} (h : suits g w = true)
    (hg : g.isControl = false) : w.isLineEnd = false := by
  cases g
  all_goals first | (cases hg; done) | skip
  all_goals
    revert h
    cases w <;> decide

theorem letter_of_joinsSyllable {l r : GraphemeBreak} {v w : WordBreak}
    (h : l.joinsSyllable r = true) (hl : suits l v = true) (hr : suits r w = true) :
    v = .aLetter ∧ w = .aLetter := by
  cases l <;> cases r <;> first | (cases h; done) | simpa [suits] using And.intro hl hr

end GraphemeBreak

theorem Straddles.clings {p n : Char} (h : Straddles p n) :
    (GraphemeBreak.ofChar p).clings (GraphemeBreak.ofChar n) = true := by
  rcases h.joined with hn | ⟨hp, -⟩
  · rw [hn]
    exact GraphemeBreak.clings_spacingMark h.before
  · rw [hp]
    exact GraphemeBreak.prepend_clings h.behind

/-- Where the word rule cuts through a cluster, the neighbours straddle. -/
theorem straddles_of_clings {p n : Char} {before after : Text} (hp : IsSourceChar p)
    (hn : IsSourceChar n) (hrule : wordRule (p :: before) (n :: after) = true)
    (h : (GraphemeBreak.ofChar p).clings (GraphemeBreak.ofChar n) = true) : Straddles p n := by
  have hsuits := GraphemeBreak.suits_of_isSourceChar hp
  have hsuits' := GraphemeBreak.suits_of_isSourceChar hn
  unfold GraphemeBreak.clings at h
  simp only [Bool.or_eq_true, Bool.and_eq_true, beq_iff_eq, Bool.not_eq_true',
    Bool.or_eq_false_iff] at h
  rcases h with ⟨hcr, hlf⟩ | ⟨⟨hcontrol, hcontrol'⟩, hjoined⟩
  · have hcr' : WordBreak.ofChar p = .cr := by simpa [hcr, GraphemeBreak.suits] using hsuits
    have hlf' : WordBreak.ofChar n = .lf := by simpa [hlf, GraphemeBreak.suits] using hsuits'
    simp [wordRule, hcr', hlf'] at hrule
  · have hline := GraphemeBreak.isLineEnd_of_suits hsuits hcontrol
    have hext : WordBreak.ofChar n ≠ .extend := by
      intro hext
      rw [wordRule_of_isAttached hline (by rw [hext]; rfl)] at hrule
      cases hrule
    rcases hjoined with ((hsyllable | hextend) | hmark) | hprepend
    · obtain ⟨hl, hr⟩ := GraphemeBreak.letter_of_joinsSyllable hsyllable hsuits hsuits'
      rw [wordRule_of_isLetter (by rw [hl]; rfl) (by rw [hr]; rfl)] at hrule
      cases hrule
    · have hclass : WordBreak.ofChar n = .extend := by
        simpa [hextend, GraphemeBreak.suits] using hsuits'
      exact absurd hclass hext
    · exact ⟨hcontrol, hcontrol', .inl hmark⟩
    · refine ⟨hcontrol, hcontrol', .inr ⟨hprepend, ?_, hext⟩⟩
      have hl : WordBreak.ofChar p = .aLetter := by
        simpa [hprepend, GraphemeBreak.suits] using hsuits
      rw [Bool.eq_false_iff]
      intro hr
      rw [wordRule_of_isLetter (by rw [hl]; rfl) hr] at hrule
      cases hrule

/-- The word rule cuts between letters that straddle. -/
theorem Straddles.wordRule_eq_true {p n : Char} (h : Straddles p n) (hp : isLetter p = true)
    (hn : isLetter n = true) (before after : Text) :
    wordRule (p :: before) (n :: after) = true := by
  have hsuits := GraphemeBreak.suits_of_isLetter hp
  have hsuits' := GraphemeBreak.suits_of_isLetter hn
  have hline := GraphemeBreak.isLineEnd_of_suits hsuits h.before
  have hzwj : WordBreak.ofChar p ≠ .zwj := by
    rcases WordBreak.ofChar_of_isLetter hp with hfree | hext
    · intro hzwj
      rw [hzwj] at hfree
      cases hfree
    · simp [hext]
  rcases h.joined with hmark | ⟨hprepend, hletter, hext⟩
  · have hother : WordBreak.ofChar n = .other := by
      simpa [hmark, GraphemeBreak.suits] using hsuits'
    rw [wordRule_of_isOrdinary hline hzwj (by rw [hother]; rfl), hother,
      WordBreak.joins_of_isLone_right rfl]
    rfl
  · have hl : WordBreak.ofChar p = .aLetter := by
      simpa [hprepend, GraphemeBreak.suits] using hsuits
    have hfree := WordBreak.isFree_of_isLetter hn hext
    rw [wordRule_of_isOrdinary hline hzwj (WordBreak.isOrdinary_of_isFree hfree),
      skipAttached_of_not_attached (by rw [hl]; rfl), WordBreak.ofHead_cons, hl,
      WordBreak.joins_eq_meets (.inl rfl) hfree, WordBreak.meets, hletter]
    rfl

/-- Only a vowel sign straddles with a blank in front of it. -/
theorem Straddles.of_isBlank {p n : Char} (h : Straddles p n) (hp : isBlank p = true) :
    GraphemeBreak.ofChar n = .spacingMark ∧ isBlank n = false := by
  have hmark : GraphemeBreak.ofChar n = .spacingMark := by
    refine h.joined.resolve_right fun hprepend => ?_
    have hcontrol := h.before
    rcases (GraphemeBreak.ofChar_of_isBlank hp).1 with hother | hc
    · rw [hother] at hprepend
      cases hprepend.1
    · rw [hc] at hcontrol
      cases hcontrol
  refine ⟨hmark, ?_⟩
  rw [Bool.eq_false_iff]
  intro hn
  rcases (GraphemeBreak.ofChar_of_isBlank hn).1 with hother | hc
  · rw [hother] at hmark
    cases hmark
  · rw [hmark] at hc
    cases hc

/-- Within a token nothing straddles. -/
theorem isChain_of_unbroken {piece : Text} (hpiece : (classify piece).kind ≠ .unknown)
    {before after : Text} (hu : Unbroken wordRule before piece after) :
    piece.IsChain fun p n => ¬Straddles p n := by
  rw [List.isChain_iff_forall_rel_of_append_cons_cons]
  rintro p n u v rfl hstraddles
  rcases classify_cases hpiece with hblank | ⟨c, hc, -⟩ | hletter
  · have hn := (hstraddles.of_isBlank (hblank p (by simp))).2
    rw [hblank n (by simp)] at hn
    cases hn
  · have hlength := congrArg List.length hc
    simp only [List.length_append, List.length_cons, List.length_nil] at hlength
    omega
  · have hrule := hu (u ++ [p]) (n :: v) (by simp) (by simp) (by simp)
    have happ : (u ++ [p]).reverse ++ before = p :: (u.reverse ++ before) := by simp
    rw [happ, List.cons_append,
      hstraddles.wordRule_eq_true (hletter p (by simp)) (hletter n (by simp))] at hrule
    cases hrule

/-- Between words, a cluster goes on exactly where the neighbours straddle. -/
theorem graphemeRule_eq_false_iff {word before after : Text} {n : Char} (hne : word ≠ [])
    (hword : ∀ c ∈ word, IsSourceChar c) (hbefore : ∀ c ∈ before, IsSourceChar c)
    (hn : IsSourceChar n) (hcut : wordRule (word.reverse ++ before) (n :: after) = true) :
    graphemeRule (word.reverse ++ before) (n :: after) = false ↔
      ∃ p ∈ word.getLast?, Straddles p n := by
  obtain ⟨w, p, rfl⟩ := (List.eq_nil_or_concat word).resolve_left hne
  rw [List.concat_eq_append] at hword hcut ⊢
  have hp := hword p (by simp)
  have happ : (w ++ [p]).reverse ++ before = p :: (w.reverse ++ before) := by simp
  have hback : ∀ c ∈ p :: (w.reverse ++ before), IsSourceChar c := by
    rw [← happ, List.forall_mem_append]
    exact ⟨fun c hc => hword c (List.mem_reverse.1 hc), hbefore⟩
  rw [happ] at hcut
  rw [happ, graphemeRule_eq hback hn, Bool.not_eq_false']
  constructor
  · intro hclings
    exact ⟨p, by simp, straddles_of_clings hp hn hcut hclings⟩
  · rintro ⟨q, hq, hstraddles⟩
    have hqp : p = q := by simpa using hq
    subst hqp
    exact hstraddles.clings

end Roster.Text
