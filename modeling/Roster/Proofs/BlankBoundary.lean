import Roster.Proofs.SourceTokens
import Roster.Proofs.Trimming

/-! Word boundaries around blanks. Within a run of letters and marks the rule does not see which
blanks stand around the run. Between a blank and a letter or mark it cuts, with two exceptions: a
voiced sound mark belongs to a blank in front of it that ends no line, and a narrow no-break space
belongs to the letters around it. -/
namespace Roster
namespace Text
open WordBreak

/-- Characters of tokens. -/
def IsSourceChar (c : Char) : Prop := isBlank c = true ∨ isLetter c = true ∨ isMark [c] = true

/-- Letters and marks. -/
def IsInk (c : Char) : Prop := IsSourceChar c ∧ isBlank c = false

namespace WordBreak

/-- Classes of letters and marks, but for the attached ones. -/
def isInk : WordBreak → Bool
  | .other | .aLetter | .hebrewLetter | .katakana | .midNum | .midNumLet => true
  | _ => false

theorem ofChar_of_isBlank {c : Char} (h : isBlank c = true) :
    (ofChar c).isLone = true ∧ c ≠ '\u202F' ∨ ofChar c = .extendNumLet ∧ c = '\u202F' := by
  refine forall_isBlank (P := fun c => (ofChar c).isLone = true ∧ c ≠ '\u202F' ∨
    ofChar c = .extendNumLet ∧ c = '\u202F') ?_ h
  decide +kernel

theorem isBlank_narrowSpace : isBlank '\u202F' = true := by decide

theorem ofChar_narrowSpace : ofChar '\u202F' = .extendNumLet := by
  rcases ofChar_of_isBlank isBlank_narrowSpace with ⟨-, hne⟩ | ⟨hclass, -⟩
  · exact absurd rfl hne
  · exact hclass

/-- A blank is attached to nothing and is no letter. -/
theorem isAttached_of_isBlank {c : Char} (h : isBlank c = true) :
    (ofChar c).isAttached = false ∧ (ofChar c).isLetter = false ∧
      (ofChar c).isConnected = false ∧ ofChar c ≠ .zwj ∧ ofChar c ≠ .regionalIndicator := by
  rcases ofChar_of_isBlank h with ⟨hlone, -⟩ | ⟨hc, -⟩
  · revert hlone
    cases ofChar c <;> simp [isLone, isAttached, WordBreak.isLetter, isConnected]
  · simp [hc, isAttached, WordBreak.isLetter, isConnected]

theorem eq_of_isMark {c : Char} (h : isMark [c] = true) :
    c = ',' ∨ c = '.' ∨ c = '!' ∨ c = '?' := by
  simpa [isMark] using h

theorem ofChar_of_isMark {c : Char} (h : isMark [c] = true) :
    ofChar c = .other ∨ ofChar c = .midNum ∨ ofChar c = .midNumLet := by
  rcases eq_of_isMark h with rfl | rfl | rfl | rfl
  · exact .inr (.inl ofChar_comma)
  · exact .inr (.inr ofChar_period)
  · exact .inl ofChar_exclamation
  · exact .inl ofChar_question

theorem ofChar_of_isInk {c : Char} (h : IsInk c) :
    (ofChar c).isInk = true ∨ ofChar c = .extend := by
  obtain ⟨hsource, hblank⟩ := h
  rcases hsource with hb | hletter | hmark
  · rw [hb] at hblank
    cases hblank
  · rcases ofChar_of_isLetter hletter with hfree | hext
    · left
      revert hfree
      cases ofChar c <;> simp [isFree, isInk]
    · exact .inr hext
  · left
    rcases ofChar_of_isMark hmark with hc | hc | hc <;> simp [hc, isInk]

theorem isLineEnd_of_isInk {c : Char} (h : IsInk c) :
    (ofChar c).isLineEnd = false ∧ ofChar c ≠ .zwj ∧ ofChar c ≠ .wSegSpace ∧
      ofChar c ≠ .extendNumLet := by
  rcases ofChar_of_isInk h with hc | hc
  · revert hc
    cases ofChar c <;> simp [isInk, isLineEnd]
  · simp [hc, isLineEnd]

theorem isOrdinary_of_isInk {b : WordBreak} (h : b.isInk = true) :
    b.isOrdinary = true ∧ b.isAttached = false := by
  revert h
  cases b <;> simp [isInk, isOrdinary, isAttached]

/-- Of what stands further off, the rule only asks whether it is a letter. -/
theorem joins_congr {before before' l r after after' : WordBreak} (hl : l.isInk = true)
    (hr : r.isInk = true) (hb : before.isLetter = before'.isLetter)
    (ha : after.isLetter = after'.isLetter) :
    joins before l r after = joins before' l r after' := by
  have hl' : l ≠ .doubleQuote ∧ l ≠ .numeric ∧ l ≠ .extendNumLet := by
    revert hl
    cases l <;> simp [isInk]
  have hr' : r ≠ .singleQuote ∧ r ≠ .doubleQuote ∧ r ≠ .numeric ∧ r ≠ .extendNumLet := by
    revert hr
    cases r <;> simp [isInk]
  simp [joins, Bool.beq_eq_decide_eq, hl', hr', hb, ha]

end WordBreak

theorem IsSourceChar.isInk {c : Char} (h : IsSourceChar c) (hb : isBlank c = false) : IsInk c :=
  ⟨h, hb⟩

theorem IsInk.eq_extend {c : Char} (h : IsInk c) (hc : (ofChar c).isAttached = true) :
    ofChar c = .extend := by
  refine (ofChar_of_isInk h).resolve_left fun hink => ?_
  rw [(isOrdinary_of_isInk hink).2] at hc
  cases hc

/-- Nothing, or a text that begins with a blank. -/
def BlankHead (t : Text) : Prop := ∀ c ∈ t.head?, isBlank c = true

theorem skipAttached_of_blankHead {t : Text} (h : BlankHead t) : skipAttached t = t := by
  cases t with
  | nil => rfl
  | cons c t =>
    exact skipAttached_of_not_attached (isAttached_of_isBlank (h c rfl)).1 t

theorem isLetter_ofHead_of_blankHead {t : Text} (h : BlankHead t) :
    (ofHead t).isLetter = false := by
  cases t with
  | nil => rfl
  | cons c t => exact (isAttached_of_isBlank (h c rfl)).2.1

/-- Blanks behind a text are no letters that the rule could reach. -/
theorem isLetter_skipAttached_append {t : Text} (ht : BlankHead t) (s : Text) :
    (ofHead (skipAttached (s ++ t))).isLetter = (ofHead (skipAttached s)).isLetter := by
  by_cases hs : ∃ c ∈ s, (ofChar c).isAttached = false
  · obtain ⟨c, rest, -, -, happ, hs⟩ := skipAttached_append hs t
    rw [happ, hs, ofHead_cons, ofHead_cons]
  · have hall : ∀ c ∈ s, (ofChar c).isAttached = true := by simpa using hs
    have hnil : skipAttached s = [] := List.dropWhile_eq_nil_iff.2 hall
    have happ : skipAttached (s ++ t) = t := by
      rw [skipAttached, List.dropWhile_append_of_pos hall]
      exact skipAttached_of_blankHead ht
    rw [hnil, happ, isLetter_ofHead_of_blankHead ht]
    rfl

/-- What may stand, nearest character first, in front of a run: blanks or nothing, and no blank
within a line if an attached mark begins the run. -/
structure Precedes (before run : Text) : Prop where
  blank : BlankHead before
  lineEnd : ∀ d ∈ run.head?, ofChar d = .extend →
    ∀ c ∈ before.head?, (ofChar c).isLineEnd = true

/-- A run of attached marks joins nothing behind it. -/
theorem Precedes.joins_eq_false {before run : Text} (h : Precedes before run)
    (hrun : ∀ c ∈ run, ofChar c = .extend) (hne : run ≠ []) (b r after : WordBreak) :
    joins b (ofHead before) r after = false := by
  apply joins_of_isLone_left
  cases before with
  | nil => rfl
  | cons c before =>
    obtain ⟨d, run, rfl⟩ := List.exists_cons_of_ne_nil hne
    exact isLone_of_isLineEnd (h.lineEnd d rfl (hrun d (by simp)) c rfl)

theorem wordRule_within {u v before after : Text} (hu : u ≠ []) (hv : v ≠ [])
    (hink : ∀ c ∈ u ++ v, IsInk c) (hb : Precedes before u) (ha : BlankHead after) :
    wordRule (u.reverse ++ before) (v ++ after) = wordRule u.reverse v := by
  obtain ⟨n, v, rfl⟩ := List.exists_cons_of_ne_nil hv
  obtain ⟨p, u', hp⟩ := List.exists_cons_of_ne_nil (List.reverse_ne_nil_iff.2 hu)
  have hmem : ∀ c ∈ u.reverse, IsInk c := by
    intro c hc
    exact hink c (List.mem_append_left _ (List.mem_reverse.1 hc))
  obtain ⟨hline, hzwj, -⟩ := isLineEnd_of_isInk (hmem p (by simp [hp]))
  rcases ofChar_of_isInk (hink n (by simp)) with hn | hn
  · obtain ⟨hordinary, -⟩ := isOrdinary_of_isInk hn
    have hafter := isLetter_skipAttached_append ha v
    rw [hp, List.cons_append, List.cons_append, wordRule_of_isOrdinary hline hzwj hordinary,
      wordRule_of_isOrdinary hline hzwj hordinary, ← List.cons_append, ← hp]
    by_cases hex : ∃ c ∈ u.reverse, (ofChar c).isAttached = false
    · -- a character of the run is what the boundary is judged by
      obtain ⟨q, rest, hq, hqa, happ, hself⟩ := skipAttached_append hex before
      have hqink : (ofChar q).isInk = true := by
        refine (ofChar_of_isInk (hmem q hq)).resolve_right fun hext => ?_
        simp [hext, isAttached] at hqa
      rw [happ, hself, ofHead_cons, ofHead_cons, List.tail_cons, List.tail_cons]
      have hbefore := isLetter_skipAttached_append hb.blank rest
      rw [joins_congr hqink hn hbefore hafter]
    · -- the run has attached marks only, and what is in front of it ends a line
      have hall : ∀ c ∈ u.reverse, (ofChar c).isAttached = true := by simpa using hex
      have hext : ∀ c ∈ u, ofChar c = .extend := by
        intro c hc
        have hc' := List.mem_reverse.2 hc
        exact (hmem c hc').eq_extend (hall c hc')
      have happ : skipAttached (u.reverse ++ before) = before := by
        rw [skipAttached, List.dropWhile_append_of_pos hall]
        exact skipAttached_of_blankHead hb.blank
      have hself : skipAttached u.reverse = [] := List.dropWhile_eq_nil_iff.2 hall
      have hnone : Precedes [] u := ⟨by simp [BlankHead], by simp⟩
      rw [happ, hself, hb.joins_eq_false hext hu, hnone.joins_eq_false hext hu]
  · have hattached : (ofChar n).isAttached = true := by simp [hn, isAttached]
    rw [hp, List.cons_append, List.cons_append, wordRule_of_isAttached hline hattached,
      wordRule_of_isAttached hline hattached]

/-- The rule cuts between any blank and what is none, for a text that follows `before`. -/
def CutsAtBlanks (before s : Text) : Prop :=
  ∀ u p n v, s = u ++ p :: n :: v → isBlank p ≠ isBlank n →
    wordRule (p :: (u.reverse ++ before)) (n :: v) = true

theorem CutsAtBlanks.of_append {before u v : Text} (h : CutsAtBlanks before (u ++ v)) :
    CutsAtBlanks (u.reverse ++ before) v := by
  intro w p n x heq hne
  have hrule := h (u ++ w) p n x (by simp [heq]) hne
  simpa using hrule

/-- Where the first of two parts ends, if a blank meets what is none there. -/
theorem CutsAtBlanks.cuts_between {before u v : Text} (h : CutsAtBlanks before (u ++ v))
    (hu : u ≠ []) (hne : ∀ p ∈ u.getLast?, ∀ n ∈ v.head?, isBlank p ≠ isBlank n) :
    wordRule (u.reverse ++ before) v = true := by
  cases v with
  | nil => exact wordRule_nil _
  | cons n v =>
    obtain ⟨u', p, rfl⟩ := (List.eq_nil_or_concat u).resolve_left hu
    rw [List.concat_eq_append] at h hne ⊢
    have hrule := h u' p n v (by simp) (hne p (by simp) n rfl)
    simpa using hrule

/-- A text in which each blank stands apart from its neighbours: behind a blank within a line there
is no attached mark, and beside a narrow no-break space there is no letter that it would hold on
to. -/
structure Parted (s : Text) : Prop where
  mark : ∀ u c d v, s = u ++ c :: d :: v → isBlank c = true → ofChar d = .extend →
    (ofChar c).isLineEnd = true
  narrow : ∀ u v, s = u ++ '\u202F' :: v →
    (ofHead (skipAttached u.reverse)).isConnected = false ∧ (ofHead v).isConnected = false

/-- Without the narrow space and without attached marks, blanks stand apart. -/
theorem parted_of_all {s : Text}
    (h : s.all (fun c => c != '\u202F' && ofChar c != .extend) = true) : Parted s := by
  have hall : ∀ c ∈ s, c ≠ '\u202F' ∧ ofChar c ≠ .extend := by simpa using h
  constructor
  · rintro u c d v rfl - hd
    exact absurd hd (hall d (by simp)).2
  · rintro u v rfl
    exact absurd rfl (hall '\u202F' (by simp)).1

/-- Looking back passes attached marks only. -/
theorem exists_skipAttached (s : Text) :
    ∃ marks, (∀ c ∈ marks, (ofChar c).isAttached = true) ∧ s = marks ++ skipAttached s := by
  obtain ⟨marks, hs, hmarks⟩ := exists_dropWhile (fun c => (ofChar c).isAttached) s
  exact ⟨marks, hmarks, hs⟩

theorem isBlank_of_isAttached {c : Char} (h : (ofChar c).isAttached = true) :
    isBlank c = false := by
  rw [Bool.eq_false_iff]
  intro hb
  rw [(isAttached_of_isBlank hb).1] at h
  cases h

theorem joins_narrowSpace {before l after : WordBreak} :
    joins before l .extendNumLet after = (l.isConnected || l == .extendNumLet) := by
  simp [joins, WordBreak.isLetter, isWordInner, isNumberInner, isConnected,
    Bool.beq_eq_decide_eq]

theorem narrowSpace_joins {before r after : WordBreak} (hr : r.isInk = true) :
    joins before .extendNumLet r after = r.isConnected := by
  have hr' : r ≠ .numeric ∧ r ≠ .extendNumLet := by
    revert hr
    cases r <;> simp [isInk]
  simp [joins, WordBreak.isLetter, isWordInner, isNumberInner, Bool.beq_eq_decide_eq, hr']

/-- A blank behind a letter or mark is cut off, unless it is a narrow space that holds on to it. -/
theorem wordRule_before_blank {p n : Char} {before after : Text} (hp : IsInk p)
    (hn : isBlank n = true) :
    wordRule (p :: before) (n :: after) = true ↔ (n = '\u202F' →
      (ofHead (skipAttached (p :: before))).isConnected = false ∧
        ofHead (skipAttached (p :: before)) ≠ .extendNumLet) := by
  obtain ⟨hline, hzwj, hseg, -⟩ := isLineEnd_of_isInk hp
  obtain ⟨hattached, -, -, -, hri⟩ := isAttached_of_isBlank hn
  rcases ofChar_of_isBlank hn with ⟨hlone, hne⟩ | ⟨hclass, rfl⟩
  · have hcr : ofChar p ≠ .cr := by
      intro hcr
      simp [hcr, isLineEnd] at hline
    simp [wordRule, hcr, hline, hzwj, hseg, hattached, hri, joins_of_isLone_right hlone, hne]
  · rw [wordRule_of_isOrdinary hline hzwj (by rw [hclass]; rfl), hclass, joins_narrowSpace]
    simp

/-- A letter or mark behind a blank is cut off, unless it is attached to the blank or held by it. -/
theorem wordRule_behind_blank {p n : Char} {before after : Text} (hp : isBlank p = true)
    (hn : IsInk n) :
    wordRule (p :: before) (n :: after) = true ↔
      (ofChar n = .extend → (ofChar p).isLineEnd = true) ∧
        (p = '\u202F' → (ofChar n).isConnected = false) := by
  obtain ⟨hattached, -, -, hzwj, -⟩ := isAttached_of_isBlank hp
  by_cases hline : (ofChar p).isLineEnd = true
  · have hne : p ≠ '\u202F' := by
      rintro rfl
      rw [ofChar_narrowSpace] at hline
      cases hline
    have hlf : ofChar n ≠ .lf := by
      intro hlf
      simpa [hlf, isLineEnd] using (isLineEnd_of_isInk hn).1
    simp [wordRule, hline, hlf, hne]
  · rcases ofChar_of_isInk hn with hink | hext
    · obtain ⟨hordinary, hself⟩ := isOrdinary_of_isInk hink
      have hne : ofChar n ≠ .extend := by
        intro hext
        simp [hext, isAttached] at hself
      rw [wordRule_of_isOrdinary (by simpa using hline) hzwj hordinary,
        skipAttached_of_not_attached hattached, ofHead_cons]
      rcases ofChar_of_isBlank hp with ⟨hlone, hp'⟩ | ⟨hclass, rfl⟩
      · simp [joins_of_isLone_left hlone, hne, hp']
      · rw [hclass, narrowSpace_joins hink]
        simp [hne]
    · rw [wordRule_of_isAttached (by simpa using hline) (by simp [hext, isAttached])]
      simp [hext, hline]

theorem CutsAtBlanks.parted {s : Text} (hs : ∀ c ∈ s, IsSourceChar c) (h : CutsAtBlanks [] s) :
    Parted s := by
  constructor
  · rintro u c d v rfl hc hd
    have hd' : isBlank d = false := isBlank_of_isAttached (by simp [hd, isAttached])
    have hrule := h u c d v rfl (by simp [hc, hd'])
    exact ((wordRule_behind_blank hc ((hs d (by simp)).isInk hd')).1 hrule).1 hd
  · rintro u v rfl
    constructor
    · rcases List.eq_nil_or_concat u with rfl | ⟨u, p, rfl⟩
      · rfl
      rw [List.concat_eq_append] at *
      rw [List.reverse_append, List.reverse_singleton, List.singleton_append]
      cases hp : isBlank p with
      | true =>
        obtain ⟨hattached, -, hconnected, -⟩ := isAttached_of_isBlank hp
        rw [skipAttached_of_not_attached hattached]
        exact hconnected
      | false =>
        have hrule := h u p '\u202F' v (by simp) (by simp [hp, isBlank_narrowSpace])
        rw [List.append_nil] at hrule
        exact ((wordRule_before_blank ((hs p (by simp)).isInk hp) isBlank_narrowSpace).1 hrule
          rfl).1
    · cases v with
      | nil => rfl
      | cons n v =>
        cases hn : isBlank n with
        | true => exact (isAttached_of_isBlank hn).2.2.1
        | false =>
          have hrule := h u '\u202F' n v rfl (by simp [hn, isBlank_narrowSpace])
          exact ((wordRule_behind_blank isBlank_narrowSpace
            ((hs n (by simp)).isInk hn)).1 hrule).2 rfl

/-- Looking back from a letter or mark never ends at a narrow space. -/
theorem Parted.ofHead_ne {u v : Text} (h : Parted (u ++ v)) (hs : ∀ c ∈ u, IsSourceChar c)
    (hlast : ∀ p ∈ u.getLast?, isBlank p = false) :
    ofHead (skipAttached u.reverse) ≠ .extendNumLet := by
  intro hclass
  obtain ⟨q, rest, hq⟩ : ∃ q rest, skipAttached u.reverse = q :: rest := by
    cases hb : skipAttached u.reverse with
    | nil =>
      rw [hb] at hclass
      cases hclass
    | cons q rest => exact ⟨q, rest, rfl⟩
  rw [hq, ofHead_cons] at hclass
  obtain ⟨marks, hmarks, hsplit⟩ := exists_skipAttached u.reverse
  rw [hq] at hsplit
  have hu : u = rest.reverse ++ q :: marks.reverse := by
    rw [← List.reverse_reverse u, hsplit]
    simp
  subst hu
  have hq' : isBlank q = true := by
    rw [← Bool.not_eq_false]
    intro hb
    exact (isLineEnd_of_isInk ((hs q (by simp)).isInk hb)).2.2.2 hclass
  rcases List.eq_nil_or_concat marks with rfl | ⟨marks, d, rfl⟩
  · rw [hlast q (by simp)] at hq'
    cases hq'
  · rw [List.concat_eq_append] at *
    have hd : (ofChar d).isAttached = true := hmarks d (by simp)
    have hink := (hs d (by simp)).isInk (isBlank_of_isAttached hd)
    have hline := h.mark rest.reverse q d (marks.reverse ++ v) (by simp) hq' (hink.eq_extend hd)
    rw [hclass] at hline
    cases hline

theorem Parted.cutsAtBlanks {s : Text} (hs : ∀ c ∈ s, IsSourceChar c) (h : Parted s) :
    CutsAtBlanks [] s := by
  rintro u p n v rfl hne
  rw [List.append_nil]
  cases hp : isBlank p with
  | true =>
    have hn : isBlank n = false := by simpa [hp] using hne
    refine (wordRule_behind_blank hp ((hs n (by simp)).isInk hn)).2 ⟨?_, ?_⟩
    · exact h.mark u p n v rfl hp
    · rintro rfl
      exact (h.narrow u (n :: v) rfl).2
  | false =>
    have hn : isBlank n = true := by simpa [hp] using hne
    refine (wordRule_before_blank ((hs p (by simp)).isInk hp) hn).2 ?_
    rintro rfl
    have hsplit : u ++ p :: '\u202F' :: v = (u ++ [p]) ++ '\u202F' :: v := by simp
    rw [hsplit] at h hs
    have hback : p :: u.reverse = (u ++ [p]).reverse := by simp
    rw [hback]
    have hu : ∀ c ∈ u ++ [p], IsSourceChar c := by
      intro c hc
      exact hs c (List.mem_append_left _ hc)
    exact ⟨(h.narrow (u ++ [p]) v rfl).1, h.ofHead_ne hu (by simpa using hp)⟩

/-- The rule cuts at all blanks of a text of tokens exactly if each of them stands apart. -/
theorem cutsAtBlanks_iff_parted {s : Text} (hs : ∀ c ∈ s, IsSourceChar c) :
    CutsAtBlanks [] s ↔ Parted s :=
  ⟨CutsAtBlanks.parted hs, Parted.cutsAtBlanks hs⟩

end Text

open Text

/-- A blank and anything else together are no token of the grammar. -/
theorem classify_of_blank_mem {piece : Text} {c d : Char} (hc : c ∈ piece) (hd : d ∈ piece)
    (hblank : isBlank c = true) (hother : isBlank d = false) :
    (classify piece).kind = .unknown := by
  have hblanks : piece.all isBlank = false := by
    rw [List.all_eq_false]
    exact ⟨d, hd, by simp [hother]⟩
  have hletters : piece.all isLetter = false := by
    rw [List.all_eq_false]
    exact ⟨c, hc, by simp [isLetter_of_isBlank hblank]⟩
  have hmark : isMark piece = false := by
    rcases piece with _ | ⟨x, _ | ⟨y, piece⟩⟩
    · rfl
    · rw [List.mem_singleton.1 hd, ← List.mem_singleton.1 hc, hblank] at hother
      cases hother
    · rfl
  rw [classify, hblanks, hmark, hletters]
  rfl

theorem blanks_of_classify {piece : Text} (h : (classify piece).kind = .whitespace) :
    ∀ c ∈ piece, isBlank c = true := by
  unfold classify at h
  split at h
  next hb => exact List.all_eq_true.1 hb
  next =>
    split at h
    next => cases h
    next => split at h <;> cases h

/-- A token of the grammar is made of blanks, is one mark, or is made of letters. -/
theorem classify_cases {piece : Text} (h : (classify piece).kind ≠ .unknown) :
    (∀ c ∈ piece, isBlank c = true) ∨ (∃ c, piece = [c] ∧ isMark [c] = true) ∨
      ∀ c ∈ piece, isLetter c = true := by
  unfold classify at h
  split at h
  next hb => exact .inl (List.all_eq_true.1 hb)
  next =>
    split at h
    next hm =>
      rcases piece with _ | ⟨c, _ | ⟨d, piece⟩⟩
      · cases hm
      · exact .inr (.inl ⟨c, rfl, hm⟩)
      · cases hm
    next =>
      split at h
      next hl => exact .inr (.inr (List.all_eq_true.1 hl))
      next => exact absurd rfl h

theorem isSourceChar_of_classify {piece : Text} (h : (classify piece).kind ≠ .unknown) :
    ∀ c ∈ piece, IsSourceChar c := by
  intro c hc
  rcases classify_cases h with hb | ⟨d, rfl, hm⟩ | hl
  · exact .inl (hb c hc)
  · rw [List.mem_singleton.1 hc]
    exact .inr (.inr hm)
  · exact .inr (.inl (hl c hc))

/-- A text whose pieces are tokens of the grammar is made of their characters and cut at all its
blanks. -/
theorem sourceChars_of_words {s : Text}
    (h : ∀ v ∈ s.words.map classify, v.kind ≠ .unknown) :
    (∀ c ∈ s, IsSourceChar c) ∧ CutsAtBlanks [] s := by
  rw [List.forall_mem_map] at h
  constructor
  · intro c hc
    rw [← flatten_words s] at hc
    obtain ⟨piece, hpiece, hc⟩ := List.mem_flatten.1 hc
    exact isSourceChar_of_classify (h piece hpiece) c hc
  · rintro u p n v rfl hne
    by_contra hrule
    have hfalse : wordRule (p :: (u.reverse ++ [])) (n :: v) = false := by simpa using hrule
    obtain ⟨piece, hpiece, hp, hn⟩ := mem_cut_of_rule_eq_false hfalse
    apply h piece hpiece
    cases hb : isBlank p with
    | true => exact classify_of_blank_mem hp hn hb (by simpa [hb] using hne)
    | false => exact classify_of_blank_mem hn hp (by simpa [hb] using hne) hb

end Roster
