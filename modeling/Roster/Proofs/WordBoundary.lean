import Roster.Proofs.LetterClasses
import Roster.Proofs.Segmentation
import Roster.Text.WordBreak

/-! Word boundaries of text made of letters and spaces. Between such characters the rule looks at
the characters alone, and back over marks that belong to a letter, so a name is cut in a sentence
as it is cut on its own. -/
namespace Roster.Text
open WordBreak

/-- Characters of list elements. -/
def IsElementChar (c : Char) : Prop := isLetter c = true ∨ c = ' '

instance (c : Char) : Decidable (IsElementChar c) := inferInstanceAs (Decidable (_ ∨ _))

namespace WordBreak

theorem ofChar_space : ofChar ' ' = .wSegSpace := by decide

theorem ofChar_newline : ofChar '\n' = .lf := by decide

theorem ofChar_comma : ofChar ',' = .midNum := by decide

theorem ofChar_period : ofChar '.' = .midNumLet := by decide

theorem ofChar_exclamation : ofChar '!' = .other := by decide

theorem ofChar_question : ofChar '?' = .other := by decide

/-- Classes of the characters of list elements. -/
theorem ofChar_of_isElementChar {c : Char} (h : IsElementChar c) :
    (ofChar c).isFree = true ∨ ofChar c = .extend ∨ ofChar c = .wSegSpace := by
  rcases h with h | rfl
  · exact (ofChar_of_isLetter h).imp_right .inl
  · exact .inr (.inr ofChar_space)

theorem ofHead_cons (c : Char) (s : Text) : ofHead (c :: s) = ofChar c := rfl

/-- Classes in front of which only the words on both sides count. -/
def isOrdinary : WordBreak → Bool
  | .cr | .lf | .newline | .extend | .format | .zwj | .regionalIndicator | .wSegSpace => false
  | _ => true

theorem isOrdinary_of_isFree {b : WordBreak} (h : b.isFree = true) : b.isOrdinary = true := by
  revert h
  cases b <;> simp [isFree, isOrdinary]

/-- Whether a word goes on from class `l` to class `r`. -/
def meets (l r : WordBreak) : Bool :=
  l.isLetter && r.isLetter || l == .katakana && r == .katakana

theorem joins_eq_meets {before l r after : WordBreak} (hl : l.isFree = true ∨ l = .wSegSpace)
    (hr : r.isFree = true) : joins before l r after = meets l r := by
  have hl' : l.isWordInner = false ∧ l.isNumberInner = false ∧ l ≠ .doubleQuote ∧ l ≠ .numeric ∧
      l ≠ .extendNumLet := by
    rcases hl with hl | rfl
    · cases l <;> simp_all [isFree, isWordInner, isNumberInner]
    · simp [isWordInner, isNumberInner]
  have hr' : r.isWordInner = false ∧ r.isNumberInner = false ∧ r ≠ .singleQuote ∧
      r ≠ .doubleQuote ∧ r ≠ .numeric ∧ r ≠ .extendNumLet := by
    cases r <;> simp_all [isFree, isWordInner, isNumberInner]
  simp [joins, meets, Bool.beq_eq_decide_eq, hl', hr']

/-- Nothing joins a space. -/
theorem joins_space (before l after : WordBreak) : joins before l .wSegSpace after = false := by
  simp [joins, isLetter, isWordInner, isNumberInner, isConnected, Bool.beq_eq_decide_eq]

/-- Marks behind a word; a full stop in front of a letter would join it. -/
theorem joins_mark {before l r after : WordBreak} (hl : l ≠ .numeric)
    (hr : r = .other ∨ r = .midNum ∨ r = .midNumLet ∧ after.isLetter = false) :
    joins before l r after = false := by
  rcases hr with rfl | rfl | ⟨rfl, ha⟩
  · simp [joins, isLetter, isWordInner, isNumberInner, isConnected, Bool.beq_eq_decide_eq]
  · simp [joins, isLetter, isWordInner, isConnected, Bool.beq_eq_decide_eq, hl]
  · simp [joins, ha, show isLetter .midNumLet = false from rfl, isConnected,
      Bool.beq_eq_decide_eq, hl]

end WordBreak

theorem wordRule_nil (before : Text) : wordRule before [] = true := by cases before <;> rfl

/-- The rule past its first cases. -/
theorem wordRule_of_isOrdinary {p n : Char} {before after : Text}
    (hp : (ofChar p).isLineEnd = false) (hz : ofChar p ≠ .zwj) (hn : (ofChar n).isOrdinary = true) :
    wordRule (p :: before) (n :: after) =
      !joins (ofHead (skipAttached (skipAttached (p :: before)).tail))
        (ofHead (skipAttached (p :: before))) (ofChar n) (ofHead (skipAttached after)) := by
  have hclass : (ofChar n).isLineEnd = false ∧ (ofChar n).isAttached = false ∧ ofChar n ≠ .lf ∧
      ofChar n ≠ .wSegSpace ∧ ofChar n ≠ .regionalIndicator := by
    revert hn
    cases ofChar n <;> simp [isOrdinary, isLineEnd, isAttached]
  simp [wordRule, hp, hz, hclass]

/-- No cut in front of a mark that belongs to the character before it. -/
theorem wordRule_of_isAttached {p n : Char} {before after : Text}
    (hp : (ofChar p).isLineEnd = false) (hn : (ofChar n).isAttached = true) :
    wordRule (p :: before) (n :: after) = false := by
  have hn' : (ofChar n).isLineEnd = false := by
    revert hn
    cases ofChar n <;> simp [isAttached, isLineEnd]
  simp only [wordRule, hp, hn', hn, Bool.or_self, Bool.false_eq_true, ↓reduceIte]
  simp

theorem wordRule_newline (before after : Text) : wordRule ('\n' :: before) after = true := by
  cases after with
  | nil => rfl
  | cons n after => simp [wordRule, ofChar_newline, isLineEnd]

theorem wordRule_before_newline {p : Char} {before after : Text} (hp : ofChar p ≠ .cr) :
    wordRule (p :: before) ('\n' :: after) = true := by
  simp [wordRule, ofChar_newline, isLineEnd, hp]

theorem wordRule_before_space {p : Char} {before after : Text} (hp : ofChar p ≠ .wSegSpace) :
    wordRule (p :: before) (' ' :: after) = true := by
  have hpict : isPictographic ' ' = false := by decide
  by_cases hl : (ofChar p).isLineEnd = true
  · simp [wordRule, ofChar_space, hl]
  · simp only [wordRule, ofChar_space, hpict, hp, joins_space, isAttached, isLineEnd]
    simp

theorem wordRule_space_space (before after : Text) :
    wordRule (' ' :: before) (' ' :: after) = false := by
  simp [wordRule, ofChar_space, isLineEnd]

/-- A space belongs to no word behind it. -/
theorem wordRule_space {n : Char} {before after : Text} (hn : (ofChar n).isFree = true) :
    wordRule (' ' :: before) (n :: after) = true := by
  have hback : skipAttached (' ' :: before) = ' ' :: before := by
    simp [skipAttached, ofChar_space, isAttached]
  rw [wordRule_of_isOrdinary (by simp [ofChar_space, isLineEnd]) (by simp [ofChar_space])
    (isOrdinary_of_isFree hn), hback, ofHead_cons, ofChar_space, joins_eq_meets (.inr rfl) hn]
  simp [meets, WordBreak.isLetter, Bool.beq_eq_decide_eq]

/-- Letters of words are not cut apart. -/
theorem wordRule_of_isLetter {p n : Char} (hp : (ofChar p).isLetter = true)
    (hn : (ofChar n).isLetter = true) (before after : Text) :
    wordRule (p :: before) (n :: after) = false := by
  have hline : (ofChar p).isLineEnd = false ∧ (ofChar p).isAttached = false ∧ ofChar p ≠ .zwj := by
    revert hp
    cases ofChar p <;> simp [WordBreak.isLetter, isLineEnd, isAttached]
  have hordinary : (ofChar n).isOrdinary = true := by
    revert hn
    cases ofChar n <;> simp [WordBreak.isLetter, isOrdinary]
  have hback : skipAttached (p :: before) = p :: before := by
    rw [skipAttached, List.dropWhile_cons_of_neg (by simp [hline.2.1])]
  rw [wordRule_of_isOrdinary hline.1 hline.2.2 hordinary, hback, ofHead_cons]
  simp [joins, hp, hn]

/-- Looking back ends at a character that begins or stands in a word. -/
theorem skipAttached_append {s : Text} (h : ∃ c ∈ s, (ofChar c).isAttached = false)
    (before : Text) : ∃ c rest, c ∈ s ∧ (ofChar c).isAttached = false ∧
      skipAttached (s ++ before) = c :: (rest ++ before) ∧ skipAttached s = c :: rest := by
  induction s with
  | nil => simp at h
  | cons d s ih =>
    by_cases hd : (ofChar d).isAttached = true
    · simp only [List.mem_cons, exists_eq_or_imp, hd, Bool.true_eq_false, false_or] at h
      obtain ⟨c, rest, hc, hca, hs, hs'⟩ := ih h
      refine ⟨c, rest, List.mem_cons_of_mem _ hc, hca, ?_, ?_⟩
      · simpa [skipAttached, hd] using hs
      · simpa [skipAttached, hd] using hs'
    · refine ⟨d, s, List.mem_cons_self, by simpa using hd, ?_, ?_⟩
      · simp [skipAttached, hd]
      · simp [skipAttached, hd]

theorem IsElementChar.isLineEnd_eq_false {c : Char} (h : IsElementChar c) :
    (ofChar c).isLineEnd = false ∧ ofChar c ≠ .zwj := by
  rcases ofChar_of_isElementChar h with h | h | h
  · revert h
    cases ofChar c <;> simp [isFree, isLineEnd]
  · simp [h, isLineEnd]
  · simp [h, isLineEnd]

theorem IsElementChar.isAttached_iff {c : Char} (h : IsElementChar c) :
    (ofChar c).isAttached = true ↔ ofChar c = .extend := by
  rcases ofChar_of_isElementChar h with h | h | h
  · revert h
    cases ofChar c <;> simp [isFree, isAttached]
  · simp [h, isAttached]
  · simp [h, isAttached]

theorem ofChar_ne_wSegSpace {c : Char} (h : isLetter c = true) : ofChar c ≠ .wSegSpace := by
  rcases ofChar_of_isLetter h with hfree | hext
  · intro hc
    rw [hc] at hfree
    cases hfree
  · simp [hext]

/-- The text in front of a position holds list elements and begins with no attached mark. -/
structure BeginsWord (u : Text) : Prop where
  chars : ∀ c ∈ u, IsElementChar c
  head : ∃ c ∈ u.head?, ofChar c ≠ .extend

namespace BeginsWord

theorem of_append {u v : Text} (hu : u ≠ []) (h : BeginsWord (u ++ v)) : BeginsWord u := by
  refine ⟨fun c hc => h.chars c (List.mem_append_left _ hc), ?_⟩
  obtain ⟨c, u, rfl⟩ := List.exists_cons_of_ne_nil hu
  exact h.head

theorem ne_nil {u : Text} (h : BeginsWord u) : u ≠ [] := by
  rintro rfl
  simpa using h.head

/-- The character that a boundary behind `u` is judged by stands in `u`, whatever is before it. -/
theorem exists_back {u : Text} (h : BeginsWord u) (before : Text) :
    ∃ q rest, ((ofChar q).isFree = true ∨ ofChar q = .wSegSpace) ∧
      skipAttached (u.reverse ++ before) = q :: (rest ++ before) ∧
        skipAttached u.reverse = q :: rest := by
  have hex : ∃ c ∈ u.reverse, (ofChar c).isAttached = false := by
    obtain ⟨c, hc, hext⟩ := h.head
    have hmem : c ∈ u := List.mem_of_mem_head? hc
    refine ⟨c, List.mem_reverse.2 hmem, Bool.eq_false_iff.2 ?_⟩
    rwa [Ne, (h.chars c hmem).isAttached_iff]
  obtain ⟨q, rest, hq, hqa, hs, hs'⟩ := skipAttached_append hex before
  have hmem := h.chars q (List.mem_reverse.1 hq)
  refine ⟨q, rest, ?_, hs, hs'⟩
  rcases ofChar_of_isElementChar hmem with hfree | hext | hspace
  · exact .inl hfree
  · rw [hmem.isAttached_iff.2 hext] at hqa
    cases hqa
  · exact .inr hspace

/-- The last character of `u` with the text in front of it. -/
theorem exists_last {u : Text} (h : BeginsWord u) :
    ∃ p u', IsElementChar p ∧ u.reverse = p :: u' := by
  obtain ⟨p, u', hu⟩ := List.exists_cons_of_ne_nil (List.reverse_ne_nil_iff.2 h.ne_nil)
  exact ⟨p, u', h.chars p (List.mem_reverse.1 (by simp [hu])), hu⟩

/-- Behind a text that begins a word, the rule asks for one class in it and for what follows. -/
theorem wordRule_cons {u : Text} (h : BeginsWord u) {n : Char}
    (hn : (ofChar n).isOrdinary = true) (before after : Text) :
    ∃ b, wordRule (u.reverse ++ before) (n :: after) =
      !joins b (ofHead (skipAttached u.reverse)) (ofChar n) (ofHead (skipAttached after)) := by
  obtain ⟨q, rest, -, hback, hq⟩ := h.exists_back before
  obtain ⟨p, u', hp, hu⟩ := h.exists_last
  obtain ⟨hline, hzwj⟩ := hp.isLineEnd_eq_false
  rw [hu, List.cons_append] at hback
  rw [hq, hu, List.cons_append, wordRule_of_isOrdinary hline hzwj hn, hback]
  exact ⟨_, rfl⟩

theorem class_back {u : Text} (h : BeginsWord u) :
    (ofHead (skipAttached u.reverse)).isFree = true ∨
      ofHead (skipAttached u.reverse) = .wSegSpace := by
  obtain ⟨q, rest, hq, -, hback⟩ := h.exists_back []
  rw [hback]
  exact hq

/-- What the rule answers behind a text that begins a word and in front of an element's character
depends on nothing further away. -/
theorem wordRule_eq {u : Text} (h : BeginsWord u) {n : Char} (hn : IsElementChar n)
    (before before' after after' : Text) :
    wordRule (u.reverse ++ before) (n :: after) =
      wordRule (u.reverse ++ before') (n :: after') := by
  obtain ⟨p, u', hp, hu⟩ := h.exists_last
  rcases ofChar_of_isElementChar hn with hfree | hext | hspace
  · obtain ⟨b, hrule⟩ := h.wordRule_cons (isOrdinary_of_isFree hfree) before after
    obtain ⟨b', hrule'⟩ := h.wordRule_cons (isOrdinary_of_isFree hfree) before' after'
    rw [hrule, hrule', joins_eq_meets h.class_back hfree, joins_eq_meets h.class_back hfree]
  · have hattached : (ofChar n).isAttached = true := hn.isAttached_iff.2 hext
    obtain ⟨hline, -⟩ := hp.isLineEnd_eq_false
    rw [hu, List.cons_append, List.cons_append, wordRule_of_isAttached hline hattached,
      wordRule_of_isAttached hline hattached]
  · obtain rfl : n = ' ' := hn.resolve_left fun hletter => ofChar_ne_wSegSpace hletter hspace
    rw [hu, List.cons_append, List.cons_append]
    rcases hp with hletter | rfl
    · rw [wordRule_before_space (ofChar_ne_wSegSpace hletter),
        wordRule_before_space (ofChar_ne_wSegSpace hletter)]
    · rw [wordRule_space_space, wordRule_space_space]

theorem unbroken {w : Text} (h : BeginsWord w) {before after : Text}
    (hu : Unbroken wordRule before w after) (before' after' : Text) :
    Unbroken wordRule before' w after' := by
  intro u v heq hune hvne
  obtain ⟨c, v, rfl⟩ := List.exists_cons_of_ne_nil hvne
  have hbegins : BeginsWord u := .of_append hune (heq ▸ h)
  have hc : IsElementChar c := h.chars c (by simp [heq])
  rw [List.cons_append, hbegins.wordRule_eq hc before' before (v ++ after') (v ++ after)]
  exact hu u (c :: v) heq hune hvne

end BeginsWord

/-- Texts that end the word in front of them: what follows an element in a sentence. -/
def EndsWord : Text → Prop
  | [] => True
  | c :: rest => c ∈ [' ', ',', '!', '?'] ∨ c = '.' ∧ (rest = [] ∨ ∃ rest', rest = '\n' :: rest')

theorem endsWord_space (after : Text) : EndsWord (' ' :: after) := .inl (by simp)

theorem endsWord_comma (after : Text) : EndsWord (',' :: after) := .inl (by simp)

/-- A letter stands last. -/
def EndsLetter (u : Text) : Prop := ∃ c ∈ u.getLast?, isLetter c = true

theorem endsLetter_of_letters {u : Text} (hu : u ≠ []) (h : ∀ c ∈ u, isLetter c = true) :
    EndsLetter u :=
  ⟨u.getLast hu, List.getLast?_eq_some_getLast hu, h _ (List.getLast_mem hu)⟩

namespace BeginsWord

theorem wordRule_of_endsWord {u after : Text} (h : BeginsWord u) (hlast : EndsLetter u)
    (ha : EndsWord after) (before : Text) : wordRule (u.reverse ++ before) after = true := by
  rcases after with _ | ⟨n, after⟩
  · exact wordRule_nil _
  have hclass : ofHead (skipAttached u.reverse) ≠ .numeric := by
    rcases h.class_back with hfree | hspace
    · intro hnum
      rw [hnum] at hfree
      cases hfree
    · simp [hspace]
  have mark : (ofChar n).isOrdinary = true → (ofChar n = .other ∨ ofChar n = .midNum ∨
      ofChar n = .midNumLet ∧ (ofHead (skipAttached after)).isLetter = false) →
      wordRule (u.reverse ++ before) (n :: after) = true := by
    intro hn hmark
    obtain ⟨b, hrule⟩ := h.wordRule_cons hn before after
    rw [hrule, joins_mark hclass hmark]
    rfl
  rcases ha with ha | ⟨rfl, hafter⟩
  · simp only [List.mem_cons, List.not_mem_nil, or_false] at ha
    rcases ha with rfl | rfl | rfl | rfl
    · obtain ⟨p, hp, hletter⟩ := hlast
      obtain ⟨u', rfl⟩ := List.getLast?_eq_some_iff.1 hp
      rw [List.reverse_append, List.reverse_singleton, List.singleton_append, List.cons_append]
      exact wordRule_before_space (ofChar_ne_wSegSpace hletter)
    · exact mark (by rw [ofChar_comma]; rfl) (.inr (.inl ofChar_comma))
    · exact mark (by rw [ofChar_exclamation]; rfl) (.inl ofChar_exclamation)
    · exact mark (by rw [ofChar_question]; rfl) (.inl ofChar_question)
  · refine mark (by rw [ofChar_period]; rfl) (.inr (.inr ⟨ofChar_period, ?_⟩))
    rcases hafter with rfl | ⟨rest', rfl⟩
    · rfl
    · simp [skipAttached, ofChar_newline, isAttached, ofHead, WordBreak.isLetter]

/-- Text that begins and ends with letters of words is cut in a sentence as on its own. -/
theorem isCut {e after : Text} (h : BeginsWord e) (hlast : EndsLetter e) (ha : EndsWord after)
    (before : Text) : IsCut wordRule before (words e) after := by
  refine (isCut_congr fun u v heq hu => ?_).2 (isCut_cut wordRule_nil [] e)
  rw [flatten_words] at heq
  cases v with
  | cons c v =>
    have hbegins : BeginsWord u := .of_append hu (heq ▸ h)
    rw [List.cons_append, List.cons_append]
    exact hbegins.wordRule_eq (h.chars c (by simp [heq])) _ _ _ _
  | nil =>
    rw [List.append_nil] at heq
    subst heq
    rw [List.nil_append, h.wordRule_of_endsWord hlast ha]
    exact (wordRule_nil _).symm

end BeginsWord
end Roster.Text
