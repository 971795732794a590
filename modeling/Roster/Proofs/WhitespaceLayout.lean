import Roster.Proofs.FailingStatement
import Roster.Proofs.Trimming

/-! Parsing and the layout of its tokens. Of positions parsing sees nothing, and of whitespace only
whether there is any between two words. Token lists with the same values in this sense give the
same operations, or errors of the same kind about the same operation, with the same tokens
expected. -/
namespace Roster
open Grammar Vocabulary

/-- Tokens of equal values, but for whitespace that parts no words, behind a word or not. -/
inductive TokensAlike : Bool → List Token → List Token → Prop
  | gap {w : Bool} {gap gap' : List Token} :
      Gap (gap.map Token.value) → Gap (gap'.map Token.value) → TokensAlike w gap gap'
  | ink {w : Bool} {gap gap' ts us : List Token} {t u : Token} :
      Gap (gap.map Token.value) → Gap (gap'.map Token.value) → t.value.kind ≠ .whitespace →
      t.value = u.value → (w = true → t.value.kind = .word → (gap = [] ↔ gap' = [])) →
      TokensAlike (t.value.kind = .word) ts us → TokensAlike w (gap ++ t :: ts) (gap' ++ u :: us)

theorem TokensAlike.weaken {w : Bool} {ts us : List Token} (h : TokensAlike w ts us) :
    TokensAlike false ts us := by
  cases h with
  | gap hgap hgap' => exact .gap hgap hgap'
  | ink hgap hgap' ht hvalue _ hrest => exact .ink hgap hgap' ht hvalue (by simp) hrest

section

variable {w : Bool} {ts us gap : List Token} {ends : List TokenValue}

theorem isTerminator_of_gap (hgap : Gap (gap.map Token.value)) :
    ∀ t ∈ gap, t.isTerminator = false := by
  intro t ht
  apply Token.isTerminator_of_isBlank
  simpa [Token.isBlank] using hgap t.value (List.mem_map_of_mem ht)

theorem cutStatement_gap (hgap : Gap (gap.map Token.value)) (ts : List Token) :
    cutStatement (gap ++ ts) = (gap ++ (cutStatement ts).1, (cutStatement ts).2) := by
  have hfree := isTerminator_of_gap hgap
  clear hgap
  induction gap with
  | nil => rfl
  | cons t gap ih =>
    rw [List.forall_mem_cons] at hfree
    rw [List.cons_append, cutStatement, hfree.1, ih hfree.2]
    rfl

/-- The first statement is cut off at the same place. -/
theorem TokensAlike.cut (h : TokensAlike w ts us) :
    TokensAlike w (cutStatement ts).1 (cutStatement us).1 ∧
      TokensAlike false (cutStatement ts).2 (cutStatement us).2 := by
  induction h with
  | gap hgap hgap' =>
    rw [cutStatement_of_free (isTerminator_of_gap hgap),
      cutStatement_of_free (isTerminator_of_gap hgap')]
    exact ⟨.gap hgap hgap', .gap gap_nil gap_nil⟩
  | @ink w gap gap' ts us t u hgap hgap' ht hvalue hgaps hrest ih =>
    have hends : u.isTerminator = t.isTerminator := by
      rw [Token.isTerminator, Token.isTerminator, hvalue]
    rw [cutStatement_gap hgap, cutStatement_gap hgap', cutStatement, cutStatement, hends]
    by_cases hterm : t.isTerminator = true
    · simp only [hterm, if_true]
      exact ⟨.ink hgap hgap' ht hvalue hgaps (.gap gap_nil gap_nil), hrest.weaken⟩
    · simp only [hterm]
      exact ⟨.ink hgap hgap' ht hvalue hgaps ih.1, ih.2⟩

variable (hends : ∀ v ∈ ends, v.kind ≠ .whitespace)
include hends

theorem body_gap (hgap : Gap (gap.map Token.value)) (ts : List Token) :
    NameList.body ends (gap ++ ts) = gap ++ NameList.body ends ts := by
  refine List.takeWhile_append_of_pos fun t ht => ?_
  have hk := hgap t.value (List.mem_map_of_mem ht)
  simpa using fun hmem => hends t.value hmem hk

theorem rest_gap (hgap : Gap (gap.map Token.value)) (ts : List Token) :
    NameList.rest ends (gap ++ ts) = NameList.rest ends ts := by
  refine List.dropWhile_append_of_pos fun t ht => ?_
  have hk := hgap t.value (List.mem_map_of_mem ht)
  simpa using fun hmem => hends t.value hmem hk

theorem TokensAlike.body (h : TokensAlike w ts us) :
    TokensAlike w (NameList.body ends ts) (NameList.body ends us) := by
  induction h with
  | @gap w gap gap' hgap hgap' =>
    rw [← List.append_nil gap, ← List.append_nil gap', body_gap hends hgap, body_gap hends hgap']
    simpa [NameList.body] using TokensAlike.gap hgap hgap'
  | @ink w gap gap' ts us t u hgap hgap' ht hvalue hgaps _ ih =>
    rw [body_gap hends hgap, body_gap hends hgap']
    by_cases hmem : t.value ∈ ends
    · have hmem' : u.value ∈ ends := hvalue ▸ hmem
      simpa [NameList.body, hmem, hmem'] using TokensAlike.gap hgap hgap'
    · have hmem' : u.value ∉ ends := hvalue ▸ hmem
      simpa [NameList.body, hmem, hmem'] using TokensAlike.ink hgap hgap' ht hvalue hgaps ih

/-- Lists end at equal tokens, with the same behind them, or all tokens are in the lists. -/
theorem TokensAlike.rest (h : TokensAlike w ts us) :
    NameList.rest ends ts = [] ∧ NameList.rest ends us = [] ∨
      ∃ t u after after', NameList.rest ends ts = t :: after ∧
        NameList.rest ends us = u :: after' ∧ t.value = u.value ∧
          TokensAlike false after after' := by
  induction h with
  | @gap w gap gap' hgap hgap' =>
    rw [← List.append_nil gap, ← List.append_nil gap', rest_gap hends hgap, rest_gap hends hgap']
    exact .inl ⟨rfl, rfl⟩
  | @ink w gap gap' ts us t u hgap hgap' ht hvalue hgaps hrest ih =>
    rw [rest_gap hends hgap, rest_gap hends hgap']
    by_cases hmem : t.value ∈ ends
    · have hmem' : u.value ∈ ends := hvalue ▸ hmem
      exact .inr ⟨t, u, ts, us, by simp [NameList.rest, hmem], by simp [NameList.rest, hmem'],
        hvalue, hrest.weaken⟩
    · have hmem' : u.value ∉ ends := hvalue ▸ hmem
      simpa [NameList.rest, hmem, hmem'] using ih

end

namespace NameList

variable {gap gap' ts us : List Token}

/-- Tokens are joined to those in front of them by the last part of these. -/
theorem elementParts_append (last : Option Text) (ts us : List Token) :
    elementParts last (ts ++ us) =
      elementParts last ts ++ elementParts ((elementParts last ts).getLast?.or last) us := by
  have hcons : ∀ (part : Text) (parts : List Text) (last : Option Text),
      (part :: parts).getLast?.or last = parts.getLast?.or (some part) := by
    intro part parts last
    rw [List.getLast?_cons]
    cases parts.getLast? <;> rfl
  induction ts generalizing last with
  | nil => rfl
  | cons t ts ih =>
    rw [List.cons_append, elementParts, elementParts]
    split
    next =>
      split
      next => exact ih last
      next => rw [hcons, ih, List.cons_append]
    next => rw [hcons, ih, List.cons_append]

theorem elementParts_of_gap (hgap : Gap (gap.map Token.value)) (last : Option Text) :
    elementParts last gap =
      if gap = [] ∨ last = none ∨ last = some [' '] then [] else [[' ']] := by
  induction gap generalizing last with
  | nil => rfl
  | cons t gap ih =>
    rw [List.map_cons, gap_cons] at hgap
    have hb : t.isBlank = true := by simpa [Token.isBlank] using hgap.1
    by_cases hlast : last = none ∨ last = some [' '] <;>
      simp [elementParts, hb, hlast, ih hgap.2]

/-- Whitespace at its end does not show in an element. -/
theorem joinElement_append_gap (ts : List Token) (hgap : Gap (gap.map Token.value)) :
    joinElement (ts ++ gap) = joinElement ts := by
  rw [joinElement, elementParts_append, elementParts_of_gap hgap, List.flatten_append]
  split
  next => rw [List.flatten_nil, List.append_nil, joinElement]
  next =>
    rw [Text.trimEnd_append_of_forall _ (by simp), joinElement]

namespace Progress

variable {p q : Progress} {t u : Token}

def parts (p : Progress) : List Text := elementParts none p.pending

/-- A machine with whitespace read. -/
def skip (p : Progress) (gap : List Token) : Progress :=
  { p with pending := if p.pending = [] then [] else p.pending ++ gap }

theorem run_skip (hgap : Gap (gap.map Token.value)) (p : Progress) (next : Option Token)
    (ts : List Token) : p.run next (gap ++ ts) = (p.skip gap).run next ts :=
  run_gap hgap p next

/-- Machines that have read the same, up to whitespace at the end of an element. -/
structure Matches (p q : Progress) : Prop where
  elements : p.elements = q.elements
  pending : p.pending = [] ↔ q.pending = []
  join : joinElement p.pending = joinElement q.pending
  separator : p.separator.map Token.value = q.separator.map Token.value

namespace Matches

theorem refl (p : Progress) : Matches p p := ⟨rfl, .rfl, rfl, rfl⟩

theorem isEmpty_eq (h : Matches p q) : p.pending.isEmpty = q.pending.isEmpty := by
  rw [Bool.eq_iff_iff, List.isEmpty_iff, List.isEmpty_iff, h.pending]

theorem afterComma_eq (h : Matches p q) : p.afterComma = q.afterComma := by
  have hseparator := h.separator
  unfold afterComma
  cases hp : p.separator <;> cases hq : q.separator <;> simp [hp, hq] at hseparator ⊢
  rw [hseparator]

theorem fault_blame (h : Matches p q) (t u : Token) : (p.blame t).fault = (q.blame u).fault := by
  rw [blame, blame, h.elements, h.isEmpty_eq]
  split <;> rfl

theorem finish (h : Matches p q) (next next' : Option Token) :
    (p.finish next).mapError ListFault.fault = (q.finish next').mapError ListFault.fault := by
  have hseparator := h.separator
  unfold Progress.finish
  rw [h.elements, h.isEmpty_eq, h.join]
  split
  next => rfl
  next =>
    cases hp : p.separator <;> cases hq : q.separator <;> simp [hp, hq] at hseparator ⊢
    · split <;> rfl
    · rfl

theorem skip (h : Matches p q) (hgap : Gap (gap.map Token.value))
    (hgap' : Gap (gap'.map Token.value)) : Matches (p.skip gap) (q.skip gap') := by
  refine ⟨h.elements, ?_, ?_, h.separator⟩
  · by_cases hp : p.pending = []
    · simp [Progress.skip, hp, h.pending.1 hp]
    · simp [Progress.skip, hp, mt h.pending.2 hp]
  · by_cases hp : p.pending = []
    · simp [Progress.skip, hp, h.pending.1 hp]
    · simp only [Progress.skip, hp, mt h.pending.2 hp, if_false]
      rw [joinElement_append_gap _ hgap, joinElement_append_gap _ hgap', h.join]

end Matches

theorem join_of_parts (h : p.parts = q.parts) :
    joinElement p.pending = joinElement q.pending := by
  have hjoin : joinElement p.pending = Text.trimEnd (· == ' ') p.parts.flatten := rfl
  rw [hjoin, h]
  rfl

/-- Whitespace that is there for both machines or for none parts their elements alike. -/
theorem parts_skip (h : Matches p q) (hparts : p.parts = q.parts)
    (hgap : Gap (gap.map Token.value)) (hgap' : Gap (gap'.map Token.value))
    (hgaps : p.pending ≠ [] → (gap = [] ↔ gap' = [])) :
    (p.skip gap).parts = (q.skip gap').parts := by
  by_cases hp : p.pending = []
  · simp [parts, skip, hp, h.pending.1 hp]
  · have hp' : q.pending ≠ [] := mt h.pending.2 hp
    simp only [parts, skip, hp, hp', if_false] at hparts ⊢
    rw [elementParts_append, elementParts_append, elementParts_of_gap hgap,
      elementParts_of_gap hgap', hparts]
    simp only [hgaps hp]

theorem Matches.next (h : Matches p q) (hparts : p.parts = q.parts) (hvalue : t.value = u.value)
    (hn : IsName t.value) :
    Matches { p with pending := p.pending ++ [t], separator := none }
        { q with pending := q.pending ++ [u], separator := none } ∧
      parts { p with pending := p.pending ++ [t], separator := none } =
        parts { q with pending := q.pending ++ [u], separator := none } := by
  have hb : t.isBlank = false ∧ u.isBlank = false := by
    simp [Token.isBlank, ← hvalue, hn.1]
  have happend : parts { p with pending := p.pending ++ [t], separator := none } =
      parts { q with pending := q.pending ++ [u], separator := none } := by
    simp only [parts] at hparts ⊢
    rw [elementParts_append, elementParts_append, hparts]
    simp [elementParts, hb, hvalue]
  exact ⟨⟨h.elements, by simp, join_of_parts happend, rfl⟩, happend⟩

/-- What equal tokens do to two machines: they still match, or both find the same fault. -/
theorem Matches.step (h : Matches p q) (hvalue : t.value = u.value)
    (ht : t.value.kind ≠ .whitespace) (hparts : t.value.kind = .word → p.parts = q.parts) :
    (∃ p' q', p.step t = .ok p' ∧ q.step u = .ok q' ∧ Matches p' q' ∧ p'.parts = q'.parts ∧
        (p'.pending ≠ [] → t.value.kind = .word)) ∨
      ∃ f f', p.step t = .error f ∧ q.step u = .error f' ∧ f.fault = f'.fault := by
  by_cases hsep : t.value ∈ separators
  · have hsep' : u.value ∈ separators := hvalue ▸ hsep
    by_cases hp : p.pending = []
    · have hq := h.pending.1 hp
      rw [step_separator_nil hsep hp, step_separator_nil hsep' hq, ← hvalue, h.afterComma_eq]
      split
      next =>
        refine .inl ⟨_, _, rfl, rfl, ⟨h.elements, h.pending, h.join, by simp [hvalue]⟩, ?_, ?_⟩
        · simp [parts, hp, hq]
        · exact fun hne => absurd hp hne
      next => exact .inr ⟨_, _, rfl, rfl, h.fault_blame t u⟩
    · have hq : q.pending ≠ [] := mt h.pending.2 hp
      rw [step_separator hsep hp, step_separator hsep' hq]
      refine .inl ⟨_, _, rfl, rfl, ⟨?_, .rfl, rfl, by simp [hvalue]⟩, rfl, ?_⟩
      · rw [h.elements, h.join]
      · exact fun hne => absurd rfl hne
  by_cases hn : IsName t.value
  · rw [step_name hn, step_name (hvalue ▸ hn)]
    obtain ⟨hmatches, hparts'⟩ := h.next (hparts hn.1) hvalue hn
    exact .inl ⟨_, _, rfl, rfl, hmatches, hparts', fun _ => hn.1⟩
  have hsep' : u.value ∉ separators := hvalue ▸ hsep
  by_cases hk : t.value.kind = .word
  · have hr : t.value ∈ reserved := by simpa [IsName, hk] using hn
    exact .inr ⟨_, _, step_reserved hk hr hsep,
      step_reserved (hvalue ▸ hk) (hvalue ▸ hr) hsep', rfl⟩
  · exact .inr ⟨_, _, step_stray ht hk hsep,
      step_stray (hvalue ▸ ht) (hvalue ▸ hk) hsep', h.fault_blame t u⟩

/-- Machines that match read alike tokens to the same elements, or to the same fault. -/
theorem Matches.run {w : Bool} (h : Matches p q) (halike : TokensAlike w ts us)
    (hparts : p.parts = q.parts) (hw : p.pending ≠ [] → w = true) (next next' : Option Token) :
    (p.run next ts).mapError ListFault.fault = (q.run next' us).mapError ListFault.fault := by
  induction halike generalizing p q with
  | @gap w gap gap' hgap hgap' =>
    rw [← List.append_nil gap, ← List.append_nil gap', run_skip hgap, run_skip hgap']
    exact (h.skip hgap hgap').finish next next'
  | @ink w gap gap' ts us t u hgap hgap' ht hvalue hgaps _ ih =>
    rw [run_skip hgap, run_skip hgap']
    -- only a word goes on with the pending element, and then the whitespace is there for both
    have hword : t.value.kind = .word → (p.skip gap).parts = (q.skip gap').parts := by
      intro hk
      exact parts_skip h hparts hgap hgap' fun hp => hgaps (hw hp) hk
    rcases (h.skip hgap hgap').step hvalue ht hword with
      ⟨p', q', hp', hq', hmatches, hparts', hpending⟩ | ⟨f, f', hf, hf', hfault⟩
    · rw [run_cons_ok hp', run_cons_ok hq']
      exact ih hmatches hparts' fun hne => decide_eq_true (hpending hne)
    · rw [run_cons_error hf, run_cons_error hf']
      exact congrArg Except.error hfault

end Progress

end NameList

/-- Results that differ in no more than the tokens that an error is about. -/
inductive Agree {α : Type} : Except Rejection α → Except Rejection α → Prop
  | same (x : Except Rejection α) : Agree x x
  | error {e e' : ParseError} : e.fault = e'.fault → e.kind = e'.kind →
      e.expected = e'.expected → Agree (.error (.parse e)) (.error (.parse e'))

theorem Agree.bind {α β : Type} {x y : Except Rejection α} {f g : α → Except Rejection β}
    (h : Agree x y) (hfg : ∀ a, Agree (f a) (g a)) : Agree (x >>= f) (y >>= g) := by
  cases h with
  | same =>
    cases x with
    | error r => exact .same _
    | ok a => exact hfg a
  | error hfault hkind hexpected => exact .error hfault hkind hexpected

namespace Statement

/-- Statements of one kind over alike tokens. -/
structure Twins (s s' : Statement) : Prop where
  keyword : s.keyword = s'.keyword
  body : TokensAlike false s.body s'.body
  slice : IsSlice s.body
  slice' : IsSlice s'.body

variable {s s' : Statement} {ts us : List Token} {ends : List TokenValue}

theorem Twins.kind_eq (h : Twins s s') : s.kind = s'.kind := by rw [kind, h.keyword, kind]

end Statement

end Roster
