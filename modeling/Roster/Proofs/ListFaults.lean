import Mathlib.Data.Finset.Image
import Mathlib.Data.Set.Finite.Basic
import Roster.Proofs.ListExtent

/-! What a list is blamed on. Reading fails at the first token that no list goes on with, or, where
every token could go on, at the end of the list: without an element, or behind a separator. -/
namespace Roster
open Vocabulary Grammar

namespace Grammar

/-- Tokens that some list begins with, one that holds nothing that would end it. -/
def Viable (ends vs : List TokenValue) : Prop :=
  ∃ rest texts, Names (vs ++ rest) texts ∧ ∀ v ∈ vs ++ rest, v ∉ ends

variable {ends vs ws gap separator rest : List TokenValue} {v : TokenValue}
  {texts texts' : List Text}

theorem Viable.of_append (h : Viable ends (vs ++ ws)) : Viable ends vs := by
  obtain ⟨rest, texts, hn, hfree⟩ := h
  rw [List.append_assoc] at hn hfree
  exact ⟨ws ++ rest, texts, hn, hfree⟩

theorem gap_singleton : Gap [v] ↔ v.kind = .whitespace := by simp [gap_cons, gap_nil]

/-- The last element of a list goes on with another word. -/
theorem Elements.exists_snoc (h : Elements vs texts) (hv : IsName v) :
    ∃ texts', Elements (vs ++ [v]) texts' := by
  induction h with
  | last he hgap =>
    rw [List.append_assoc]
    exact ⟨_, by simpa using Elements.last (he.snoc hgap hv) gap_nil⟩
  | more he hgap hs hgap' _ ih =>
    obtain ⟨texts', h⟩ := ih
    exact ⟨_, by simpa using Elements.more he hgap hs hgap' h⟩

/-- A list goes on behind a separator. -/
theorem Elements.append (h : Elements vs texts) (hs : Separator separator) (hgap : Gap gap)
    (h' : Elements ws texts') : Elements (vs ++ (separator ++ (gap ++ ws))) (texts ++ texts') := by
  induction h with
  | last he hgap' =>
    rw [List.append_assoc]
    exact .more he hgap' hs hgap h'
  | more he hgap' hs' hgap'' _ ih => simpa using Elements.more he hgap' hs' hgap'' ih

theorem Names.append_gap (h : Names vs texts) (hgap : Gap gap) : Names (vs ++ gap) texts := by
  cases h with
  | mk hgap' he =>
    rw [List.append_assoc]
    exact .mk hgap' (he.append_gap hgap)

theorem Names.exists_snoc (h : Names vs texts) (hv : IsName v) :
    ∃ texts', Names (vs ++ [v]) texts' := by
  cases h with
  | mk hgap he =>
    obtain ⟨texts', he'⟩ := he.exists_snoc hv
    rw [List.append_assoc]
    exact ⟨texts', .mk hgap he'⟩

theorem Names.append (h : Names vs texts) (hs : Separator separator) (hgap : Gap gap)
    (hv : IsName v) : Names (vs ++ (separator ++ (gap ++ [v]))) (texts ++ [v.text]) := by
  have hlast : Elements [v] [v.text] := by simpa using Elements.last (.word hv) gap_nil
  cases h with
  | mk hgap' he =>
    rw [List.append_assoc]
    exact .mk hgap' (he.append hs hgap hlast)

/-- A separator is a comma, or it ends with `and`. -/
theorem Separator.ending (h : Separator vs) :
    vs = [Vocabulary.comma] ∨ ∃ front, vs = front ++ [andWord] := by
  cases h with
  | comma => exact .inl rfl
  | and => exact .inr ⟨[], rfl⟩
  | @commaAnd gap _ => exact .inr ⟨Vocabulary.comma :: gap, rfl⟩

theorem Separator.last_mem (h : Separator (vs ++ [v])) : v ∈ separators := by
  rcases h.ending with h | ⟨front, h⟩
  · obtain ⟨-, hv⟩ := List.append_inj' (h.trans (List.nil_append _).symm) rfl
    simpa [separators] using Or.inl (List.cons.inj hv).1
  · obtain ⟨-, hv⟩ := List.append_inj' h rfl
    simpa [separators] using Or.inr (List.cons.inj hv).1

theorem Separator.eq_nil_of_comma (h : Separator (vs ++ [Vocabulary.comma])) : vs = [] := by
  have hne : Vocabulary.comma ≠ andWord := by decide
  rcases h.ending with h | ⟨front, h⟩
  · exact (List.append_inj' (h.trans (List.nil_append _).symm) rfl).1
  · exact absurd (List.cons.inj (List.append_inj' h rfl).2).1 hne

theorem Element.not_gap {text : Text} (h : Element vs text) : ¬Gap vs := by
  intro hgap
  cases h with
  | word hv | next hv _ _ =>
    have hk := hv.1
    rw [hgap _ List.mem_cons_self] at hk
    cases hk

theorem Names.not_gap (h : Names vs texts) : ¬Gap vs := by
  intro hgap
  cases h with
  | mk _ he =>
    rw [gap_append] at hgap
    cases he with
    | last he _ | more he _ _ _ _ => exact he.not_gap (gap_append.1 hgap.2).1

/-- No list of ends holds all names. -/
theorem exists_name_not_mem (ends : List TokenValue) : ∃ v, IsName v ∧ v ∉ ends := by
  have hinj : Function.Injective fun n => TokenValue.word (List.replicate n 'x') := by
    intro m n h
    simpa [TokenValue.word] using h
  obtain ⟨v, ⟨n, rfl⟩, hv⟩ :=
    (Set.infinite_range_of_injective hinj).exists_notMem_finset (ends ++ reserved).toFinset
  rw [List.mem_toFinset, List.mem_append, not_or] at hv
  exact ⟨_, ⟨rfl, hv.2⟩, hv.1⟩

end Grammar

namespace NameList

/-- The last token that is no whitespace. -/
def lastInk? (ts : List Token) : Option Token := ts.reverse.find? fun t => !t.isBlank

/-- The fault of a token that no list goes on with, behind the tokens `us`. -/
def strayFault (us : List Token) (t : Token) : ListFault :=
  if Gap (us.map Token.value) ∧ ¬(t.value ∈ reserved ∧ t.value ≠ andWord) then .empty (some t)
  else .malformed t

/-- What the machine holds once it has read the front of a list: nothing, a pending element, or a
separator that no element has followed yet. -/
inductive Stage : List Token → Progress → Prop
  | opening {us : List Token} : Gap (us.map Token.value) → Stage us .start
  | within {us pending : List Token} {texts elements : List Text} :
      Names (us.map Token.value) texts → (∀ t ∈ lastInk? us, IsName t.value) → pending ≠ [] →
      Stage us ⟨elements, pending, none⟩
  | behind {us commas gap : List Token} {texts elements : List Text} {t : Token} :
      Names (us.map Token.value) texts → elements ≠ [] →
      Separator ((commas ++ [t]).map Token.value) → Gap (gap.map Token.value) →
      Stage (us ++ (commas ++ t :: gap)) ⟨elements, [], some t⟩

variable {ends : List TokenValue} {ts us gap : List Token} {t : Token} {p q : Progress}
  {texts : List Text} {f : ListFault}

theorem lastInk?_snoc (us : List Token) (t : Token) :
    lastInk? (us ++ [t]) = if t.isBlank then lastInk? us else some t := by
  cases h : t.isBlank <;> simp [lastInk?, h]

theorem lastInk?_append_gap (us : List Token) (hgap : Gap (gap.map Token.value)) :
    lastInk? (us ++ gap) = lastInk? us := by
  have hnone : gap.reverse.find? (fun t => !t.isBlank) = none := by
    simpa [Token.isBlank, Gap] using hgap
  rw [lastInk?, List.reverse_append, List.find?_append, hnone, Option.none_or, lastInk?]

namespace Stage

/-- Wherever the machine is, an element can begin or go on. -/
theorem exists_snoc (h : Stage us p) {v : TokenValue} (hv : IsName v) :
    ∃ texts, Names (us.map Token.value ++ [v]) texts := by
  cases h with
  | opening hgap =>
    have hlast : Elements [v] [v.text] := by simpa using Elements.last (.word hv) gap_nil
    exact ⟨_, .mk hgap hlast⟩
  | within hn _ _ => exact hn.exists_snoc hv
  | behind hn _ hs hgap => exact ⟨_, by simpa using hn.append hs hgap hv⟩

theorem viable (h : Stage us p) (hfree : ∀ t ∈ us, t.value ∉ ends) :
    Viable ends (us.map Token.value) := by
  obtain ⟨v, hv, hends⟩ := exists_name_not_mem ends
  obtain ⟨texts, hn⟩ := h.exists_snoc hv
  refine ⟨[v], texts, hn, List.forall_mem_append.2 ⟨?_, List.forall_mem_singleton.2 hends⟩⟩
  rwa [List.forall_mem_map]

theorem gap_iff (h : Stage us p) :
    Gap (us.map Token.value) ↔ p.elements = [] ∧ p.pending = [] := by
  cases h with
  | opening hgap => simpa [Progress.start] using hgap
  | within hn _ hp => exact iff_of_false hn.not_gap fun h => hp h.2
  | behind hn he _ _ =>
    refine iff_of_false (fun hgap => ?_) fun h => he h.1
    rw [List.map_append, gap_append] at hgap
    exact hn.not_gap hgap.1

theorem snoc_blank (h : Stage us p) (hb : t.value.kind = .whitespace) (hstep : p.step t = .ok q) :
    Stage (us ++ [t]) q := by
  have hgap : Gap ([t].map Token.value) := gap_singleton.2 hb
  rw [Progress.step_blank hb] at hstep
  cases h with
  | opening hgap' =>
    cases hstep
    refine .opening ?_
    rw [List.map_append]
    exact gap_append.2 ⟨hgap', hgap⟩
  | within hn hlast hp =>
    rw [if_neg hp] at hstep
    cases hstep
    rw [← lastInk?_append_gap us hgap] at hlast
    exact .within (by simpa using hn.append_gap hgap) hlast (by simp)
  | @behind us commas gap _ _ u hn he hs hgap' =>
    cases hstep
    have hgap'' : Gap ((gap ++ [t]).map Token.value) := by
      rw [List.map_append]
      exact gap_append.2 ⟨hgap', hgap⟩
    simpa using Stage.behind hn he hs hgap''

theorem snoc_separator (h : Stage us p) (hsep : t.value ∈ separators) (hstep : p.step t = .ok q) :
    Stage (us ++ [t]) q := by
  cases h with
  | opening hgap =>
    have hstart : Progress.start.afterComma = false := rfl
    rw [Progress.step_separator_nil hsep rfl, hstart, if_neg (by simp)] at hstep
    cases hstep
  | within hn _ hp =>
    rw [Progress.step_separator hsep hp] at hstep
    cases hstep
    have hs : Separator (([] ++ [t]).map Token.value) := by
      have hcases : t.value = comma ∨ t.value = andWord := by simpa [separators] using hsep
      rcases hcases with hv | hv
      · simpa [hv] using Separator.comma
      · simpa [hv] using Separator.and
    exact .behind hn (by simp) hs gap_nil
  | @behind us commas gap _ _ u hn he hs hgap =>
    rw [Progress.step_separator_nil hsep rfl] at hstep
    split at hstep
    next hand =>
      cases hstep
      have hu : u.value = comma := by simpa [Progress.afterComma] using hand.2
      rw [List.map_append, List.map_singleton, hu] at hs
      obtain rfl := List.map_eq_nil_iff.1 hs.eq_nil_of_comma
      have hs' : Separator ((u :: gap ++ [t]).map Token.value) := by
        simpa [hu, hand.1] using Separator.commaAnd hgap
      have hnone : Gap ([].map Token.value) := gap_nil
      simpa using Stage.behind hn he hs' hnone
    next => cases hstep

theorem snoc_name (h : Stage us p) (hn : IsName t.value) (hstep : p.step t = .ok q) :
    Stage (us ++ [t]) q := by
  rw [Progress.step_name hn] at hstep
  cases hstep
  obtain ⟨texts, hnames⟩ := h.exists_snoc hn
  have hlast : lastInk? (us ++ [t]) = some t := by simp [lastInk?_snoc, Token.isBlank, hn.1]
  exact .within (by simpa using hnames) (by simpa [hlast] using hn) (by simp)

theorem snoc (h : Stage us p) (hstep : p.step t = .ok q) : Stage (us ++ [t]) q := by
  by_cases hb : t.value.kind = .whitespace
  · exact h.snoc_blank hb hstep
  by_cases hs : t.value ∈ separators
  · exact h.snoc_separator hs hstep
  by_cases hn : IsName t.value
  · exact h.snoc_name hn hstep
  · obtain ⟨f, hf⟩ := Progress.step_other (p := p) hb hs hn
    rw [hf] at hstep
    cases hstep

theorem blame_eq (h : Stage us p) (ht : ¬(t.value ∈ reserved ∧ t.value ≠ andWord)) :
    p.blame t = strayFault us t := by
  have hempty : (p.elements.isEmpty && p.pending.isEmpty) = true ↔ Gap (us.map Token.value) := by
    rw [h.gap_iff, Bool.and_eq_true, List.isEmpty_iff, List.isEmpty_iff]
  simp only [Progress.blame, strayFault, hempty, ht, not_false_eq_true, and_true]

/-- The machine fails with the fault of the token that it stands at. -/
theorem step_error (h : Stage us p) (hstep : p.step t = .error f) : f = strayFault us t := by
  have hseparators : ∀ v ∈ separators, ¬(v ∈ reserved ∧ v ≠ andWord) := by decide
  have hwords : ∀ v ∈ reserved, v.kind = .word := by decide
  unfold Progress.step at hstep
  split at hstep
  next => cases hstep
  next =>
    split at hstep
    next hs =>
      split at hstep
      next => cases hstep
      next =>
        split at hstep
        next => cases hstep
        next =>
          cases hstep
          exact h.blame_eq (hseparators _ hs)
    next hs =>
      have hand : t.value ≠ andWord := by
        intro hand
        exact hs (by simp [hand, separators])
      split at hstep
      next =>
        split at hstep
        next hr =>
          cases hstep
          rw [strayFault, if_neg fun hgap => hgap.2 ⟨hr, hand⟩]
        next => cases hstep
      next hk =>
        cases hstep
        exact h.blame_eq fun hr => hk (hwords _ hr.1)

/-- At the end of a list without a fault, the last word belongs to an element. -/
theorem finish_eq_error (h : Stage us p) {next : Option Token} :
    p.finish next = .error f ↔
      Gap (us.map Token.value) ∧ f = .empty next ∨
        ∃ t, lastInk? us = some t ∧ t.value ∈ separators ∧ f = .malformed t := by
  have hinks : ∀ v ∈ separators, v.kind ≠ .whitespace ∧ ¬IsName v := by decide
  cases h with
  | opening hgap =>
    have hnone : lastInk? us = none := by
      have hlast := lastInk?_append_gap [] hgap
      rwa [List.nil_append] at hlast
    simp [Progress.finish, Progress.start, hgap, hnone, eq_comm]
  | within hn hlast hp =>
    have hok : ¬∃ t, lastInk? us = some t ∧ t.value ∈ separators ∧ f = .malformed t := by
      rintro ⟨t, ht, hs, -⟩
      exact (hinks _ hs).2 (hlast t ht)
    simp [Progress.finish, hp, hn.not_gap, hok]
  | @behind us commas gap _ _ u hn he hs hgap =>
    rw [List.map_append] at hs
    have hu : u.value ∈ separators := hs.last_mem
    have hlast : lastInk? (us ++ (commas ++ u :: gap)) = some u := by
      have hsplit : us ++ (commas ++ u :: gap) = us ++ commas ++ [u] ++ gap := by simp
      rw [hsplit, lastInk?_append_gap _ hgap, lastInk?_snoc]
      simp [Token.isBlank, (hinks _ hu).1]
    have hnot : ¬Gap ((us ++ (commas ++ u :: gap)).map Token.value) := by
      rw [List.map_append, gap_append]
      exact fun hgap => hn.not_gap hgap.1
    simp only [Progress.finish, hlast, hnot, List.isEmpty_nil]
    simp [hu, eq_comm]

end Stage

theorem foldlM_append_eq_ok {us vs : List Token} {p q : Progress} :
    (us ++ vs).foldlM Progress.step p = .ok q ↔
      ∃ r, us.foldlM Progress.step p = .ok r ∧ vs.foldlM Progress.step r = .ok q := by
  rw [List.foldlM_append, Except.bind_eq_ok]

theorem stage_of_foldlM {p : Progress} (h : us.foldlM Progress.step .start = .ok p) :
    Stage us p := by
  induction us using List.reverseRecOn generalizing p with
  | nil =>
    cases h
    exact .opening gap_nil
  | append_singleton us t ih =>
    obtain ⟨q, hq, hrun⟩ := foldlM_append_eq_ok.1 h
    obtain ⟨r, hstep, hnil⟩ := Except.bind_eq_ok.1 hrun
    cases hnil
    exact (ih hq).snoc hstep

/-- A run that fails does so at one token. -/
theorem foldlM_eq_error {p : Progress} :
    ts.foldlM Progress.step p = .error f ↔
      ∃ us t vs q, ts = us ++ t :: vs ∧ us.foldlM Progress.step p = .ok q ∧
        q.step t = .error f := by
  constructor
  · intro h
    induction ts generalizing p with
    | nil => cases h
    | cons t ts ih =>
      rw [List.foldlM_cons] at h
      rcases Except.bind_eq_error.1 h with h | ⟨q, hq, h⟩
      · exact ⟨[], t, ts, p, rfl, rfl, h⟩
      · obtain ⟨us, u, vs, r, rfl, hr, hstep⟩ := ih h
        refine ⟨t :: us, u, vs, r, rfl, ?_, hstep⟩
        rw [List.foldlM_cons, hq]
        exact hr
  · rintro ⟨us, t, vs, q, rfl, hq, hstep⟩
    have hrun : (t :: vs).foldlM Progress.step q = .error f :=
      Except.bind_eq_error.2 (.inl hstep)
    rw [List.foldlM_append, hq]
    exact hrun

/-- The machine reads exactly the tokens that some list begins with. -/
theorem viable_iff (hfree : ∀ t ∈ us, t.value ∉ ends) :
    Viable ends (us.map Token.value) ↔ ∃ p, us.foldlM Progress.step .start = .ok p := by
  constructor
  · rintro ⟨rest, texts, hn, -⟩
    have hvalues : (us ++ rest.map Token.ofValue).map Token.value = us.map Token.value ++ rest := by
      have hrest : Token.value ∘ Token.ofValue = id := rfl
      rw [List.map_append, List.map_map, hrest, List.map_id]
    obtain ⟨texts', hrun, -⟩ := Progress.exists_run_names hn hvalues none
    obtain ⟨q, hq, -⟩ := Except.bind_eq_ok.1 hrun
    obtain ⟨p, hp, -⟩ := foldlM_append_eq_ok.1 hq
    exact ⟨p, hp⟩
  · rintro ⟨p, hp⟩
    exact (stage_of_foldlM hp).viable hfree

/-- What a list is blamed on: the first token that no list goes on with or, where any of them could
go on, the end of a list without elements, or a separator that nothing follows. -/
inductive Blames (ends : List TokenValue) (ts : List Token) : ListFault → Prop
  | stray {k : Nat} {t : Token} : k < extent ends ts → ts[k]? = some t →
      (∀ j < k, Viable ends ((ts.take (j + 1)).map Token.value)) →
      ¬Viable ends ((ts.take (k + 1)).map Token.value) →
      Blames ends ts (strayFault (ts.take k) t)
  | nothing : Viable ends ((ts.take (extent ends ts)).map Token.value) →
      Gap ((ts.take (extent ends ts)).map Token.value) →
      Blames ends ts (.empty (ts[extent ends ts]?.or ts.getLast?))
  | dangling {t : Token} : Viable ends ((ts.take (extent ends ts)).map Token.value) →
      lastInk? (ts.take (extent ends ts)) = some t → t.value ∈ separators →
      Blames ends ts (.malformed t)

theorem not_mem_of_body_eq {vs : List Token} (hbody : body ends ts = us ++ t :: vs) :
    ∀ u ∈ us ++ [t], u.value ∉ ends := by
  intro u hu
  have hmem : u ∈ body ends ts := by
    rw [hbody, List.append_cons]
    exact List.mem_append_left vs hu
  exact not_mem_of_mem_body hmem

/-- A token that the machine fails at is the first that no list goes on with. -/
theorem blames_stray {vs : List Token} (hbody : body ends ts = us ++ t :: vs)
    (hp : us.foldlM Progress.step .start = .ok p) (hstep : p.step t = .error f) :
    Blames ends ts (strayFault us t) := by
  have hfree := not_mem_of_body_eq hbody
  have hts : ts = us ++ t :: (vs ++ rest ends ts) := by
    rw [← List.cons_append, ← List.append_assoc, ← hbody, body_append_rest]
  have hextent : us.length < extent ends ts := by
    rw [← length_body, hbody, List.length_append, List.length_cons]
    omega
  have htake : ts.take us.length = us := by
    rw [hts, List.take_left]
  have hleast : ∀ j < us.length, Viable ends ((ts.take (j + 1)).map Token.value) := by
    intro j hj
    have hv : Viable ends (us.map Token.value) :=
      (viable_iff fun u hu => hfree u (List.mem_append_left _ hu)).2 ⟨p, hp⟩
    have hfront : ts.take (j + 1) = us.take (j + 1) := by
      rw [hts, List.take_append_of_le_length (by omega)]
    rw [← List.take_append_drop (j + 1) us, List.map_append] at hv
    rw [hfront]
    exact hv.of_append
  have hstray : ¬Viable ends ((ts.take (us.length + 1)).map Token.value) := by
    have hfront : ts.take (us.length + 1) = us ++ [t] := by
      rw [hts, List.take_length_add_append]
      rfl
    rw [hfront, viable_iff hfree]
    rintro ⟨q, hq⟩
    obtain ⟨r, hr, hrun⟩ := foldlM_append_eq_ok.1 hq
    rw [hp] at hr
    cases hr
    obtain ⟨_, hok, -⟩ := Except.bind_eq_ok.1 hrun
    rw [hstep] at hok
    cases hok
  have hblames := Blames.stray (t := t) hextent (by rw [hts]; simp) hleast hstray
  rwa [htake] at hblames

/-- At the first token that no list goes on with, the machine fails. -/
theorem exists_of_stray {k : Nat} (hk : k < extent ends ts) (ht : ts[k]? = some t)
    (hleast : ∀ j < k, Viable ends ((ts.take (j + 1)).map Token.value))
    (hstray : ¬Viable ends ((ts.take (k + 1)).map Token.value)) :
    ∃ vs p, body ends ts = ts.take k ++ t :: vs ∧
      (ts.take k).foldlM Progress.step .start = .ok p ∧
        p.step t = .error (strayFault (ts.take k) t) := by
  have hbody : body ends ts = ts.take k ++ t :: (body ends ts).drop (k + 1) := by
    have hlt : k < (body ends ts).length := by rwa [length_body]
    have hget : (body ends ts)[k] = t := by
      rw [← Option.some_inj, ← List.getElem?_eq_getElem, ← ht, body_eq_take,
        List.getElem?_take_of_lt hk]
    have hfront : (body ends ts).take k = ts.take k := by
      rw [body_eq_take, List.take_take, Nat.min_eq_left hk.le]
    rw [← hget, ← List.drop_eq_getElem_cons hlt, ← hfront, List.take_append_drop]
  have hfree := not_mem_of_body_eq hbody
  have hv : Viable ends ((ts.take k).map Token.value) := by
    cases k with
    | zero =>
      have hstart : Stage [] .start := .opening gap_nil
      exact hstart.viable (by simp)
    | succ k => exact hleast k (Nat.lt_succ_self k)
  obtain ⟨p, hp⟩ := (viable_iff fun u hu => hfree u (List.mem_append_left _ hu)).1 hv
  refine ⟨_, p, hbody, hp, ?_⟩
  cases hstep : p.step t with
  | error f => rw [(stage_of_foldlM hp).step_error hstep]
  | ok q =>
    have hfront : ts.take (k + 1) = ts.take k ++ [t] := by
      rw [List.take_add_one, ht]
      rfl
    rw [hfront] at hstray
    refine absurd ((viable_iff hfree).2 ⟨q, foldlM_append_eq_ok.2 ⟨p, hp, ?_⟩⟩) hstray
    rw [List.foldlM_cons, hstep]
    rfl

theorem read_eq_bind (ends : List TokenValue) (ts : List Token) :
    read ends ts = (body ends ts).foldlM Progress.step .start >>= fun p =>
      p.finish (ts[extent ends ts]?.or ts.getLast?) := by
  have hnext : (rest ends ts).head? = ts[extent ends ts]? := by
    rw [rest_eq_drop, List.head?_drop]
  rw [← hnext]
  rfl

theorem blames_of_read (h : read ends ts = .error f) : Blames ends ts f := by
  rw [read_eq_bind] at h
  rcases Except.bind_eq_error.1 h with h | ⟨p, hp, h⟩
  · obtain ⟨us, t, vs, q, hbody, hq, hstep⟩ := foldlM_eq_error.1 h
    rw [(stage_of_foldlM hq).step_error hstep]
    exact blames_stray hbody hq hstep
  · have hv := (viable_iff fun t => not_mem_of_mem_body).2 ⟨p, hp⟩
    rw [body_eq_take] at hv
    rcases (stage_of_foldlM hp).finish_eq_error.1 h with ⟨hgap, rfl⟩ | ⟨t, ht, hs, rfl⟩
    · rw [body_eq_take] at hgap
      exact .nothing hv hgap
    · rw [body_eq_take] at ht
      exact .dangling hv ht hs

theorem read_of_blames (h : Blames ends ts f) : read ends ts = .error f := by
  have hfree : ∀ t ∈ body ends ts, t.value ∉ ends := fun t => not_mem_of_mem_body
  rw [read_eq_bind]
  cases h with
  | @stray k t hk ht hleast hstray =>
    obtain ⟨vs, p, hbody, hp, hstep⟩ := exists_of_stray hk ht hleast hstray
    exact Except.bind_eq_error.2 (.inl (foldlM_eq_error.2 ⟨_, t, vs, p, hbody, hp, hstep⟩))
  | nothing hv hgap =>
    rw [← body_eq_take] at hv hgap
    obtain ⟨p, hp⟩ := (viable_iff hfree).1 hv
    exact Except.bind_eq_error.2
      (.inr ⟨p, hp, (stage_of_foldlM hp).finish_eq_error.2 (.inl ⟨hgap, rfl⟩)⟩)
  | @dangling t hv ht hs =>
    rw [← body_eq_take] at hv ht
    obtain ⟨p, hp⟩ := (viable_iff hfree).1 hv
    exact Except.bind_eq_error.2
      (.inr ⟨p, hp, (stage_of_foldlM hp).finish_eq_error.2 (.inr ⟨t, ht, hs, rfl⟩)⟩)

/-- A list cannot be read exactly if there is something to blame it on, and that is its fault. -/
theorem read_eq_error_iff : read ends ts = .error f ↔ Blames ends ts f :=
  ⟨blames_of_read, read_of_blames⟩

/-- What is blamed is one of the tokens. -/
theorem Blames.mem (h : Blames ends ts f) (ht : t ∈ f.unexpected?) : t ∈ ts := by
  cases h with
  | @stray k u _ hu _ _ =>
    have htu : t = u := by
      simp only [strayFault] at ht
      split at ht <;> exact (Option.some.inj ht).symm
    exact htu ▸ List.mem_of_getElem? hu
  | nothing _ _ =>
    rcases Option.or_eq_some_iff.1 ht with h | ⟨-, h⟩
    · exact List.mem_of_getElem? h
    · exact List.mem_of_getLast? h
  | dangling _ hlast _ =>
    cases ht
    exact List.mem_of_mem_take (List.mem_reverse.1 (List.mem_of_find?_eq_some hlast))

theorem mem_of_read_eq_error (h : read ends ts = .error f) : ∀ t ∈ f.unexpected?, t ∈ ts :=
  fun _ => (blames_of_read h).mem

end NameList
end Roster
