import Mathlib.Data.List.Basic
import Roster.Proofs.StatementGrammar

/-! The grammar does not see how long a run of whitespace is. A program stays a program for the same
operations when each run is replaced by another one, as long as no run is lost or made new. -/
namespace Roster.Grammar
open Vocabulary

/-- The same values but for their runs of whitespace, each of which stands for another run. -/
inductive Regapped : List TokenValue → List TokenValue → Prop
  | nil : Regapped [] []
  | value {v : TokenValue} {vs vs' : List TokenValue} :
      v.kind ≠ .whitespace → Regapped vs vs' → Regapped (v :: vs) (v :: vs')
  | gap {gap gap' vs vs' : List TokenValue} :
      Gap gap → Gap gap' → gap ≠ [] → gap' ≠ [] → Regapped vs vs' →
      Regapped (gap ++ vs) (gap' ++ vs')

namespace Regapped

variable {vs vs' : List TokenValue}

/-- Whitespace stays whitespace, and nothing stays nothing. -/
theorem of_gap {gap : List TokenValue} (h : Regapped gap vs') (hgap : Gap gap) :
    Gap vs' ∧ space vs' = space gap := by
  induction h with
  | nil => exact ⟨gap_nil, rfl⟩
  | value hv _ _ => exact absurd (gap_cons.1 hgap).1 hv
  | gap _ hg' hne hne' _ ih =>
    obtain ⟨hvs', -⟩ := ih (gap_append.1 hgap).2
    refine ⟨gap_append.2 ⟨hg', hvs'⟩, ?_⟩
    rw [space, space, if_neg (List.append_ne_nil_of_left_ne_nil hne' _),
      if_neg (List.append_ne_nil_of_left_ne_nil hne _)]

/-- What is no whitespace keeps its place between what is in front of it and behind it. -/
theorem split {a b us : List TokenValue} {v : TokenValue} (h : Regapped us vs')
    (hus : us = a ++ v :: b) (hv : v.kind ≠ .whitespace) :
    ∃ a' b', vs' = a' ++ v :: b' ∧ Regapped a a' ∧ Regapped b b' := by
  induction h generalizing a with
  | nil => simp at hus
  | @value w ws ws' hw hws ih =>
    rcases a with _ | ⟨x, a⟩
    · obtain ⟨rfl, rfl⟩ := List.cons.inj hus
      exact ⟨[], ws', rfl, .nil, hws⟩
    · obtain ⟨rfl, hrest⟩ := List.cons.inj hus
      obtain ⟨a', b', rfl, ha, hb⟩ := ih hrest
      exact ⟨w :: a', b', rfl, .value hw ha, hb⟩
  | @gap g g' ws ws' hg hg' hne hne' hws ih =>
    rcases List.append_eq_append_iff.1 hus with ⟨c, rfl, hc⟩ | ⟨c, rfl, hc⟩
    · obtain ⟨a', b', rfl, ha, hb⟩ := ih hc
      exact ⟨g' ++ a', b', by rw [List.append_assoc], .gap hg hg' hne hne' ha, hb⟩
    · rcases c with _ | ⟨x, c⟩
      · obtain ⟨a', b', rfl, ha, hb⟩ := ih (a := []) hc.symm
        rw [List.append_nil] at hg hne
        exact ⟨g' ++ a', b', by rw [List.append_assoc], by
          simpa using Regapped.gap hg hg' hne hne' ha, hb⟩
      · obtain ⟨rfl, -⟩ := List.cons.inj hc
        exact absurd (hg v (by simp)) hv

theorem eq_nil_of_nil (h : Regapped [] vs') : vs' = [] := by
  have hspace := (h.of_gap gap_nil).2
  by_contra hne
  simp [space, hne] at hspace

theorem split_cons {b : List TokenValue} {v : TokenValue} (h : Regapped (v :: b) vs')
    (hv : v.kind ≠ .whitespace) : ∃ b', vs' = v :: b' ∧ Regapped b b' := by
  obtain ⟨a', b', rfl, ha, hb⟩ := h.split (a := []) rfl hv
  obtain rfl := ha.eq_nil_of_nil
  exact ⟨b', rfl, hb⟩

theorem append {a a' b b' : List TokenValue} (ha : Regapped a a') (hb : Regapped b b') :
    Regapped (a ++ b) (a' ++ b') := by
  induction ha with
  | nil => exact hb
  | value hv _ ih => exact .value hv ih
  | gap hg hg' hne hne' _ ih =>
    rw [List.append_assoc, List.append_assoc]
    exact .gap hg hg' hne hne' ih

/-- Two parts are replaced apart if the second begins with no whitespace. -/
theorem split_append {a b : List TokenValue} (h : Regapped (a ++ b) vs')
    (hb : ∀ v ∈ b.head?, v.kind ≠ .whitespace) :
    ∃ a' b', vs' = a' ++ b' ∧ Regapped a a' ∧ Regapped b b' := by
  cases b with
  | nil =>
    rw [List.append_nil] at h
    exact ⟨vs', [], by rw [List.append_nil], h, .nil⟩
  | cons v b =>
    have hv := hb v rfl
    obtain ⟨a', b', rfl, ha, hb⟩ := h.split rfl hv
    exact ⟨a', v :: b', rfl, ha, .value hv hb⟩

/-- Two parts are replaced apart if the first ends with no whitespace. -/
theorem split_append_of_last {a b : List TokenValue} (h : Regapped (a ++ b) vs')
    (ha : ∀ v ∈ a.getLast?, v.kind ≠ .whitespace) :
    ∃ a' b', vs' = a' ++ b' ∧ Regapped a a' ∧ Regapped b b' := by
  rcases List.eq_nil_or_concat a with rfl | ⟨a, v, rfl⟩
  · exact ⟨[], vs', rfl, .nil, h⟩
  · rw [List.concat_eq_append] at h ha ⊢
    have hv := ha v (by simp)
    rw [List.append_assoc] at h
    obtain ⟨a', b', rfl, ha', hb'⟩ := h.split rfl hv
    exact ⟨a' ++ [v], b', by simp, ha'.append (.value hv .nil), hb'⟩

end Regapped

theorem IsName.kind_ne_whitespace {v : TokenValue} (h : IsName v) : v.kind ≠ .whitespace := by
  rw [h.1]
  decide

theorem Element.head_ne_whitespace {vs : List TokenValue} {text : Text} (h : Element vs text) :
    ∀ v ∈ vs.head?, v.kind ≠ .whitespace := by
  intro v hv
  cases h with
  | word hw | next hw _ _ =>
    obtain rfl := Option.some.inj hv
    exact hw.kind_ne_whitespace

theorem Element.ne_nil {vs : List TokenValue} {text : Text} (h : Element vs text) : vs ≠ [] := by
  cases h <;> simp

theorem Element.last_ne_whitespace {vs : List TokenValue} {text : Text} (h : Element vs text) :
    ∀ v ∈ vs.getLast?, v.kind ≠ .whitespace := by
  induction h with
  | word hw => simpa using hw.kind_ne_whitespace
  | @next w gap vs text hw _ he ih =>
    intro v hv
    apply ih v
    rwa [← List.cons_append, List.getLast?_append_of_ne_nil _ he.ne_nil] at hv

theorem Separator.ends_ne_whitespace {vs : List TokenValue} (h : Separator vs) :
    (∀ v ∈ vs.head?, v.kind ≠ .whitespace) ∧ ∀ v ∈ vs.getLast?, v.kind ≠ .whitespace := by
  cases h with
  | comma => decide
  | and => decide
  | commaAnd _ =>
    have hcomma : Vocabulary.comma.kind ≠ .whitespace := by decide
    rw [← List.cons_append, List.getLast?_append_of_ne_nil _ (by simp)]
    exact ⟨by simpa using hcomma, by decide⟩

theorem Elements.head_ne_whitespace {vs : List TokenValue} {texts : List Text}
    (h : Elements vs texts) : ∀ v ∈ vs.head?, v.kind ≠ .whitespace := by
  cases h with
  | last he _ | more he _ _ _ _ =>
    rw [List.head?_append_of_ne_nil _ he.ne_nil]
    exact he.head_ne_whitespace

theorem Sentence.ends_ne_whitespace {vs : List TokenValue} {op : Operation} (h : Sentence vs op) :
    (∀ v ∈ vs.head?, v.kind ≠ .whitespace) ∧ ∀ v ∈ vs.getLast?, v.kind ≠ .whitespace := by
  obtain ⟨k, init, m, rfl, -⟩ := h.terminated
  constructor
  · simp [Keyword.value, TokenValue.word]
  · rw [← List.cons_append, List.getLast?_append_of_ne_nil _ (by simp)]
    simp [terminator, TokenValue.punctuation]

namespace Regapped

variable {vs vs' : List TokenValue}

theorem element {text : Text} (he : Element vs text) (h : Regapped vs vs') : Element vs' text := by
  induction he generalizing vs' with
  | word hv =>
    obtain ⟨b', rfl, hb⟩ := h.split_cons hv.kind_ne_whitespace
    obtain rfl := hb.eq_nil_of_nil
    exact .word hv
  | next hv hgap he ih =>
    obtain ⟨b', rfl, hb⟩ := h.split_cons hv.kind_ne_whitespace
    obtain ⟨gap', us', rfl, hg, hus⟩ := hb.split_append he.head_ne_whitespace
    obtain ⟨hgap', hspace⟩ := hg.of_gap hgap
    rw [← hspace]
    exact .next hv hgap' (ih hus)

theorem separator (hs : Separator vs) (h : Regapped vs vs') : Separator vs' := by
  have hcomma : comma.kind ≠ .whitespace := by decide
  have hand : andWord.kind ≠ .whitespace := by decide
  cases hs with
  | comma =>
    obtain ⟨b', rfl, hb⟩ := h.split_cons hcomma
    obtain rfl := hb.eq_nil_of_nil
    exact .comma
  | and =>
    obtain ⟨b', rfl, hb⟩ := h.split_cons hand
    obtain rfl := hb.eq_nil_of_nil
    exact .and
  | commaAnd hgap =>
    obtain ⟨b', rfl, hb⟩ := h.split_cons hcomma
    obtain ⟨gap', us', rfl, hg, hus⟩ := hb.split rfl hand
    obtain rfl := hus.eq_nil_of_nil
    exact .commaAnd (hg.of_gap hgap).1

theorem elements {texts : List Text} (he : Elements vs texts) (h : Regapped vs vs') :
    Elements vs' texts := by
  induction he generalizing vs' with
  | last he hgap =>
    obtain ⟨us, gap', rfl, hus, hg⟩ := h.split_append_of_last he.last_ne_whitespace
    exact .last (hus.element he) (hg.of_gap hgap).1
  | more he hgap hs hgap' hrest ih =>
    obtain ⟨us, _, rfl, hus, h₁⟩ := h.split_append_of_last he.last_ne_whitespace
    have hhead := hs.ends_ne_whitespace.1
    obtain ⟨g, _, rfl, hg, h₂⟩ := h₁.split_append (by
      rwa [List.head?_append_of_ne_nil _ (by cases hs <;> simp)])
    obtain ⟨ss, _, rfl, hss, h₃⟩ := h₂.split_append_of_last hs.ends_ne_whitespace.2
    obtain ⟨g', rest', rfl, hg', hrest'⟩ := h₃.split_append hrest.head_ne_whitespace
    exact .more (hus.element he) (hg.of_gap hgap).1 (hss.separator hs) (hg'.of_gap hgap').1
      (ih hrest')

theorem names {texts : List Text} (hn : Names vs texts) (h : Regapped vs vs') :
    Names vs' texts := by
  cases hn with
  | mk hgap he =>
    obtain ⟨gap', us, rfl, hg, hus⟩ := h.split_append he.head_ne_whitespace
    exact .mk (hg.of_gap hgap).1 (hus.elements he)

/-- A list and the terminator behind it. -/
theorem ending {list : List TokenValue} {texts : List Text} {m : Modifier} (hn : Names list texts)
    (h : Regapped (list ++ [terminator m]) vs') :
    ∃ list', vs' = list' ++ [terminator m] ∧ Names list' texts := by
  have hm : (terminator m).kind ≠ .whitespace := by cases m <;> decide
  obtain ⟨list', us, rfl, hl, hus⟩ := h.split rfl hm
  obtain rfl := hus.eq_nil_of_nil
  exact ⟨list', rfl, hl.names hn⟩

/-- Two lists with a word between them, and the terminator behind them. -/
theorem ending_two {list list' : List TokenValue} {texts texts' : List Text} {v : TokenValue}
    {m : Modifier} (hv : v.kind ≠ .whitespace) (hn : Names list texts) (hn' : Names list' texts')
    (h : Regapped (list ++ v :: (list' ++ [terminator m])) vs') :
    ∃ us us', vs' = us ++ v :: (us' ++ [terminator m]) ∧ Names us texts ∧ Names us' texts' := by
  obtain ⟨us, _, rfl, hl, hrest⟩ := h.split rfl hv
  obtain ⟨us', rfl, hus'⟩ := hrest.ending hn'
  exact ⟨us, us', rfl, hl.names hn, hus'⟩

theorem sentence {op : Operation} (hs : Sentence vs op) (h : Regapped vs vs') :
    Sentence vs' op := by
  have hk : ∀ k : Keyword, k.value.kind ≠ .whitespace := by
    intro k
    cases k <;> decide
  cases hs with
  | create hl =>
    obtain ⟨_, rfl, hbody⟩ := h.split_cons (hk .create)
    obtain ⟨list, rfl, hl⟩ := hbody.ending hl
    exact .create hl
  | display hl hm =>
    obtain ⟨_, rfl, hbody⟩ := h.split_cons (hk .display)
    obtain ⟨list, rfl, hl⟩ := hbody.ending hl
    exact .display hl hm
  | add hl hl' =>
    obtain ⟨_, rfl, hbody⟩ := h.split_cons (hk .add)
    obtain ⟨list, list', rfl, hl, hl'⟩ := hbody.ending_two (by decide) hl hl'
    exact .add hl hl'
  | remove hl hm =>
    obtain ⟨_, rfl, hbody⟩ := h.split_cons (hk .remove)
    obtain ⟨list, rfl, hl⟩ := hbody.ending hl
    exact .remove hl hm
  | removeFrom hl hl' hm =>
    obtain ⟨_, rfl, hbody⟩ := h.split_cons (hk .remove)
    obtain ⟨list, list', rfl, hl, hl'⟩ := hbody.ending_two (by decide) hl hl'
    exact .removeFrom hl hl' hm

/-- A program stays a program for the same operations. -/
theorem program {ops : List Operation} (hp : Program vs ops) (h : Regapped vs vs') :
    Program vs' ops := by
  induction hp generalizing vs' with
  | blank hgap => exact .blank (h.of_gap hgap).1
  | sentence hgap hs _ ih =>
    obtain ⟨hhead, hlast⟩ := hs.ends_ne_whitespace
    obtain ⟨gap', _, rfl, hg, htail⟩ := h.split_append (by
      obtain ⟨k, init, m, rfl, -⟩ := hs.terminated
      simpa using hhead)
    obtain ⟨us, rest', rfl, hus, hrest⟩ := htail.split_append_of_last hlast
    exact .sentence (hg.of_gap hgap).1 (hus.sentence hs) (ih hrest)

end Regapped
end Roster.Grammar
