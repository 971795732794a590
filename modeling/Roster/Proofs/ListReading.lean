import Roster.NameList
import Roster.Proofs.Grammar

/-! Reading a list accepts exactly the list grammar in front of the first terminator and returns
the texts of its elements. -/
namespace Roster
open Vocabulary Grammar

/-- Words that show where whitespace stood between them. -/
def PlainWords (vs : List TokenValue) : Prop :=
  ∀ v ∈ vs, v.kind = .word → v.text ≠ [] ∧ ' ' ∉ v.text

instance (vs : List TokenValue) : Decidable (PlainWords vs) :=
  inferInstanceAs (Decidable (∀ _ ∈ _, _))

theorem plainWords_append {vs vs' : List TokenValue} :
    PlainWords (vs ++ vs') ↔ PlainWords vs ∧ PlainWords vs' := by
  simp only [PlainWords, List.forall_mem_append]

theorem plainWords_cons {v : TokenValue} {vs : List TokenValue} :
    PlainWords (v :: vs) ↔ (v.kind = .word → v.text ≠ [] ∧ ' ' ∉ v.text) ∧ PlainWords vs := by
  simp only [PlainWords, List.forall_mem_cons]

namespace Grammar

theorem gap_nil : Gap [] := by simp [Gap]

theorem gap_cons {v : TokenValue} {gap : List TokenValue} :
    Gap (v :: gap) ↔ v.kind = .whitespace ∧ Gap gap := by
  simp only [Gap, List.forall_mem_cons]

theorem Gap.plainWords {gap : List TokenValue} (h : Gap gap) : PlainWords gap := by
  intro v hv hk
  rw [h v hv] at hk
  cases hk

theorem gap_append {gap gap' : List TokenValue} : Gap (gap ++ gap') ↔ Gap gap ∧ Gap gap' := by
  simp only [Gap, List.forall_mem_append]

@[simp] theorem space_nil : space [] = [] := rfl

@[simp] theorem space_cons (v : TokenValue) (gap : List TokenValue) : space (v :: gap) = [' '] := by
  simp [space]

/-- What can stand in a list. -/
theorem Element.mem {vs : List TokenValue} {text : Text} (h : Element vs text) :
    ∀ v ∈ vs, v.kind = .whitespace ∨ IsName v := by
  induction h with
  | word hv => simpa using Or.inr hv
  | next hv hgap _ ih =>
    simp only [List.mem_cons, List.mem_append]
    rintro v (rfl | hm | hm)
    · exact .inr hv
    · exact .inl (hgap v hm)
    · exact ih v hm

theorem Separator.mem {vs : List TokenValue} (h : Separator vs) :
    ∀ v ∈ vs, v.kind = .whitespace ∨ v ∈ separators := by
  cases h with
  | comma => simp [separators]
  | and => simp [separators]
  | commaAnd hgap =>
    simp only [List.mem_cons, List.mem_append, List.not_mem_nil, or_false]
    rintro v (rfl | hm | rfl)
    · simp [separators]
    · exact .inl (hgap v hm)
    · simp [separators]

theorem Elements.mem {vs : List TokenValue} {texts : List Text} (h : Elements vs texts) :
    ∀ v ∈ vs, v.kind = .whitespace ∨ v ∈ separators ∨ IsName v := by
  induction h with
  | last he hgap =>
    simp only [List.mem_append]
    rintro v (hm | hm)
    · exact (he.mem v hm).imp_right .inr
    · exact .inl (hgap v hm)
  | more he hgap hs hgap' _ ih =>
    simp only [List.mem_append]
    rintro v (hm | hm | hm | hm | hm)
    · exact (he.mem v hm).imp_right .inr
    · exact .inl (hgap v hm)
    · exact (hs.mem v hm).imp_right .inl
    · exact .inl (hgap' v hm)
    · exact ih v hm

theorem Names.mem {vs : List TokenValue} {texts : List Text} (h : Names vs texts) :
    ∀ v ∈ vs, v.kind = .whitespace ∨ v ∈ separators ∨ IsName v := by
  cases h with
  | mk hgap he =>
    simp only [List.mem_append]
    rintro v (hm | hm)
    · exact .inl (hgap v hm)
    · exact he.mem v hm

theorem Names.of_gap {gap vs : List TokenValue} {texts : List Text} (hgap : Gap gap)
    (h : Names vs texts) : Names (gap ++ vs) texts := by
  cases h with
  | mk hgap' he =>
    rw [← List.append_assoc]
    exact .mk (gap_append.2 ⟨hgap, hgap'⟩) he

theorem Elements.ne_nil {vs : List TokenValue} {texts : List Text} (h : Elements vs texts) :
    texts ≠ [] := by cases h <;> simp

theorem Elements.append_gap {vs gap : List TokenValue} {texts : List Text}
    (h : Elements vs texts) (hgap : Gap gap) : Elements (vs ++ gap) texts := by
  induction h with
  | last he hgap' =>
    rw [List.append_assoc]
    exact .last he (gap_append.2 ⟨hgap', hgap⟩)
  | more he hgap' hs hgap'' _ ih =>
    simpa using Elements.more he hgap' hs hgap'' ih

/-- An element goes on with another word. -/
theorem Element.snoc {vs : List TokenValue} {text : Text} (h : Element vs text)
    {gap : List TokenValue} {v : TokenValue} (hgap : Gap gap) (hv : IsName v) :
    Element (vs ++ (gap ++ [v])) (text ++ space gap ++ v.text) := by
  induction h with
  | word hw => exact .next hw hgap (.word hv)
  | next hw hgap' _ ih => simpa using Element.next hw hgap' ih

/-- The text of an element begins and ends with a letter of a word. -/
theorem Element.getLast_ne_space {vs : List TokenValue} {text : Text} (h : Element vs text)
    (hp : PlainWords vs) : ∃ init c, text = init ++ [c] ∧ c ≠ ' ' := by
  induction h with
  | @word v hv =>
    obtain ⟨hne, hs⟩ := hp v (by simp) hv.1
    refine ⟨_, _, (List.dropLast_concat_getLast hne).symm, ?_⟩
    rintro h
    exact hs (h ▸ List.getLast_mem hne)
  | next hv hgap he ih =>
    simp only [plainWords_cons, plainWords_append] at hp
    obtain ⟨init, c, rfl, hc⟩ := ih hp.2.2
    exact ⟨_, c, (List.append_assoc _ _ _).symm, hc⟩

end Grammar

namespace NameList

/-- Whitespace behind a word is one space, whatever part it begins. -/
theorem elementParts_gap {w : Text} (hw : w ≠ [' ']) {gap : List Token}
    (hgap : ∀ t ∈ gap, t.isBlank = true) (ts : List Token) :
    (elementParts (some w) (gap ++ ts)).flatten =
      space (gap.map Token.value) ++
        (elementParts (if gap = [] then some w else some [' ']) ts).flatten := by
  have hrun : ∀ gap : List Token, (∀ t ∈ gap, t.isBlank = true) →
      elementParts (some [' ']) (gap ++ ts) = elementParts (some [' ']) ts := by
    intro gap hgap
    induction gap with
    | nil => rfl
    | cons t gap ih =>
      simp only [List.forall_mem_cons] at hgap
      simp [elementParts, hgap.1, ih hgap.2]
  cases gap with
  | nil => simp
  | cons t gap =>
    simp only [List.forall_mem_cons] at hgap
    simp [elementParts, hgap.1, hw, hrun gap hgap.2]

theorem flatten_elementParts {vs gap : List TokenValue} {text : Text} (h : Element vs text)
    (hp : PlainWords vs) (hgap : Gap gap) {ts : List Token} (hts : ts.map Token.value = vs ++ gap)
    (last : Option Text) : (elementParts last ts).flatten = text ++ space gap := by
  have blank : ∀ {gap : List TokenValue} {us : List Token}, us.map Token.value = gap → Gap gap →
      ∀ u ∈ us, u.isBlank = true := by
    rintro _ us rfl hg u hu
    simpa [Token.isBlank] using hg u.value (List.mem_map_of_mem hu)
  have distinct : ∀ {v : TokenValue}, v.kind = .word →
      (v.kind = .word → v.text ≠ [] ∧ ' ' ∉ v.text) → v.text ≠ [' '] := by
    intro v hk hv h
    exact (hv hk).2 (by simp [h])
  induction h generalizing ts last with
  | @word v hv =>
    obtain ⟨t, us, rfl, rfl, hus⟩ := List.map_eq_cons_iff.1 hts
    have hb : t.isBlank = false := by simp [Token.isBlank, hv.1]
    have hw := distinct hv.1 (plainWords_cons.1 hp).1
    have := elementParts_gap hw (blank hus hgap) []
    simp only [List.append_nil] at this
    simp [elementParts, hb, this, hus]
  | @next v gap' vs text hv hgap' he ih =>
    obtain ⟨t, us, rfl, rfl, hus⟩ := List.map_eq_cons_iff.1 hts
    replace hus : us.map Token.value = gap' ++ (vs ++ gap) := by simpa using hus
    obtain ⟨gs, us, rfl, hgs, hus⟩ := List.map_eq_append_iff.1 hus
    simp only [plainWords_cons, plainWords_append] at hp
    have hb : t.isBlank = false := by simp [Token.isBlank, hv.1]
    have hw := distinct hv.1 hp.1
    simp [elementParts, hb, elementParts_gap hw (blank hgs hgap'), hgs, ih hp.2.2 hus]

theorem joinElement_eq {vs gap : List TokenValue} {text : Text} (h : Element vs text)
    (hp : PlainWords vs) (hgap : Gap gap) (ts : List Token)
    (hts : ts.map Token.value = vs ++ gap) : joinElement ts = text := by
  obtain ⟨init, c, rfl, hc⟩ := h.getLast_ne_space hp
  rw [joinElement, flatten_elementParts h hp hgap hts]
  cases gap <;> simp [Text.trimEnd, hc]

namespace Progress

/-- The rest of a list, read from here. -/
def run (p : Progress) (next : Option Token) (ts : List Token) : Except ListFault (List Text) := do
  (← ts.foldlM step p).finish next

@[simp] theorem run_nil (p : Progress) (next : Option Token) : p.run next [] = p.finish next := rfl

theorem run_cons_ok {p q : Progress} {t : Token} (h : p.step t = .ok q) (next : Option Token)
    (ts : List Token) : p.run next (t :: ts) = q.run next ts := by
  simp [run, h, bind, Except.bind]

theorem run_cons_error {p : Progress} {t : Token} {f : ListFault} (h : p.step t = .error f)
    (next : Option Token) (ts : List Token) : p.run next (t :: ts) = .error f := by
  simp [run, h, bind, Except.bind]

theorem step_blank {p : Progress} {t : Token} (h : t.value.kind = .whitespace) :
    p.step t = .ok { p with pending := if p.pending = [] then [] else p.pending ++ [t] } := by
  obtain ⟨elements, pending, separator⟩ := p
  cases pending <;> simp [step, Token.isBlank, h]

theorem kind_of_mem_separators {v : TokenValue} (h : v ∈ separators) : v.kind ≠ .whitespace := by
  revert v
  decide

theorem step_separator {p : Progress} {t : Token} (h : t.value ∈ separators)
    (hp : p.pending ≠ []) :
    p.step t = .ok ⟨p.elements ++ [joinElement p.pending], [], some t⟩ := by
  simp [step, Token.isBlank, kind_of_mem_separators h, h, hp]

theorem step_separator_nil {p : Progress} {t : Token} (h : t.value ∈ separators)
    (hp : p.pending = []) :
    p.step t = if t.value = andWord ∧ p.afterComma then .ok { p with separator := some t }
      else .error (p.blame t) := by
  simp [step, Token.isBlank, kind_of_mem_separators h, h, hp]

theorem step_name {p : Progress} {t : Token} (h : IsName t.value) :
    p.step t = .ok { p with pending := p.pending ++ [t], separator := none } := by
  have hs : t.value ∉ separators := by
    intro hm
    have hcases : t.value = comma ∨ t.value = andWord := by simpa [separators] using hm
    rcases hcases with he | he
    · exact absurd (he ▸ h.1) (by decide)
    · exact h.2 (by simp [he, reserved])
  simp [step, Token.isBlank, h.1, h.2, hs]

theorem step_reserved {p : Progress} {t : Token} (hk : t.value.kind = .word)
    (hr : t.value ∈ reserved) (hs : t.value ∉ separators) : p.step t = .error (.malformed t) := by
  simp [step, Token.isBlank, hs, hk, hr]

theorem step_stray {p : Progress} {t : Token} (hb : t.value.kind ≠ .whitespace)
    (hk : t.value.kind ≠ .word) (hs : t.value ∉ separators) : p.step t = .error (p.blame t) := by
  simp [step, Token.isBlank, hb, hs, hk]

/-- Nothing else can stand in a list. -/
theorem step_other {p : Progress} {t : Token} (hb : t.value.kind ≠ .whitespace)
    (hs : t.value ∉ separators) (hn : ¬IsName t.value) : ∃ f, p.step t = .error f := by
  by_cases hk : t.value.kind = .word
  · have hr : t.value ∈ reserved := by simpa [IsName, hk] using hn
    exact ⟨_, step_reserved hk hr hs⟩
  · exact ⟨_, step_stray hb hk hs⟩

theorem run_gap {gap ts : List Token} (hgap : Gap (gap.map Token.value)) (p : Progress)
    (next : Option Token) :
    p.run next (gap ++ ts) =
      { p with pending := if p.pending = [] then [] else p.pending ++ gap }.run next ts := by
  induction gap generalizing p with
  | nil => obtain ⟨_, pending, _⟩ := p; cases pending <;> simp
  | cons t gap ih =>
    simp only [List.map_cons, gap_cons] at hgap
    rw [List.cons_append, run_cons_ok (step_blank hgap.1), ih hgap.2]
    by_cases hp : p.pending = [] <;> simp [hp]

theorem run_element {vs : List TokenValue} {text : Text} (h : Element vs text) {us ts : List Token}
    (hus : us.map Token.value = vs) (p : Progress) (next : Option Token) :
    p.run next (us ++ ts) =
      { p with pending := p.pending ++ us, separator := none }.run next ts := by
  induction h generalizing us p with
  | word hv =>
    obtain ⟨u, us, rfl, rfl, hnil⟩ := List.map_eq_cons_iff.1 hus
    obtain rfl := List.map_eq_nil_iff.1 hnil
    exact run_cons_ok (step_name hv) next ts
  | next hv hgap _ ih =>
    obtain ⟨u, us, rfl, rfl, htail⟩ := List.map_eq_cons_iff.1 hus
    obtain ⟨gs, us, rfl, rfl, hrest⟩ := List.map_eq_append_iff.1 htail
    rw [List.cons_append, run_cons_ok (step_name hv), List.append_assoc, run_gap hgap, ih hrest]
    simp

theorem run_separator {vs : List TokenValue} (h : Separator vs) {us : List Token}
    (hus : us.map Token.value = vs) {p : Progress} (hp : p.pending ≠ []) (next : Option Token)
    (ts : List Token) :
    ∃ t, p.run next (us ++ ts) =
      Progress.run ⟨p.elements ++ [joinElement p.pending], [], some t⟩ next ts := by
  cases h with
  | comma =>
    obtain ⟨u, us, rfl, hu, hnil⟩ := List.map_eq_cons_iff.1 hus
    obtain rfl := List.map_eq_nil_iff.1 hnil
    exact ⟨u, run_cons_ok (step_separator (by simp [hu, separators]) hp) next ts⟩
  | and =>
    obtain ⟨u, us, rfl, hu, hnil⟩ := List.map_eq_cons_iff.1 hus
    obtain rfl := List.map_eq_nil_iff.1 hnil
    exact ⟨u, run_cons_ok (step_separator (by simp [hu, separators]) hp) next ts⟩
  | commaAnd hgap =>
    obtain ⟨u, us, rfl, hu, htail⟩ := List.map_eq_cons_iff.1 hus
    obtain ⟨gs, us, rfl, rfl, hand⟩ := List.map_eq_append_iff.1 htail
    obtain ⟨a, us, rfl, ha, hnil⟩ := List.map_eq_cons_iff.1 hand
    obtain rfl := List.map_eq_nil_iff.1 hnil
    refine ⟨a, ?_⟩
    have hsep : a.value ∈ separators := by simp [ha, separators]
    rw [List.cons_append, run_cons_ok (step_separator (by simp [hu, separators]) hp),
      List.append_assoc, run_gap hgap, List.singleton_append]
    refine run_cons_ok ?_ next ts
    rw [step_separator_nil hsep (by simp), if_pos (by simp [ha, afterComma, hu])]
    simp

/-- A list is read to its end; of plain words, its texts are read. -/
theorem exists_run_elements {vs : List TokenValue} {texts : List Text} (h : Elements vs texts)
    {ts : List Token} (hts : ts.map Token.value = vs) {p : Progress} (hp : p.pending = [])
    (next : Option Token) :
    ∃ texts', p.run next ts = .ok (p.elements ++ texts') ∧ (PlainWords vs → texts' = texts) := by
  induction h generalizing ts p with
  | last he hgap =>
    obtain ⟨us, gs, rfl, hus, rfl⟩ := List.map_eq_append_iff.1 hts
    have hne : us ≠ [] := by rintro rfl; cases he <;> simp at hus
    rw [run_element he hus, ← List.append_nil gs, run_gap hgap]
    refine ⟨[joinElement (us ++ gs)], by simp [finish, hp, hne], fun hw => ?_⟩
    rw [joinElement_eq he (plainWords_append.1 hw).1 hgap (us ++ gs) (by simp [hus])]
  | more he hgap hs hgap' _ ih =>
    obtain ⟨us, _, rfl, hus, htail⟩ := List.map_eq_append_iff.1 hts
    obtain ⟨gs, _, rfl, rfl, hseparator⟩ := List.map_eq_append_iff.1 htail
    obtain ⟨ss, _, rfl, hss, hgaps⟩ := List.map_eq_append_iff.1 hseparator
    obtain ⟨gs', rest, rfl, rfl, hrest⟩ := List.map_eq_append_iff.1 hgaps
    have hne : us ≠ [] := by rintro rfl; cases he <;> simp at hus
    rw [run_element he hus, run_gap hgap]
    simp only [hp, List.nil_append, hne, ↓reduceIte]
    obtain ⟨t, ht⟩ := run_separator hs hss (p := ⟨p.elements, us ++ gs, none⟩)
      (by simp [hne]) next (gs' ++ rest)
    obtain ⟨texts', hrun, htexts⟩ := ih hrest
      (p := ⟨p.elements ++ [joinElement (us ++ gs)], [], some t⟩) rfl
    rw [ht, run_gap hgap']
    refine ⟨joinElement (us ++ gs) :: texts', by simpa using hrun, fun hw => ?_⟩
    simp only [plainWords_append] at hw
    rw [joinElement_eq he hw.1 hgap (us ++ gs) (by simp [hus]), htexts hw.2.2.2.2]

theorem exists_run_names {vs : List TokenValue} {texts : List Text} (h : Names vs texts)
    {ts : List Token} (hts : ts.map Token.value = vs) (next : Option Token) :
    ∃ texts', start.run next ts = .ok texts' ∧ (PlainWords vs → texts' = texts) := by
  cases h with
  | mk hgap he =>
    obtain ⟨gs, us, rfl, rfl, hus⟩ := List.map_eq_append_iff.1 hts
    obtain ⟨texts', hrun, htexts⟩ := exists_run_elements he hus (p := start) rfl next
    rw [run_gap hgap]
    exact ⟨texts', hrun, fun hw => htexts (plainWords_append.1 hw).2⟩

theorem run_names {vs : List TokenValue} {texts : List Text} (h : Names vs texts)
    (hw : PlainWords vs) {ts : List Token} (hts : ts.map Token.value = vs) (next : Option Token) :
    start.run next ts = .ok texts := by
  obtain ⟨texts', hrun, htexts⟩ := exists_run_names h hts next
  rw [hrun, htexts hw]

/-- What may follow where no element has begun: a list, or `and` and a list behind a comma. -/
def Resumes (p : Progress) (vs : List TokenValue) (texts : List Text) : Prop :=
  Names vs texts ∨ p.afterComma = true ∧ ∃ gap rest, vs = gap ++ andWord :: rest ∧ Gap gap ∧
    Names rest texts

theorem Resumes.cons_blank {p : Progress} {v : TokenValue} {vs : List TokenValue}
    {texts : List Text} (hv : v.kind = .whitespace) (h : p.Resumes vs texts) :
    p.Resumes (v :: vs) texts := by
  rcases h with h | ⟨hc, gap, rest, rfl, hgap, h⟩
  · exact .inl (Names.of_gap (gap_cons.2 ⟨hv, gap_nil⟩) h)
  · exact .inr ⟨hc, v :: gap, rest, rfl, gap_cons.2 ⟨hv, hgap⟩, h⟩

/-- An element that a separator follows, and what comes behind the separator. -/
theorem Resumes.elements {p : Progress} {t : Token} {vs gap rest : List TokenValue} {text : Text}
    {texts : List Text} (hp : p.separator = some t) (ht : t.value ∈ separators)
    (he : Element vs text) (hgap : Gap gap) (h : p.Resumes rest texts) :
    Elements (vs ++ (gap ++ (t.value :: rest))) (text :: texts) := by
  rcases h with h | ⟨hc, gap', rest, rfl, hgap', h⟩
  · obtain ⟨hgap', h⟩ := h
    have hs : Separator [t.value] := by
      have hcases : t.value = comma ∨ t.value = andWord := by simpa [separators] using ht
      rcases hcases with hv | hv
      · exact hv ▸ .comma
      · exact hv ▸ .and
    simpa using Elements.more he hgap hs hgap' h
  · obtain ⟨hgap'', h⟩ := h
    have hv : t.value = comma := by simpa [afterComma, hp] using hc
    rw [hv]
    simpa using Elements.more he hgap (.commaAnd hgap') hgap'' h

/-- What a run that begins between elements has read when it ends well. -/
def SoundBetween (next : Option Token) (ts : List Token) : Prop :=
  ∀ (p : Progress) (texts : List Text), p.pending = [] → (p.separator = none → p.elements = []) →
    PlainWords (ts.map Token.value) → p.run next ts = .ok texts →
    ∃ texts', texts = p.elements ++ texts' ∧ p.Resumes (ts.map Token.value) texts'

/-- What a run that begins within an element has read when it ends well. -/
def SoundWithin (next : Option Token) (ts : List Token) : Prop :=
  ∀ (p : Progress) (texts : List Text) (vs gap : List TokenValue) (text : Text),
    Element vs text → Gap gap → p.pending.map Token.value = vs ++ gap →
    PlainWords (vs ++ ts.map Token.value) → p.run next ts = .ok texts →
    ∃ texts', texts = p.elements ++ texts' ∧ Elements (vs ++ (gap ++ ts.map Token.value)) texts'

theorem pending_ne_nil {p : Progress} {vs gap : List TokenValue} {text : Text}
    (he : Element vs text) (hpend : p.pending.map Token.value = vs ++ gap) : p.pending ≠ [] := by
  intro hnil
  cases he <;> simp [hnil] at hpend

theorem soundBetween_nil (next : Option Token) : SoundBetween next [] := by
  intro p texts hp hs _ h
  cases hsep : p.separator with
  | some t => simp [finish, hp, hsep] at h
  | none =>
    rw [run_nil, finish, hp, hsep, hs hsep] at h
    simp at h

theorem soundWithin_nil (next : Option Token) : SoundWithin next [] := by
  intro p texts vs gap text he hgap hpend hw h
  have hne := pending_ne_nil he hpend
  have hjoin := joinElement_eq he (by simpa using hw) hgap p.pending hpend
  have htexts : p.elements ++ [text] = texts := by simpa [finish, hne, hjoin] using h
  exact ⟨[text], htexts.symm, by simpa using Elements.last he hgap⟩

theorem soundBetween_cons {next : Option Token} {ts : List Token} (between : SoundBetween next ts)
    (within : SoundWithin next ts) (t : Token) : SoundBetween next (t :: ts) := by
  intro p texts hp hs hw h
  simp only [List.map_cons, plainWords_cons] at hw ⊢
  by_cases hb : t.value.kind = .whitespace
  · rw [run_cons_ok (step_blank hb)] at h
    simp only [hp, ↓reduceIte] at h
    obtain ⟨texts', rfl, hr⟩ := between ⟨p.elements, [], p.separator⟩ texts rfl hs hw.2 h
    exact ⟨texts', rfl, Resumes.cons_blank hb hr⟩
  by_cases hsep : t.value ∈ separators
  · have hstep := step_separator_nil hsep hp
    split at hstep
    next hand =>
      rw [run_cons_ok hstep] at h
      obtain ⟨texts', rfl, hr⟩ := between { p with separator := some t } texts hp (by simp) hw.2 h
      refine ⟨texts', rfl, .inr ⟨hand.2, [], ts.map Token.value, by simp [hand.1], gap_nil, ?_⟩⟩
      -- the separator is `and` now, so no second `and` may follow
      rcases hr with hr | ⟨hc, -⟩
      · exact hr
      · exact absurd hc (by simp [afterComma, hand.1]; decide)
    next =>
      rw [run_cons_error hstep] at h
      cases h
  by_cases hn : IsName t.value
  · rw [run_cons_ok (step_name hn)] at h
    obtain ⟨texts', rfl, he⟩ := within _ texts [t.value] [] _ (.word hn) gap_nil (by simp [hp])
      (plainWords_cons.2 hw) h
    exact ⟨texts', rfl, .inl (.mk gap_nil he)⟩
  · obtain ⟨f, hf⟩ := step_other (p := p) hb hsep hn
    rw [run_cons_error hf] at h
    cases h

theorem soundWithin_cons {next : Option Token} {ts : List Token} (between : SoundBetween next ts)
    (within : SoundWithin next ts) (t : Token) : SoundWithin next (t :: ts) := by
  intro p texts vs gap text he hgap hpend hw h
  have hne := pending_ne_nil he hpend
  simp only [List.map_cons, plainWords_append, plainWords_cons] at hw ⊢
  by_cases hb : t.value.kind = .whitespace
  · rw [run_cons_ok (step_blank hb)] at h
    obtain ⟨texts', rfl, hr⟩ := within _ texts vs (gap ++ [t.value]) text he
      (gap_append.2 ⟨hgap, gap_cons.2 ⟨hb, gap_nil⟩⟩) (by simp [hne, hpend])
      (plainWords_append.2 ⟨hw.1, hw.2.2⟩) h
    exact ⟨texts', rfl, by simpa using hr⟩
  by_cases hsep : t.value ∈ separators
  · rw [run_cons_ok (step_separator hsep hne)] at h
    have hjoin := joinElement_eq he hw.1 hgap p.pending hpend
    obtain ⟨texts', rfl, hr⟩ := between ⟨p.elements ++ [joinElement p.pending], [], some t⟩ texts
      rfl (by simp) hw.2.2 h
    exact ⟨text :: texts', by simp [hjoin], hr.elements rfl hsep he hgap⟩
  by_cases hn : IsName t.value
  · rw [run_cons_ok (step_name hn)] at h
    have hplain : PlainWords (vs ++ (gap ++ [t.value]) ++ ts.map Token.value) := by
      rw [List.append_assoc, List.append_assoc, List.singleton_append, plainWords_append,
        plainWords_append, plainWords_cons]
      exact ⟨hw.1, hgap.plainWords, hw.2⟩
    obtain ⟨texts', rfl, hr⟩ := within _ texts _ [] _ (he.snoc hgap hn) gap_nil (by simp [hpend])
      hplain h
    exact ⟨texts', rfl, by simpa using hr⟩
  · obtain ⟨f, hf⟩ := step_other (p := p) hb hsep hn
    rw [run_cons_error hf] at h
    cases h

/-- Both states of the machine at once: between elements, and within one. -/
theorem run_sound (next : Option Token) (ts : List Token) :
    SoundBetween next ts ∧ SoundWithin next ts := by
  induction ts with
  | nil => exact ⟨soundBetween_nil next, soundWithin_nil next⟩
  | cons t ts ih => exact ⟨soundBetween_cons ih.1 ih.2 t, soundWithin_cons ih.1 ih.2 t⟩

end Progress

theorem read_eq_run (terminators : List TokenValue) (ts : List Token) :
    read terminators ts = Progress.start.run ((rest terminators ts).head?.or ts.getLast?)
      (body terminators ts) := rfl

/-- A list is read exactly if the tokens in front of its first terminator follow the grammar. -/
theorem read_eq_ok_iff {terminators : List TokenValue} {ts : List Token} {texts : List Text}
    (hw : PlainWords ((body terminators ts).map Token.value)) :
    read terminators ts = .ok texts ↔ Names ((body terminators ts).map Token.value) texts := by
  rw [read_eq_run]
  constructor
  · intro h
    obtain ⟨texts', rfl, hr⟩ := (Progress.run_sound _ _).1 Progress.start texts rfl
      (fun _ => rfl) hw h
    rcases hr with hr | ⟨hc, -⟩
    · exact hr
    · exact absurd hc (by simp [Progress.afterComma, Progress.start])
  · exact fun h => Progress.run_names h hw rfl _

end NameList
end Roster
