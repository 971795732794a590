import Roster.Proofs.ListReading
import Roster.Proofs.StatementSequence

/-! Parsing accepts exactly the statement grammar and gives the operations of the derivation. -/
namespace Roster
open Vocabulary Grammar

namespace NameList

theorem body_append_rest (terminators : List TokenValue) (ts : List Token) :
    body terminators ts ++ rest terminators ts = ts := List.takeWhile_append_dropWhile

theorem body_of_terminator {terminators : List TokenValue} {ts : List Token} {t : Token}
    (hts : ∀ u ∈ ts, u.value ∉ terminators) (ht : t.value ∈ terminators) (us : List Token) :
    body terminators (ts ++ t :: us) = ts := by
  rw [body, List.takeWhile_append_of_pos (by simpa using hts)]
  simp [ht]

theorem rest_of_terminator {terminators : List TokenValue} {ts : List Token} {t : Token}
    (hts : ∀ u ∈ ts, u.value ∉ terminators) (ht : t.value ∈ terminators) (us : List Token) :
    rest terminators (ts ++ t :: us) = t :: us := by
  rw [rest, List.dropWhile_append_of_pos (by simpa using hts)]
  simp [ht]

end NameList

namespace Grammar

/-- No list holds what ends one. -/
theorem Names.not_mem_terminators {vs : List TokenValue} {texts : List Text} (h : Names vs texts) :
    ∀ v ∈ vs, v ∉ toWord :: Statement.removalTerminators := by
  have hends : ∀ v ∈ toWord :: Statement.removalTerminators,
      v.kind ≠ .whitespace ∧ v ∉ separators ∧ ¬IsName v := by decide
  intro v hv hmem
  obtain ⟨hb, hs, hn⟩ := hends v hmem
  rcases h.mem v hv with h | h | h
  · exact hb h
  · exact hs h
  · exact hn h

theorem terminator_mem (m : Modifier) : terminator m ∈ terminators := by cases m <;> decide

/-- A statement ends at its only terminator. -/
theorem Sentence.terminated {vs : List TokenValue} {op : Operation} (h : Sentence vs op) :
    ∃ (k : Keyword) (init : List TokenValue) (m : Modifier),
      vs = k.value :: (init ++ [terminator m]) ∧ ∀ v ∈ init, v ∉ terminators := by
  have free : ∀ {list : List TokenValue} {texts : List Text}, Names list texts →
      ∀ v ∈ list, v ∉ terminators := by
    intro list texts hl v hv hmem
    exact hl.not_mem_terminators v hv (by simp [Statement.removalTerminators, hmem])
  cases h with
  | create hl => exact ⟨.create, _, _, rfl, free hl⟩
  | display hl _ => exact ⟨.display, _, _, rfl, free hl⟩
  | @add list list' _ _ m hl hl' =>
    refine ⟨.add, list ++ toWord :: list', m, by simp, ?_⟩
    simp only [List.forall_mem_append, List.forall_mem_cons]
    exact ⟨free hl, by decide, free hl'⟩
  | remove hl _ => exact ⟨.remove, _, _, rfl, free hl⟩
  | @removeFrom list list' _ _ m hl hl' _ =>
    refine ⟨.remove, list ++ fromWord :: list', m, by simp, ?_⟩
    simp only [List.forall_mem_append, List.forall_mem_cons]
    exact ⟨free hl, by decide, free hl'⟩

theorem Program.of_gap {gap vs : List TokenValue} {ops : List Operation} (hgap : Gap gap)
    (h : Program vs ops) : Program (gap ++ vs) ops := by
  cases h with
  | blank hgap' => exact .blank (gap_append.2 ⟨hgap, hgap'⟩)
  | sentence hgap' hs hp =>
    rw [← List.append_assoc]
    exact .sentence (gap_append.2 ⟨hgap, hgap'⟩) hs hp

end Grammar

namespace Statement

theorem conclude_rest {s : Statement} {op op' : Operation} {terminators : List TokenValue}
    {ts : List Token} (h : s.conclude op (NameList.rest terminators ts) = .ok op') :
    ∃ m, ts.map Token.value = (NameList.body terminators ts).map Token.value ++ [terminator m] ∧
      op.takesModifier m = true ∧ op' = op.setModifier m := by
  obtain ⟨-, t, m, hrest, ht, htakes, rfl⟩ := conclude_eq_ok.1 h
  refine ⟨m, ?_, htakes, rfl⟩
  calc
    ts.map Token.value
        = (NameList.body terminators ts ++ NameList.rest terminators ts).map Token.value := by
      rw [NameList.body_append_rest]
    _ = (NameList.body terminators ts).map Token.value ++ [terminator m] := by
      simp [hrest, ht]

theorem names_of_read {terminators : List TokenValue} {ts : List Token} {texts : List Text}
    (hw : PlainWords (ts.map Token.value)) (h : NameList.read terminators ts = .ok texts) :
    Names ((NameList.body terminators ts).map Token.value) texts := by
  rw [← NameList.body_append_rest terminators ts, List.map_append, plainWords_append] at hw
  exact (NameList.read_eq_ok_iff hw.1).1 h

theorem ne_overwrite_of_display {departments : List Text} {m : Modifier}
    (h : (Operation.display departments .plain).takesModifier m = true) : m ≠ .overwrite := by
  rintro rfl
  cases h

theorem ne_overwrite_of_remove {names departments : List Text} {m : Modifier}
    (h : (Operation.remove names departments .plain).takesModifier m = true) :
    m ≠ .overwrite := by
  rintro rfl
  cases h

theorem sentence_of_operation {s : Statement} {op : Operation}
    (hw : PlainWords (s.body.map Token.value)) (h : s.operation = .ok op) :
    Sentence (s.keyword.value :: s.body.map Token.value) op := by
  rw [operation] at h
  split at h
  next hk =>
    obtain ⟨departments, hread, h⟩ := departmentsOnly_eq_ok.1 h
    obtain ⟨m, hbody, -, rfl⟩ := conclude_rest h
    rw [hk, hbody]
    exact .create (names_of_read hw hread)
  next hk =>
    obtain ⟨departments, hread, h⟩ := departmentsOnly_eq_ok.1 h
    obtain ⟨m, hbody, htakes, rfl⟩ := conclude_rest h
    rw [hk, hbody]
    exact .display (names_of_read hw hread) (ne_overwrite_of_display htakes)
  next hk =>
    obtain ⟨names, t, after, departments, hread, hrest, hread', h⟩ := addition_eq_ok.1 h
    obtain ⟨m, hafter, -, rfl⟩ := conclude_rest h
    have hbody := NameList.body_append_rest [toWord] s.body
    rw [hrest] at hbody
    have ht : t.value = toWord := by
      have := List.head?_dropWhile_not (fun t : Token => !([toWord].contains t.value)) s.body
      rw [← NameList.rest, hrest] at this
      simpa using this
    have hn := names_of_read hw hread
    rw [← hbody, List.map_append, plainWords_append, List.map_cons, plainWords_cons] at hw
    rw [hk, ← hbody, List.map_append, List.map_cons, ht, hafter]
    exact .add hn (names_of_read hw.2.2 hread')
  next hk =>
    obtain ⟨first, hread, hcases⟩ := removal_eq_ok.1 h
    have hn := names_of_read hw hread
    rcases hcases with ⟨t, after, second, hrest, ht, hread', h⟩ | ⟨-, h⟩
    · obtain ⟨m, hafter, htakes, rfl⟩ := conclude_rest h
      have hbody := NameList.body_append_rest removalTerminators s.body
      rw [hrest] at hbody
      rw [← hbody, List.map_append, plainWords_append, List.map_cons, plainWords_cons] at hw
      rw [hk, ← hbody, List.map_append, List.map_cons, ht, hafter]
      exact .removeFrom hn (names_of_read hw.2.2 hread') (ne_overwrite_of_remove htakes)
    · obtain ⟨m, hbody, htakes, rfl⟩ := conclude_rest h
      rw [hk, hbody]
      exact .remove hn (ne_overwrite_of_remove htakes)

theorem split_of_map_eq {ts : List Token} {vs vs' : List TokenValue} {v : TokenValue}
    (h : ts.map Token.value = vs ++ v :: vs') :
    ∃ us t us', ts = us ++ t :: us' ∧ us.map Token.value = vs ∧ t.value = v ∧
      us'.map Token.value = vs' := by
  obtain ⟨us, _, rfl, hus, htail⟩ := List.map_eq_append_iff.1 h
  obtain ⟨t, us', rfl, ht, hus'⟩ := List.map_eq_cons_iff.1 htail
  exact ⟨us, t, us', rfl, hus, ht, hus'⟩

theorem read_of_names {vs : List TokenValue} {texts : List Text} (h : Names vs texts)
    (hw : PlainWords vs) {ts : List Token} (hts : ts.map Token.value = vs)
    (ends : List TokenValue) (hends : ends ⊆ toWord :: removalTerminators) {t : Token}
    (ht : t.value ∈ ends) (us : List Token) :
    NameList.read ends (ts ++ t :: us) = .ok texts ∧
      NameList.rest ends (ts ++ t :: us) = t :: us := by
  have hfree : ∀ u ∈ ts, u.value ∉ ends := by
    intro u hu hmem
    exact h.not_mem_terminators u.value (hts ▸ List.mem_map_of_mem hu) (hends hmem)
  have hbody := NameList.body_of_terminator hfree ht us
  constructor
  · rw [NameList.read_eq_ok_iff (by rwa [hbody, hts]), hbody, hts]
    exact h
  · exact NameList.rest_of_terminator hfree ht us

theorem terminators_subset : terminators ⊆ toWord :: removalTerminators := by decide

theorem conclude_of_terminator {s : Statement} {op : Operation} (hv : op.isValid = true)
    {t : Token} {m : Modifier} (ht : t.value = terminator m) (hm : op.takesModifier m = true) :
    s.conclude op [t] = .ok (op.setModifier m) :=
  conclude_eq_ok.2 ⟨hv, t, m, rfl, ht, hm, rfl⟩

end Statement

namespace Grammar

theorem Names.ne_nil {vs : List TokenValue} {texts : List Text} (h : Names vs texts) :
    texts ≠ [] := by
  cases h with
  | mk _ he => exact he.ne_nil

end Grammar

namespace Statement

theorem departmentsOnly_of_names {s : Statement} (make : List Text → Modifier → Operation)
    {list : List TokenValue} {departments : List Text} {m : Modifier}
    (hl : Names list departments) (hw : PlainWords list)
    (hbody : s.body.map Token.value = list ++ [terminator m])
    (hv : (make departments .plain).isValid = true)
    (hm : (make departments .plain).takesModifier m = true) :
    s.departmentsOnly make = .ok ((make departments .plain).setModifier m) := by
  obtain ⟨us, t, us', hsplit, hus, ht, hnil⟩ := split_of_map_eq hbody
  obtain rfl := List.map_eq_nil_iff.1 hnil
  have hmem : t.value ∈ terminators := ht ▸ terminator_mem m
  obtain ⟨hread, hrest⟩ := read_of_names hl hw hus terminators terminators_subset hmem []
  rw [departmentsOnly_eq_ok, hsplit]
  refine ⟨departments, hread, ?_⟩
  rw [hrest]
  exact conclude_of_terminator hv ht hm

theorem takesModifier_of_ne_overwrite {op : Operation} {m : Modifier} (hk : op.kind ≠ .unknown)
    (hm : m ≠ .overwrite) : op.takesModifier m = true := by
  cases op <;> cases m <;> simp_all [Operation.takesModifier, Operation.kind, OperationKind.allows]

theorem takesModifier_create (departments : List Text) (m : Modifier) :
    (Operation.create departments .plain).takesModifier m = true := by cases m <;> rfl

theorem takesModifier_add (names departments : List Text) (m : Modifier) :
    (Operation.add names departments .plain).takesModifier m = true := by cases m <;> rfl

theorem addition_of_names {s : Statement} {list list' : List TokenValue}
    {names departments : List Text} {m : Modifier} (hl : Names list names)
    (hl' : Names list' departments) (hw : PlainWords list) (hw' : PlainWords list')
    (hbody : s.body.map Token.value = list ++ toWord :: (list' ++ [terminator m])) :
    s.addition = .ok (.add names departments m) := by
  obtain ⟨us, link, after, hsplit, hus, hlink, hafter⟩ := split_of_map_eq hbody
  obtain ⟨us', t, _, rfl, hus', ht, hnil⟩ := split_of_map_eq hafter
  obtain rfl := List.map_eq_nil_iff.1 hnil
  obtain ⟨hread, hrest⟩ := read_of_names hl hw hus [toWord] (by simp) (t := link)
    (by simp [hlink]) (us' ++ [t])
  obtain ⟨hread', hrest'⟩ := read_of_names hl' hw' hus' terminators terminators_subset
    (ht ▸ terminator_mem m) []
  rw [addition_eq_ok, hsplit]
  refine ⟨names, link, us' ++ [t], departments, hread, hrest, hread', ?_⟩
  rw [hrest']
  exact conclude_of_terminator
    (by simp [Operation.isValid, hl.ne_nil, hl'.ne_nil, OperationKind.allows]) ht
    (takesModifier_add names departments m)

theorem removal_of_names {s : Statement} {list : List TokenValue} {departments : List Text}
    {m : Modifier} (hl : Names list departments) (hm : m ≠ .overwrite) (hw : PlainWords list)
    (hbody : s.body.map Token.value = list ++ [terminator m]) :
    s.removal = .ok (.remove [] departments m) := by
  obtain ⟨us, t, _, hsplit, hus, ht, hnil⟩ := split_of_map_eq hbody
  obtain rfl := List.map_eq_nil_iff.1 hnil
  obtain ⟨hread, hrest⟩ := read_of_names hl hw hus removalTerminators (by simp) (t := t)
    (by simp [removalTerminators, ht, terminator_mem]) []
  have hfrom : terminator m ≠ fromWord := by cases m <;> decide
  rw [removal_eq_ok, hsplit]
  refine ⟨departments, hread, .inr ⟨?_, ?_⟩⟩
  · rw [hrest]
    simpa [ht] using hfrom
  · rw [hrest]
    exact conclude_of_terminator (by simp [Operation.isValid, hl.ne_nil, OperationKind.allows])
      ht (takesModifier_of_ne_overwrite (by simp [Operation.kind]) hm)

/-- With `from`, the first list holds names. -/
theorem removal_of_from {s : Statement} {list list' : List TokenValue}
    {names departments : List Text} {m : Modifier} (hl : Names list names)
    (hl' : Names list' departments) (hm : m ≠ .overwrite) (hw : PlainWords list)
    (hw' : PlainWords list')
    (hbody : s.body.map Token.value = list ++ fromWord :: (list' ++ [terminator m])) :
    s.removal = .ok (.remove names departments m) := by
  obtain ⟨us, link, after, hsplit, hus, hlink, hafter⟩ := split_of_map_eq hbody
  obtain ⟨us', t, _, rfl, hus', ht, hnil⟩ := split_of_map_eq hafter
  obtain rfl := List.map_eq_nil_iff.1 hnil
  obtain ⟨hread, hrest⟩ := read_of_names hl hw hus removalTerminators (by simp)
    (t := link) (by simp [removalTerminators, hlink]) (us' ++ [t])
  obtain ⟨hread', hrest'⟩ := read_of_names hl' hw' hus' terminators terminators_subset
    (ht ▸ terminator_mem m) []
  rw [removal_eq_ok, hsplit]
  refine ⟨names, hread, .inl ⟨link, us' ++ [t], departments, hrest, hlink, hread', ?_⟩⟩
  rw [hrest']
  exact conclude_of_terminator (by simp [Operation.isValid, hl'.ne_nil, OperationKind.allows])
    ht (takesModifier_of_ne_overwrite (by simp [Operation.kind]) hm)

theorem operation_of_sentence {s : Statement} {op : Operation}
    (hw : PlainWords (s.body.map Token.value))
    (h : Sentence (s.keyword.value :: s.body.map Token.value) op) : s.operation = .ok op := by
  obtain ⟨k, start, body⟩ := s
  generalize hvs : k.value :: body.map Token.value = vs at h
  have keyword : ∀ {k' : Keyword} {ws : List TokenValue},
      k.value :: body.map Token.value = k'.value :: ws → k = k' ∧ body.map Token.value = ws := by
    intro k' ws heq
    simp only [List.cons.injEq] at heq
    have := congrArg Keyword.ofValue? heq.1
    exact ⟨by simpa using this, heq.2⟩
  cases h with
  | create hl =>
    obtain ⟨rfl, hbody⟩ := keyword hvs
    simp only [hbody, plainWords_append] at hw
    exact departmentsOnly_of_names .create hl hw.1 hbody
      (by simp [Operation.isValid, hl.ne_nil, OperationKind.allows]) (takesModifier_create _ _)
  | display hl hm =>
    obtain ⟨rfl, hbody⟩ := keyword hvs
    simp only [hbody, plainWords_append] at hw
    exact departmentsOnly_of_names .display hl hw.1 hbody
      (by simp [Operation.isValid, hl.ne_nil, OperationKind.allows])
      (takesModifier_of_ne_overwrite (by simp [Operation.kind]) hm)
  | add hl hl' =>
    obtain ⟨rfl, hbody⟩ := keyword hvs
    simp only [hbody, plainWords_append, plainWords_cons] at hw
    exact addition_of_names hl hl' hw.1 hw.2.2.1 hbody
  | remove hl hm =>
    obtain ⟨rfl, hbody⟩ := keyword hvs
    simp only [hbody, plainWords_append] at hw
    exact removal_of_names hl hm hw.1 hbody
  | removeFrom hl hl' hm =>
    obtain ⟨rfl, hbody⟩ := keyword hvs
    simp only [hbody, plainWords_append, plainWords_cons] at hw
    exact removal_of_from hl hl' hm hw.1 hw.2.2.1 hbody

theorem operation_eq_ok_iff {s : Statement} {op : Operation}
    (hw : PlainWords (s.body.map Token.value)) :
    s.operation = .ok op ↔ Sentence (s.keyword.value :: s.body.map Token.value) op :=
  ⟨sentence_of_operation hw, operation_of_sentence hw⟩

end Statement

theorem parse_gap {gap : List Token} (hgap : Gap (gap.map Token.value)) (ts : List Token) :
    parse (gap ++ ts) = parse ts := by
  induction gap with
  | nil => rfl
  | cons t gap ih =>
    simp only [List.map_cons, gap_cons] at hgap
    rw [List.cons_append, parse_cons_blank (by simpa [Token.isBlank] using hgap.1), ih hgap.2]

theorem program_of_parse {ts : List Token} {ops : List Operation}
    (hw : PlainWords (ts.map Token.value)) (h : parse ts = .ok ops) :
    Program (ts.map Token.value) ops := by
  induction ts using Statement.split.induct generalizing ops with
  | case1 =>
    rw [parse_nil] at h
    cases h
    exact .blank gap_nil
  | case2 t ts hb ih =>
    rw [parse_cons_blank hb] at h
    have hgap : Gap [t.value] := gap_cons.2 ⟨by simpa [Token.isBlank] using hb, gap_nil⟩
    exact .of_gap hgap (ih (plainWords_cons.1 hw).2 h)
  | case3 t ts hb hk =>
    rw [parse_cons_stray (by simpa using hb) hk] at h
    cases h
  | case4 t ts hb k hk ih =>
    have hv := Keyword.ofValue?_eq_some.1 hk
    rw [parse_cons_keyword hv] at h
    obtain ⟨op, hop, h⟩ := Except.bind_eq_ok.1 h
    obtain ⟨ops', hops, h⟩ := Except.bind_eq_ok.1 h
    cases h
    have hcut : ts.map Token.value =
        (cutStatement ts).1.map Token.value ++ (cutStatement ts).2.map Token.value := by
      rw [← List.map_append, cutStatement_append]
    rw [List.map_cons, hcut, plainWords_cons, plainWords_append] at hw
    rw [List.map_cons, hcut, hv]
    exact .sentence gap_nil ((Statement.operation_eq_ok_iff hw.2.1).1 hop) (ih hw.2.2 hops)

theorem parse_of_program {vs : List TokenValue} {ops : List Operation} (h : Program vs ops)
    (hw : PlainWords vs) {ts : List Token} (hts : ts.map Token.value = vs) :
    parse ts = .ok ops := by
  induction h generalizing ts with
  | blank hgap =>
    rw [← List.append_nil ts, parse_gap (hts ▸ hgap), parse_nil]
  | @sentence gap vs rest op ops hgap hs _ ih =>
    obtain ⟨gs, _, rfl, rfl, htail⟩ := List.map_eq_append_iff.1 hts
    obtain ⟨us, ts, rfl, hus, hrest⟩ := List.map_eq_append_iff.1 htail
    simp only [plainWords_append] at hw
    obtain ⟨k, init, m, rfl, hinit⟩ := hs.terminated
    obtain ⟨u, us, rfl, hu, hbody⟩ := List.map_eq_cons_iff.1 hus
    obtain ⟨is, t, _, rfl, rfl, ht, hnil⟩ := Statement.split_of_map_eq hbody
    obtain rfl := List.map_eq_nil_iff.1 hnil
    have hfree : ∀ i ∈ is, i.isTerminator = false := by
      intro i hi
      simpa [Token.isTerminator] using hinit i.value (List.mem_map_of_mem hi)
    have hcut := cutStatement_of_terminator hfree (isTerminator_iff.2 ⟨m, ht⟩) ts
    have hop : Statement.operation ⟨k, u, is ++ [t]⟩ = .ok op := by
      refine (Statement.operation_eq_ok_iff ?_).2 ?_
      · rw [← hbody] at hw
        exact (plainWords_cons.1 hw.2.1).2
      · simpa [ht] using hs
    rw [parse_gap hgap, List.cons_append, parse_cons_keyword hu, List.append_assoc,
      List.singleton_append, hcut, hop, ih hw.2.2 hrest]
    rfl

/-- Parsing returns operations exactly if the tokens are statements of the grammar, and returns
the operations of their derivation. -/
theorem parse_eq_ok_iff_program {ts : List Token} {ops : List Operation}
    (hw : PlainWords (ts.map Token.value)) :
    parse ts = .ok ops ↔ Program (ts.map Token.value) ops :=
  ⟨program_of_parse hw, fun h => parse_of_program h hw rfl⟩

/-- `Remove Ann Lee, Bo, and Cy from Sales?` -/
def removedFromSales : List Token :=
  [Keyword.remove.value, .blank, .word "Ann".toList, .blank, .word "Lee".toList, comma, .blank,
    .word "Bo".toList, comma, .blank, andWord, .blank, .word "Cy".toList, .blank, fromWord, .blank,
    .word "Sales".toList, terminator .failSilently].map .ofValue

theorem parse_removedFromSales :
    parse removedFromSales = .ok
      [.remove ["Ann Lee".toList, "Bo".toList, "Cy".toList] ["Sales".toList] .failSilently] := by
  rw [removedFromSales, List.map_cons, parse_cons_keyword (k := .remove) rfl]
  rw [show (cutStatement _).2 = [] from rfl, parse_nil]
  rfl

theorem program_removedFromSales :
    PlainWords (removedFromSales.map Token.value) ∧
      Program (removedFromSales.map Token.value)
        [.remove ["Ann Lee".toList, "Bo".toList, "Cy".toList] ["Sales".toList] .failSilently] :=
  ⟨by decide, (parse_eq_ok_iff_program (by decide)).1 parse_removedFromSales⟩

end Roster
