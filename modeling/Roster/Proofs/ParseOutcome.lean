import Roster.Proofs.StatementSequence

/-! What parsing can come to. Whatever the tokens are, it gives operations, one for each
terminator, or an error of the user's. The two faults of the grammar itself, tokens left behind the
lists and an operation that breaks its constraints, never arise. -/
namespace Roster
open Vocabulary

/-- Tokens of one statement: none but the last is a terminator. -/
def IsSlice (ts : List Token) : Prop := ∀ t ∈ ts.dropLast, t.isTerminator = false

theorem isSlice_cutStatement (ts : List Token) : IsSlice (cutStatement ts).1 := by
  induction ts with
  | nil =>
    intro t ht
    simp [cutStatement] at ht
  | cons u ts ih =>
    intro t ht
    rw [cutStatement] at ht
    by_cases hu : u.isTerminator = true
    · simp [hu] at ht
    · simp only [hu, Bool.false_eq_true, ↓reduceIte] at ht
      cases hcut : (cutStatement ts).1 with
      | nil => simp [hcut] at ht
      | cons v vs =>
        rw [hcut, List.dropLast_cons_cons] at ht
        rw [IsSlice, hcut] at ih
        rcases List.mem_cons.1 ht with rfl | ht
        · simpa using hu
        · exact ih t ht

namespace IsSlice

variable {ts us : List Token} {t : Token}

theorem of_append (h : IsSlice (us ++ ts)) : IsSlice ts := by
  intro t ht
  have hne : ts ≠ [] := by
    rintro rfl
    simp at ht
  apply h
  rw [List.dropLast_append_of_ne_nil hne]
  exact List.mem_append_right us ht

theorem tail (h : IsSlice (t :: ts)) : IsSlice ts := by
  rw [← List.singleton_append] at h
  exact h.of_append

/-- Nothing stands behind a terminator. -/
theorem eq_nil_of_terminator (h : IsSlice (t :: ts)) (ht : t.isTerminator = true) : ts = [] := by
  cases ts with
  | nil => rfl
  | cons u ts =>
    have hfalse := h t (by simp)
    rw [ht] at hfalse
    cases hfalse

theorem rest (h : IsSlice ts) (ends : List TokenValue) : IsSlice (NameList.rest ends ts) := by
  have happ : NameList.body ends ts ++ NameList.rest ends ts = ts :=
    List.takeWhile_append_dropWhile
  rw [← happ] at h
  exact h.of_append

theorem countP (h : IsSlice ts) (hex : ∃ t ∈ ts, t.isTerminator = true) :
    ts.countP Token.isTerminator = 1 := by
  obtain ⟨t, ht, hterm⟩ := hex
  obtain ⟨init, last, rfl⟩ := (List.eq_nil_or_concat ts).resolve_left (List.ne_nil_of_mem ht)
  rw [List.concat_eq_append] at h ht ⊢
  have hinit : ∀ u ∈ init, u.isTerminator = false := by simpa [IsSlice] using h
  have hlast : last.isTerminator = true := by
    rcases List.mem_append.1 ht with hmem | hmem
    · rw [hinit t hmem] at hterm
      cases hterm
    · rwa [← List.mem_singleton.1 hmem]
  have hzero : init.countP Token.isTerminator = 0 := by
    rw [List.countP_eq_zero]
    intro u hu
    simp [hinit u hu]
  rw [List.countP_append, hzero, List.countP_singleton, if_pos hlast]

end IsSlice

/-- What ends a list stands in front of the rest. -/
theorem NameList.value_mem_of_rest {ends : List TokenValue} {ts after : List Token} {t : Token}
    (h : NameList.rest ends ts = t :: after) : t.value ∈ ends := by
  have hhead := List.head?_dropWhile_not (fun t : Token => !ends.contains t.value) ts
  rw [NameList.rest] at h
  rw [h] at hhead
  simpa using hhead

/-- Behind the last list of a slice, at most its terminator is left. -/
theorem IsSlice.length_rest_le {ts : List Token} (h : IsSlice ts) :
    (NameList.rest terminators ts).length ≤ 1 := by
  cases hrest : NameList.rest terminators ts with
  | nil => simp
  | cons t after =>
    have hslice := h.rest terminators
    rw [hrest] at hslice
    have ht : t.isTerminator = true :=
      List.contains_iff_mem.2 (NameList.value_mem_of_rest hrest)
    rw [hslice.eq_nil_of_terminator ht]
    simp

namespace NameList

theorem Progress.finish_ne_nil {p : Progress} {next : Option Token} {texts : List Text}
    (h : p.finish next = .ok texts) : texts ≠ [] := by
  unfold finish at h
  split at h
  · cases h
    simp
  · split at h
    · cases h
    · split at h
      · cases h
      · next hne =>
        cases h
        simpa using hne

/-- A list that is read has an element, whatever tokens it is read from. -/
theorem read_ne_nil {ends : List TokenValue} {ts : List Token} {texts : List Text}
    (h : read ends ts = .ok texts) : texts ≠ [] := by
  obtain ⟨p, -, hfinish⟩ := Except.bind_eq_ok.1 h
  exact p.finish_ne_nil hfinish

end NameList

/-- A value, or an error of the user's. -/
def Settled {α : Type} (x : Except Rejection α) : Prop := ∀ r, x = .error r → ∃ e, r = .parse e

namespace Settled

variable {α β : Type}

theorem ok (a : α) : Settled (.ok a) := by
  intro r h
  cases h

theorem parse (e : ParseError) : Settled (.error (.parse e) : Except Rejection α) := by
  intro r h
  cases h
  exact ⟨e, rfl⟩

theorem bind {x : Except Rejection α} {f : α → Except Rejection β} (hx : Settled x)
    (hf : ∀ a, x = .ok a → Settled (f a)) : Settled (x >>= f) := by
  intro r h
  rcases Except.bind_eq_error.1 h with h | ⟨a, ha, h⟩
  · exact hx r h
  · exact hf a ha r h

end Settled

namespace Operation

theorem settled_checked {op : Operation} (hv : op.isValid = true) : Settled op.checked := by
  rw [checked, if_pos hv]
  exact .ok op

/-- A terminator at most is left, and a modifier that applies keeps the constraints. -/
theorem settled_terminate {op : Operation} (hv : op.isValid = true) (start : Token)
    {left : List Token} (hleft : left.length ≤ 1) : Settled (op.terminate start left) := by
  rcases left with _ | ⟨t, _ | ⟨t', left⟩⟩
  · exact .parse _
  · simp only [terminate]
    split
    next op' hop =>
      obtain ⟨m, -, hm⟩ := Option.bind_eq_some_iff.1 hop
      obtain ⟨htakes, rfl⟩ := withModifier?_eq_some.1 hm
      exact settled_checked (isValid_setModifier hv htakes)
    next => exact .parse _
  · simp at hleft

end Operation

namespace Statement

variable {s : Statement}

theorem settled_readList (s : Statement) (name : Text) (ends : List TokenValue)
    (ts : List Token) : Settled (s.readList name ends ts) := by
  intro r h
  rw [readList, Except.mapError_eq_error] at h
  obtain ⟨f, -, hf⟩ := h
  exact ⟨_, hf.symm⟩

theorem settled_conclude {op : Operation} (hv : op.isValid = true) {left : List Token}
    (hleft : left.length ≤ 1) : Settled (s.conclude op left) := by
  apply Settled.bind (Operation.settled_checked hv)
  intro op' hop
  obtain ⟨-, rfl⟩ := Operation.checked_eq_ok.1 hop
  exact Operation.settled_terminate hv s.start hleft

/-- A list, and then a conclusion that is given its elements. -/
theorem settled_bind_readList {name : Text} {ends : List TokenValue} {ts : List Token}
    {f : List Text → Except Rejection Operation} (hf : ∀ texts, texts ≠ [] → Settled (f texts)) :
    Settled (s.readList name ends ts >>= f) := by
  apply Settled.bind (s.settled_readList name ends ts)
  intro texts h
  exact hf texts (NameList.read_ne_nil (readList_eq_ok.1 h))

theorem settled_departmentsOnly (hs : IsSlice s.body) {make : List Text → Modifier → Operation}
    (hmake : ∀ departments, departments ≠ [] → (make departments .plain).isValid = true) :
    Settled (s.departmentsOnly make) := by
  apply settled_bind_readList
  intro departments hne
  exact settled_conclude (hmake departments hne) hs.length_rest_le

theorem settled_addition (hs : IsSlice s.body) : Settled s.addition := by
  apply settled_bind_readList
  intro names hnames
  have hrest := hs.rest [toWord]
  split
  next => exact .parse _
  next _ t after heq =>
    rw [heq] at hrest
    have hafter := hrest.tail
    apply settled_bind_readList
    intro departments hdepartments
    have hv : (Operation.add names departments .plain).isValid = true := by
      simp [Operation.isValid, OperationKind.allows, hnames, hdepartments]
    exact settled_conclude hv hafter.length_rest_le

theorem isValid_remove (names : List Text) {departments : List Text} (h : departments ≠ []) :
    (Operation.remove names departments .plain).isValid = true := by
  simp [Operation.isValid, OperationKind.allows, h]

/-- What ends the first list is `from` or the terminator of the statement, which is its end. -/
theorem eq_nil_of_removal {ts after : List Token} {t : Token} (hs : IsSlice ts)
    (h : NameList.rest removalTerminators ts = t :: after) (ht : t.value ≠ fromWord) :
    after = [] := by
  have hrest := hs.rest removalTerminators
  rw [h] at hrest
  have hmem : t.value = fromWord ∨ t.value ∈ terminators :=
    List.mem_cons.1 (NameList.value_mem_of_rest h)
  exact hrest.eq_nil_of_terminator (List.contains_iff_mem.2 (hmem.resolve_left ht))

theorem settled_removal (hs : IsSlice s.body) : Settled s.removal := by
  apply settled_bind_readList
  intro first hfirst
  have hrest := hs.rest removalTerminators
  split
  next => exact settled_conclude (isValid_remove [] hfirst) (by simp)
  next _ t after heq =>
    rw [heq] at hrest
    have hafter := hrest.tail
    split
    next =>
      split
      next second hread =>
        have hsecond := NameList.read_ne_nil hread
        exact settled_conclude (isValid_remove first hsecond) hafter.length_rest_le
      next => exact .parse _
      next => exact .parse _
    next hfrom =>
      have hnil := eq_nil_of_removal hs heq hfrom
      exact settled_conclude (isValid_remove [] hfirst) (by simp [hnil])

theorem settled_operation (hs : IsSlice s.body) : Settled s.operation := by
  unfold operation
  split
  · apply settled_departmentsOnly hs
    intro departments hne
    simp [Operation.isValid, OperationKind.allows, hne]
  · apply settled_departmentsOnly hs
    intro departments hne
    simp [Operation.isValid, OperationKind.allows, hne]
  · exact settled_addition hs
  · exact settled_removal hs

end Statement

theorem settled_parse (ts : List Token) : Settled (parse ts) := by
  induction ts using Statement.split.induct with
  | case1 =>
    rw [parse_nil]
    exact .ok []
  | case2 t ts hb ih =>
    rw [parse_cons_blank hb]
    exact ih
  | case3 t ts hb hk =>
    rw [parse_cons_stray (by simpa using hb) hk]
    exact .parse _
  | case4 t ts hb k hk ih =>
    rw [parse_cons_keyword (Keyword.ofValue?_eq_some.1 hk)]
    apply Settled.bind (Statement.settled_operation (isSlice_cutStatement ts))
    intro op _
    apply Settled.bind ih
    intro ops _
    exact .ok (op :: ops)

/-- A source gives operations or an error of the user's. -/
theorem parseSource_cases (source : Text) :
    (∃ ops, parseSource source = .ok ops) ∨ (∃ e, parseSource source = .error (.lex e)) ∨
      ∃ e, parseSource source = .error (.rejected (.parse e)) := by
  cases ht : tokenize source with
  | error e => exact .inr (.inl ⟨e, by rw [parseSource, ht]; rfl⟩)
  | ok ts =>
    have hparse : parseSource source = (parse ts).mapError .rejected := by
      rw [parseSource, ht]
      rfl
    cases hp : parse ts with
    | ok ops => exact .inl ⟨ops, by rw [hparse, hp]; rfl⟩
    | error r =>
      obtain ⟨e, rfl⟩ := settled_parse ts r hp
      exact .inr (.inr ⟨e, by rw [hparse, hp]; rfl⟩)

theorem kind_of_mem_terminators : ∀ v ∈ terminators, v.kind ≠ .whitespace := by decide

theorem Token.isTerminator_of_isBlank {t : Token} (h : t.isBlank = true) :
    t.isTerminator = false := by
  have hk : t.value.kind = .whitespace := by simpa [isBlank] using h
  rw [Bool.eq_false_iff]
  intro ht
  exact kind_of_mem_terminators t.value (List.contains_iff_mem.1 ht) hk

end Roster
