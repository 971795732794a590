import Roster.Proofs.ListFaults

/-! Where parsing stops: at a token that begins no statement, or in a statement that fails. A
statement fails in one of its lists or, where all of them can be read, at its ending. -/
namespace Roster
open Vocabulary

namespace NameList

variable {ends : List TokenValue} {us vs after : List Token} {t u : Token} {texts : List Text}

theorem Progress.finish_eq_ok_congr {p : Progress} {next next' : Option Token}
    (h : p.finish next = .ok texts) : p.finish next' = .ok texts := by
  unfold finish at h ⊢
  split at h
  · rwa [if_pos ‹_›]
  · rw [if_neg ‹_›]
    split at h
    · cases h
    · split at h
      · cases h
      · rwa [if_neg ‹_›]

/-- What a list is read to depends on its own tokens only. -/
theorem read_eq_ok_congr (hbody : body ends us = body ends vs) :
    read ends us = .ok texts ↔ read ends vs = .ok texts := by
  have imp : ∀ {us vs : List Token}, body ends us = body ends vs → read ends us = .ok texts →
      read ends vs = .ok texts := by
    intro us vs hbody h
    obtain ⟨p, hp, hfinish⟩ := Except.bind_eq_ok.1 h
    rw [hbody] at hp
    exact Except.bind_eq_ok.2 ⟨p, hp, p.finish_eq_ok_congr hfinish⟩
  exact ⟨imp hbody, imp hbody.symm⟩

theorem rest_eq_nil_iff : rest ends us = [] ↔ ∀ u ∈ us, u.value ∉ ends := by
  constructor
  · intro h u hu
    rw [← body_append_rest ends us, h, List.append_nil] at hu
    exact not_mem_of_mem_body hu
  · intro h
    cases hrest : rest ends us with
    | nil => rfl
    | cons u after =>
      have hu : u ∈ rest ends us := by simp [hrest]
      exact absurd (value_mem_of_rest hrest) (h u ((List.dropWhile_sublist _).mem hu))

theorem subset_of_rest (h : rest ends us = t :: after) : t :: after ⊆ us := by
  rw [← h]
  exact (List.dropWhile_sublist _).subset

/-- Behind the end of a list, more tokens change nothing but what is left. -/
theorem body_rest_append (h : rest ends us = u :: after) (vs : List Token) :
    body ends (us ++ vs) = body ends us ∧ rest ends (us ++ vs) = u :: (after ++ vs) := by
  have hus : us ++ vs = body ends us ++ u :: (after ++ vs) := by
    rw [← List.cons_append, ← h, ← List.append_assoc, body_append_rest]
  have hfree : ∀ u ∈ body ends us, u.value ∉ ends := fun u => not_mem_of_mem_body
  have hu := value_mem_of_rest h
  rw [hus]
  exact ⟨body_of_terminator hfree hu _, rest_of_terminator hfree hu _⟩

/-- The tokens of a list stay the same with what ends one behind them. -/
theorem body_rest_snoc (ht : t.value ∈ ends) (us : List Token) :
    body ends (us ++ [t]) = body ends us ∧ rest ends (us ++ [t]) = rest ends us ++ [t] := by
  cases hrest : rest ends us with
  | nil =>
    have hfree := rest_eq_nil_iff.1 hrest
    have hbody := body_append_rest ends us
    rw [hrest, List.append_nil] at hbody
    rw [hbody]
    exact ⟨body_of_terminator hfree ht [], rest_of_terminator hfree ht []⟩
  | cons u after => exact body_rest_append hrest [t]

theorem read_append (h : rest ends us = u :: after) (vs : List Token) :
    read ends (us ++ vs) = .ok texts ↔ read ends us = .ok texts :=
  read_eq_ok_congr (body_rest_append h vs).1

theorem read_snoc (ht : t.value ∈ ends) :
    read ends (us ++ [t]) = .ok texts ↔ read ends us = .ok texts :=
  read_eq_ok_congr (body_rest_snoc ht us).1

theorem rest_snoc (ht : t.value ∈ ends) (us : List Token) :
    rest ends (us ++ [t]) = rest ends us ++ [t] := (body_rest_snoc ht us).2

/-- A token that ends no list is behind the end of one. -/
theorem exists_rest_of_snoc (ht : t.value ∉ ends) (h : rest ends (us ++ [t]) = u :: after) :
    ∃ after', rest ends us = u :: after' ∧ after = after' ++ [t] := by
  cases hrest : rest ends us with
  | nil =>
    have hnil : rest ends (us ++ [t]) = [] := by
      rw [rest_eq_nil_iff, List.forall_mem_append, List.forall_mem_singleton]
      exact ⟨rest_eq_nil_iff.1 hrest, ht⟩
    rw [hnil] at h
    cases h
  | cons v after' =>
    rw [(body_rest_append hrest [t]).2] at h
    cases h
    exact ⟨after', rfl, rfl⟩

end NameList

/-- A statement is cut at its only terminator, if it has one. -/
theorem cutStatement_cases (ts : List Token) :
    (∀ t ∈ ts, t.isTerminator = false) ∧ cutStatement ts = (ts, []) ∨
      ∃ us t post, ts = us ++ t :: post ∧ (∀ u ∈ us, u.isTerminator = false) ∧
        t.isTerminator = true ∧ cutStatement ts = (us ++ [t], post) := by
  induction ts with
  | nil => exact .inl ⟨by simp, rfl⟩
  | cons t ts ih =>
    by_cases ht : t.isTerminator = true
    · exact .inr ⟨[], t, ts, rfl, by simp, ht, by simp [cutStatement, ht]⟩
    · have hf : t.isTerminator = false := Bool.eq_false_iff.2 ht
      rcases ih with ⟨hfree, hcut⟩ | ⟨us, u, post, rfl, hfree, hu, hcut⟩
      · exact .inl ⟨List.forall_mem_cons.2 ⟨hf, hfree⟩, by simp [cutStatement, hf, hcut]⟩
      · exact .inr ⟨t :: us, u, post, rfl, List.forall_mem_cons.2 ⟨hf, hfree⟩, hu,
          by simp [cutStatement, hf, hcut]⟩

/-- Nothing is left of a slice. -/
theorem cutStatement_slice (ts : List Token) :
    cutStatement (cutStatement ts).1 = ((cutStatement ts).1, []) := by
  rcases cutStatement_cases ts with ⟨-, hcut⟩ | ⟨us, t, post, -, hfree, ht, hcut⟩
  · rw [hcut, hcut]
  · rw [hcut]
    exact cutStatement_of_terminator hfree ht []

theorem cutStatement_of_free {ts : List Token} (h : ∀ t ∈ ts, t.isTerminator = false) :
    cutStatement ts = (ts, []) := by
  rcases cutStatement_cases ts with ⟨-, hcut⟩ | ⟨us, t, post, rfl, -, ht, -⟩
  · exact hcut
  · rw [h t (by simp)] at ht
    cases ht

/-- An error of a statement: it names the statement, and what it blames, if anything, is one of the
statement's tokens. -/
structure ParseError.Concerns (e : ParseError) (s : Statement) : Prop where
  start_eq : e.start = s.start
  kind_eq : e.kind = s.kind
  mem : ∀ t ∈ e.unexpected, t ∈ s.body

/-- An error of a statement's lists. -/
structure ParseError.InLists (e : ParseError) (s : Statement) : Prop extends e.Concerns s where
  ne_unterminated : e.fault ≠ .unterminated
  ne_invalidModifier : e.fault ≠ .invalidModifier

theorem ListFault.inLists {s : Statement} {f : ListFault} (h : ∀ t ∈ f.unexpected?, t ∈ s.body)
    (ends : List TokenValue) (name : Text) :
    (f.toParseError s.kind s.start ends name).InLists s := by
  cases f <;> refine ⟨⟨rfl, rfl, h⟩, ?_, ?_⟩ <;> rintro ⟨⟩

namespace Statement

/-- Statements whose lists can all be read: the operation, with a plain ending, and the tokens
that are left behind the last list. -/
inductive Outline : Keyword → List Token → Operation → List Token → Prop
  | create {ts : List Token} {departments : List Text} :
      NameList.read terminators ts = .ok departments →
      Outline .create ts (.create departments .plain) (NameList.rest terminators ts)
  | display {ts : List Token} {departments : List Text} :
      NameList.read terminators ts = .ok departments →
      Outline .display ts (.display departments .plain) (NameList.rest terminators ts)
  | add {ts after : List Token} {t : Token} {names departments : List Text} :
      NameList.read [toWord] ts = .ok names → NameList.rest [toWord] ts = t :: after →
      NameList.read terminators after = .ok departments →
      Outline .add ts (.add names departments .plain) (NameList.rest terminators after)
  | remove {ts : List Token} {departments : List Text} :
      NameList.read removalTerminators ts = .ok departments →
      (∀ t ∈ (NameList.rest removalTerminators ts).head?, t.value ≠ fromWord) →
      Outline .remove ts (.remove [] departments .plain) (NameList.rest removalTerminators ts)
  | removeFrom {ts after : List Token} {t : Token} {names departments : List Text} :
      NameList.read removalTerminators ts = .ok names →
      NameList.rest removalTerminators ts = t :: after → t.value = fromWord →
      NameList.read terminators after = .ok departments →
      Outline .remove ts (.remove names departments .plain) (NameList.rest terminators after)

variable {s : Statement} {k : Keyword} {ts us left : List Token} {t : Token} {op : Operation}
  {m : Modifier}

namespace Outline

theorem isValid (h : Outline k ts op left) : op.isValid = true := by
  cases h with
  | create hread | display hread | remove hread _ =>
    simp [Operation.isValid, OperationKind.allows, NameList.read_ne_nil hread]
  | add hread _ hread' =>
    simp [Operation.isValid, OperationKind.allows, NameList.read_ne_nil hread,
      NameList.read_ne_nil hread']
  | removeFrom _ _ _ hread =>
    simp [Operation.isValid, OperationKind.allows, NameList.read_ne_nil hread]

theorem kind_eq (h : Outline k ts op left) : op.kind = k.kind := by cases h <;> rfl

theorem fromWord_ne (ht : t.value = terminator m) : t.value ≠ fromWord := by
  rw [ht]
  cases m <;> decide

theorem mem_removalTerminators (ht : t.value = terminator m) : t.value ∈ removalTerminators := by
  rw [ht]
  exact List.mem_cons_of_mem _ (Grammar.terminator_mem m)

/-- With a terminator behind it, a statement has the same lists. -/
theorem snoc (h : Outline k us op left) (ht : t.value = terminator m) :
    Outline k (us ++ [t]) op (left ++ [t]) := by
  have hmem : t.value ∈ terminators := ht ▸ Grammar.terminator_mem m
  cases h with
  | create hread =>
    rw [← NameList.rest_snoc hmem]
    exact .create ((NameList.read_snoc hmem).2 hread)
  | display hread =>
    rw [← NameList.rest_snoc hmem]
    exact .display ((NameList.read_snoc hmem).2 hread)
  | add hread hlink hread' =>
    rw [← NameList.rest_snoc hmem]
    exact .add ((NameList.read_append hlink [t]).2 hread) (NameList.body_rest_append hlink [t]).2
      ((NameList.read_snoc hmem).2 hread')
  | remove hread hfrom =>
    have hrest := NameList.rest_snoc (mem_removalTerminators ht) us
    rw [← hrest]
    refine .remove ((NameList.read_snoc (mem_removalTerminators ht)).2 hread) ?_
    rw [hrest, List.head?_append]
    intro u hu
    rcases Option.or_eq_some_iff.1 hu with hu | ⟨-, hu⟩
    · exact hfrom u hu
    · cases hu
      exact fromWord_ne ht
  | removeFrom hread hlink hfrom hread' =>
    rw [← NameList.rest_snoc hmem]
    exact .removeFrom ((NameList.read_append hlink [t]).2 hread)
      (NameList.body_rest_append hlink [t]).2 hfrom ((NameList.read_snoc hmem).2 hread')

/-- A terminator at the end of a statement belongs to none of its lists. -/
theorem of_snoc (h : Outline k (us ++ [t]) op left) (ht : t.value = terminator m) :
    ∃ left', Outline k us op left' ∧ left = left' ++ [t] := by
  have hmem : t.value ∈ terminators := ht ▸ Grammar.terminator_mem m
  generalize hts : us ++ [t] = ts at h
  cases h with
  | create hread =>
    subst hts
    exact ⟨_, .create ((NameList.read_snoc hmem).1 hread), NameList.rest_snoc hmem us⟩
  | display hread =>
    subst hts
    exact ⟨_, .display ((NameList.read_snoc hmem).1 hread), NameList.rest_snoc hmem us⟩
  | add hread hlink hread' =>
    subst hts
    have hto : t.value ∉ [toWord] := by
      rw [ht]
      cases m <;> decide
    obtain ⟨after', hlink', rfl⟩ := NameList.exists_rest_of_snoc hto hlink
    exact ⟨_, .add ((NameList.read_append hlink' [t]).1 hread) hlink'
      ((NameList.read_snoc hmem).1 hread'), NameList.rest_snoc hmem after'⟩
  | remove hread hfrom =>
    subst hts
    have hrest := NameList.rest_snoc (mem_removalTerminators ht) us
    have hread' := (NameList.read_snoc (mem_removalTerminators ht)).1 hread
    refine ⟨_, .remove hread' fun u hu => ?_, hrest⟩
    apply hfrom
    rw [hrest, List.head?_append, hu]
    rfl
  | removeFrom hread hlink hfrom hread' =>
    subst hts
    rw [NameList.rest_snoc (mem_removalTerminators ht)] at hlink
    rcases List.append_eq_cons_iff.1 hlink with ⟨-, hu⟩ | ⟨after', hlink', rfl⟩
    · cases hu
      exact absurd hfrom (fromWord_ne ht)
    · exact ⟨_, .removeFrom ((NameList.read_snoc (mem_removalTerminators ht)).1 hread) hlink'
        hfrom ((NameList.read_snoc hmem).1 hread'), NameList.rest_snoc hmem after'⟩

/-- Without a terminator, the last list has all the tokens. -/
theorem left_eq_nil (h : Outline k ts op left) (hfree : ∀ t ∈ ts, t.isTerminator = false) :
    left = [] := by
  have none : ∀ {us : List Token}, (∀ u ∈ us, u ∈ ts) → NameList.rest terminators us = [] := by
    intro us hsub
    rw [NameList.rest_eq_nil_iff]
    intro u hu hmem
    have hterm := hfree u (hsub u hu)
    rw [Token.isTerminator, List.contains_iff_mem.2 hmem] at hterm
    cases hterm
  have behind : ∀ {ends : List TokenValue} {u : Token} {after : List Token},
      NameList.rest ends ts = u :: after → ∀ v ∈ after, v ∈ ts := by
    intro ends u after hrest v hv
    have hmem : v ∈ NameList.rest ends ts := by simp [hrest, hv]
    exact (List.dropWhile_sublist _).mem hmem
  cases h with
  | create _ => exact none fun _ hu => hu
  | display _ => exact none fun _ hu => hu
  | add _ hlink _ => exact none (behind hlink)
  | remove _ hfrom =>
    cases hrest : NameList.rest removalTerminators ts with
    | nil => rfl
    | cons u after =>
      rw [hrest] at hfrom
      have hmem := (List.mem_cons.1 (NameList.value_mem_of_rest hrest)).resolve_left (hfrom u rfl)
      have hu : u ∈ NameList.rest removalTerminators ts := by simp [hrest]
      have hterm := hfree u ((List.dropWhile_sublist _).mem hu)
      rw [Token.isTerminator, List.contains_iff_mem.2 hmem] at hterm
      cases hterm
  | removeFrom _ hlink _ _ => exact none (behind hlink)

end Outline

/-- A statement whose lists can be read fails at its ending only. -/
theorem operation_of_outline (h : Outline s.keyword s.body op left) :
    s.operation = s.conclude op left := by
  obtain ⟨k, start, ts⟩ := s
  have read : ∀ {name : Text} {ends : List TokenValue} {us : List Token} {texts : List Text},
      NameList.read ends us = .ok texts →
        readList ⟨k, start, ts⟩ name ends us = .ok texts := readList_eq_ok.2
  cases h with
  | create hread | display hread =>
    simp only [operation, departmentsOnly, read hread]
    rfl
  | add hread hlink hread' =>
    simp only [operation, addition, hlink, read hread, read hread']
    rfl
  | remove hread hfrom =>
    simp only [operation, removal, read hread]
    cases hrest : NameList.rest removalTerminators ts with
    | nil => rfl
    | cons u after =>
      rw [hrest] at hfrom
      exact if_neg (hfrom u rfl)
  | removeFrom hread hlink hfrom hread' =>
    simp only [operation, removal, hlink, read hread, hread']
    exact if_pos hfrom

theorem exists_readList_error (s : Statement) (name : Text) {ends : List TokenValue}
    {f : ListFault} (h : NameList.read ends us = .error f) (hsub : us ⊆ s.body) :
    ∃ e, s.readList name ends us = .error (.parse e) ∧ e.InLists s := by
  refine ⟨_, ?_, ListFault.inLists (fun t ht => hsub (NameList.mem_of_read_eq_error h t ht)) ends
    name⟩
  rw [readList, h]
  rfl

theorem departmentsOnly_cases (s : Statement) (make : List Text → Modifier → Operation) :
    (∃ departments, NameList.read terminators s.body = .ok departments) ∨
      ∃ e, s.departmentsOnly make = .error (.parse e) ∧ e.InLists s := by
  cases hread : NameList.read terminators s.body with
  | ok departments => exact .inl ⟨departments, rfl⟩
  | error f =>
    obtain ⟨e, he, hin⟩ := s.exists_readList_error "department".toList hread (List.Subset.refl _)
    refine .inr ⟨e, ?_, hin⟩
    rw [departmentsOnly, he]
    rfl

theorem addition_cases (s : Statement) :
    (∃ op left, Outline .add s.body op left) ∨
      ∃ e, s.addition = .error (.parse e) ∧ e.InLists s := by
  cases hread : NameList.read [toWord] s.body with
  | error f =>
    obtain ⟨e, he, hin⟩ := s.exists_readList_error "name".toList hread (List.Subset.refl _)
    refine .inr ⟨e, ?_, hin⟩
    rw [addition, he]
    rfl
  | ok names =>
    have hnames : s.readList "name".toList [toWord] s.body = .ok names := readList_eq_ok.2 hread
    cases hlink : NameList.rest [toWord] s.body with
    | nil =>
      refine .inr ⟨?e, ?eq, ?lists⟩
      case eq =>
        rw [addition, hnames, hlink]
        rfl
      case lists => exact ⟨⟨rfl, rfl, by simp⟩, by simp, by simp⟩
    | cons t after =>
      cases hread' : NameList.read terminators after with
      | ok departments => exact .inl ⟨_, _, .add hread hlink hread'⟩
      | error f =>
        have hsub := NameList.subset_of_rest hlink
        obtain ⟨e, he, hin⟩ := s.exists_readList_error "department".toList hread'
          (List.subset_of_cons_subset hsub)
        refine .inr ⟨e, ?_, hin⟩
        simp only [addition, hnames, hlink, he]
        rfl

theorem removal_cases (s : Statement) :
    (∃ op left, Outline .remove s.body op left) ∨
      ∃ e, s.removal = .error (.parse e) ∧ e.InLists s := by
  cases hread : NameList.read removalTerminators s.body with
  | error f =>
    obtain ⟨e, he, hin⟩ :=
      s.exists_readList_error "name or department".toList hread (List.Subset.refl _)
    refine .inr ⟨e, ?_, hin⟩
    rw [removal, he]
    rfl
  | ok first =>
    have hfirst : s.readList "name or department".toList removalTerminators s.body = .ok first :=
      readList_eq_ok.2 hread
    cases hlink : NameList.rest removalTerminators s.body with
    | nil => exact .inl ⟨_, _, .remove hread (by simp [hlink])⟩
    | cons t after =>
      have hsub := NameList.subset_of_rest hlink
      by_cases hfrom : t.value = fromWord
      · cases hread' : NameList.read terminators after with
        | ok second => exact .inl ⟨_, _, .removeFrom hread hlink hfrom hread'⟩
        | error f =>
          refine .inr ?_
          cases f with
          | empty _ =>
            refine ⟨?e, ?eq, ?lists⟩
            case eq =>
              simp only [removal, hfirst, hlink, hread']
              exact if_pos hfrom
            case lists =>
              refine ⟨⟨rfl, rfl, ?_⟩, by simp, by simp⟩
              rintro _ ⟨⟩
              exact hsub List.mem_cons_self
          | malformed u =>
            refine ⟨_, ?_, ListFault.inLists (f := .malformed u) (fun u hu => ?_) terminators
              "department".toList⟩
            · simp only [removal, hfirst, hlink, hread']
              exact if_pos hfrom
            · exact hsub (List.mem_cons_of_mem t (NameList.mem_of_read_eq_error hread' u hu))
      · exact .inl ⟨_, _, .remove hread (by simpa [hlink] using hfrom)⟩

/-- All lists of a statement can be read, or its error is one of them. -/
theorem operation_cases (s : Statement) :
    (∃ op left, Outline s.keyword s.body op left) ∨
      ∃ e, s.operation = .error (.parse e) ∧ e.InLists s := by
  obtain ⟨k, start, ts⟩ := s
  cases k with
  | create =>
    rcases departmentsOnly_cases ⟨.create, start, ts⟩ .create with ⟨_, hread⟩ | herror
    · exact .inl ⟨_, _, .create hread⟩
    · exact .inr herror
  | display =>
    rcases departmentsOnly_cases ⟨.display, start, ts⟩ .display with ⟨_, hread⟩ | herror
    · exact .inl ⟨_, _, .display hread⟩
    · exact .inr herror
  | add => exact addition_cases _
  | remove => exact removal_cases _

/-- Nothing is left of a statement behind its lists, or its terminator. -/
theorem Outline.left_cases {post : List Token} (h : Outline k (cutStatement post).1 op left) :
    left = [] ∧ (∀ t ∈ post, t.isTerminator = false) ∧ cutStatement post = (post, []) ∨
      ∃ us t m post', left = [t] ∧ post = us ++ t :: post' ∧ (∀ u ∈ us, u.isTerminator = false) ∧
        t.value = terminator m ∧ cutStatement post = (us ++ [t], post') ∧ Outline k us op [] := by
  rcases cutStatement_cases post with ⟨hfree, hcut⟩ | ⟨us, t, post', rfl, hfree, ht, hcut⟩
  · rw [hcut] at h
    exact .inl ⟨h.left_eq_nil hfree, hfree, hcut⟩
  · rw [hcut] at h
    obtain ⟨m, hm⟩ := isTerminator_iff.1 ht
    obtain ⟨left', hus, rfl⟩ := h.of_snoc hm
    obtain rfl := hus.left_eq_nil hfree
    exact .inr ⟨us, t, m, post', rfl, rfl, hfree, hm, hcut, hus⟩

theorem conclude_of_isValid (hv : op.isValid = true) (left : List Token) :
    s.conclude op left = op.terminate s.start left := by
  rw [conclude, Operation.checked_eq_ok.2 ⟨hv, rfl⟩]
  rfl

theorem conclude_nil (hv : op.isValid = true) (hk : op.kind = s.kind) :
    ∃ e, s.conclude op [] = .error (.parse e) ∧ e.Concerns s ∧ e.fault = .unterminated ∧
      e.expected = some (allowedTerminators op.kind) := by
  rw [conclude_of_isValid hv]
  exact ⟨_, rfl, ⟨rfl, hk, by simp⟩, rfl, rfl⟩

theorem conclude_refused (hv : op.isValid = true) (hk : op.kind = s.kind) (hmem : t ∈ s.body)
    (ht : t.value = terminator m) (hm : op.takesModifier m = false) :
    ∃ e, s.conclude op [t] = .error (.parse e) ∧ e.Concerns s ∧ e.fault = .invalidModifier ∧
      e.unexpected = some t ∧ e.expected = some (allowedTerminators op.kind) := by
  have hnone : (modifierOf? t.value).bind op.withModifier? = none := by
    rw [modifierOf?_eq_some.2 ht, Option.bind_some, Operation.withModifier?, hm]
    rfl
  rw [conclude_of_isValid hv, Operation.terminate, hnone]
  refine ⟨_, rfl, ⟨rfl, hk, ?_⟩, rfl, rfl, rfl⟩
  rintro _ ⟨⟩
  exact hmem

/-- Whatever a statement fails with, the error is its own. -/
theorem concerns_of_operation {post : List Token} {e : ParseError}
    (hbody : s.body = (cutStatement post).1) (h : s.operation = .error (.parse e)) :
    e.Concerns s := by
  have inj : ∀ {e' : ParseError}, s.operation = .error (.parse e') → e' = e := by
    intro e' he'
    rw [h] at he'
    exact (Rejection.parse.inj (Except.error.inj he')).symm
  rcases s.operation_cases with ⟨op, left, ho⟩ | ⟨e', he', hin⟩
  · have hop := operation_of_outline ho
    have hk : op.kind = s.kind := ho.kind_eq
    have hcases := hbody ▸ ho
    rcases hcases.left_cases with ⟨rfl, -⟩ | ⟨us, t, m, _, rfl, -, -, ht, hcut, -⟩
    · obtain ⟨e', he', hconcerns, -⟩ := conclude_nil (s := s) ho.isValid hk
      exact inj (hop.trans he') ▸ hconcerns
    · by_cases hm : op.takesModifier m = true
      · rw [hop, conclude_of_terminator ho.isValid ht hm] at h
        cases h
      · have hmem : t ∈ s.body := by simp [hbody, hcut]
        obtain ⟨e', he', hconcerns, -⟩ :=
          conclude_refused ho.isValid hk hmem ht (Bool.eq_false_iff.2 hm)
        exact inj (hop.trans he') ▸ hconcerns
  · exact inj he' ▸ hin.toConcerns

end Statement

/-- Tokens without operations, and why: behind a part that gives operations stands a token that
begins no statement, or a statement that fails. -/
inductive Stops : List Token → Rejection → Prop
  | stray {pre post : List Token} {t : Token} {ops : List Operation} :
      parse pre = .ok ops → t.isBlank = false → Keyword.ofValue? t.value = none →
      Stops (pre ++ t :: post) (.parse (strayToken t))
  | statement {pre post : List Token} {start : Token} {k : Keyword} {ops : List Operation}
      {r : Rejection} :
      parse pre = .ok ops → start.value = k.value →
      Statement.operation ⟨k, start, (cutStatement post).1⟩ = .error r →
      Stops (pre ++ start :: post) r

theorem Stops.append {ts us : List Token} {ops : List Operation} {r : Rejection}
    (hts : parse ts = .ok ops) (h : Stops us r) : Stops (ts ++ us) r := by
  cases h with
  | stray hpre hb hk =>
    rw [← List.append_assoc]
    exact .stray (by rw [parse_append_of_ok hts, hpre]; rfl) hb hk
  | statement hpre hk hop =>
    rw [← List.append_assoc]
    exact .statement (by rw [parse_append_of_ok hts, hpre]; rfl) hk hop

theorem stops_of_parse {ts : List Token} {r : Rejection} (h : parse ts = .error r) :
    Stops ts r := by
  induction ts using Statement.split.induct with
  | case1 =>
    rw [parse_nil] at h
    cases h
  | case2 t ts hb ih =>
    rw [parse_cons_blank hb] at h
    have hblank : parse [t] = .ok [] := by rw [parse_cons_blank hb, parse_nil]
    exact (ih h).append hblank
  | case3 t ts hb hk =>
    have hb' : t.isBlank = false := by simpa using hb
    rw [parse_cons_stray hb' hk] at h
    cases h
    exact List.nil_append (t :: ts) ▸ .stray parse_nil hb' hk
  | case4 t ts hb k hk ih =>
    have hv := Keyword.ofValue?_eq_some.1 hk
    rw [parse_cons_keyword hv] at h
    rcases Except.bind_eq_error.1 h with h | ⟨op, hop, h⟩
    · exact List.nil_append (t :: ts) ▸ .statement parse_nil hv h
    · rcases Except.bind_eq_error.1 h with h | ⟨_, -, h⟩
      · have hfront : parse (t :: (cutStatement ts).1) = .ok [op] := by
          rw [parse_cons_keyword hv, cutStatement_slice, hop, parse_nil]
          rfl
        have happ := (ih h).append hfront
        rwa [List.cons_append, cutStatement_append] at happ
      · cases h

theorem parse_of_stops {ts : List Token} {r : Rejection} (h : Stops ts r) :
    parse ts = .error r := by
  cases h with
  | stray hpre hb hk =>
    rw [parse_append_of_ok hpre, parse_cons_stray hb hk]
    rfl
  | statement hpre hk hop =>
    rw [parse_append_of_ok hpre, parse_cons_keyword hk, hop]
    rfl

theorem parse_eq_error_iff {ts : List Token} {r : Rejection} :
    parse ts = .error r ↔ Stops ts r := ⟨stops_of_parse, parse_of_stops⟩

end Roster
