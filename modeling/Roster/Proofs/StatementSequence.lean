import Roster.Statement.Parse

/-! Statements one after another. Parsing the tokens of a first part tells what parsing them with
more tokens behind them does, unless the first part ends within a statement. -/
namespace Roster
open Vocabulary

theorem Except.bind_eq_ok {ε α β : Type} {x : Except ε α} {f : α → Except ε β} {b : β} :
    (x >>= f) = .ok b ↔ ∃ a, x = .ok a ∧ f a = .ok b := by
  cases x <;> simp [bind, Except.bind]

theorem Except.bind_eq_error {ε α β : Type} {x : Except ε α} {f : α → Except ε β} {e : ε} :
    (x >>= f) = .error e ↔ x = .error e ∨ ∃ a, x = .ok a ∧ f a = .error e := by
  cases x <;> simp [bind, Except.bind]

@[simp]
theorem Except.mapError_ok {ε ε' α : Type} (f : ε → ε') (a : α) :
    (Except.ok a).mapError f = .ok a := rfl

@[simp]
theorem Except.mapError_error {ε ε' α : Type} (f : ε → ε') (e : ε) :
    (Except.error e : Except ε α).mapError f = .error (f e) := rfl

theorem Except.mapError_eq_ok {ε ε' α : Type} {x : Except ε α} {f : ε → ε'} {a : α} :
    x.mapError f = .ok a ↔ x = .ok a := by
  cases x with
  | ok b => constructor <;> intro h <;> cases h <;> rfl
  | error e => constructor <;> intro h <;> cases h

theorem Except.mapError_eq_error {ε ε' α : Type} {x : Except ε α} {f : ε → ε'} {e' : ε'} :
    x.mapError f = .error e' ↔ ∃ e, x = .error e ∧ f e = e' := by
  cases x with
  | ok a =>
    constructor
    · intro h
      cases h
    · rintro ⟨e, h, -⟩
      cases h
  | error e =>
    constructor
    · intro h
      exact ⟨e, rfl, Except.error.inj h⟩
    · rintro ⟨_, ⟨⟩, rfl⟩
      rfl

theorem cutStatement_of_terminator {ts : List Token} {t : Token}
    (hts : ∀ u ∈ ts, u.isTerminator = false) (ht : t.isTerminator = true) (rest : List Token) :
    cutStatement (ts ++ t :: rest) = (ts ++ [t], rest) := by
  induction ts with
  | nil => simp [cutStatement, ht]
  | cons u ts ih =>
    simp only [List.forall_mem_cons] at hts
    simp [cutStatement, hts.1, ih hts.2]

/-- Tokens behind a terminator do not move it. -/
theorem cutStatement_append_right {ts : List Token} (h : ∃ t ∈ (cutStatement ts).1, t.isTerminator)
    (us : List Token) :
    cutStatement (ts ++ us) = ((cutStatement ts).1, (cutStatement ts).2 ++ us) := by
  induction ts with
  | nil => simp [cutStatement] at h
  | cons t ts ih =>
    simp only [cutStatement] at h
    by_cases ht : t.isTerminator = true
    · simp [cutStatement, ht]
    · simp only [ht, Bool.false_eq_true, ↓reduceIte, List.mem_cons, exists_eq_or_imp,
        false_or] at h
      simp [cutStatement, ht, ih h]

theorem modifierOf?_eq_some {v : TokenValue} {m : Modifier} :
    modifierOf? v = some m ↔ v = terminator m := by
  constructor
  · intro h
    have hm := List.find?_some h
    exact (eq_of_beq hm).symm
  · rintro rfl
    exact modifierOf?_terminator m

theorem isTerminator_iff {t : Token} : t.isTerminator = true ↔ ∃ m, t.value = terminator m := by
  constructor
  · intro h
    obtain ⟨m, -, hm⟩ := List.mem_map.1 (List.contains_iff_mem.1 h)
    exact ⟨m, hm.symm⟩
  · rintro ⟨m, hm⟩
    rw [Token.isTerminator, hm]
    cases m <;> decide

namespace Operation

/-- A modifier that an operation takes keeps its constraints. -/
theorem isValid_setModifier {op : Operation} {m : Modifier} (h : op.isValid = true)
    (hm : op.takesModifier m = true) : (op.setModifier m).isValid = true := by
  cases op <;> simp_all [isValid, takesModifier, setModifier, kind]

theorem checked_eq_ok {op op' : Operation} :
    op.checked = .ok op' ↔ op.isValid = true ∧ op' = op := by
  rw [checked]
  split
  · next h => simp only [Except.ok.injEq, h, true_and, eq_comm]
  · next h => simp [h]

theorem withModifier?_eq_some {op op' : Operation} {m : Modifier} :
    op.withModifier? m = some op' ↔ op.takesModifier m = true ∧ op' = op.setModifier m := by
  rw [withModifier?]
  split
  · next h => simp only [Option.some.injEq, h, true_and, eq_comm]
  · next h => simp [h]

end Operation

theorem ListFault.fault_toParseError (f : ListFault) (kind : OperationKind) (start : Token)
    (terminators : List TokenValue) (name : Text) :
    (f.toParseError kind start terminators name).fault = f.fault := by
  cases f <;> rfl

theorem ListFault.fault_ne_unexpectedToken (f : ListFault) : f.fault ≠ .unexpectedToken := by
  cases f <;> simp [ListFault.fault]

namespace Statement

/-- A statement is concluded by a single terminator whose modifier its operation takes. -/
theorem conclude_eq_ok {s : Statement} {op op' : Operation} {left : List Token} :
    s.conclude op left = .ok op' ↔
      op.isValid = true ∧ ∃ t m, left = [t] ∧ t.value = terminator m ∧
        op.takesModifier m = true ∧ op' = op.setModifier m := by
  simp only [conclude, Except.bind_eq_ok, Operation.checked_eq_ok]
  constructor
  · rintro ⟨_, ⟨hv, rfl⟩, h⟩
    refine ⟨hv, ?_⟩
    rcases left with _ | ⟨t, _ | ⟨t', left⟩⟩
    · simp [Operation.terminate] at h
    · simp only [Operation.terminate] at h
      split at h
      next op'' hop =>
        obtain ⟨m, hm, ht⟩ := Option.bind_eq_some_iff.1 hop
        obtain ⟨-, rfl⟩ := Operation.checked_eq_ok.1 h
        obtain ⟨htakes, hset⟩ := Operation.withModifier?_eq_some.1 ht
        exact ⟨t, m, rfl, modifierOf?_eq_some.1 hm, htakes, hset⟩
      next => cases h
    · simp [Operation.terminate] at h
  · rintro ⟨hv, t, m, rfl, ht, htakes, rfl⟩
    refine ⟨op, ⟨hv, rfl⟩, ?_⟩
    have hop : (modifierOf? t.value).bind op.withModifier? = some (op.setModifier m) := by
      rw [modifierOf?_eq_some.2 ht]
      exact Operation.withModifier?_eq_some.2 ⟨htakes, rfl⟩
    simp only [Operation.terminate, hop]
    exact Operation.checked_eq_ok.2 ⟨Operation.isValid_setModifier hv htakes, rfl⟩

theorem readList_eq_ok {s : Statement} {name : Text} {terminators : List TokenValue}
    {ts : List Token} {texts : List Text} :
    s.readList name terminators ts = .ok texts ↔ NameList.read terminators ts = .ok texts := by
  rw [readList, Except.mapError_eq_ok]

theorem departmentsOnly_eq_ok {s : Statement} {make : List Text → Modifier → Operation}
    {op : Operation} :
    s.departmentsOnly make = .ok op ↔
      ∃ departments, NameList.read terminators s.body = .ok departments ∧
        s.conclude (make departments .plain) (NameList.rest terminators s.body) = .ok op := by
  simp only [departmentsOnly, Except.bind_eq_ok, readList_eq_ok]

theorem addition_eq_ok {s : Statement} {op : Operation} :
    s.addition = .ok op ↔
      ∃ names t after departments, NameList.read [toWord] s.body = .ok names ∧
        NameList.rest [toWord] s.body = t :: after ∧
        NameList.read terminators after = .ok departments ∧
        s.conclude (.add names departments .plain) (NameList.rest terminators after) = .ok op := by
  simp only [addition, Except.bind_eq_ok, readList_eq_ok]
  cases NameList.rest [toWord] s.body with
  | nil => simp
  | cons t after =>
    simp only [Except.bind_eq_ok, readList_eq_ok]
    constructor
    · rintro ⟨names, hn, departments, hd, h⟩
      exact ⟨names, t, after, departments, hn, rfl, hd, h⟩
    · rintro ⟨names, _, _, departments, hn, ⟨⟩, hd, h⟩
      exact ⟨names, hn, departments, hd, h⟩

theorem removal_eq_ok {s : Statement} {op : Operation} :
    s.removal = .ok op ↔
      ∃ first, NameList.read removalTerminators s.body = .ok first ∧
        ((∃ t after second, NameList.rest removalTerminators s.body = t :: after ∧
            t.value = fromWord ∧ NameList.read terminators after = .ok second ∧
            s.conclude (.remove first second .plain) (NameList.rest terminators after) = .ok op) ∨
          (∀ t ∈ (NameList.rest removalTerminators s.body).head?, t.value ≠ fromWord) ∧
            s.conclude (.remove [] first .plain) (NameList.rest removalTerminators s.body) =
              .ok op) := by
  simp only [removal, Except.bind_eq_ok, readList_eq_ok]
  cases NameList.rest removalTerminators s.body with
  | nil => simp
  | cons t after =>
    apply exists_congr
    intro first
    apply and_congr_right
    intro _
    by_cases hfrom : t.value = fromWord
    · simp only [hfrom, ↓reduceIte, List.head?_cons, Option.mem_def, Option.some.injEq,
        forall_eq', ne_eq, not_true_eq_false, false_and, or_false]
      constructor
      · intro h
        cases hread : NameList.read terminators after with
        | ok second =>
          rw [hread] at h
          exact ⟨t, after, second, rfl, hfrom, hread, h⟩
        | error f => cases f <;> simp [hread] at h
      · rintro ⟨_, _, second, ⟨⟩, -, hread, h⟩
        rw [hread]
        exact h
    · simp only [hfrom, ↓reduceIte, List.head?_cons, Option.mem_def, Option.some.injEq,
        forall_eq', ne_eq, not_false_eq_true, true_and]
      constructor
      · exact .inr
      · rintro (⟨_, _, _, ⟨⟩, h, -⟩ | h)
        · exact absurd h hfrom
        · exact h

/-- What gives an operation has a terminator. -/
theorem terminated_of_operation_eq_ok {s : Statement} {op : Operation}
    (h : s.operation = .ok op) : ∃ t ∈ s.body, t.isTerminator = true := by
  have conclusion : ∀ {op op' : Operation} {terminators : List TokenValue} {ts : List Token},
      s.conclude op (NameList.rest terminators ts) = .ok op' →
        ∃ t ∈ ts, t.isTerminator = true := by
    intro _ _ terminators ts h
    obtain ⟨-, t, m, hleft, ht, -⟩ := conclude_eq_ok.1 h
    have hmem : t ∈ NameList.rest terminators ts := by simp [hleft]
    exact ⟨t, (List.dropWhile_sublist _).mem hmem, isTerminator_iff.2 ⟨m, ht⟩⟩
  have behind : ∀ {terminators : List TokenValue} {t : Token} {after : List Token},
      NameList.rest terminators s.body = t :: after →
        (∃ t ∈ after, t.isTerminator = true) → ∃ t ∈ s.body, t.isTerminator = true := by
    rintro terminators t after hrest ⟨u, hu, hterm⟩
    have hmem : u ∈ NameList.rest terminators s.body := by simp [hrest, hu]
    exact ⟨u, (List.dropWhile_sublist _).mem hmem, hterm⟩
  rw [operation] at h
  split at h
  · obtain ⟨_, -, h⟩ := departmentsOnly_eq_ok.1 h
    exact conclusion h
  · obtain ⟨_, -, h⟩ := departmentsOnly_eq_ok.1 h
    exact conclusion h
  · obtain ⟨_, t, after, _, -, hrest, -, h⟩ := addition_eq_ok.1 h
    exact behind hrest (conclusion h)
  · obtain ⟨_, -, ⟨t, after, _, hrest, -, -, h⟩ | ⟨-, h⟩⟩ := removal_eq_ok.1 h
    · exact behind hrest (conclusion h)
    · exact conclusion h

variable {s : Statement} {e : ParseError}

theorem readList_ne_unexpectedToken {name : Text} {terminators : List TokenValue}
    {ts : List Token} (h : s.readList name terminators ts = .error (.parse e)) :
    e.fault ≠ .unexpectedToken := by
  rw [readList, Except.mapError_eq_error] at h
  obtain ⟨f, -, hf⟩ := h
  rw [← Rejection.parse.inj hf, ListFault.fault_toParseError]
  exact f.fault_ne_unexpectedToken

theorem conclude_ne_unexpectedToken {op : Operation} {left : List Token}
    (h : s.conclude op left = .error (.parse e)) : e.fault ≠ .unexpectedToken := by
  have hunterminated : ParseFault.unterminated ≠ .unexpectedToken := by decide
  have hinvalid : ParseFault.invalidModifier ≠ .unexpectedToken := by decide
  rcases Except.bind_eq_error.1 h with h | ⟨op', -, h⟩
  · rw [Operation.checked] at h
    split at h <;> cases h
  · rcases left with _ | ⟨t, _ | ⟨t', left⟩⟩
    · cases h
      exact hunterminated
    · simp only [Operation.terminate] at h
      split at h
      · rw [Operation.checked] at h
        split at h <;> cases h
      · cases h
        exact hinvalid
    · cases h

/-- A list and the rest of the statement behind it. -/
theorem bind_readList_ne_unexpectedToken {name : Text} {terminators : List TokenValue}
    {ts : List Token} {f : List Text → Except Rejection Operation}
    (h : (s.readList name terminators ts >>= f) = .error (.parse e))
    (hf : ∀ texts, f texts = .error (.parse e) → e.fault ≠ .unexpectedToken) :
    e.fault ≠ .unexpectedToken := by
  rcases Except.bind_eq_error.1 h with h | ⟨texts, -, h⟩
  · exact readList_ne_unexpectedToken h
  · exact hf texts h

theorem addition_ne_unexpectedToken (h : s.addition = .error (.parse e)) :
    e.fault ≠ .unexpectedToken := by
  have hmalformed : ParseFault.malformedList ≠ .unexpectedToken := by decide
  refine bind_readList_ne_unexpectedToken h fun names h => ?_
  split at h
  · cases h
    exact hmalformed
  · exact bind_readList_ne_unexpectedToken h fun _ h => conclude_ne_unexpectedToken h

theorem removal_ne_unexpectedToken (h : s.removal = .error (.parse e)) :
    e.fault ≠ .unexpectedToken := by
  have hmissing : ParseFault.missingDepartments ≠ .unexpectedToken := by decide
  refine bind_readList_ne_unexpectedToken h fun first h => ?_
  split at h
  · exact conclude_ne_unexpectedToken h
  · split at h
    · split at h
      · exact conclude_ne_unexpectedToken h
      · cases h
        exact hmissing
      · cases h
        rw [ListFault.fault_toParseError]
        exact ListFault.fault_ne_unexpectedToken _
    · exact conclude_ne_unexpectedToken h

/-- The error of a token that begins no statement is no other's. -/
theorem fault_ne_unexpectedToken (h : s.operation = .error (.parse e)) :
    e.fault ≠ .unexpectedToken := by
  rw [operation] at h
  split at h
  · exact bind_readList_ne_unexpectedToken h fun _ h => conclude_ne_unexpectedToken h
  · exact bind_readList_ne_unexpectedToken h fun _ h => conclude_ne_unexpectedToken h
  · exact addition_ne_unexpectedToken h
  · exact removal_ne_unexpectedToken h

end Statement

theorem Keyword.ofValue?_eq_some {v : TokenValue} {k : Keyword} :
    Keyword.ofValue? v = some k ↔ v = k.value := by
  constructor
  · intro h
    have hk := List.find?_some h
    exact (eq_of_beq hk).symm
  · rintro rfl
    exact ofValue?_value k

theorem Keyword.isBlank_eq_false {t : Token} {k : Keyword} (h : t.value = k.value) :
    t.isBlank = false := by
  rw [Token.isBlank, h]
  rfl

theorem parse_nil : parse [] = .ok [] := by
  rw [parse, Statement.split]
  rfl

theorem parse_cons_blank {t : Token} (h : t.isBlank = true) (ts : List Token) :
    parse (t :: ts) = parse ts := by
  rw [parse, Statement.split, if_pos h, parse]

theorem parse_cons_stray {t : Token} (hb : t.isBlank = false)
    (h : Keyword.ofValue? t.value = none) (ts : List Token) :
    parse (t :: ts) = .error (.parse (strayToken t)) := by
  rw [parse, Statement.split]
  simp [hb, h, bind, Except.bind, pure, Except.pure]

theorem parse_cons_keyword {t : Token} {k : Keyword} (h : t.value = k.value) (ts : List Token) :
    parse (t :: ts) = do
      let op ← Statement.operation ⟨k, t, (cutStatement ts).1⟩
      let ops ← parse (cutStatement ts).2
      return op :: ops := by
  have hb := Keyword.isBlank_eq_false h
  have hk := Keyword.ofValue?_eq_some.2 h
  rw [parse, Statement.split]
  simp only [hb, Bool.false_eq_true, ↓reduceIte, hk, List.mapM_cons]
  cases Statement.operation ⟨k, t, (cutStatement ts).1⟩ with
  | error e => rfl
  | ok op =>
    rw [parse]
    cases (Statement.split (cutStatement ts).2).1.mapM Statement.operation with
    | error e => rfl
    | ok ops => cases (Statement.split (cutStatement ts).2).2 <;> rfl

/-- The first statement that gives no operation. -/
def failing? (ts : List Token) : Option Statement :=
  (Statement.split ts).1.find? fun s => !s.operation.isOk

theorem failing?_cons_blank {t : Token} (h : t.isBlank = true) (ts : List Token) :
    failing? (t :: ts) = failing? ts := by
  rw [failing?, Statement.split, if_pos h, failing?]

theorem failing?_cons_keyword {t : Token} {k : Keyword} (h : t.value = k.value)
    (ts : List Token) :
    failing? (t :: ts) =
      if (Statement.operation ⟨k, t, (cutStatement ts).1⟩).isOk then failing? (cutStatement ts).2
      else some ⟨k, t, (cutStatement ts).1⟩ := by
  have hb := Keyword.isBlank_eq_false h
  have hk := Keyword.ofValue?_eq_some.2 h
  rw [failing?, Statement.split]
  simp only [hb, Bool.false_eq_true, ↓reduceIte, hk, List.find?_cons]
  cases Except.isOk (Statement.operation ⟨k, t, (cutStatement ts).1⟩) <;> simp [failing?]

/-- Its error is the error of the whole. -/
theorem parse_of_failing? {ts : List Token} {s : Statement} (h : failing? ts = some s) :
    ∃ e, s.operation = .error e ∧ parse ts = .error e := by
  induction ts using Statement.split.induct with
  | case1 => simp [failing?, Statement.split] at h
  | case2 t ts hb ih =>
    rw [failing?_cons_blank hb] at h
    rw [parse_cons_blank hb]
    exact ih h
  | case3 t ts hb hk => simp [failing?, Statement.split, hb, hk] at h
  | case4 t ts hb k hk ih =>
    have hv := Keyword.ofValue?_eq_some.1 hk
    rw [failing?_cons_keyword hv] at h
    rw [parse_cons_keyword hv]
    cases hop : Statement.operation ⟨k, t, (cutStatement ts).1⟩ with
    | error e =>
      simp only [hop, Except.isOk, Except.toBool, Bool.false_eq_true, ↓reduceIte,
        Option.some.injEq] at h
      exact ⟨e, h ▸ hop, rfl⟩
    | ok op =>
      simp only [hop, Except.isOk, Except.toBool, ↓reduceIte] at h
      obtain ⟨e, hs, he⟩ := ih h
      exact ⟨e, hs, by simp [he, bind, Except.bind]⟩

/-- Behind tokens that give operations, parsing begins anew. -/
theorem parse_append_of_ok {ts : List Token} {ops : List Operation} (h : parse ts = .ok ops)
    (us : List Token) : parse (ts ++ us) = (parse us).map (ops ++ ·) := by
  induction ts using Statement.split.induct generalizing ops with
  | case1 =>
    rw [parse_nil] at h
    cases h
    cases hus : parse us <;> simp [hus, Except.map]
  | case2 t ts hb ih =>
    rw [parse_cons_blank hb] at h
    rw [List.cons_append, parse_cons_blank hb]
    exact ih h
  | case3 t ts hb hk =>
    rw [parse_cons_stray (by simpa using hb) hk] at h
    cases h
  | case4 t ts hb k hk ih =>
    have hv := Keyword.ofValue?_eq_some.1 hk
    rw [parse_cons_keyword hv] at h
    obtain ⟨op, hop, h⟩ := Except.bind_eq_ok.1 h
    obtain ⟨ops', hops, h⟩ := Except.bind_eq_ok.1 h
    cases h
    have hcut := cutStatement_append_right (Statement.terminated_of_operation_eq_ok hop) us
    rw [List.cons_append, parse_cons_keyword hv, hcut, hop, ih hops]
    cases hus : parse us <;> simp [bind, Except.bind, Except.map, pure, Except.pure]

/-- A terminated statement that fails does so whatever follows. -/
theorem parse_append_of_failing? {ts : List Token} {s : Statement} (h : failing? ts = some s)
    (hs : ∃ t ∈ s.body, t.isTerminator = true) (us : List Token) :
    parse (ts ++ us) = parse ts := by
  induction ts using Statement.split.induct with
  | case1 => simp [failing?, Statement.split] at h
  | case2 t ts hb ih =>
    rw [failing?_cons_blank hb] at h
    rw [List.cons_append, parse_cons_blank hb, parse_cons_blank hb]
    exact ih h
  | case3 t ts hb hk => simp [failing?, Statement.split, hb, hk] at h
  | case4 t ts hb k hk ih =>
    have hv := Keyword.ofValue?_eq_some.1 hk
    rw [failing?_cons_keyword hv] at h
    rw [List.cons_append, parse_cons_keyword hv, parse_cons_keyword hv]
    cases hop : Statement.operation ⟨k, t, (cutStatement ts).1⟩ with
    | error e =>
      simp only [hop, Except.isOk, Except.toBool, Bool.false_eq_true, ↓reduceIte,
        Option.some.injEq] at h
      obtain rfl := h
      rw [cutStatement_append_right hs, hop]
      rfl
    | ok op =>
      simp only [hop, Except.isOk, Except.toBool, ↓reduceIte] at h
      rw [cutStatement_append_right (Statement.terminated_of_operation_eq_ok hop), hop, ih h]

/-- A token that begins no statement is an error whatever follows. -/
theorem parse_append_of_unexpectedToken {ts : List Token} {e : ParseError}
    (h : parse ts = .error (.parse e)) (hf : e.fault = .unexpectedToken) (us : List Token) :
    parse (ts ++ us) = .error (.parse e) := by
  induction ts using Statement.split.induct with
  | case1 =>
    rw [parse_nil] at h
    cases h
  | case2 t ts hb ih =>
    rw [parse_cons_blank hb] at h
    rw [List.cons_append, parse_cons_blank hb]
    exact ih h
  | case3 t ts hb hk =>
    have hb' : t.isBlank = false := by simpa using hb
    rw [parse_cons_stray hb' hk] at h
    rw [List.cons_append, parse_cons_stray hb' hk, h]
  | case4 t ts hb k hk ih =>
    have hv := Keyword.ofValue?_eq_some.1 hk
    rw [parse_cons_keyword hv] at h
    rcases Except.bind_eq_error.1 h with h | ⟨op, hop, h⟩
    · exact absurd hf (Statement.fault_ne_unexpectedToken h)
    · rcases Except.bind_eq_error.1 h with h | ⟨_, -, h⟩
      · have hcut := cutStatement_append_right (Statement.terminated_of_operation_eq_ok hop) us
        rw [List.cons_append, parse_cons_keyword hv, hcut, hop, ih h]
        rfl
      · cases h

/-- Statements are parsed independently, and the first error wins: what follows a parsed part is
parsed on its own, and nothing changes the error of a token that begins no statement or of a
terminated statement. -/
theorem parse_append (a b : List Token) :
    (∀ ops, parse a = .ok ops →
      (∀ ops', parse b = .ok ops' → parse (a ++ b) = .ok (ops ++ ops')) ∧
      (∀ r, parse b = .error r → parse (a ++ b) = .error r)) ∧
    (∀ e, parse a = .error (.parse e) →
      e.fault = .unexpectedToken ∨ (∃ s ∈ failing? a, ∃ t ∈ s.body, t.isTerminator = true) →
      parse (a ++ b) = .error (.parse e)) := by
  refine ⟨fun ops ha => ⟨fun ops' hb => ?_, fun r hb => ?_⟩, fun e ha he => ?_⟩
  · rw [parse_append_of_ok ha, hb]
    rfl
  · rw [parse_append_of_ok ha, hb]
    rfl
  · rcases he with hf | ⟨s, hs, ht⟩
    · exact parse_append_of_unexpectedToken ha hf b
    · rw [parse_append_of_failing? hs ht, ha]

/-- A token at the start of an empty line. -/
def Token.ofValue (v : TokenValue) : Token := ⟨v, [], 1, 1⟩

/-- `Show Sales?` -/
def displayedSales : List Token :=
  [Keyword.display.value, .blank, .word "Sales".toList, terminator .failSilently].map .ofValue

/-- `Add Ann.`, which names no department. -/
def addedNowhere : List Token :=
  [Keyword.add.value, .blank, .word "Ann".toList, terminator .plain].map .ofValue

theorem parse_displayedSales :
    parse displayedSales = .ok [.display ["Sales".toList] .failSilently] := by
  rw [displayedSales, List.map_cons, parse_cons_keyword (k := .display) rfl]
  rw [show (cutStatement _).2 = [] from rfl, parse_nil]
  rfl

theorem failing?_addedNowhere :
    failing? addedNowhere = some ⟨.add, .ofValue Keyword.add.value, addedNowhere.tail⟩ := by
  rw [addedNowhere, List.map_cons, failing?_cons_keyword (k := .add) rfl]
  rfl

/-- The three cases: a parsed part, a token that begins no statement, and a failing statement. -/
theorem parse_append_displayedSales :
    parse (displayedSales ++ displayedSales) =
      .ok [.display ["Sales".toList] .failSilently, .display ["Sales".toList] .failSilently] ∧
    parse (.ofValue comma :: displayedSales) = .error (.parse (strayToken (.ofValue comma))) ∧
    ∃ e, parse addedNowhere = .error (.parse e) ∧
      parse (addedNowhere ++ displayedSales) = .error (.parse e) ∧
      parse (displayedSales ++ addedNowhere) = .error (.parse e) := by
  have hadded : ∃ e, parse addedNowhere = .error (.parse e) := by
    obtain ⟨r, hr, h⟩ := parse_of_failing? failing?_addedNowhere
    cases hr
    exact ⟨_, h⟩
  obtain ⟨e, he⟩ := hadded
  refine ⟨?_, ?_, e, he, ?_, ?_⟩
  · exact ((parse_append displayedSales displayedSales).1 _ parse_displayedSales).1 _
      parse_displayedSales
  · exact (parse_append [.ofValue comma] displayedSales).2 _ (parse_cons_stray rfl rfl [])
      (.inl rfl)
  · exact (parse_append addedNowhere displayedSales).2 e he
      (.inr ⟨_, failing?_addedNowhere, .ofValue (terminator .plain), by decide, by decide⟩)
  · exact ((parse_append displayedSales addedNowhere).1 _ parse_displayedSales).2 _ he

end Roster
