import Roster.Proofs.StatementSequence

/-! Relabelled tokens. Parsing reads the values of tokens only: tokens that are changed but for
their values give the same operations, or the same error about the changed tokens. So the tokens of
an error are among those that were parsed. -/
namespace Roster
open Vocabulary

theorem Except.mapError_bind {ε ε' α β : Type} {m : ε → ε'} {x : Except ε α}
    {g : α → Except ε β} {g' : α → Except ε' β} (h : ∀ a, g' a = (g a).mapError m) :
    (x.mapError m >>= g') = (x >>= g).mapError m := by
  cases x with
  | error e => rfl
  | ok a => exact h a

def ListFault.mapTokens (f : Token → Token) : ListFault → ListFault
  | empty t => .empty (t.map f)
  | malformed t => .malformed (f t)

def ParseError.mapTokens (f : Token → Token) (e : ParseError) : ParseError :=
  { e with start := f e.start, unexpected := e.unexpected.map f }

def Rejection.mapTokens (f : Token → Token) : Rejection → Rejection
  | parse e => .parse (e.mapTokens f)
  | leftover kind ts => .leftover kind (ts.map f)
  | invalid op => .invalid op

def NameList.Progress.mapTokens (f : Token → Token) (p : NameList.Progress) : NameList.Progress :=
  ⟨p.elements, p.pending.map f, p.separator.map f⟩

def Statement.mapTokens (f : Token → Token) (s : Statement) : Statement :=
  ⟨s.keyword, f s.start, s.body.map f⟩

section

variable {f : Token → Token} (hf : ∀ t, (f t).value = t.value)
include hf

theorem isBlank_relabelled (t : Token) : (f t).isBlank = t.isBlank := by
  rw [Token.isBlank, hf, Token.isBlank]

theorem isTerminator_relabelled (t : Token) : (f t).isTerminator = t.isTerminator := by
  rw [Token.isTerminator, hf, Token.isTerminator]

namespace NameList

theorem elementParts_map (last : Option Text) (ts : List Token) :
    elementParts last (ts.map f) = elementParts last ts := by
  induction ts generalizing last with
  | nil => rfl
  | cons t ts ih => simp only [List.map_cons, elementParts, isBlank_relabelled hf, hf, ih]

theorem joinElement_map (ts : List Token) : joinElement (ts.map f) = joinElement ts := by
  rw [joinElement, elementParts_map hf, joinElement]

theorem body_map (ends : List TokenValue) (ts : List Token) :
    body ends (ts.map f) = (body ends ts).map f := by
  simp only [body, List.takeWhile_map, Function.comp_def, hf]

theorem rest_map (ends : List TokenValue) (ts : List Token) :
    rest ends (ts.map f) = (rest ends ts).map f := by
  simp only [rest, List.dropWhile_map, Function.comp_def, hf]

namespace Progress

omit hf in
theorem blame_map (p : Progress) (t : Token) :
    (p.mapTokens f).blame (f t) = (p.blame t).mapTokens f := by
  simp only [blame, mapTokens, List.isEmpty_map]
  split <;> rfl

theorem afterComma_map (p : Progress) : (p.mapTokens f).afterComma = p.afterComma := by
  cases h : p.separator <;> simp [afterComma, mapTokens, h, hf]

theorem step_map (p : Progress) (t : Token) :
    (p.mapTokens f).step (f t) =
      ((p.step t).map (mapTokens f)).mapError (ListFault.mapTokens f) := by
  have hpending : (p.mapTokens f).pending.isEmpty = p.pending.isEmpty := List.isEmpty_map
  have hjoin : joinElement (p.mapTokens f).pending = joinElement p.pending :=
    joinElement_map hf p.pending
  unfold step
  simp only [isBlank_relabelled hf, hf, hpending, hjoin, afterComma_map hf, blame_map]
  split
  next =>
    split
    next => rfl
    next => simp [mapTokens, Except.map]
  next =>
    split
    next =>
      split
      next => rfl
      next => split <;> rfl
    next =>
      split
      next =>
        split
        next => rfl
        next => simp [mapTokens, Except.map]
      next => rfl

theorem finish_map (p : Progress) (next : Option Token) :
    (p.mapTokens f).finish (next.map f) = (p.finish next).mapError (ListFault.mapTokens f) := by
  obtain ⟨elements, pending, separator⟩ := p
  have hjoin : joinElement (pending.map f) = joinElement pending := joinElement_map hf pending
  simp only [finish, mapTokens, List.isEmpty_map, hjoin]
  split
  next => rfl
  next =>
    cases separator with
    | some t => rfl
    | none =>
      by_cases h : elements.isEmpty = true <;> simp [h, ListFault.mapTokens]

end Progress

theorem foldlM_map (p : Progress) (ts : List Token) :
    (ts.map f).foldlM Progress.step (p.mapTokens f) =
      ((ts.foldlM Progress.step p).map (Progress.mapTokens f)).mapError
        (ListFault.mapTokens f) := by
  induction ts generalizing p with
  | nil => rfl
  | cons t ts ih =>
    rw [List.map_cons, List.foldlM_cons, List.foldlM_cons, Progress.step_map hf]
    cases p.step t with
    | error e => rfl
    | ok p' => exact ih p'

theorem read_map (ends : List TokenValue) (ts : List Token) :
    read ends (ts.map f) = (read ends ts).mapError (ListFault.mapTokens f) := by
  have hfold : ((body ends ts).map f).foldlM Progress.step .start = _ :=
    foldlM_map hf .start (body ends ts)
  have hnext : (rest ends (ts.map f)).head?.or (ts.map f).getLast? =
      ((rest ends ts).head?.or ts.getLast?).map f := by
    rw [rest_map hf, List.head?_map, List.getLast?_map]
    cases (rest ends ts).head? <;> rfl
  unfold read
  rw [body_map hf, hnext, hfold]
  cases (body ends ts).foldlM Progress.step .start with
  | error e => rfl
  | ok p => exact Progress.finish_map hf p _

end NameList

theorem toParseError_relabelled (kind : OperationKind) (start : Token) (ends : List TokenValue)
    (name : Text) (fault : ListFault) :
    (fault.mapTokens f).toParseError kind (f start) ends name =
      (fault.toParseError kind start ends name).mapTokens f := by
  cases fault with
  | empty t =>
    cases t with
    | none => rfl
    | some t =>
      simp only [ListFault.mapTokens, ListFault.toParseError, ParseError.mapTokens, Option.map_some,
        hf]
  | malformed t =>
    simp only [ListFault.mapTokens, ListFault.toParseError, ParseError.mapTokens, Option.map_some,
      hf]

omit hf in
theorem checked_relabelled (op : Operation) :
    op.checked.mapError (Rejection.mapTokens f) = op.checked := by
  by_cases h : op.isValid = true <;>
    simp [Operation.checked, h, Rejection.mapTokens]

theorem terminate_relabelled (op : Operation) (start : Token) (left : List Token) :
    op.terminate (f start) (left.map f) =
      (op.terminate start left).mapError (Rejection.mapTokens f) := by
  match left with
  | [] => rfl
  | [t] =>
    simp only [List.map_cons, List.map_nil, Operation.terminate, hf]
    cases (modifierOf? t.value).bind op.withModifier? with
    | none => rfl
    | some op' => exact (checked_relabelled op').symm
  | t :: u :: ts => rfl

namespace Statement

theorem readList_map (s : Statement) (name : Text) (ends : List TokenValue) (ts : List Token) :
    (s.mapTokens f).readList name ends (ts.map f) =
      (s.readList name ends ts).mapError (Rejection.mapTokens f) := by
  unfold readList
  rw [NameList.read_map hf]
  cases NameList.read ends ts with
  | ok texts => rfl
  | error fault =>
    have herror := toParseError_relabelled hf s.kind s.start ends name fault
    exact congrArg (fun e => Except.error (Rejection.parse e)) herror

theorem conclude_map (s : Statement) (op : Operation) (left : List Token) :
    (s.mapTokens f).conclude op (left.map f) =
      (s.conclude op left).mapError (Rejection.mapTokens f) := by
  have hbind : (op.checked.mapError (Rejection.mapTokens f) >>=
        fun op => op.terminate (f s.start) (left.map f)) =
      (op.checked >>= fun op => op.terminate s.start left).mapError (Rejection.mapTokens f) :=
    Except.mapError_bind fun op => terminate_relabelled hf op s.start left
  rwa [checked_relabelled] at hbind

/-- A list, and then what is done with its elements. -/
theorem bind_readList_map (s : Statement) (name : Text) (ends : List TokenValue) (ts : List Token)
    {g g' : List Text → Except Rejection Operation}
    (hg : ∀ texts, g' texts = (g texts).mapError (Rejection.mapTokens f)) :
    ((s.mapTokens f).readList name ends (ts.map f) >>= g') =
      (s.readList name ends ts >>= g).mapError (Rejection.mapTokens f) := by
  rw [readList_map hf]
  exact Except.mapError_bind hg

theorem departmentsOnly_map (s : Statement) (make : List Text → Modifier → Operation) :
    (s.mapTokens f).departmentsOnly make =
      (s.departmentsOnly make).mapError (Rejection.mapTokens f) := by
  apply bind_readList_map hf
  intro departments
  rw [mapTokens, NameList.rest_map hf]
  exact conclude_map hf s _ _

theorem addition_map (s : Statement) :
    (s.mapTokens f).addition = s.addition.mapError (Rejection.mapTokens f) := by
  apply bind_readList_map hf
  intro names
  have hrest : NameList.rest [toWord] (s.mapTokens f).body =
      (NameList.rest [toWord] s.body).map f := NameList.rest_map hf _ _
  rw [hrest]
  cases NameList.rest [toWord] s.body with
  | nil => rfl
  | cons t after =>
    apply bind_readList_map hf
    intro departments
    rw [NameList.rest_map hf]
    exact conclude_map hf s _ _

theorem removal_map (s : Statement) :
    (s.mapTokens f).removal = s.removal.mapError (Rejection.mapTokens f) := by
  apply bind_readList_map hf
  intro first
  have hrest : NameList.rest removalTerminators (s.mapTokens f).body =
      (NameList.rest removalTerminators s.body).map f := NameList.rest_map hf _ _
  rw [hrest]
  cases NameList.rest removalTerminators s.body with
  | nil => exact conclude_map hf s _ []
  | cons t after =>
    simp only [List.map_cons, hf]
    split
    next =>
      rw [NameList.read_map hf]
      cases NameList.read terminators after with
      | ok second =>
        simp only [Except.mapError_ok, NameList.rest_map hf]
        exact conclude_map hf s _ _
      | error fault =>
        have herror :=
          toParseError_relabelled hf s.kind s.start terminators "department".toList fault
        cases fault with
        | empty u => rfl
        | malformed u => exact congrArg (fun e => Except.error (Rejection.parse e)) herror
    next => exact conclude_map hf s _ (t :: after)

theorem operation_map (s : Statement) :
    (s.mapTokens f).operation = s.operation.mapError (Rejection.mapTokens f) := by
  have hkeyword : (s.mapTokens f).keyword = s.keyword := rfl
  unfold operation
  rw [hkeyword]
  split
  · exact departmentsOnly_map hf s _
  · exact departmentsOnly_map hf s _
  · exact addition_map hf s
  · exact removal_map hf s

end Statement

theorem cutStatement_map (ts : List Token) :
    cutStatement (ts.map f) = ((cutStatement ts).1.map f, (cutStatement ts).2.map f) := by
  induction ts with
  | nil => rfl
  | cons t ts ih =>
    by_cases h : t.isTerminator = true
    · simp [cutStatement, isTerminator_relabelled hf, h]
    · simp [cutStatement, isTerminator_relabelled hf, h, ih]

/-- Changed tokens are parsed like the tokens they come from. -/
theorem parse_map (ts : List Token) :
    parse (ts.map f) = (parse ts).mapError (Rejection.mapTokens f) := by
  induction ts using Statement.split.induct with
  | case1 => rw [List.map_nil, parse_nil]; rfl
  | case2 t ts hb ih =>
    have hb' : (f t).isBlank = true := by rwa [isBlank_relabelled hf]
    rw [List.map_cons, parse_cons_blank hb', parse_cons_blank hb]
    exact ih
  | case3 t ts hb hk =>
    have hb' : (f t).isBlank = false := by simpa [isBlank_relabelled hf] using hb
    have hk' : Keyword.ofValue? (f t).value = none := by rwa [hf]
    rw [List.map_cons, parse_cons_stray hb' hk', parse_cons_stray (by simpa using hb) hk]
    rfl
  | case4 t ts hb k hk ih =>
    have hv : t.value = k.value := Keyword.ofValue?_eq_some.1 hk
    have hv' : (f t).value = k.value := by rw [hf, hv]
    have hcut := cutStatement_map hf ts
    rw [List.map_cons, parse_cons_keyword hv', parse_cons_keyword hv, hcut]
    have hop := Statement.operation_map hf ⟨k, t, (cutStatement ts).1⟩
    rw [Statement.mapTokens] at hop
    rw [hop, ih]
    apply Except.mapError_bind
    intro op
    apply Except.mapError_bind
    intro ops
    rfl

end

/-- An error is about tokens that were parsed. -/
theorem mem_of_parse_eq_error {ts : List Token} {e : ParseError}
    (h : parse ts = .error (.parse e)) : e.start ∈ ts ∧ ∀ t ∈ e.unexpected, t ∈ ts := by
  -- all tokens but those that are parsed are changed, so the error stays as it is
  let f : Token → Token := fun t => if t ∈ ts then t else { t with lineNumber := t.lineNumber + 1 }
  have hf : ∀ t, (f t).value = t.value := by
    intro t
    simp only [f]
    split <;> rfl
  have hfixed : ∀ t, f t = t → t ∈ ts := by
    intro t ht
    by_cases hmem : t ∈ ts
    · exact hmem
    · have hline := congrArg Token.lineNumber ht
      simp only [f, if_neg hmem] at hline
      omega
  have hts : ts.map f = ts := by
    calc
      ts.map f = ts.map id := List.map_congr_left fun t ht => if_pos ht
      _ = ts := List.map_id ts
  have herror := parse_map hf ts
  rw [hts, h] at herror
  have heq : e = e.mapTokens f := by
    simpa [Rejection.mapTokens] using herror
  refine ⟨hfixed e.start (congrArg ParseError.start heq).symm, ?_⟩
  intro t ht
  have hunexpected : some t = (some t).map f := by
    rw [← Option.mem_def.1 ht]
    exact congrArg ParseError.unexpected heq
  exact hfixed t (Option.some.inj hunexpected).symm

end Roster
