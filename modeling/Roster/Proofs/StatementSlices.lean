import Roster.Proofs.FailingStatement

/-! Slices of a token list. Each is ended by its only terminator, except that the last one holds no
terminator if the list does not end in one; so terminators count the slices. -/
namespace Roster
open Vocabulary

/-- Tokens that their only terminator ends. -/
def Terminated (ts : List Token) : Prop :=
  ∃ body t, ts = body ++ [t] ∧ t.isTerminator = true ∧ ∀ u ∈ body, u.isTerminator = false

/-- Tokens without a terminator. -/
def Unterminated (ts : List Token) : Prop := ∀ t ∈ ts, t.isTerminator = false

/-- There are tokens, and the last of them is no terminator. -/
def endsOpen (ts : List Token) : Bool := ts.getLast?.any fun t => !t.isTerminator

/-- The tokens behind the first `n` statements. -/
def tokensBehind : Nat → List Token → List Token
  | 0, ts => ts
  | n + 1, ts => tokensBehind n (cutStatement ts).2

theorem Terminated.ne_nil {ts : List Token} (h : Terminated ts) : ts ≠ [] := by
  obtain ⟨body, t, rfl, -, -⟩ := h
  simp

theorem Terminated.countP_eq_one {ts : List Token} (h : Terminated ts) :
    ts.countP Token.isTerminator = 1 := by
  obtain ⟨body, t, rfl, ht, hbody⟩ := h
  have hnone : body.countP Token.isTerminator = 0 := by simpa [List.countP_eq_zero] using hbody
  rw [List.countP_append, List.countP_singleton, hnone, if_pos ht]

theorem Terminated.endsOpen_eq_false {ts : List Token} (h : Terminated ts) :
    endsOpen ts = false := by
  obtain ⟨body, t, rfl, ht, -⟩ := h
  simp [endsOpen, ht]

theorem Unterminated.endsOpen_eq_true {ts : List Token} (h : Unterminated ts) (hne : ts ≠ []) :
    endsOpen ts = true := by
  rw [endsOpen, List.getLast?_eq_some_getLast hne]
  simp [h _ (List.getLast_mem hne)]

theorem endsOpen_append {ts us : List Token} (hus : us ≠ []) :
    endsOpen (ts ++ us) = endsOpen us := by
  rw [endsOpen, endsOpen, List.getLast?_append, List.getLast?_eq_some_getLast hus, Option.some_or]

/-- The first statement is terminated, or all tokens are one that is not. -/
theorem terminated_or_unterminated (ts : List Token) :
    Terminated (cutStatement ts).1 ∨ cutStatement ts = (ts, []) ∧ Unterminated ts := by
  rcases cutStatement_cases ts with ⟨hfree, hcut⟩ | ⟨us, t, post, -, hfree, ht, hcut⟩
  · exact .inr ⟨hcut, hfree⟩
  · rw [hcut]
    exact .inl ⟨us, t, rfl, ht, hfree⟩

/-- Tokens and the statements that they are parted into. -/
inductive Sliced : List Token → List (List Token) → Prop
  | nil : Sliced [] []
  | unterminated {ts : List Token} : ts ≠ [] → Unterminated ts → Sliced ts [ts]
  | terminated {slice rest : List Token} {others : List (List Token)} :
      Terminated slice → Sliced rest others → Sliced (slice ++ rest) (slice :: others)

theorem sliced_slices (ts : List Token) : Sliced ts (slices ts) := by
  induction ts using slices.induct with
  | case1 =>
    rw [slices]
    exact .nil
  | case2 t ts ih =>
    rw [slices]
    rcases terminated_or_unterminated (t :: ts) with hterminated | ⟨hcut, hfree⟩
    · have h := Sliced.terminated hterminated ih
      rwa [cutStatement_append] at h
    · rw [hcut, slices]
      exact .unterminated (List.cons_ne_nil t ts) hfree

namespace Sliced

variable {ts : List Token} {ss : List (List Token)}

theorem flatten_eq (h : Sliced ts ss) : ss.flatten = ts := by
  induction h with
  | nil => rfl
  | unterminated => exact List.flatten_singleton
  | terminated _ _ ih => rw [List.flatten_cons, ih]

theorem ne_nil (h : Sliced ts ss) : ∀ slice ∈ ss, slice ≠ [] := by
  induction h with
  | nil => simp
  | unterminated hne _ => simpa using hne
  | terminated hslice _ ih => exact List.forall_mem_cons.2 ⟨hslice.ne_nil, ih⟩

theorem terminated_of_mem_dropLast (h : Sliced ts ss) :
    ∀ slice ∈ ss.dropLast, Terminated slice := by
  induction h with
  | nil | unterminated => simp
  | @terminated slice rest others hslice _ ih =>
    cases others with
    | nil => simp
    | cons next others =>
      rw [List.dropLast_cons_cons]
      exact List.forall_mem_cons.2 ⟨hslice, ih⟩

/-- The last slice is left open exactly if the tokens end so. -/
theorem last_cases (h : Sliced ts ss) :
    ∀ last ∈ ss.getLast?, if endsOpen ts then Unterminated last else Terminated last := by
  induction h with
  | nil => simp
  | unterminated hne hfree =>
    rw [hfree.endsOpen_eq_true hne]
    simpa using hfree
  | @terminated slice rest others hslice hrest ih =>
    cases hrest with
    | nil =>
      rw [List.append_nil, hslice.endsOpen_eq_false]
      simpa using hslice
    | unterminated hne hfree =>
      rw [endsOpen_append hne]
      simpa using ih
    | terminated hnext _ =>
      rw [endsOpen_append (by simp [hnext.ne_nil])]
      simpa using ih

theorem length_eq (h : Sliced ts ss) :
    ss.length = ts.countP Token.isTerminator + if endsOpen ts then 1 else 0 := by
  induction h with
  | nil => rfl
  | unterminated hne hfree =>
    rw [hfree.endsOpen_eq_true hne, List.countP_eq_zero.2 (by simpa [Unterminated] using hfree)]
    rfl
  | @terminated slice rest others hslice hrest ih =>
    have hopen : endsOpen (slice ++ rest) = endsOpen rest := by
      cases rest with
      | nil => rw [List.append_nil, hslice.endsOpen_eq_false, endsOpen, List.getLast?_nil]; rfl
      | cons t rest => exact endsOpen_append (List.cons_ne_nil t rest)
    rw [List.length_cons, List.countP_append, hslice.countP_eq_one, hopen, ih]
    omega

end Sliced

/-- Behind some statements are the tokens of the other slices. -/
theorem flatten_drop_slices (n : Nat) (ts : List Token) :
    ((slices ts).drop n).flatten = tokensBehind n ts := by
  induction n generalizing ts with
  | zero => exact (sliced_slices ts).flatten_eq
  | succ n ih =>
    cases ts with
    | nil =>
      rw [tokensBehind, cutStatement, ← ih, slices]
      simp
    | cons t ts => rw [slices, List.drop_succ_cons, ih, tokensBehind]

theorem tokensBehind_eq_nil_iff (n : Nat) (ts : List Token) :
    tokensBehind n ts = [] ↔ (slices ts).length ≤ n := by
  rw [← flatten_drop_slices, ← List.drop_eq_nil_iff]
  constructor
  · intro h
    -- slices without tokens would be empty ones
    refine List.eq_nil_iff_forall_not_mem.2 fun slice hslice => ?_
    exact (sliced_slices ts).ne_nil slice (List.mem_of_mem_drop hslice)
      (List.flatten_eq_nil_iff.1 h slice hslice)
  · intro h
    rw [h, List.flatten_nil]

theorem getElem?_slices {n : Nat} {ts slice : List Token} (h : (slices ts)[n]? = some slice) :
    slice = (cutStatement (tokensBehind n ts)).1 := by
  induction n generalizing ts with
  | zero =>
    cases ts with
    | nil => simp [slices] at h
    | cons t ts =>
      rw [slices, List.getElem?_cons_zero] at h
      exact (Option.some.inj h).symm
  | succ n ih =>
    cases ts with
    | nil => simp [slices] at h
    | cons t ts =>
      rw [slices, List.getElem?_cons_succ] at h
      exact ih h

/-- Cutting statements off the front goes on until no token is left, and no longer than there are
slices. They are not empty and make up the list; each but the last is terminated, and the last one
is so or holds no terminator; their number is that of the terminators, and one more for a list that
ends open. -/
theorem slices_partition (ts : List Token) :
    (∀ n, tokensBehind n ts = [] ↔ (slices ts).length ≤ n) ∧
      (∀ n slice, (slices ts)[n]? = some slice → slice = (cutStatement (tokensBehind n ts)).1) ∧
      (∀ slice ∈ slices ts, slice ≠ []) ∧
      (slices ts).flatten = ts ∧
      (∀ slice ∈ (slices ts).dropLast, Terminated slice) ∧
      (∀ last ∈ (slices ts).getLast?, if endsOpen ts then Unterminated last else Terminated last) ∧
      (slices ts).length = ts.countP Token.isTerminator + if endsOpen ts then 1 else 0 := by
  have h := sliced_slices ts
  exact ⟨fun n => tokensBehind_eq_nil_iff n ts, fun _ _ => getElem?_slices, h.ne_nil, h.flatten_eq,
    h.terminated_of_mem_dropLast, h.last_cases, h.length_eq⟩

/-- `Show HR.?Add Ann` -/
def unfinished : List Token :=
  [Keyword.display.value, .blank, .word "HR".toList, terminator .plain, terminator .failSilently,
    Keyword.add.value, .blank, .word "Ann".toList].map .ofValue

theorem slices_unfinished :
    (unfinished.countP Token.isTerminator = 2 ∧ endsOpen unfinished = true) ∧
      (slices unfinished).length = 3 :=
  ⟨by decide, (slices_partition unfinished).2.2.2.2.2.2.trans (by decide)⟩

end Roster
