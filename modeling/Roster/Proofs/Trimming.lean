import Mathlib.Data.List.TakeWhile
import Roster.Text.Basic

/-! Trimming. A text is what trimming leaves of it between blanks; what is left begins and ends with
no blank, and blanks put around a text are trimmed away again. -/
namespace Roster.Text

variable {blank : Char → Bool}

theorem trimEnd_append (u : Text) {v : Text} (hv : trimEnd blank v ≠ []) :
    trimEnd blank (u ++ v) = u ++ trimEnd blank v := by
  have hne : (v.reverse.dropWhile blank).isEmpty = false := by
    simpa [trimEnd] using hv
  rw [trimEnd, List.reverse_append, List.dropWhile_append, hne, trimEnd]
  simp

theorem trimEnd_append_of_forall (u : Text) {v : Text}
    (hv : ∀ c ∈ v, blank c = true) : trimEnd blank (u ++ v) = trimEnd blank u := by
  rw [trimEnd, List.reverse_append, List.dropWhile_append_of_pos (by simpa using hv), trimEnd]

theorem trimEnd_cons {c : Char} (h : blank c = false) (v : Text) :
    trimEnd blank (c :: v) = c :: trimEnd blank v := by
  by_cases hv : trimEnd blank v = []
  · have hblanks : ∀ d ∈ v, blank d = true := by
      simpa [trimEnd] using hv
    rw [← List.singleton_append, trimEnd_append_of_forall [c] hblanks, hv]
    simp [trimEnd, h]
  · rw [← List.singleton_append, trimEnd_append [c] hv, List.singleton_append]

/-- On both sides of a character that is no blank, a text is trimmed at its far end. -/
theorem trim_append_cons {c : Char} (h : blank c = false) (u v : Text) :
    (u ++ c :: v).trim blank = u.dropWhile blank ++ c :: v.trimEnd blank := by
  have hdrop : (u ++ c :: v).dropWhile blank = u.dropWhile blank ++ c :: v := by
    rw [List.dropWhile_append, List.dropWhile_cons_of_neg (by simp [h])]
    cases u.dropWhile blank <;> rfl
  have hcons := trimEnd_cons h v
  rw [trim, hdrop, trimEnd_append _ (by simp [hcons]), hcons]

theorem trim_eq_self {s : Text} (hhead : ∀ c ∈ s.head?, blank c = false)
    (hlast : ∀ c ∈ s.getLast?, blank c = false) : s.trim blank = s := by
  have drop : ∀ {s : Text}, (∀ c ∈ s.head?, blank c = false) → s.dropWhile blank = s := by
    intro s h
    cases s with
    | nil => rfl
    | cons c s => exact List.dropWhile_cons_of_neg (by simp [h c rfl])
  rw [trim, trimEnd, drop hhead, drop (by simpa using hlast), List.reverse_reverse]

theorem exists_dropWhile (blank : Char → Bool) (s : Text) :
    ∃ lead, s = lead ++ s.dropWhile blank ∧ ∀ c ∈ lead, blank c = true := by
  refine ⟨s.takeWhile blank, List.takeWhile_append_dropWhile.symm, fun c hc => ?_⟩
  exact List.all_eq_true.1 List.all_takeWhile c hc

theorem exists_trimEnd (blank : Char → Bool) (s : Text) :
    ∃ tail, s = s.trimEnd blank ++ tail ∧ ∀ c ∈ tail, blank c = true := by
  obtain ⟨tail, hs, htail⟩ := exists_dropWhile blank s.reverse
  refine ⟨tail.reverse, ?_, by simpa using htail⟩
  rw [trimEnd, ← List.reverse_append, ← hs, List.reverse_reverse]

/-- Of a part that is not blank, trimming takes away no more than its own blanks. -/
theorem exists_trimEnd_append (u : Text) {v : Text} (hv : ∃ c ∈ v, blank c = false) (w : Text) :
    ∃ w', trimEnd blank (u ++ (v ++ w)) = u ++ (trimEnd blank v ++ w') := by
  obtain ⟨tail, hsplit, htail⟩ := exists_trimEnd blank v
  obtain ⟨tail', hsplit', htail'⟩ := exists_trimEnd blank w
  have hne : trimEnd blank v ≠ [] := by
    intro hnil
    obtain ⟨c, hc, hblank⟩ := hv
    rw [hsplit, hnil] at hc
    rw [htail c hc] at hblank
    cases hblank
  by_cases hw : trimEnd blank w = []
  · rw [hw, List.nil_append] at hsplit'
    refine ⟨[], ?_⟩
    rw [← List.append_assoc, trimEnd_append_of_forall _ (hsplit' ▸ htail'), trimEnd_append u hne,
      List.append_nil]
  · refine ⟨tail ++ trimEnd blank w, ?_⟩
    rw [← List.append_assoc, trimEnd_append _ hw, ← List.append_assoc (trimEnd blank v), ← hsplit,
      List.append_assoc]

/-- Trimming takes away blanks at both ends. -/
theorem exists_trim (blank : Char → Bool) (s : Text) :
    ∃ lead tail, s = lead ++ (s.trim blank ++ tail) ∧ (∀ c ∈ lead, blank c = true) ∧
      ∀ c ∈ tail, blank c = true := by
  obtain ⟨lead, hs, hlead⟩ := exists_dropWhile blank s
  obtain ⟨tail, hdrop, htail⟩ := exists_trimEnd blank (s.dropWhile blank)
  refine ⟨lead, tail, ?_, hlead, htail⟩
  rw [trim, ← hdrop]
  exact hs

theorem trim_eq_nil_iff {s : Text} : s.trim blank = [] ↔ ∀ c ∈ s, blank c = true := by
  constructor
  · intro h
    obtain ⟨lead, tail, hs, hlead, htail⟩ := exists_trim blank s
    rw [hs, h, List.nil_append, List.forall_mem_append]
    exact ⟨hlead, htail⟩
  · intro h
    rw [trim, List.dropWhile_eq_nil_iff.2 h]
    rfl

/-- Blanks at the ends of a text are trimmed with those that it has itself. -/
theorem trim_append {lead s tail : Text} (hlead : ∀ c ∈ lead, blank c = true)
    (htail : ∀ c ∈ tail, blank c = true) : (lead ++ (s ++ tail)).trim blank = s.trim blank := by
  rw [trim, trim, List.dropWhile_append_of_pos hlead]
  by_cases hs : ∀ c ∈ s, blank c = true
  · have hboth : ∀ c ∈ s ++ tail, blank c = true := List.forall_mem_append.2 ⟨hs, htail⟩
    rw [List.dropWhile_eq_nil_iff.2 hs, List.dropWhile_eq_nil_iff.2 hboth]
  · have hne : (s.dropWhile blank).isEmpty = false := by
      rw [Bool.eq_false_iff, Ne, List.isEmpty_iff, List.dropWhile_eq_nil_iff]
      exact hs
    rw [List.dropWhile_append, hne]
    exact trimEnd_append_of_forall _ htail

theorem head_dropWhile (s : Text) : ∀ c ∈ (s.dropWhile blank).head?, blank c = false := by
  intro c hc
  have h := List.head?_dropWhile_not blank s
  rw [Option.mem_def.1 hc] at h
  simpa using h

theorem getLast_trimEnd (s : Text) : ∀ c ∈ (s.trimEnd blank).getLast?, blank c = false := by
  rw [trimEnd, List.getLast?_reverse]
  exact head_dropWhile _

/-- A text that ends with no blank is left as it is. -/
theorem trimEnd_eq_self_iff {s : Text} :
    s.trimEnd blank = s ↔ ∀ c ∈ s.getLast?, blank c = false := by
  constructor
  · intro h
    have hlast : ∀ c ∈ (s.trimEnd blank).getLast?, blank c = false := getLast_trimEnd s
    rwa [h] at hlast
  · intro h
    rw [trimEnd, List.reverse_eq_iff]
    cases hs : s.reverse with
    | nil => rfl
    | cons c u =>
      have hc : blank c = false := h c (by rw [← List.head?_reverse, hs]; rfl)
      exact List.dropWhile_cons_of_neg (by simp [hc])

/-- What is left begins and ends with no blank. -/
theorem trim_ends (blank : Char → Bool) (s : Text) : (∀ c ∈ (s.trim blank).head?, blank c = false) ∧
    ∀ c ∈ (s.trim blank).getLast?, blank c = false := by
  constructor
  · obtain ⟨tail, hdrop, -⟩ := exists_trimEnd blank (s.dropWhile blank)
    intro c hc
    apply head_dropWhile s c
    rw [hdrop, List.head?_append, ← trim, Option.mem_def.1 hc]
    rfl
  · exact getLast_trimEnd _

end Roster.Text
