import Roster.Proofs.ElementShape
import Roster.Proofs.Records

/-! Lines of a report. What is read from a source holds no control character, and JSON text escapes
them, so reports are displayed as they are; and every operation is confirmed on one line. -/
namespace Roster
open Text

namespace Text

/-- No control character stands in the text. -/
def Graphic (s : Text) : Prop := ∀ c ∈ s, 0x20 ≤ c.toNat

/-- No control character stands in the text, except for line feeds. -/
def Laid (s : Text) : Prop := ∀ c ∈ s, c = '\n' ∨ 0x20 ≤ c.toNat

instance (s : Text) : Decidable (Graphic s) := List.decidableBAll _ s

variable {s t : Text} {items : List Text}

@[simp] theorem graphic_nil : Graphic [] := by simp [Graphic]

@[simp] theorem graphic_append : Graphic (s ++ t) ↔ Graphic s ∧ Graphic t :=
  List.forall_mem_append

@[simp] theorem graphic_cons {c : Char} : Graphic (c :: s) ↔ 0x20 ≤ c.toNat ∧ Graphic s :=
  List.forall_mem_cons

theorem Graphic.laid (h : Graphic s) : Laid s := fun c hc => .inr (h c hc)

@[simp] theorem laid_nil : Laid [] := by simp [Laid]

@[simp] theorem laid_append : Laid (s ++ t) ↔ Laid s ∧ Laid t := List.forall_mem_append

@[simp] theorem laid_cons {c : Char} : Laid (c :: s) ↔ (c = '\n' ∨ 0x20 ≤ c.toNat) ∧ Laid s :=
  List.forall_mem_cons

theorem Graphic.newline_not_mem (h : Graphic s) : '\n' ∉ s := fun hmem =>
  absurd (h _ hmem) (by decide)

theorem expandTabs_eq_self (h : '\t' ∉ s) (column : Nat) : expandTabs column s = s := by
  induction s generalizing column with
  | nil => rfl
  | cons c s ih =>
    rw [List.mem_cons, not_or] at h
    rw [expandTabs, if_neg (Ne.symm h.1), ih h.2, ih h.2, ite_self]

/-- Only control characters are displayed otherwise than they are. -/
theorem displayed_eq_self (h : Laid s) : s.displayed = s := by
  have hkept : s.filter (fun c => !isUndisplayed c) = s := by
    apply List.filter_eq_self.2
    intro c hc
    rcases h c hc with rfl | hgraphic
    · decide
    · have hshown : isUndisplayed c = false := by
        simp [isUndisplayed]
        omega
      simp [hshown]
  rw [displayed, hkept]
  refine expandTabs_eq_self (fun htab => ?_) 0
  rcases h _ htab with heq | hgraphic
  · exact absurd heq (by decide)
  · exact absurd hgraphic (by decide)

theorem graphic_ofNat (n : Nat) : Graphic (ofNat n) := by
  intro c hc
  have hdigit := Nat.isDigit_of_mem_toDigits (by decide) (by decide) hc
  simp only [Char.isDigit, Bool.and_eq_true, decide_eq_true_eq] at hdigit
  exact Nat.le_trans (by decide) hdigit.1

theorem graphic_of_isLetter {c : Char} (h : isLetter c = true) : 0x20 ≤ c.toNat := by
  have hcontrols : ∀ n < 0x20, isLetter (Char.ofNat n) = false := by decide
  apply Nat.le_of_not_lt
  intro hlt
  have hfalse := hcontrols c.toNat hlt
  rw [Char.ofNat_toNat, h] at hfalse
  cases hfalse

theorem graphic_intercalate {separator : Text} (hs : Graphic separator)
    (h : ∀ item ∈ items, Graphic item) : Graphic (separator.intercalate items) := by
  induction items with
  | nil => simp
  | cons item items ih =>
    rw [List.forall_mem_cons] at h
    cases items with
    | nil => simpa using h.1
    | cons next items =>
      rw [List.intercalate_cons_cons, graphic_append, graphic_append]
      exact ⟨⟨h.1, hs⟩, ih h.2⟩

theorem graphic_enumerateAnd (h : ∀ item ∈ items, Graphic item) : Graphic (enumerateAnd items) := by
  rcases List.eq_nil_or_concat items with rfl | ⟨init, last, rfl⟩
  · simp [enumerateAnd, enumerate]
  rw [List.concat_eq_append] at h ⊢
  rw [List.forall_mem_append, List.forall_mem_singleton] at h
  rcases init with _ | ⟨first, _ | ⟨second, init⟩⟩
  · simpa [enumerateAnd, enumerate] using h.2
  · simpa [enumerateAnd, enumerate] using h
  · rw [enumerateAnd_append (by simp), graphic_append, graphic_append]
    exact ⟨⟨graphic_intercalate (by decide) h.1, by decide⟩, h.2⟩

theorem unbroken_line {line : Text} (h : '\n' ∉ line) (before after : Text) :
    Unbroken lineRule before (line ++ ['\n']) after := by
  intro u v heq hu hv
  obtain ⟨init, last, rfl⟩ := (List.eq_nil_or_concat u).resolve_left hu
  obtain ⟨init', last', rfl⟩ := (List.eq_nil_or_concat v).resolve_left hv
  have hline : line = init ++ [last] ++ init' := by
    rw [List.concat_eq_append, List.concat_eq_append, ← List.append_assoc] at heq
    exact (List.append_inj' heq rfl).1
  have hne : last ≠ '\n' := by
    rintro rfl
    exact h (by simp [hline])
  simp [lineRule, hne]

/-- Texts without line feeds, each ended by one, are the lines that they are cut into. -/
theorem lines_flatten {ls : List Text} (h : ∀ line ∈ ls, '\n' ∉ line) :
    lines (ls.map (· ++ ['\n'])).flatten = ls.map (· ++ ['\n']) := by
  suffices hcut : ∀ before, IsCut lineRule before (ls.map (· ++ ['\n'])) [] from
    (hcut []).eq_cut
  induction ls with
  | nil => simp
  | cons line ls ih =>
    rw [List.forall_mem_cons] at h
    intro before
    exact ⟨by simp, unbroken_line h.1 _ _, by simp [lineRule], ih h.2 _⟩

theorem intercalate_newline {ls : List Text} (h : ls ≠ []) :
    ['\n'].intercalate ls ++ ['\n'] = (ls.map (· ++ ['\n'])).flatten := by
  induction ls with
  | nil => exact absurd rfl h
  | cons line ls ih =>
    cases ls with
    | nil => simp
    | cons next ls =>
      have hrest := ih (by simp)
      rw [List.intercalate_cons_cons, List.append_assoc, hrest]
      simp

end Text

theorem Operation.graphic_phrase {op : Operation} (h : ∀ e ∈ op.elements, Graphic e) :
    Graphic op.phrase := by
  -- a keyword and a list, and perhaps another word and another list
  have one (keyword : Text) {items : List Text} (hk : Graphic keyword)
      (hitems : ∀ e ∈ items, Graphic e) : Graphic (keyword ++ enumerateAnd items) :=
    graphic_append.2 ⟨hk, graphic_enumerateAnd hitems⟩
  have two (keyword word : Text) {items items' : List Text} (hk : Graphic keyword)
      (hw : Graphic word) (hitems : ∀ e ∈ items ++ items', Graphic e) :
      Graphic (keyword ++ enumerateAnd items ++ word ++ enumerateAnd items') := by
    obtain ⟨hfirst, hsecond⟩ := List.forall_mem_append.1 hitems
    exact one _ (graphic_append.2 ⟨one keyword hk hfirst, hw⟩) hsecond
  cases op with
  | unknown => decide
  | create departments m => exact one "Create ".toList (by decide) h
  | display departments m => exact one "Show ".toList (by decide) h
  | add names departments m =>
    exact two "Add ".toList " to ".toList (by decide) (by decide) h
  | remove names departments m =>
    cases names with
    | nil => exact one "Remove ".toList (by decide) h
    | cons name names =>
      exact two "Remove ".toList " from ".toList (by decide) (by decide) h

theorem Operation.graphic_confirmation {op : Operation} (h : ∀ e ∈ op.elements, Graphic e) :
    Graphic op.confirmation := by
  have hphrase := graphic_phrase h
  unfold confirmation
  cases op.modifier with
  | plain => exact hphrase
  | overwrite | failSilently =>
    simp only [graphic_append]
    exact ⟨⟨⟨hphrase, by decide⟩, by decide⟩, by decide⟩

/-- The confirmations of what is read from a source are texts without control characters. -/
theorem graphic_confirmationLines {source : Text} {ops : List Operation}
    (h : parseSource source = .ok ops) (indexed : Bool) :
    ∀ line ∈ confirmationLines indexed ops, Graphic line := by
  have hops : ∀ op ∈ ops, Graphic op.confirmation := by
    intro op hop
    apply Operation.graphic_confirmation
    intro e he c hc
    rcases chars_of_parse h hop he c hc with hletter | rfl
    · exact graphic_of_isLetter hletter
    · decide
  intro line hline
  cases indexed with
  | false =>
    obtain ⟨op, hop, rfl⟩ := List.mem_map.1 hline
    exact hops op hop
  | true =>
    obtain ⟨⟨op, i⟩, hmem, rfl⟩ := List.mem_map.1 hline
    have hop : op ∈ ops := (List.mem_zipIdx hmem).2.2 ▸ List.getElem_mem _
    simp only [graphic_append]
    exact ⟨⟨graphic_ofNat i, by decide⟩, hops op hop⟩

theorem length_confirmationLines (indexed : Bool) (ops : List Operation) :
    (confirmationLines indexed ops).length = ops.length := by
  cases indexed <;> simp [confirmationLines]

/-- What is written in text form has one line for each operation. -/
theorem displayedLine_text {source : Text} {ops : List Operation}
    (h : parseSource source = .ok ops) (hne : ops ≠ []) (indexed : Bool) :
    displayedLine (formatOperations .text indexed ops) =
      ((confirmationLines indexed ops).map (· ++ ['\n'])).flatten := by
  have hgraphic := graphic_confirmationLines h indexed
  have hlines : confirmationLines indexed ops ≠ [] := by
    apply List.ne_nil_of_length_pos
    rw [length_confirmationLines]
    exact List.length_pos_iff.2 hne
  have hlaid : Laid (formatOperations .text indexed ops) := by
    have hall : Laid ((confirmationLines indexed ops).map (· ++ ['\n'])).flatten := by
      intro c hc
      obtain ⟨l, hl, hc⟩ := List.mem_flatten.1 hc
      obtain ⟨line, hline, rfl⟩ := List.mem_map.1 hl
      rcases List.mem_append.1 hc with hc | hc
      · exact .inr (hgraphic line hline c hc)
      · exact .inl (List.mem_singleton.1 hc)
    rw [← intercalate_newline hlines, laid_append] at hall
    exact hall.1
  rw [displayedLine, displayed_eq_self hlaid, formatOperations, intercalate_newline hlines]

namespace Json

theorem graphic_escape (c : Char) : Graphic (escape c) := by
  have hcodes : ∀ n < 0x20, Graphic (hexDigits 4 n) := by decide
  unfold escape
  split
  next h => rcases h with rfl | rfl <;> decide
  iterate 5
    split
    next => decide
  split
  next h => simpa using hcodes c.toNat h
  next h => simpa using h

theorem graphic_text {l : Lexeme} (h : l.isNumber = false) : Graphic l.text := by
  cases l with
  | number literal => cases h
  | bool b => cases b <;> decide
  | string s =>
    have hbody : Graphic (s.flatMap escape) := by
      intro c hc
      obtain ⟨d, -, hc⟩ := List.mem_flatMap.1 hc
      exact graphic_escape d c hc
    simpa [Lexeme.text] using hbody
  | _ => decide

theorem laid_newLine (depth : Nat) : Laid (newLine depth) := by
  intro c hc
  rcases List.mem_cons.1 hc with rfl | hc
  · exact .inl rfl
  · rw [(List.mem_replicate.1 hc).2]
    exact .inr (by decide)

theorem laid_layout {ls : List Lexeme} (h : ∀ l ∈ ls, l.isNumber = false) (depth : Nat)
    (fresh : Bool) : Laid (layout depth fresh ls) := by
  induction ls generalizing depth fresh with
  | nil => simp [layout]
  | cons l ls ih =>
    rw [List.forall_mem_cons] at h
    have hl := (graphic_text h.1).laid
    have hls := ih h.2
    cases fresh <;> cases l <;>
      simp [layout, Lexeme.isClosing, Lexeme.isOpening, hl, hls, laid_newLine]

end Json

/-- What is written in JSON form is the text of the list, whatever the operations are. -/
theorem displayedLine_json (indexed : Bool) (ops : List Operation) :
    displayedLine (formatOperations .json indexed ops) =
      (Operation.listToJson ops).indented ++ ['\n'] := by
  have hlaid : Laid (Operation.listToJson ops).indented :=
    Json.laid_layout (Operation.numberFree_listToJson ops) 0 false
  rw [displayedLine, formatOperations, displayed_eq_self hlaid]

end Roster
