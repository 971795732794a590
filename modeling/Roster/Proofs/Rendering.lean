import Roster.Proofs.Canonical

/-! From operations to the pieces of their sentences. A sentence is read from its end on: every part
is cut into pieces of its own, given what the part behind it begins with. -/
namespace Roster
open Grammar Text Vocabulary

/-- Wherever it stands in front of `after`, the text is cut into pieces of the given values. -/
def Reads (s : Text) (vs : List TokenValue) (after : Text) : Prop :=
  ∃ ps : List Text, ps.flatten = s ∧ ps.map classify = vs ∧
    ∀ before, IsCut wordRule before ps after

/-- A letter that a space does not join stands first. -/
def BeginsFree (s : Text) : Prop := ∃ c rest, s = c :: rest ∧ (WordBreak.ofChar c).isFree = true

/-- What follows a sentence: the end of the source, or another line. -/
def EndsLine (after : Text) : Prop := after = [] ∨ ∃ rest, after = '\n' :: rest

theorem BeginsFree.append {s : Text} (h : BeginsFree s) (t : Text) : BeginsFree (s ++ t) := by
  obtain ⟨c, rest, rfl, hc⟩ := h
  exact ⟨c, rest ++ t, rfl, hc⟩

theorem BeginsFree.append_append {s : Text} (h : BeginsFree s) (t u : Text) :
    BeginsFree (s ++ t ++ u) := (h.append t).append u

theorem Canonical.beginsFree {e : Text} (h : Canonical e) : BeginsFree e := by
  obtain ⟨c, e, rfl⟩ := List.exists_cons_of_ne_nil h.ne_nil
  exact ⟨c, e, rfl, WordBreak.isFree_of_isLetter (h.isLetter_head c rfl)
    ((List.isChain_cons_cons.1 h.anchored).1 rfl)⟩

theorem endsWord_mark (m : Modifier) {after : Text} (h : EndsLine after) :
    EndsWord (m.mark :: after) := by
  cases m with
  | plain => exact .inr ⟨rfl, h⟩
  | overwrite | failSilently => exact .inl (by decide)

namespace Reads

theorem nil (after : Text) : Reads [] [] after := ⟨[], rfl, rfl, fun _ => trivial⟩

theorem append {s t after : Text} {vs vs' : List TokenValue} (h : Reads s vs (t ++ after))
    (h' : Reads t vs' after) : Reads (s ++ t) (vs ++ vs') after := by
  obtain ⟨ps, rfl, rfl, hps⟩ := h
  obtain ⟨qs, rfl, rfl, hqs⟩ := h'
  refine ⟨ps ++ qs, List.flatten_append, List.map_append, fun before => ?_⟩
  exact isCut_append.2 ⟨hps before, hqs _⟩

variable {t after : Text} {vs : List TokenValue}

/-- A piece of one character. -/
theorem cons {c : Char} {v : TokenValue} (hv : classify [c] = v)
    (hrule : ∀ before, wordRule (c :: before) (t ++ after) = true) (h : Reads t vs after) :
    Reads (c :: t) (v :: vs) after := by
  have hpiece : Reads [c] [v] (t ++ after) :=
    ⟨[[c]], rfl, by rw [List.map_singleton, hv], fun before => isCut_singleton.2 (hrule before)⟩
  exact hpiece.append h

theorem space (hfree : BeginsFree (t ++ after)) (h : Reads t vs after) :
    Reads (' ' :: t) (.blank :: vs) after := by
  obtain ⟨c, rest, htext, hc⟩ := hfree
  refine cons classify_space (fun before => ?_) h
  rw [htext]
  exact wordRule_space hc

theorem newline (h : Reads t vs after) : Reads ('\n' :: t) (.blank :: vs) after :=
  cons (by decide) (fun _ => wordRule_newline _ _) h

theorem comma (h : Reads (' ' :: t) vs after) : Reads (',' :: ' ' :: t) (comma :: vs) after :=
  cons (by decide)
    (fun _ => wordRule_before_space (by simp [WordBreak.ofChar_comma])) h

theorem mark (m : Modifier) (h : EndsLine after) : Reads [m.mark] [terminator m] after := by
  have hclass : classify [m.mark] = terminator m ∧ WordBreak.ofChar m.mark ≠ .cr := by
    cases m <;> decide
  refine cons hclass.1 (fun before => ?_) (nil after)
  rcases h with rfl | ⟨rest, rfl⟩
  · exact wordRule_nil _
  · exact wordRule_before_newline hclass.2

/-- A word of the grammar. -/
theorem reserved {v : TokenValue} (hv : v ∈ reserved) (hends : EndsWord (t ++ after))
    (h : Reads t vs after) : BeginsFree v.text ∧ Reads (v.text ++ t) (v :: vs) after := by
  have hwords : ∀ v ∈ Vocabulary.reserved, classify v.text = v ∧ words v.text = [v.text] ∧
      v.text ≠ [] ∧ (v.text.all fun c => isLetter c && (WordBreak.ofChar c).isFree) = true := by
    decide
  obtain ⟨hclass, hcut, hne, hall⟩ := hwords v hv
  have hletters : ∀ c ∈ v.text, isLetter c = true ∧ (WordBreak.ofChar c).isFree = true := by
    simpa only [List.all_eq_true, Bool.and_eq_true] using hall
  obtain ⟨c, rest, htext⟩ := List.exists_cons_of_ne_nil hne
  have hc := (hletters c (by simp [htext])).2
  have hbegins : BeginsWord v.text := by
    refine ⟨fun e he => .inl (hletters e he).1, c, by simp [htext], ?_⟩
    intro hext
    rw [hext] at hc
    cases hc
  have hword : Reads v.text [v] (t ++ after) := by
    refine ⟨[v.text], List.flatten_singleton, by rw [List.map_singleton, hclass], fun before => ?_⟩
    rw [← hcut]
    exact hbegins.isCut (endsLetter_of_letters hne fun d hd => (hletters d hd).1) hends before
  exact ⟨⟨c, rest, htext, hc⟩, hword.append h⟩

/-- A word of the grammar between two spaces. -/
theorem spaced {v : TokenValue} (hv : v ∈ Vocabulary.reserved) (hfree : BeginsFree (t ++ after))
    (h : Reads t vs after) :
    Reads (' ' :: (v.text ++ ' ' :: t)) (.blank :: v :: .blank :: vs) after := by
  obtain ⟨hword, hreads⟩ := reserved hv (endsWord_space _) (space hfree h)
  exact space (hword.append_append _ _) hreads

end Reads

theorem gap_blank : Gap [.blank] := by decide

variable {t after : Text} {vs : List TokenValue}

theorem Canonical.reads {e : Text} (h : Canonical e) (hends : EndsWord (t ++ after))
    (ht : Reads t vs after) : ∃ vs', Element vs' e ∧ Reads (e ++ t) (vs' ++ vs) after := by
  have helement := h.phrase.element
  rw [flatten_words] at helement
  have he : Reads e ((Text.words e).map classify) (t ++ after) :=
    ⟨_, flatten_words e, rfl, fun before => h.isCut hends before⟩
  exact ⟨_, helement, he.append ht⟩

theorem enumerateAnd_append {items : List Text} (h : 2 ≤ items.length) (last : Text) :
    enumerateAnd (items ++ [last]) =
      ", ".toList.intercalate items ++ ", and ".toList ++ last := by
  have hthree : ∀ a b c rest, enumerateAnd (a :: b :: c :: rest) =
      ", ".toList.intercalate (a :: b :: c :: rest).dropLast ++ ", and ".toList ++
        (a :: b :: c :: rest).getLastD [] := by
    intro a b c rest
    simp [enumerateAnd, enumerate]
  rcases items with _ | ⟨a, _ | ⟨b, items⟩⟩
  · simp at h
  · simp at h
  · obtain ⟨c, rest, hrest⟩ : ∃ c rest, items ++ [last] = c :: rest :=
      List.exists_cons_of_ne_nil (by simp)
    have heq : a :: b :: items ++ [last] = a :: b :: c :: rest := by simp [hrest]
    rw [heq, hthree, ← heq, List.dropLast_concat, List.getLastD_concat]

theorem exists_intercalate_cons (separator item : Text) (items : List Text) :
    ∃ s, separator.intercalate (item :: items) = item ++ s := by
  cases items with
  | nil => exact ⟨[], by simp⟩
  | cons item' items =>
    exact ⟨separator ++ separator.intercalate (item' :: items), by
      rw [List.intercalate_cons_cons, List.append_assoc]⟩

theorem reads_items {items : List Text} {last : Text} (hne : items ≠ [])
    (hitems : ∀ e ∈ items, Canonical e) (hlast : Canonical last) (hends : EndsWord (t ++ after))
    (ht : Reads t vs after) :
    ∃ vs', Elements vs' (items ++ [last]) ∧
      Reads (", ".toList.intercalate items ++ (", and ".toList ++ (last ++ t))) (vs' ++ vs)
        after := by
  induction items with
  | nil => exact absurd rfl hne
  | cons item items ih =>
    obtain ⟨hitem, hrest⟩ := List.forall_mem_cons.1 hitems
    cases items with
    | nil =>
      obtain ⟨vl, hel, hl⟩ := hlast.reads hends ht
      have hand := Reads.spaced (v := andWord) (by decide) (hlast.beginsFree.append_append _ _) hl
      obtain ⟨vi, hei, hi⟩ := hitem.reads (endsWord_comma _) hand.comma
      refine ⟨_, .more hei gap_nil (.commaAnd gap_blank) gap_blank (.last hel gap_nil), ?_⟩
      simpa [andWord, TokenValue.word] using hi
    | cons item' items =>
      obtain ⟨vr, her, hr⟩ := ih (by simp) hrest
      have hfree : BeginsFree (", ".toList.intercalate (item' :: items) ++
          (", and ".toList ++ (last ++ t)) ++ after) := by
        obtain ⟨s, hs⟩ := exists_intercalate_cons ", ".toList item' items
        rw [hs]
        exact ((hrest item' (by simp)).beginsFree.append_append _ _).append _
      obtain ⟨vi, hei, hi⟩ := hitem.reads (endsWord_comma _) (hr.space hfree).comma
      refine ⟨_, .more hei gap_nil .comma gap_blank her, ?_⟩
      rw [List.intercalate_cons_cons]
      simpa using hi

theorem exists_enumerateAnd_cons (item : Text) (items : List Text) :
    ∃ s, enumerateAnd (item :: items) = item ++ s := by
  rcases items with _ | ⟨second, _ | ⟨third, rest⟩⟩
  · exact ⟨[], by simp [enumerateAnd, enumerate]⟩
  · exact ⟨" and ".toList ++ second, by simp [enumerateAnd, enumerate]⟩
  · obtain ⟨s, hs⟩ := exists_intercalate_cons ", ".toList item (second :: third :: rest).dropLast
    refine ⟨s ++ (", and ".toList ++ (third :: rest).getLastD []), ?_⟩
    rw [← List.append_assoc, ← hs]
    simp [enumerateAnd, enumerate]

theorem beginsFree_enumerateAnd {items : List Text} (hne : items ≠ [])
    (hitems : ∀ e ∈ items, Canonical e) : BeginsFree (enumerateAnd items) := by
  obtain ⟨item, items, rfl⟩ := List.exists_cons_of_ne_nil hne
  obtain ⟨s, hs⟩ := exists_enumerateAnd_cons item items
  rw [hs]
  exact (hitems item (by simp)).beginsFree.append s

/-- A list in English is read as its items. -/
theorem reads_enumerateAnd {items : List Text} (hne : items ≠ [])
    (hitems : ∀ e ∈ items, Canonical e) (hends : EndsWord (t ++ after)) (ht : Reads t vs after) :
    ∃ vs', Elements vs' items ∧ Reads (enumerateAnd items ++ t) (vs' ++ vs) after := by
  obtain ⟨init, last, rfl⟩ := (List.eq_nil_or_concat items).resolve_left hne
  rw [List.concat_eq_append] at hitems ⊢
  have hlast : Canonical last := hitems last (by simp)
  rcases init with _ | ⟨first, _ | ⟨second, init⟩⟩
  · obtain ⟨vs', he, hr⟩ := hlast.reads hends ht
    exact ⟨_, .last he gap_nil, by simpa [enumerateAnd, enumerate] using hr⟩
  · obtain ⟨vl, hel, hl⟩ := hlast.reads hends ht
    have hand := Reads.spaced (v := andWord) (by decide) (hlast.beginsFree.append_append _ _) hl
    obtain ⟨vi, hei, hi⟩ := (hitems first (by simp)).reads (endsWord_space _) hand
    refine ⟨_, .more hei gap_blank .and gap_blank (.last hel gap_nil), ?_⟩
    simpa [enumerateAnd, enumerate, andWord, TokenValue.word] using hi
  · rw [enumerateAnd_append (by simp)]
    simpa using reads_items (List.cons_ne_nil first (second :: init))
      (fun e he => hitems e (List.mem_append_left _ he)) hlast hends ht

/-- The names and departments of an operation. -/
def Operation.elements (op : Operation) : List Text := op.names?.getD [] ++ op.departments?.getD []

/-- The last list of a sentence, and its ending. -/
theorem reads_ending {items : List Text} (hne : items ≠ []) (hitems : ∀ e ∈ items, Canonical e)
    (m : Modifier) (hafter : EndsLine after) :
    ∃ list, Names list items ∧
      Reads (' ' :: (enumerateAnd items ++ [m.mark])) (list ++ [terminator m]) after := by
  obtain ⟨vs, he, hr⟩ := reads_enumerateAnd hne hitems (endsWord_mark m hafter)
    (.mark m hafter)
  have hfree := beginsFree_enumerateAnd hne hitems
  exact ⟨_, .mk gap_blank he, hr.space (hfree.append_append _ _)⟩

/-- The first of two lists, and the word that parts them. -/
theorem reads_first {items : List Text} (hne : items ≠ []) (hitems : ∀ e ∈ items, Canonical e)
    {v : TokenValue} (hv : v ∈ reserved) (ht : Reads (' ' :: t) vs after) :
    ∃ list, Names list items ∧
      Reads (' ' :: (enumerateAnd items ++ ' ' :: (v.text ++ ' ' :: t))) (list ++ v :: vs)
        after := by
  obtain ⟨hword, hreads⟩ := ht.reserved hv (endsWord_space _)
  obtain ⟨vs', he, hr⟩ := reads_enumerateAnd hne hitems (endsWord_space _)
    (hreads.space (hword.append_append _ _))
  have hfree := beginsFree_enumerateAnd hne hitems
  refine ⟨_, .mk gap_blank (he.append_gap gap_blank), ?_⟩
  simpa using hr.space (hfree.append_append _ _)

namespace Operation

theorem statement_create (departments : List Text) (m : Modifier) :
    (create departments m).statement =
      Keyword.create.value.text ++ ' ' :: (enumerateAnd departments ++ [m.mark]) := rfl

theorem statement_display (departments : List Text) (m : Modifier) :
    (display departments m).statement =
      Keyword.display.value.text ++ ' ' :: (enumerateAnd departments ++ [m.mark]) := rfl

theorem statement_remove_nil (departments : List Text) (m : Modifier) :
    (remove [] departments m).statement =
      Keyword.remove.value.text ++ ' ' :: (enumerateAnd departments ++ [m.mark]) := rfl

theorem statement_add (names departments : List Text) (m : Modifier) :
    (add names departments m).statement =
      Keyword.add.value.text ++ ' ' :: (enumerateAnd names ++
        ' ' :: (toWord.text ++ ' ' :: (enumerateAnd departments ++ [m.mark]))) := by
  have hphrase : (add names departments m).statement = "Add ".toList ++ enumerateAnd names ++
      " to ".toList ++ enumerateAnd departments ++ [m.mark] := rfl
  rw [hphrase, List.append_assoc, List.append_assoc, List.append_assoc]
  rfl

theorem statement_remove_cons (name : Text) (names departments : List Text) (m : Modifier) :
    (remove (name :: names) departments m).statement =
      Keyword.remove.value.text ++ ' ' :: (enumerateAnd (name :: names) ++
        ' ' :: (fromWord.text ++ ' ' :: (enumerateAnd departments ++ [m.mark]))) := by
  have hphrase : (remove (name :: names) departments m).statement =
      "Remove ".toList ++ enumerateAnd (name :: names) ++ " from ".toList ++
        enumerateAnd departments ++ [m.mark] := rfl
  rw [hphrase, List.append_assoc, List.append_assoc, List.append_assoc]
  rfl

theorem departments_ne_nil {op : Operation} (hv : op.isValid = true) {departments : List Text}
    (hd : op.departments? = some departments) : departments ≠ [] := by
  rintro rfl
  cases op <;> simp_all [departments?, isValid]

end Operation

/-- A sentence of canonical elements is read as its operation. -/
theorem reads_statement {op : Operation} (hv : op.isValid = true) (hop : op ≠ .unknown)
    (he : ∀ e ∈ op.elements, Canonical e) (hafter : EndsLine after) :
    ∃ vs, Sentence vs op ∧ Reads op.statement vs after := by
  have keyword : ∀ (k : Keyword) {t : Text} {vs : List TokenValue}, Reads (' ' :: t) vs after →
      Reads (k.value.text ++ ' ' :: t) (k.value :: vs) after := by
    intro k t vs h
    exact (h.reserved (by cases k <;> decide) (endsWord_space _)).2
  cases op with
  | create departments m =>
    obtain ⟨list, hl, hr⟩ := reads_ending (Operation.departments_ne_nil hv rfl) he m hafter
    rw [Operation.statement_create]
    exact ⟨_, .create hl, keyword .create hr⟩
  | display departments m =>
    have hm : m ≠ .overwrite := by
      rintro rfl
      simp [Operation.isValid, OperationKind.allows] at hv
    obtain ⟨list, hl, hr⟩ := reads_ending (Operation.departments_ne_nil hv rfl) he m hafter
    rw [Operation.statement_display]
    exact ⟨_, .display hl hm, keyword .display hr⟩
  | add names departments m =>
    have hn : names ≠ [] := by
      rintro rfl
      cases hv
    obtain ⟨he, he'⟩ := List.forall_mem_append.1 he
    obtain ⟨list', hl', hr'⟩ := reads_ending (Operation.departments_ne_nil hv rfl) he' m hafter
    obtain ⟨list, hl, hr⟩ := reads_first hn he (v := toWord) (by decide) hr'
    rw [Operation.statement_add]
    exact ⟨_, .add hl hl', keyword .add hr⟩
  | remove names departments m =>
    have hm : m ≠ .overwrite := by
      rintro rfl
      simp [Operation.isValid, OperationKind.allows] at hv
    obtain ⟨he, he'⟩ := List.forall_mem_append.1 he
    obtain ⟨list', hl', hr'⟩ := reads_ending (Operation.departments_ne_nil hv rfl) he' m hafter
    cases names with
    | nil =>
      rw [Operation.statement_remove_nil]
      exact ⟨_, .remove hl' hm, keyword .remove hr'⟩
    | cons name names =>
      obtain ⟨list, hl, hr⟩ := reads_first (List.cons_ne_nil name names) he (v := fromWord)
        (by decide) hr'
      rw [Operation.statement_remove_cons]
      exact ⟨_, .removeFrom hl hl' hm, keyword .remove hr⟩
  | unknown => exact absurd rfl hop

theorem Grammar.Sentence.program {vs : List TokenValue} {op : Operation} (h : Sentence vs op) :
    Program vs [op] := by
  simpa using Program.sentence gap_nil h (.blank gap_nil)

/-- The statements of operations, a line each, are read as a program for them. -/
theorem reads_sourceOf {ops : List Operation}
    (h : ∀ op ∈ ops, op.isValid = true ∧ op ≠ .unknown ∧ ∀ e ∈ op.elements, Canonical e) :
    ∃ vs, Program vs ops ∧ Reads (sourceOf ops) vs [] := by
  induction ops with
  | nil => exact ⟨[], .blank gap_nil, .nil []⟩
  | cons op ops ih =>
    obtain ⟨⟨hv, hop, he⟩, hops⟩ := List.forall_mem_cons.1 h
    obtain ⟨vs, hp, hr⟩ := ih hops
    cases ops with
    | nil =>
      obtain ⟨vs', hs, hr'⟩ := reads_statement hv hop he (.inl rfl)
      exact ⟨vs', hs.program, by simpa [sourceOf] using hr'⟩
    | cons op' ops =>
      obtain ⟨vs', hs, hr'⟩ := reads_statement hv hop he (.inr ⟨sourceOf (op' :: ops) ++ [], rfl⟩)
      refine ⟨vs' ++ .blank :: vs, .sentence gap_nil hs (.of_gap gap_blank hp), ?_⟩
      have := Reads.append hr' hr.newline
      simpa [sourceOf, List.intercalate_cons_cons] using this

end Roster
