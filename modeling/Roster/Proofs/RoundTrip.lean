import Roster.Proofs.Rendering
import Roster.Proofs.Trimming

/-! The round trip from operations to a source and back. What comes back are the same operations
exactly if every element is canonical, and operations read from a source come back exactly if
their elements are anchored. -/
namespace Roster
open Grammar Text Vocabulary

theorem Operation.statement_ends (op : Operation) :
    (∃ c ∈ op.statement.head?, isBlank c = false) ∧
      ∃ c ∈ op.statement.getLast?, isBlank c = false := by
  have hmark : ∀ m : Modifier, isBlank m.mark = false := by
    intro m
    cases m <;> decide
  have hlast : ∀ (s : Text) (m : Modifier), ∃ c ∈ (s ++ [m.mark]).getLast?, isBlank c = false :=
    fun s m => ⟨m.mark, by simp, hmark m⟩
  cases op with
  | create departments m => exact ⟨⟨'C', rfl, by decide⟩, hlast _ m⟩
  | add names departments m => exact ⟨⟨'A', rfl, by decide⟩, hlast _ m⟩
  | remove names departments m =>
    refine ⟨⟨'R', ?_, by decide⟩, hlast _ m⟩
    cases names <;> rfl
  | display departments m => exact ⟨⟨'S', rfl, by decide⟩, hlast _ m⟩
  | unknown => exact ⟨⟨'U', rfl, by decide⟩, ⟨'n', rfl, by decide⟩⟩

theorem sourceOf_singleton (op : Operation) : sourceOf [op] = op.statement := by
  rw [sourceOf, List.map_singleton, List.intercalate_singleton]

theorem sourceOf_cons_cons (op op' : Operation) (ops : List Operation) :
    sourceOf (op :: op' :: ops) = op.statement ++ '\n' :: sourceOf (op' :: ops) := by
  rw [sourceOf, sourceOf, List.map_cons, List.map_cons, List.intercalate_cons_cons,
    List.append_assoc]
  rfl

theorem sourceOf_ends (op : Operation) (ops : List Operation) :
    (∃ c ∈ (sourceOf (op :: ops)).head?, isBlank c = false) ∧
      ∃ c ∈ (sourceOf (op :: ops)).getLast?, isBlank c = false := by
  induction ops generalizing op with
  | nil =>
    rw [sourceOf_singleton]
    exact op.statement_ends
  | cons op' ops ih =>
    obtain ⟨c, hc, hcb⟩ := op.statement_ends.1
    obtain ⟨d, hd, hdb⟩ := (ih op').2
    rw [sourceOf_cons_cons, ← List.singleton_append, ← List.append_assoc]
    refine ⟨⟨c, ?_, hcb⟩, d, List.mem_getLast?_append_of_mem_getLast? hd, hdb⟩
    rw [List.append_assoc]
    exact List.mem_head?_append_of_mem_head? hc

/-- Statements begin and end with no blank. -/
theorem trim_sourceOf (ops : List Operation) : (sourceOf ops).trim isBlank = sourceOf ops := by
  cases ops with
  | nil => rfl
  | cons op ops =>
    obtain ⟨⟨c, hc, hcb⟩, d, hd, hdb⟩ := sourceOf_ends op ops
    refine trim_eq_self (fun c' hc' => ?_) (fun d' hd' => ?_)
    · obtain rfl := Option.mem_unique hc hc'
      exact hcb
    · obtain rfl := Option.mem_unique hd hd'
      exact hdb

/-- Valid operations with canonical elements are read back from their statements. -/
theorem parseSource_sourceOf {ops : List Operation}
    (h : ∀ op ∈ ops, op.isValid = true ∧ op ≠ .unknown ∧ ∀ e ∈ op.elements, Canonical e) :
    parseSource (sourceOf ops) = .ok ops := by
  obtain ⟨vs, hp, ps, hflat, rfl, hcut⟩ := reads_sourceOf h
  have hwords : words (sourceOf ops) = ps := by
    rw [← hflat]
    exact (hcut []).eq_cut
  rw [parseSource_eq_ok_iff, sourceValues, trim_sourceOf, hwords]
  exact hp

theorem isInfix_of_eq {s u item v : Text} (h : s = u ++ ' ' :: (item ++ v)) : ' ' :: item <:+: s :=
  ⟨u, v, by rw [h, List.append_assoc, List.cons_append]⟩

theorem isInfix_intercalate {items : List Text} {e : Text} (he : e ∈ items) :
    ' ' :: e <:+: ' ' :: ", ".toList.intercalate items := by
  induction items with
  | nil => cases he
  | cons item items ih =>
    rcases List.mem_cons.1 he with rfl | he
    · obtain ⟨s, hs⟩ := exists_intercalate_cons ", ".toList e items
      exact isInfix_of_eq (u := []) (by rw [hs, List.nil_append])
    · obtain ⟨item', items, rfl⟩ := List.exists_cons_of_ne_nil (List.ne_nil_of_mem he)
      refine (ih he).trans (isInfix_of_eq (u := ' ' :: (item ++ [','])) (v := []) ?_)
      rw [List.intercalate_cons_cons]
      simp

/-- Each item of a list stands behind a space. -/
theorem isInfix_enumerateAnd {items : List Text} {e : Text} (he : e ∈ items) :
    ' ' :: e <:+: ' ' :: enumerateAnd items := by
  obtain ⟨init, last, rfl⟩ :=
    (List.eq_nil_or_concat items).resolve_left (List.ne_nil_of_mem he)
  rw [List.concat_eq_append] at he ⊢
  rcases init with _ | ⟨first, _ | ⟨second, init⟩⟩
  · obtain rfl := List.mem_singleton.1 he
    exact List.infix_refl _
  · rcases List.mem_cons.1 he with rfl | he
    · exact isInfix_of_eq (u := []) (v := " and ".toList ++ last)
        (by simp [enumerateAnd, enumerate])
    · obtain rfl := List.mem_singleton.1 he
      exact isInfix_of_eq (u := ' ' :: (first ++ " and".toList)) (v := [])
        (by simp [enumerateAnd, enumerate])
  · rw [enumerateAnd_append (by simp)]
    rcases List.mem_append.1 he with he | he
    · refine (isInfix_intercalate he).trans
        (isInfix_of_eq (u := []) (v := ", and ".toList ++ last) ?_)
      rw [List.nil_append, List.append_assoc]
    · obtain rfl := List.mem_singleton.1 he
      exact isInfix_of_eq (v := [])
        (u := ' ' :: (", ".toList.intercalate (first :: second :: init) ++ ", and".toList))
        (by simp)

theorem isInfix_of_one {s keyword ending e : Text} {items : List Text} (he : e ∈ items)
    (h : s = keyword ++ ' ' :: (enumerateAnd items ++ ending)) : ' ' :: e <:+: s :=
  (isInfix_enumerateAnd he).trans (isInfix_of_eq h)

theorem isInfix_of_two {s keyword word ending e : Text} {items items' : List Text}
    (he : e ∈ items ++ items')
    (h : s = keyword ++ ' ' :: (enumerateAnd items ++
      ' ' :: (word ++ ' ' :: (enumerateAnd items' ++ ending)))) : ' ' :: e <:+: s := by
  rcases List.mem_append.1 he with he | he
  · exact isInfix_of_one he h
  · have h' : s = keyword ++ ' ' :: (enumerateAnd items ++ ' ' :: word) ++
        ' ' :: (enumerateAnd items' ++ ending) := by
      rw [h]
      simp
    exact isInfix_of_one he h'

theorem Operation.isInfix_statement {op : Operation} {e : Text} (he : e ∈ op.elements) :
    ' ' :: e <:+: op.statement := by
  cases op with
  | create departments m => exact isInfix_of_one he (statement_create departments m)
  | display departments m => exact isInfix_of_one he (statement_display departments m)
  | add names departments m => exact isInfix_of_two he (statement_add names departments m)
  | remove names departments m =>
    cases names with
    | nil => exact isInfix_of_one he (statement_remove_nil departments m)
    | cons name names =>
      exact isInfix_of_two he (statement_remove_cons name names departments m)
  | unknown => cases he

theorem isInfix_sourceOf {ops : List Operation} {op : Operation} (hop : op ∈ ops) :
    op.statement <:+: sourceOf ops := by
  induction ops with
  | nil => cases hop
  | cons op' ops ih =>
    rcases List.mem_cons.1 hop with rfl | hop
    · obtain ⟨s, hs⟩ := exists_intercalate_cons ['\n'] op.statement (ops.map Operation.statement)
      exact ⟨[], s, hs.symm⟩
    · obtain ⟨op'', ops, rfl⟩ := List.exists_cons_of_ne_nil (List.ne_nil_of_mem hop)
      refine (ih hop).trans ⟨op'.statement ++ ['\n'], [], ?_⟩
      rw [sourceOf_cons_cons, List.append_nil, List.append_assoc]
      rfl

/-- In front of an unanchored mark, the rule does not cut; the piece is then no token of the
grammar. -/
theorem anchored_of_parse {ops ops' : List Operation} (h : parseSource (sourceOf ops) = .ok ops')
    {op : Operation} (hop : op ∈ ops) {e : Text} (he : e ∈ op.elements)
    (hchars : ∀ c ∈ e, isLetter c = true ∨ c = ' ') : Anchored e := by
  have hinfix : ' ' :: e <:+: sourceOf ops :=
    (op.isInfix_statement he).trans (isInfix_sourceOf hop)
  rw [Anchored, List.isChain_iff_forall_rel_of_append_cons_cons]
  rintro c d x y heq rfl hext
  -- the space in front of the mark and the mark itself are in one piece
  obtain ⟨u, v, hsource⟩ : [' ', d] <:+: sourceOf ops :=
    List.IsInfix.trans ⟨x, y, by rw [heq]; simp⟩ hinfix
  have hrule : wordRule (' ' :: (u.reverse ++ [])) (d :: v) = false :=
    wordRule_of_isAttached (by simp [WordBreak.ofChar_space, WordBreak.isLineEnd])
      (by simp [hext, WordBreak.isAttached])
  obtain ⟨piece, hpiece, hspace, hd⟩ := mem_cut_of_rule_eq_false hrule
  have hne : d ≠ ' ' := by
    rintro rfl
    rw [WordBreak.ofChar_space] at hext
    cases hext
  have hmem : d ∈ ' ' :: e := by simp [heq]
  have hletter : isLetter d = true :=
    (hchars d ((List.mem_cons.1 hmem).resolve_left hne)).resolve_right hne
  have hunknown := classify_kind_eq_unknown hd hspace hletter isLetter_space
  have hwords : piece ∈ words (sourceOf ops) := by
    rw [← hsource, List.append_assoc]
    exact hpiece
  rw [parseSource_eq_ok_iff, sourceValues, trim_sourceOf] at h
  exact h.kind_ne_unknown _ (List.mem_map_of_mem hwords) hunknown

namespace Grammar

theorem Elements.exists_element {vs : List TokenValue} {texts : List Text} (h : Elements vs texts)
    {e : Text} (he : e ∈ texts) : ∃ us, us <:+: vs ∧ Element us e := by
  induction h with
  | @last vs gap text hel _ =>
    obtain rfl := List.mem_singleton.1 he
    exact ⟨vs, List.infix_append [] vs gap, hel⟩
  | @more vs gap separator gap' rest text texts hel _ _ _ _ ih =>
    rcases List.mem_cons.1 he with rfl | he
    · exact ⟨vs, List.infix_append [] vs _, hel⟩
    · obtain ⟨us, hus, hel⟩ := ih he
      refine ⟨us, hus.trans ⟨vs ++ (gap ++ (separator ++ gap')), [], by simp⟩, hel⟩

theorem Names.exists_element {vs : List TokenValue} {texts : List Text} (h : Names vs texts)
    {e : Text} (he : e ∈ texts) : ∃ us, us <:+: vs ∧ Element us e := by
  cases h with
  | @mk gap vs _ _ hl =>
    obtain ⟨us, hus, hel⟩ := hl.exists_element he
    exact ⟨us, hus.trans (List.suffix_append gap vs).isInfix, hel⟩

theorem Sentence.exists_element {vs : List TokenValue} {op : Operation} (h : Sentence vs op)
    {e : Text} (he : e ∈ op.elements) : ∃ us, us <:+: vs ∧ Element us e := by
  have first : ∀ (k : TokenValue) (list rest : List TokenValue), list <:+: k :: (list ++ rest) :=
    fun k _ rest => ⟨[k], rest, rfl⟩
  have second : ∀ (k v t : TokenValue) (list list' : List TokenValue),
      list' <:+: k :: (list ++ v :: (list' ++ [t])) :=
    fun k v t list _ => ⟨k :: (list ++ [v]), [t], by simp⟩
  cases h with
  | create hl | display hl _ | remove hl _ =>
    obtain ⟨us, hus, hel⟩ := hl.exists_element he
    exact ⟨us, hus.trans (first _ _ _), hel⟩
  | add hl hl' | removeFrom hl hl' _ =>
    rcases List.mem_append.1 he with he | he
    · obtain ⟨us, hus, hel⟩ := hl.exists_element he
      exact ⟨us, hus.trans (first _ _ _), hel⟩
    · obtain ⟨us, hus, hel⟩ := hl'.exists_element he
      exact ⟨us, hus.trans (second _ _ _ _ _), hel⟩

theorem Program.exists_element {vs : List TokenValue} {ops : List Operation} (h : Program vs ops)
    {op : Operation} (hop : op ∈ ops) {e : Text} (he : e ∈ op.elements) :
    ∃ us, us <:+: vs ∧ Element us e := by
  induction h with
  | blank => cases hop
  | @sentence gap vs rest op' ops _ hs _ ih =>
    rcases List.mem_cons.1 hop with rfl | hop
    · obtain ⟨us, hus, hel⟩ := hs.exists_element he
      exact ⟨us, hus.trans ⟨gap, rest, by simp⟩, hel⟩
    · obtain ⟨us, hus, hel⟩ := ih hop
      exact ⟨us, hus.trans ⟨gap ++ vs, [], by simp⟩, hel⟩

theorem Sentence.isValid {vs : List TokenValue} {op : Operation} (h : Sentence vs op) :
    op.isValid = true ∧ op ≠ .unknown := by
  cases h with
  | @create _ _ m hl =>
    cases m <;> simp [Operation.isValid, OperationKind.allows, hl.ne_nil]
  | @display _ _ m hl hm | @remove _ _ m hl hm =>
    cases m <;> simp_all [Operation.isValid, OperationKind.allows, hl.ne_nil]
  | @add _ _ _ _ m hl hl' =>
    cases m <;> simp [Operation.isValid, OperationKind.allows, hl.ne_nil, hl'.ne_nil]
  | @removeFrom _ _ _ _ m hl hl' hm =>
    cases m <;> simp_all [Operation.isValid, OperationKind.allows, hl'.ne_nil]

theorem Program.isValid {vs : List TokenValue} {ops : List Operation} (h : Program vs ops) :
    ∀ op ∈ ops, op.isValid = true ∧ op ≠ .unknown := by
  induction h with
  | blank => simp
  | sentence _ hs _ ih => exact List.forall_mem_cons.2 ⟨hs.isValid, ih⟩

end Grammar

/-- An element that is read from a source stands in it as pieces that the rule cuts. -/
theorem exists_cut_of_parse {source : Text} {ops : List Operation}
    (h : parseSource source = .ok ops) {op : Operation} (hop : op ∈ ops) {e : Text}
    (he : e ∈ op.elements) :
    ∃ ps before after, Element (ps.map classify) e ∧ IsCut wordRule before ps after := by
  obtain ⟨us, ⟨x, y, hvs⟩, hel⟩ := (parseSource_eq_ok_iff.1 h).exists_element hop he
  obtain ⟨xs', ys, hpieces, hxs', -⟩ := List.map_eq_append_iff.1 hvs.symm
  obtain ⟨xs, ps, rfl, -, rfl⟩ := List.map_eq_append_iff.1 hxs'
  have hcut := isCut_cut wordRule_nil [] (source.trim isBlank)
  rw [show cut wordRule [] (source.trim isBlank) = xs ++ ps ++ ys from hpieces, List.append_assoc,
    isCut_append, isCut_append] at hcut
  exact ⟨ps, _, _, hel, hcut.2.1⟩

/-- An element that is read from a source is the text of words with at most one space between them,
and these are its own words if it is anchored. -/
theorem phrase_of_parse {source : Text} {ops : List Operation} (h : parseSource source = .ok ops)
    {op : Operation} (hop : op ∈ ops) {e : Text} (he : e ∈ op.elements) :
    ∃ ps, Phrase ps ∧ ps.flatten = e ∧ (Anchored e → words e = ps) := by
  obtain ⟨ps, before, after, hel, hcut⟩ := exists_cut_of_parse h hop he
  obtain ⟨w, -, qs, -, hphrase, hflat, hwords⟩ := exists_phrase hel rfl hcut
  refine ⟨w :: qs, hphrase, hflat, fun ha => ?_⟩
  rw [← hflat]
  exact (hwords ha []).eq_cut

theorem chars_of_parse {source : Text} {ops : List Operation} (h : parseSource source = .ok ops)
    {op : Operation} (hop : op ∈ ops) {e : Text} (he : e ∈ op.elements) :
    ∀ c ∈ e, isLetter c = true ∨ c = ' ' := by
  obtain ⟨ps, hphrase, rfl, -⟩ := phrase_of_parse h hop he
  exact hphrase.chars

theorem canonical_of_parse {source : Text} {ops : List Operation}
    (h : parseSource source = .ok ops) {op : Operation} (hop : op ∈ ops) {e : Text}
    (he : e ∈ op.elements) (ha : Anchored e) : Canonical e := by
  obtain ⟨ps, hphrase, rfl, hwords⟩ := phrase_of_parse h hop he
  exact hphrase.canonical ha (hwords ha)

/-- Valid operations come back from their statements exactly if their elements are canonical. -/
theorem parseSource_sourceOf_eq_ok_iff {ops : List Operation}
    (hv : ∀ op ∈ ops, op.isValid = true) :
    parseSource (sourceOf ops) = .ok ops ↔
      ∀ op ∈ ops, op ≠ .unknown ∧ ∀ e ∈ op.elements, Canonical e := by
  constructor
  · intro h op hop
    refine ⟨((parseSource_eq_ok_iff.1 h).isValid op hop).2, fun e he => ?_⟩
    have ha : Anchored e := anchored_of_parse h hop he (chars_of_parse h hop he)
    exact canonical_of_parse h hop he ha
  · intro h
    exact parseSource_sourceOf fun op hop => ⟨hv op hop, h op hop⟩

/-- Two statements whose elements have several words. -/
def removedAndCreated : List Operation :=
  [.remove ["Ann Lee".toList, "Bo".toList, "Cy".toList] ["Sales".toList] .failSilently,
    .create ["Über uns".toList, "Añil".toList] .overwrite]

theorem parseSource_removedAndCreated :
    (∀ op ∈ removedAndCreated, op.isValid = true) ∧
      parseSource (sourceOf removedAndCreated) = .ok removedAndCreated :=
  ⟨by decide, (parseSource_sourceOf_eq_ok_iff (by decide)).2 (by decide)⟩

/-- Operations read from a source come back from their statements exactly if their elements are
anchored. -/
theorem parseSource_sourceOf_of_parse {source : Text} {ops : List Operation}
    (h : parseSource source = .ok ops) :
    parseSource (sourceOf ops) = .ok ops ↔ ∀ op ∈ ops, ∀ e ∈ op.elements, Anchored e := by
  constructor
  · intro h' op hop e he
    exact anchored_of_parse h' hop he (chars_of_parse h hop he)
  · intro ha
    refine parseSource_sourceOf fun op hop => ?_
    obtain ⟨hv, hne⟩ := (parseSource_eq_ok_iff.1 h).isValid op hop
    exact ⟨hv, hne, fun e he => canonical_of_parse h hop he (ha op hop e he)⟩

theorem parseSource_brokenName :
    parseSource "Show Ann\nLee.".toList = .ok [.display ["Ann Lee".toList] .plain] := by
  have hvalues : sourceValues "Show Ann\nLee.".toList =
      [.word "Show".toList, .blank, .word "Ann".toList, .blank, .word "Lee".toList,
        .punctuation ['.']] := by decide
  rw [parseSource_eq_ok_iff, hvalues]
  have hname : Element (.word "Ann".toList :: ([.blank] ++ [.word "Lee".toList]))
      "Ann Lee".toList := .next (by decide) gap_blank (.word (by decide))
  exact (Sentence.display (m := .plain) (.mk gap_blank (.last hname gap_nil)) (by decide)).program

theorem parseSource_sourceOf_brokenName :
    parseSource "Show Ann\nLee.".toList = .ok [.display ["Ann Lee".toList] .plain] ∧
      parseSource (sourceOf [.display ["Ann Lee".toList] .plain]) =
        .ok [.display ["Ann Lee".toList] .plain] :=
  ⟨parseSource_brokenName,
    (parseSource_sourceOf_of_parse parseSource_brokenName).2 (by decide)⟩

/-- A line feed parts a voiced sound mark from the word in front of it, a space does not. -/
theorem parseSource_sourceOf_voicedMark :
    parseSource "Create\n\uFF9E.".toList = .ok [.create ["\uFF9E".toList] .plain] ∧
      parseSource (sourceOf [.create ["\uFF9E".toList] .plain]) ≠
        .ok [.create ["\uFF9E".toList] .plain] := by
  constructor
  · have hvalues : sourceValues "Create\n\uFF9E.".toList =
        [.word "Create".toList, .blank, .word "\uFF9E".toList, .punctuation ['.']] := by
      decide +kernel
    rw [parseSource_eq_ok_iff, hvalues]
    have hmark : Element [.word "\uFF9E".toList] "\uFF9E".toList := .word (by decide)
    exact (Sentence.create (m := .plain) (.mk gap_blank (.last hmark gap_nil))).program
  · intro h
    have hletter : isLetter '\uFF9E' = true := by decide +kernel
    have hmark : Anchored "\uFF9E".toList := by
      refine anchored_of_parse h (List.mem_singleton.2 rfl) (List.mem_singleton.2 rfl) ?_
      intro c hc
      rw [List.mem_singleton.1 hc]
      exact .inl hletter
    revert hmark
    decide +kernel

end Roster
