import Roster.Proofs.BlankBoundary
import Roster.Proofs.ReportLines

/-! Operations are told apart by their confirmations. A sentence whose elements are made of words
needs no word rule to be read again: cut around its spaces and marks, it is a sentence of the
grammar for its operation, and the grammar gives a sentence one operation only. -/
namespace Roster
open Grammar Text Vocabulary

namespace Text

def isJoint (c : Char) : Bool := c == ' ' || isMark [c]

/-- Cuts on both sides of a joint, and at the end of the text. -/
def jointRule : CutRule := fun before after => before.head?.any isJoint || after.head?.all isJoint

/-- The joints of a text, and what stands between them. -/
def parts (s : Text) : List Text := cut jointRule [] s

theorem isCut_parts (s : Text) : IsCut jointRule [] (parts s) [] :=
  isCut_cut (fun _ => by simp [jointRule]) [] s

@[simp] theorem flatten_parts (s : Text) : (parts s).flatten = s := flatten_cut jointRule [] s

theorem parts_append_joint {c : Char} (hc : isJoint c = true) (s t : Text) :
    parts (s ++ c :: t) = parts s ++ [c] :: parts t := by
  have hfront : IsCut jointRule [] (parts s) (c :: t) := by
    refine (isCut_congr fun u v _ _ => ?_).1 (isCut_parts s)
    -- behind the last part, the joint stands in place of the end
    cases v <;> simp [jointRule, hc]
  have hback : IsCut jointRule (c :: s.reverse) (parts t) [] := by
    refine (isCut_congr fun u v _ hu => ?_).1 (isCut_parts t)
    obtain ⟨d, u', hd⟩ := List.exists_cons_of_ne_nil (List.reverse_ne_nil_iff.2 hu)
    simp [jointRule, hd]
  have hcut : IsCut jointRule [] (parts s ++ [[c]] ++ parts t) [] := by
    rw [isCut_append, isCut_append, isCut_singleton]
    exact ⟨⟨by simpa using hfront, by simp [jointRule, hc]⟩, by simpa using hback⟩
  have hflat : (parts s ++ [[c]] ++ parts t).flatten = s ++ c :: t := by simp
  rw [parts, ← hflat, hcut.eq_cut, List.append_assoc, List.singleton_append]

theorem parts_of_unjoined {w : Text} (hne : w ≠ []) (hw : ∀ c ∈ w, isJoint c = false) :
    parts w = [w] := by
  have hcut : IsCut jointRule [] [w] [] := by
    refine ⟨hne, ?_, by simp [jointRule], trivial⟩
    intro u v huv hu hv
    obtain ⟨init, c, rfl⟩ := (List.eq_nil_or_concat u).resolve_left hu
    obtain ⟨d, v, rfl⟩ := List.exists_cons_of_ne_nil hv
    simp [jointRule, hw c (by simp [huv]), hw d (by simp [huv])]
  simpa [parts] using hcut.eq_cut

theorem intercalate_splitAt (separator : Char) (s : Text) :
    [separator].intercalate (splitAt separator s) = s := by
  induction s with
  | nil => simp [splitAt]
  | cons c s ih =>
    obtain ⟨p, ps, hsplit⟩ := exists_splitAt_cons separator s
    rw [hsplit] at ih
    by_cases hc : c = separator
    · rw [hc, splitAt_cons_separator, hsplit, List.intercalate_cons_cons, ih]
      rfl
    · have hcons : splitAt separator (c :: s) = (c :: p) :: ps :=
        splitAt_append (u := [c]) (by simpa using Ne.symm hc) hsplit
      rw [hcons, ← ih]
      cases ps <;> simp

end Text

/-- Words with single spaces between them. -/
def MadeOfWords (e : Text) : Prop := ∀ piece ∈ e.splitAt ' ', IsWord piece

theorem IsWord.parts_eq {w : Text} (h : IsWord w) : parts w = [w] := by
  refine parts_of_unjoined h.ne_nil fun c hc => ?_
  have hmark : isMark [c] = false := by
    rw [Bool.eq_false_iff]
    intro hmark
    have hletter := h.letters c hc
    rw [isLetter_of_isMark hmark] at hletter
    cases hletter
  simp [isJoint, h.ne_space hc, hmark]

theorem phrase_intercalate {w : Text} {ws : List Text} (h : ∀ piece ∈ w :: ws, IsWord piece) :
    Phrase (parts ([' '].intercalate (w :: ws))) := by
  induction ws generalizing w with
  | nil =>
    have hw : IsWord w := h w (by simp)
    simpa [hw.parts_eq] using Phrase.word hw
  | cons next ws ih =>
    obtain ⟨hw, hws⟩ := List.forall_mem_cons.1 h
    rw [List.intercalate_cons_cons, List.append_assoc, List.singleton_append,
      parts_append_joint (by decide), hw.parts_eq]
    exact .spaced hw (ih hws)

theorem MadeOfWords.phrase {e : Text} (h : MadeOfWords e) : Phrase (parts e) := by
  obtain ⟨w, ws, hsplit⟩ := exists_splitAt_cons ' ' e
  have hphrase : Phrase (parts ([' '].intercalate (w :: ws))) :=
    phrase_intercalate (by rwa [← hsplit])
  rwa [← hsplit, intercalate_splitAt] at hphrase

def partValues (s : Text) : List TokenValue := (parts s).map classify

theorem partValues_append_joint {c : Char} (hc : isJoint c = true) (s t : Text) :
    partValues (s ++ c :: t) = partValues s ++ classify [c] :: partValues t := by
  rw [partValues, parts_append_joint hc, List.map_append, List.map_cons]
  rfl

@[simp] theorem partValues_append_space (s t : Text) :
    partValues (s ++ ' ' :: t) = partValues s ++ .blank :: partValues t := by
  rw [partValues_append_joint (by decide), classify_space]

@[simp] theorem partValues_append_comma (s t : Text) :
    partValues (s ++ ',' :: t) = partValues s ++ comma :: partValues t :=
  partValues_append_joint (by decide) s t

@[simp] theorem partValues_space (t : Text) : partValues (' ' :: t) = .blank :: partValues t :=
  partValues_append_space [] t

@[simp] theorem partValues_append_mark (s : Text) (m : Modifier) :
    partValues (s ++ [m.mark]) = partValues s ++ [terminator m] := by
  have hmark : isJoint m.mark = true ∧ classify [m.mark] = terminator m := by cases m <;> decide
  rw [partValues_append_joint hmark.1, hmark.2]
  rfl

theorem partValues_reserved {v : TokenValue} (hv : v ∈ reserved) (t : Text) :
    partValues (v.text ++ ' ' :: t) = v :: .blank :: partValues t := by
  have hwords : ∀ v ∈ reserved, partValues v.text = [v] := by decide
  rw [partValues_append_space, hwords v hv]
  rfl

theorem partValues_linked {v : TokenValue} (hv : v ∈ reserved) (s t : Text) :
    partValues (s ++ ' ' :: (v.text ++ ' ' :: t)) =
      partValues s ++ .blank :: v :: .blank :: partValues t := by
  rw [partValues_append_space, partValues_reserved hv]

theorem MadeOfWords.element {e : Text} (h : MadeOfWords e) : Element (partValues e) e := by
  have helement := h.phrase.element
  rwa [flatten_parts] at helement

theorem elements_items {items : List Text} {last : Text} (hne : items ≠ [])
    (hitems : ∀ e ∈ items, MadeOfWords e) (hlast : MadeOfWords last) :
    Elements (partValues (", ".toList.intercalate items ++ ", and ".toList ++ last))
      (items ++ [last]) := by
  induction items with
  | nil => exact absurd rfl hne
  | cons item items ih =>
    obtain ⟨hitem, hrest⟩ := List.forall_mem_cons.1 hitems
    cases items with
    | nil =>
      have htext : ", ".toList.intercalate [item] ++ ", and ".toList ++ last =
          item ++ [','] ++ ' ' :: (andWord.text ++ ' ' :: last) := by
        simp [andWord, TokenValue.word]
      have helements : Elements _ [item, last] := .more hitem.element gap_nil
        (.commaAnd gap_blank) gap_blank (.last hlast.element gap_nil)
      have hnil : partValues [] = [] := rfl
      rw [htext, partValues_linked (by decide), partValues_append_comma, hnil]
      simpa using helements
    | cons next items =>
      have htext : ", ".toList.intercalate (item :: next :: items) ++ ", and ".toList ++ last =
          item ++ ',' :: ' ' :: (", ".toList.intercalate (next :: items) ++ ", and ".toList ++
            last) := by
        rw [List.intercalate_cons_cons]
        simp
      have helements : Elements _ (item :: (next :: items ++ [last])) :=
        .more hitem.element gap_nil .comma gap_blank (ih (by simp) hrest)
      rw [htext, partValues_append_comma, partValues_space]
      simpa using helements

/-- A list in English is read as its items. -/
theorem elements_enumerateAnd {items : List Text} (hne : items ≠ [])
    (hitems : ∀ e ∈ items, MadeOfWords e) : Elements (partValues (enumerateAnd items)) items := by
  obtain ⟨init, last, rfl⟩ := (List.eq_nil_or_concat items).resolve_left hne
  rw [List.concat_eq_append] at hitems ⊢
  have hlast : MadeOfWords last := hitems last (by simp)
  rcases init with _ | ⟨first, _ | ⟨second, init⟩⟩
  · have helements : Elements _ [last] := .last hlast.element gap_nil
    simpa [enumerateAnd, enumerate] using helements
  · have htext : enumerateAnd [first, last] = first ++ ' ' :: (andWord.text ++ ' ' :: last) := by
      simp [enumerateAnd, enumerate, andWord, TokenValue.word]
    have helements : Elements _ [first, last] := .more (hitems first (by simp)).element gap_blank
      .and gap_blank (.last hlast.element gap_nil)
    rw [List.singleton_append, htext, partValues_linked (by decide)]
    simpa using helements
  · rw [enumerateAnd_append (by simp)]
    exact elements_items (List.cons_ne_nil first (second :: init))
      (fun e he => hitems e (List.mem_append_left _ he)) hlast

theorem Operation.ne_overwrite_of_isValid {op : Operation} (hv : op.isValid = true)
    (hk : op.kind = .display ∨ op.kind = .remove) : op.modifier ≠ .overwrite := by
  have hallowed := allows_of_isValid hv
  intro hm
  rcases hk with hk | hk
  · rw [hk, hm] at hallowed
    cases hallowed
  · rw [hk, hm] at hallowed
    cases hallowed

/-- Statements of elements made of words are sentences, wherever the word rule may cut them. -/
theorem sentence_statement {op : Operation} (hv : op.isValid = true) (hop : op ≠ .unknown)
    (he : ∀ e ∈ op.elements, MadeOfWords e) : Sentence (partValues op.statement) op := by
  have keyword (k : Keyword) (t : Text) :
      partValues (k.value.text ++ ' ' :: t) = k.value :: .blank :: partValues t :=
    partValues_reserved (by cases k <;> decide) t
  have names {items : List Text} (hne : items ≠ []) (hitems : ∀ e ∈ items, MadeOfWords e) :
      Names (.blank :: partValues (enumerateAnd items)) items :=
    .mk gap_blank (elements_enumerateAnd hne hitems)
  have linked {items : List Text} (hne : items ≠ []) (hitems : ∀ e ∈ items, MadeOfWords e) :
      Names (.blank :: (partValues (enumerateAnd items) ++ [.blank])) items :=
    .mk gap_blank ((elements_enumerateAnd hne hitems).append_gap gap_blank)
  cases op with
  | create departments m =>
    rw [Operation.statement_create, keyword, partValues_append_mark]
    exact .create (names (Operation.departments_ne_nil hv rfl) he)
  | display departments m =>
    have hm : m ≠ .overwrite := Operation.ne_overwrite_of_isValid hv (.inl rfl)
    rw [Operation.statement_display, keyword, partValues_append_mark]
    exact .display (names (Operation.departments_ne_nil hv rfl) he) hm
  | add ns departments m =>
    have hn : ns ≠ [] := by
      rintro rfl
      cases hv
    obtain ⟨he, he'⟩ := List.forall_mem_append.1 he
    have hsentence := Sentence.add (m := m) (linked hn he)
      (names (Operation.departments_ne_nil hv rfl) he')
    rw [Operation.statement_add, keyword, partValues_linked (by decide), partValues_append_mark]
    simpa using hsentence
  | remove ns departments m =>
    have hm : m ≠ .overwrite := Operation.ne_overwrite_of_isValid hv (.inr rfl)
    obtain ⟨he, he'⟩ := List.forall_mem_append.1 he
    have hlast := names (Operation.departments_ne_nil hv rfl) he'
    cases ns with
    | nil =>
      rw [Operation.statement_remove_nil, keyword, partValues_append_mark]
      exact .remove hlast hm
    | cons name ns =>
      have hsentence := Sentence.removeFrom (linked (List.cons_ne_nil name ns) he) hlast hm
      rw [Operation.statement_remove_cons, keyword, partValues_linked (by decide),
        partValues_append_mark]
      simpa using hsentence
  | unknown => exact absurd rfl hop

/-- A sentence has one operation only. -/
theorem Grammar.Sentence.unique {vs : List TokenValue} {op op' : Operation} (hw : PlainWords vs)
    (h : Sentence vs op) (h' : Sentence vs op') : op = op' := by
  have hts : (vs.map Token.ofValue).map Token.value = vs := by
    have hid : Token.value ∘ Token.ofValue = id := rfl
    rw [List.map_map, hid, List.map_id]
  have hparsed := parse_of_program h.program hw hts
  rw [parse_of_program h'.program hw hts] at hparsed
  simpa using hparsed.symm

/-- What is known of an operation that a source gives. -/
structure Operation.Spelled (op : Operation) : Prop where
  isValid : op.isValid = true
  known : op ≠ .unknown
  madeOfWords : ∀ e ∈ op.elements, MadeOfWords e

theorem spelled_of_parse {source : Text} {ops : List Operation} (h : parseSource source = .ok ops) :
    ∀ op ∈ ops, op.Spelled := by
  intro op hop
  obtain ⟨hv, hknown⟩ := (parseSource_eq_ok_iff.1 h).isValid op hop
  refine ⟨hv, hknown, fun e he => ?_⟩
  obtain ⟨ps, before, after, hel, hcut⟩ := exists_cut_of_parse h hop he
  exact (isWord_of_mem_splitAt hel rfl hcut).2

theorem Modifier.description_injective : Function.Injective Modifier.description := by
  intro m m' h
  cases m <;> cases m' <;> first | rfl | exact absurd h (by decide)

namespace Operation

variable {op op' : Operation}

theorem Spelled.sentence (h : op.Spelled) : Sentence (partValues op.statement) op :=
  sentence_statement h.isValid h.known h.madeOfWords

theorem Spelled.statement_eq (h : op.Spelled) : op.statement = op.phrase ++ [op.modifier.mark] := by
  cases op with
  | unknown => exact absurd rfl h.known
  | create | add | remove | display => rfl

theorem Spelled.eq_of_statement (h : op.Spelled) (h' : op'.Spelled)
    (heq : op.statement = op'.statement) : op = op' := by
  have hs := h.sentence
  rw [heq] at hs
  exact hs.unique (plainWords_classify _) h'.sentence

/-- No parenthesis stands in a phrase. -/
theorem Spelled.parenthesis_not_mem (h : op.Spelled) : '(' ∉ op.phrase := by
  intro hmem
  have hstatement : '(' ∈ (parts op.statement).flatten := by
    rw [flatten_parts, h.statement_eq]
    exact List.mem_append_left _ hmem
  obtain ⟨piece, hpiece, hc⟩ := List.mem_flatten.1 hstatement
  have hkind := h.sentence.kind_ne_unknown _ (List.mem_map_of_mem hpiece)
  have hnot : ¬IsSourceChar '(' := by
    unfold IsSourceChar
    decide
  exact hnot (isSourceChar_of_classify hkind _ hc)

theorem confirmation_eq (op : Operation) : op.modifier = .plain ∧ op.confirmation = op.phrase ∨
    op.modifier ≠ .plain ∧
      op.confirmation = op.phrase ++ [' '] ++ '(' :: (op.modifier.description ++ [')']) := by
  rw [confirmation]
  cases hm : op.modifier with
  | plain => exact .inl ⟨rfl, rfl⟩
  | overwrite | failSilently => exact .inr ⟨by simp, by simp⟩

/-- The phrase ends in front of the first parenthesis. -/
theorem Spelled.eq_of_confirmation (h : op.Spelled) (h' : op'.Spelled)
    (heq : op.confirmation = op'.confirmation) : op = op' := by
  have hfree := h.parenthesis_not_mem
  have hfree' := h'.parenthesis_not_mem
  refine h.eq_of_statement h' ?_
  rw [h.statement_eq, h'.statement_eq]
  rcases op.confirmation_eq with ⟨hm, hc⟩ | ⟨hm, hc⟩ <;>
    rcases op'.confirmation_eq with ⟨hm', hc'⟩ | ⟨hm', hc'⟩ <;>
    rw [hc, hc'] at heq
  · rw [heq, hm, hm']
  · rw [heq] at hfree
    simp at hfree
  · rw [← heq] at hfree'
    simp at hfree'
  · have hspaced : '(' ∉ op.phrase ++ [' '] := by simpa using hfree
    have hdescribed : '(' ∉ op.modifier.description ++ [')'] := by
      cases op.modifier <;> decide
    obtain ⟨hphrase, -, hending⟩ := (List.append_cons_inj_of_notMem hspaced hdescribed).1 heq
    have hmodifier := Modifier.description_injective (List.append_cancel_right hending)
    rw [List.append_cancel_right hphrase, hmodifier]

theorem exists_phrase_cons (op : Operation) : ∃ c s, op.phrase = c :: s := by
  cases op with
  | create => exact ⟨'C', _, rfl⟩
  | add => exact ⟨'A', _, rfl⟩
  | remove names => cases names <;> exact ⟨'R', _, rfl⟩
  | display => exact ⟨'S', _, rfl⟩
  | unknown => exact ⟨'U', _, rfl⟩

theorem confirmation_ne_nil (op : Operation) : op.confirmation ≠ [] := by
  obtain ⟨c, s, hphrase⟩ := op.exists_phrase_cons
  rcases op.confirmation_eq with ⟨-, hc⟩ | ⟨-, hc⟩ <;> simp [hc, hphrase]

end Operation

namespace Text

theorem eq_nil_of_intercalate {separator : Text} {ls : List Text} (h : ∀ line ∈ ls, line ≠ [])
    (heq : separator.intercalate ls = []) : ls = [] := by
  cases ls with
  | nil => rfl
  | cons line ls =>
    obtain ⟨s, hs⟩ := exists_intercalate_cons separator line ls
    rw [hs, List.append_eq_nil_iff] at heq
    exact absurd heq.1 (h line (by simp))

theorem lines_intercalate {ls : List Text} (hne : ls ≠ []) (h : ∀ line ∈ ls, '\n' ∉ line) :
    lines (['\n'].intercalate ls ++ ['\n']) = ls.map (· ++ ['\n']) := by
  rw [intercalate_newline hne, lines_flatten h]

/-- Lines that are not empty are told apart when they stand below each other. -/
theorem eq_of_intercalate_newline {ls ls' : List Text}
    (h : ∀ line ∈ ls, line ≠ [] ∧ '\n' ∉ line) (h' : ∀ line ∈ ls', line ≠ [] ∧ '\n' ∉ line)
    (heq : ['\n'].intercalate ls = ['\n'].intercalate ls') : ls = ls' := by
  by_cases hls : ls = []
  · rw [hls, List.intercalate_nil] at heq
    rw [hls, eq_nil_of_intercalate (fun line hl => (h' line hl).1) heq.symm]
  by_cases hls' : ls' = []
  · rw [hls', List.intercalate_nil] at heq
    exact absurd (eq_nil_of_intercalate (fun line hl => (h line hl).1) heq) hls
  have hmap := lines_intercalate hls fun line hl => (h line hl).2
  rw [heq, lines_intercalate hls' fun line hl => (h' line hl).2] at hmap
  exact (List.map_injective_iff.2 (List.append_left_injective ['\n']) hmap).symm

end Text

variable {indexed : Bool} {ops ops' : List Operation}

theorem getElem?_confirmationLines (indexed : Bool) (ops : List Operation) (i : Nat) :
    (confirmationLines indexed ops)[i]? = ops[i]?.map fun op =>
      (if indexed then ofNat i ++ ": ".toList else []) ++ op.confirmation := by
  cases indexed with
  | false => simp [confirmationLines]
  | true => cases h : ops[i]? <;> simp [confirmationLines, h]

theorem ne_nil_of_mem_confirmationLines {line : Text} (h : line ∈ confirmationLines indexed ops) :
    line ≠ [] := by
  obtain ⟨i, hi⟩ := List.mem_iff_getElem?.1 h
  rw [getElem?_confirmationLines, Option.map_eq_some_iff] at hi
  obtain ⟨op, -, rfl⟩ := hi
  simp [op.confirmation_ne_nil]

theorem eq_of_confirmationLines (h : ∀ op ∈ ops, op.Spelled) (h' : ∀ op ∈ ops', op.Spelled)
    (heq : confirmationLines indexed ops = confirmationLines indexed ops') : ops = ops' := by
  refine List.ext_getElem? fun i => ?_
  have hi := congrArg (·[i]?) heq
  simp only [getElem?_confirmationLines] at hi
  cases hop : ops[i]? with
  | none =>
    rw [hop, Option.map_none, eq_comm, Option.map_eq_none_iff] at hi
    exact hi.symm
  | some op =>
    rw [hop, Option.map_some, eq_comm, Option.map_eq_some_iff] at hi
    obtain ⟨op', hop', hline⟩ := hi
    have hconfirmation := List.append_cancel_left hline
    rw [hop', (h' op' (List.mem_of_getElem? hop')).eq_of_confirmation
      (h op (List.mem_of_getElem? hop)) hconfirmation]

variable {source source' : Text}

theorem confirmationLines_of_parse (h : parseSource source = .ok ops) (indexed : Bool) :
    ∀ line ∈ confirmationLines indexed ops, line ≠ [] ∧ '\n' ∉ line := fun line hline =>
  ⟨ne_nil_of_mem_confirmationLines hline,
    (graphic_confirmationLines h indexed line hline).newline_not_mem⟩

/-- Whatever two sources give, it is the same if it is confirmed by the same text. -/
theorem eq_of_formatOperations (h : parseSource source = .ok ops)
    (h' : parseSource source' = .ok ops') (indexed : Bool)
    (heq : formatOperations .text indexed ops = formatOperations .text indexed ops') :
    ops = ops' := by
  have hlines : confirmationLines indexed ops = confirmationLines indexed ops' :=
    eq_of_intercalate_newline (confirmationLines_of_parse h indexed)
      (confirmationLines_of_parse h' indexed) heq
  exact eq_of_confirmationLines (spelled_of_parse h) (spelled_of_parse h') hlines

theorem eq_of_formatOperations_brokenName :
    ∃ ops ops', parseSource "Show Ann\nLee.".toList = .ok ops ∧
      parseSource "Show Ann Lee.".toList = .ok ops' ∧
      formatOperations .text true ops = formatOperations .text true ops' ∧ ops = ops' := by
  have hcanonical : ∀ op ∈ [Operation.display ["Ann Lee".toList] .plain],
      op.isValid = true ∧ op ≠ .unknown ∧ ∀ e ∈ op.elements, Canonical e := by decide
  have hspaced : parseSource "Show Ann Lee.".toList = .ok [.display ["Ann Lee".toList] .plain] :=
    parseSource_sourceOf hcanonical
  exact ⟨_, _, parseSource_brokenName, hspaced, rfl,
    eq_of_formatOperations parseSource_brokenName hspaced true rfl⟩

end Roster
