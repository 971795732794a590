import Roster.Json.Printer
import Roster.Json.Reader

/-! Written JSON reads back. Text without numbers gives its lexemes back whatever whitespace stands
between them, and the lexemes of a value build it over any stack of open containers that leaves
room for its depth. -/
namespace Roster.Json
open Text

theorem hexCode?_append {n width code : Nat} {digits left : Text}
    (h : hexCode? n width digits = some (code, left)) (rest : Text) :
    hexCode? n width (digits ++ rest) = some (code, left ++ rest) := by
  induction width generalizing n digits with
  | zero =>
    obtain ⟨rfl, rfl⟩ : n = code ∧ digits = left := by simpa [hexCode?] using h
    cases digits <;> rfl
  | succ width ih =>
    cases digits with
    | nil => simp [hexCode?] at h
    | cons c digits =>
      simp only [hexCode?, Option.bind_eq_bind, Option.bind_eq_some_iff, List.cons_append] at h ⊢
      obtain ⟨d, hd, h⟩ := h
      exact ⟨d, hd, ih h⟩

theorem hexCode?_hexDigits : ∀ n < 0x20, hexCode? 0 4 (hexDigits 4 n) = some (n, []) := by
  decide

/-- What is escaped by its code is read by it. -/
theorem unicodeEscape?_hexDigits {c : Char} (h : c.toNat < 0x20) (rest : Text) :
    unicodeEscape? (hexDigits 4 c.toNat ++ rest) = some (c, rest) := by
  have hcode := hexCode?_append (hexCode?_hexDigits c.toNat h) rest
  have hsmall : c.toNat < 0xD800 ∨ 0xE000 ≤ c.toNat := by omega
  simp [unicodeEscape?, hcode, hsmall]

theorem stringChar?_escape (c : Char) (rest : Text) :
    stringChar? (escape c ++ rest) = some (c, rest) := by
  unfold escape
  split
  next h => rcases h with rfl | rfl <;> rfl
  next hmark =>
    split
    next h => rw [h]; rfl
    split
    next h => rw [h]; rfl
    split
    next h => rw [h]; rfl
    split
    next h => rw [h]; rfl
    split
    next h => rw [h]; rfl
    split
    next h => exact unicodeEscape?_hexDigits h rest
    next h =>
      rw [not_or] at hmark
      simp [stringChar?, hmark.2, h]

theorem head_escape (c : Char) (rest : Text) : (escape c ++ rest).head? ≠ some '"' := by
  unfold escape
  repeat' split
  all_goals simp_all

theorem escape_ne_nil (c : Char) : escape c ≠ [] := by
  unfold escape
  repeat' split
  all_goals simp

theorem stringBody?_escape (s rest : Text) :
    stringBody? (s.flatMap escape ++ '"' :: rest) = some (s, rest) := by
  induction s with
  | nil =>
    rw [stringBody?]
    simp
  | cons c s ih =>
    have hlength : 0 < (escape c).length := List.length_pos_iff.2 (escape_ne_nil c)
    rw [List.flatMap_cons, List.append_assoc, stringBody?, if_neg (head_escape c _),
      stringChar?_escape]
    simp [ih, hlength]

def Lexeme.isNumber : Lexeme → Bool
  | number _ => true
  | _ => false

theorem lexeme?_text {l : Lexeme} (h : l.isNumber = false) (rest : Text) :
    lexeme? (l.text ++ rest) = some (l, rest) := by
  cases l with
  | number literal => cases h
  | string s => simp [lexeme?, Lexeme.text, stringBody?_escape]
  | bool b => cases b <;> rfl
  | _ => rfl

theorem exists_text {l : Lexeme} (h : l.isNumber = false) :
    ∃ c s, l.text = c :: s ∧ isSpace c = false := by
  cases l with
  | number literal => cases h
  | bool b => cases b <;> exact ⟨_, _, rfl, by decide⟩
  | _ => exact ⟨_, _, rfl, by decide⟩

theorem readLexemes?_spaces {gap : Text} (h : ∀ c ∈ gap, isSpace c = true) (s : Text) :
    readLexemes? (gap ++ s) = readLexemes? s := by
  induction gap with
  | nil => rfl
  | cons c gap ih =>
    rw [List.forall_mem_cons] at h
    rw [List.cons_append, readLexemes?, if_pos h.1, ih h.2]

theorem readLexemes?_text {l : Lexeme} (h : l.isNumber = false) (rest : Text) :
    readLexemes? (l.text ++ rest) = (readLexemes? rest).map (l :: ·) := by
  obtain ⟨c, s, htext, hspace⟩ := exists_text h
  have hlexeme := lexeme?_text h rest
  have hlength : rest.length < (c :: (s ++ rest)).length := by
    simp only [List.length_cons, List.length_append]
    omega
  rw [htext, List.cons_append] at hlexeme ⊢
  rw [readLexemes?, if_neg (by simp [hspace]), hlexeme]
  simp only [if_pos hlength]

theorem readLexemes?_flatMap {ls : List Lexeme} (h : ∀ l ∈ ls, l.isNumber = false) :
    readLexemes? (ls.flatMap Lexeme.text) = some ls := by
  induction ls with
  | nil => rw [List.flatMap_nil, readLexemes?]
  | cons l ls ih =>
    rw [List.forall_mem_cons] at h
    rw [List.flatMap_cons, readLexemes?_text h.1, ih h.2]
    rfl

theorem isSpace_newLine (depth : Nat) : ∀ c ∈ newLine depth, isSpace c = true := by
  intro c hc
  rcases List.mem_cons.1 hc with rfl | hc
  · decide
  · rw [(List.mem_replicate.1 hc).2]
    decide

/-- A layout puts whitespace in front of a lexeme and behind it. -/
theorem exists_layout (depth : Nat) (fresh : Bool) (l : Lexeme) (ls : List Lexeme) :
    ∃ lead gap depth' fresh', (∀ c ∈ lead, isSpace c = true) ∧ (∀ c ∈ gap, isSpace c = true) ∧
      layout depth fresh (l :: ls) = lead ++ (l.text ++ (gap ++ layout depth' fresh' ls)) := by
  have none : ∀ c ∈ ([] : Text), isSpace c = true := by simp
  have space : ∀ c ∈ [' '], isSpace c = true := by simp [isSpace]
  have closing : ∀ c ∈ if fresh then [] else newLine (depth - 1), isSpace c = true := by
    split
    · exact none
    · exact isSpace_newLine _
  have opening : ∀ c ∈ if fresh then newLine depth else [], isSpace c = true := by
    split
    · exact isSpace_newLine _
    · exact none
  cases l with
  | closeArray | closeObject =>
    exact ⟨_, [], depth - 1, false, closing, none, by simp [layout, Lexeme.isClosing]⟩
  | openArray | openObject =>
    exact ⟨_, [], depth + 1, true, opening, none, by
      simp [layout, Lexeme.isClosing, Lexeme.isOpening]⟩
  | comma =>
    exact ⟨_, newLine depth, depth, false, opening, isSpace_newLine _, by
      simp [layout, Lexeme.isClosing, Lexeme.isOpening]⟩
  | colon =>
    exact ⟨_, [' '], depth, false, opening, space, by
      simp [layout, Lexeme.isClosing, Lexeme.isOpening]⟩
  | _ =>
    exact ⟨_, [], depth, false, opening, none, by
      simp [layout, Lexeme.isClosing, Lexeme.isOpening]⟩

theorem readLexemes?_layout {ls : List Lexeme} (h : ∀ l ∈ ls, l.isNumber = false) (depth : Nat)
    (fresh : Bool) : readLexemes? (layout depth fresh ls) = some ls := by
  induction ls generalizing depth fresh with
  | nil => rw [layout, readLexemes?]
  | cons l ls ih =>
    rw [List.forall_mem_cons] at h
    obtain ⟨lead, gap, depth', fresh', hlead, hgap, heq⟩ := exists_layout depth fresh l ls
    rw [heq, readLexemes?_spaces hlead, readLexemes?_text h.1, readLexemes?_spaces hgap, ih h.2]
    rfl

mutual

/-- How many containers the innermost parts of a value stand in. -/
def depth : Json → Nat
  | array items => itemsDepth items
  | object members => membersDepth members
  | _ => 0

def itemsDepth : List Json → Nat
  | [] => 0
  | v :: vs => max (v.depth + 1) (itemsDepth vs)

def membersDepth : List (Text × Json) → Nat
  | [] => 0
  | (_, v) :: ms => max (v.depth + 1) (membersDepth ms)

end

theorem depth_lt_itemsDepth {v : Json} {vs : List Json} (h : v ∈ vs) :
    v.depth + 1 ≤ itemsDepth vs := by
  induction vs with
  | nil => cases h
  | cons w vs ih =>
    rw [itemsDepth]
    rcases List.mem_cons.1 h with rfl | h
    · exact Nat.le_max_left _ _
    · exact Nat.le_trans (ih h) (Nat.le_max_right _ _)

theorem itemsDepth_le {vs : List Json} {n : Nat} (h : ∀ v ∈ vs, v.depth + 1 ≤ n) :
    itemsDepth vs ≤ n := by
  induction vs with
  | nil => exact Nat.zero_le n
  | cons v vs ih =>
    rw [List.forall_mem_cons] at h
    exact Nat.max_le.2 ⟨h.1, ih h.2⟩

theorem depth_lt_membersDepth {m : Text × Json} {ms : List (Text × Json)} (h : m ∈ ms) :
    m.2.depth + 1 ≤ membersDepth ms := by
  induction ms with
  | nil => cases h
  | cons n ms ih =>
    rw [membersDepth]
    rcases List.mem_cons.1 h with rfl | h
    · exact Nat.le_max_left _ _
    · exact Nat.le_trans (ih h) (Nat.le_max_right _ _)

theorem membersDepth_le {ms : List (Text × Json)} {n : Nat} (h : ∀ m ∈ ms, m.2.depth + 1 ≤ n) :
    membersDepth ms ≤ n := by
  induction ms with
  | nil => exact Nat.zero_le n
  | cons m ms ih =>
    rw [List.forall_mem_cons] at h
    exact Nat.max_le.2 ⟨h.1, ih h.2⟩

/-- The machine takes up the lexemes of a value and leaves it finished over the same containers. -/
def Builds (frames : List Frame) (v : Json) : Prop :=
  v.lexemes.foldlM Machine.step ⟨frames, .value⟩ = some ⟨frames, .done v⟩

theorem Builds.foldlM_append {frames : List Frame} {v : Json} (h : Builds frames v)
    (ls : List Lexeme) : (v.lexemes ++ ls).foldlM Machine.step ⟨frames, .value⟩ =
      ls.foldlM Machine.step ⟨frames, .done v⟩ := by
  rw [List.foldlM_append, h]
  rfl

namespace Machine

variable {frames : List Frame}

/-- No value begins with a closing bracket, so the first item of an array is read like the
others. -/
theorem foldlM_firstItem (frames : List Frame) (v : Json) (vs : List Json) (ls : List Lexeme) :
    (itemLexemes (v :: vs) ++ ls).foldlM step ⟨frames, .firstItem⟩ =
      (itemLexemes (v :: vs) ++ ls).foldlM step ⟨frames, .value⟩ := by
  obtain ⟨l, first, hfirst, hl⟩ : ∃ l first, v.lexemes = l :: first ∧ l ≠ .closeArray := by
    cases v <;> exact ⟨_, _, rfl, by simp⟩
  obtain ⟨rest, hrest⟩ : ∃ rest, itemLexemes (v :: vs) = l :: rest := by
    cases vs <;> simp [itemLexemes, hfirst]
  have hstep : step ⟨frames, .firstItem⟩ l = step ⟨frames, .value⟩ l := by
    cases l <;> first | rfl | exact absurd rfl hl
  rw [hrest, List.cons_append, List.foldlM_cons, List.foldlM_cons, hstep]

/-- Items behind those that are read, up to the end of their array. -/
theorem foldlM_itemLexemes {vs : List Json} (hne : vs ≠ [])
    (h : ∀ items, ∀ v ∈ vs, Builds (.array items :: frames) v) (items : List Json) :
    (itemLexemes vs ++ [Lexeme.closeArray]).foldlM step ⟨.array items :: frames, .value⟩ =
      some ⟨frames, .done (.array (items.reverse ++ vs))⟩ := by
  induction vs generalizing items with
  | nil => exact absurd rfl hne
  | cons v vs ih =>
    have hv : Builds (.array items :: frames) v := h items v (by simp)
    cases vs with
    | nil =>
      rw [itemLexemes, hv.foldlM_append]
      simp [step, continueWith]
    | cons w vs =>
      have hvs := ih (by simp) (fun items u hu => h items u (by simp [hu])) (v :: items)
      rw [itemLexemes, List.append_assoc, hv.foldlM_append]
      simpa [step, continueWith] using hvs

theorem foldlM_member {members : List (Text × Json)} {k : Text} {v : Json}
    (h : Builds (.object members k :: frames) v) (ls : List Lexeme) :
    (.string k :: .colon :: (v.lexemes ++ ls)).foldlM step ⟨frames, .name members⟩ =
      ls.foldlM step ⟨.object members k :: frames, .done v⟩ := by
  have hname : step ⟨frames, .name members⟩ (.string k) = some ⟨frames, .colon members k⟩ := by
    cases members <;> rfl
  rw [← h.foldlM_append, List.foldlM_cons, hname]
  rfl

/-- Members behind those that are read, up to the end of their object. -/
theorem foldlM_memberLexemes {ms : List (Text × Json)} (hne : ms ≠ [])
    (h : ∀ members k, ∀ m ∈ ms, Builds (.object members k :: frames) m.2)
    (members : List (Text × Json)) :
    (memberLexemes ms ++ [Lexeme.closeObject]).foldlM step ⟨frames, .name members⟩ =
      some ⟨frames, .done (.object (members.reverse ++ ms))⟩ := by
  induction ms generalizing members with
  | nil => exact absurd rfl hne
  | cons m ms ih =>
    obtain ⟨k, v⟩ := m
    have hv : Builds (.object members k :: frames) v := h members k (k, v) (by simp)
    cases ms with
    | nil =>
      rw [memberLexemes, List.cons_append, List.cons_append, foldlM_member hv]
      simp [step, continueWith]
    | cons n ms =>
      have hms := ih (by simp) (fun members k u hu => h members k u (by simp [hu]))
        ((k, v) :: members)
      rw [memberLexemes, List.append_assoc, List.cons_append, List.cons_append, foldlM_member hv]
      simpa [step, continueWith] using hms

end Machine

/-- A value that is not too deep is built. -/
theorem builds_of_depth (frames : List Frame) : ∀ v : Json, frames.length + v.depth ≤ depthLimit →
    Builds frames v
  | .null, h | .bool _, h | .number _, h | .string _, h => by
    have hroom : ¬depthLimit < frames.length := by omega
    simp [Builds, lexemes, Machine.step, Machine.beginValue, hroom]
  | .array items, h => by
    have hroom : ¬depthLimit < frames.length := by omega
    have hopen : Machine.step ⟨frames, .value⟩ .openArray =
        some ⟨.array [] :: frames, .firstItem⟩ := by
      simp [Machine.step, Machine.beginValue, hroom]
    have hitems : ∀ read, ∀ v ∈ items, Builds (.array read :: frames) v := by
      intro read v hv
      have hdepth := depth_lt_itemsDepth hv
      rw [depth] at h
      exact builds_of_depth (.array read :: frames) v (by simp only [List.length_cons]; omega)
    rw [Builds, lexemes, List.cons_append, List.foldlM_cons, hopen]
    cases items with
    | nil => rfl
    | cons v vs =>
      have hrest := Machine.foldlM_itemLexemes (by simp) hitems []
      rwa [← Machine.foldlM_firstItem] at hrest
  | .object members, h => by
    have hroom : ¬depthLimit < frames.length := by omega
    have hopen : Machine.step ⟨frames, .value⟩ .openObject = some ⟨frames, .name []⟩ := by
      simp [Machine.step, Machine.beginValue, hroom]
    have hmembers : ∀ read k, ∀ m ∈ members, Builds (.object read k :: frames) m.2 := by
      intro read k m hm
      have hdepth := depth_lt_membersDepth hm
      rw [depth] at h
      exact builds_of_depth (.object read k :: frames) m.2 (by simp only [List.length_cons]; omega)
    rw [Builds, lexemes, List.cons_append, List.foldlM_cons, hopen]
    cases members with
    | nil => rfl
    | cons m ms => exact Machine.foldlM_memberLexemes (by simp) hmembers []
termination_by v => sizeOf v
decreasing_by
  · have := List.sizeOf_lt_of_mem hv
    simp only [Json.array.sizeOf_spec]
    omega
  · have := List.sizeOf_lt_of_mem hm
    obtain ⟨k, v⟩ := m
    simp only [Json.object.sizeOf_spec, Prod.mk.sizeOf_spec] at this ⊢
    omega

theorem ofLexemes?_lexemes {v : Json} (h : v.depth ≤ depthLimit) :
    ofLexemes? v.lexemes = some v := by
  have hbuilds := builds_of_depth [] v (by simpa using h)
  rw [ofLexemes?, hbuilds]
  rfl

/-- No number stands anywhere in a value. -/
def NumberFree (v : Json) : Prop := ∀ l ∈ v.lexemes, l.isNumber = false

theorem numberFree_string (s : Text) : (string s).NumberFree := by
  simp [NumberFree, lexemes, Lexeme.isNumber]

theorem isNumber_itemLexemes {vs : List Json} (h : ∀ v ∈ vs, v.NumberFree) :
    ∀ l ∈ itemLexemes vs, l.isNumber = false := by
  induction vs with
  | nil => simp [itemLexemes]
  | cons v vs ih =>
    rw [List.forall_mem_cons] at h
    cases vs with
    | nil => exact h.1
    | cons w vs =>
      simp only [itemLexemes, List.forall_mem_append, List.forall_mem_cons]
      exact ⟨h.1, rfl, ih h.2⟩

theorem isNumber_memberLexemes {ms : List (Text × Json)} (h : ∀ m ∈ ms, m.2.NumberFree) :
    ∀ l ∈ memberLexemes ms, l.isNumber = false := by
  induction ms with
  | nil => simp [memberLexemes]
  | cons m ms ih =>
    obtain ⟨k, v⟩ := m
    rw [List.forall_mem_cons] at h
    cases ms with
    | nil =>
      simp only [memberLexemes, List.forall_mem_cons]
      exact ⟨rfl, rfl, h.1⟩
    | cons n ms =>
      simp only [memberLexemes, List.cons_append, List.forall_mem_append, List.forall_mem_cons]
      exact ⟨rfl, rfl, h.1, rfl, ih h.2⟩

theorem numberFree_array {vs : List Json} (h : ∀ v ∈ vs, v.NumberFree) : (array vs).NumberFree := by
  simp only [NumberFree, lexemes, List.cons_append, List.forall_mem_append, List.forall_mem_cons]
  exact ⟨rfl, isNumber_itemLexemes h, rfl, by simp⟩

theorem numberFree_object {ms : List (Text × Json)} (h : ∀ m ∈ ms, m.2.NumberFree) :
    (object ms).NumberFree := by
  simp only [NumberFree, lexemes, List.cons_append, List.forall_mem_append, List.forall_mem_cons]
  exact ⟨rfl, isNumber_memberLexemes h, rfl, by simp⟩

/-- Compact text reads back. -/
theorem read?_compact {v : Json} (hn : v.NumberFree)
    (hd : v.depth ≤ depthLimit) : read? v.compact = some v := by
  rw [read?, compact, readLexemes?_flatMap hn]
  exact ofLexemes?_lexemes hd

/-- Indented text reads back. -/
theorem read?_indented {v : Json} (hn : v.NumberFree) (hd : v.depth ≤ depthLimit) :
    read? v.indented = some v := by
  rw [read?, indented, readLexemes?_layout hn]
  exact ofLexemes?_lexemes hd

end Roster.Json
