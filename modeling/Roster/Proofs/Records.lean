import Mathlib.Data.List.Forall2
import Roster.Proofs.JsonText
import Roster.Proofs.StatementSequence
import Roster.Report

/-! Operations as JSON records. A record of a valid operation reads back as that operation, and
whatever is read from a record is valid, so lists of operations that come back from their JSON are
the lists of valid ones. -/
namespace Roster
open Json

theorem OperationKind.ofName?_eq_some {s : Text} {k : OperationKind} :
    OperationKind.ofName? s = some k ↔ s = k.name := by
  constructor
  · intro h
    have hname := List.find?_some h
    exact (beq_iff_eq.1 hname).symm
  · rintro rfl
    exact OperationKind.ofName?_name k

namespace Operation

theorem member?_modifier (op : Operation) :
    member? modifierField op.members = some (.string op.modifier.name) := by
  cases op <;> rfl

theorem member?_kind (op : Operation) :
    member? kindField op.members = some (.string op.kind.name) := by
  cases op <;> rfl

theorem member?_names (op : Operation) :
    member? namesField op.members = op.names?.map textList := by
  cases op <;> rfl

theorem member?_departments (op : Operation) :
    member? departmentsField op.members = op.departments?.map textList := by
  cases op <;> rfl

theorem nonTexts_strings (field : Text) (i : Nat) (ts : List Text) :
    nonTexts field i (ts.map .string) = [] := by
  induction ts generalizing i with
  | nil => rfl
  | cons t ts ih => exact ih (i + 1)

theorem texts_strings (ts : List Text) : texts (ts.map .string) = ts := by
  induction ts with
  | nil => rfl
  | cons t ts ih => rw [List.map_cons, texts, ih]

theorem checkTexts_textList {field : Text} {least : Nat} {ts : List Text} (h : least ≤ ts.length) :
    checkTexts field least (textList ts) = .ok ts := by
  simp [checkTexts, textList, nonTexts_strings, texts_strings, h]

theorem checkModifier_name {kind : OperationKind} {m : Modifier} (h : kind.allows m = true) :
    checkModifier kind (some (.string m.name)) = .ok m := by
  simp [checkModifier, h]

theorem length_texts {field : Text} {items : List Json} {i : Nat}
    (h : nonTexts field i items = []) : (texts items).length = items.length := by
  induction items generalizing i with
  | nil => rfl
  | cons v vs ih =>
    cases v with
    | string s => simp [texts, ih h]
    | _ => cases h

theorem least_le_of_checkTexts {field : Text} {least : Nat} {v : Json} {ts : List Text}
    (h : checkTexts field least v = .ok ts) : least ≤ ts.length := by
  unfold checkTexts at h
  split at h
  next items =>
    split at h
    next hnone =>
      split at h
      next => cases h
      next hleast =>
        obtain rfl := Except.ok.inj h
        rw [length_texts hnone]
        omega
    next => cases h
  next => cases h

theorem allows_of_checkModifier {kind : OperationKind} {v : Option Json} {m : Modifier}
    (h : checkModifier kind v = .ok m) : kind.allows m = true := by
  unfold checkModifier at h
  split at h
  next =>
    obtain rfl := Except.ok.inj h
    cases kind <;> rfl
  next =>
    split at h
    next => cases h
    next =>
      split at h
      next hallows =>
        obtain rfl := Except.ok.inj h
        exact hallows
      next => cases h
  next => cases h

theorem ofMembers_eq_ok {kind : OperationKind} {fields : List (Text × Json)} {op : Operation} :
    ofMembers kind fields = .ok op ↔ ∃ m names departments,
      checkModifier kind (member? modifierField fields) = .ok m ∧
      checkKind kind (member? kindField fields) = .ok () ∧
      checkNames kind (member? namesField fields) = .ok names ∧
      checkDepartments kind (member? departmentsField fields) = .ok departments ∧
      make kind m names departments = op := by
  constructor
  · intro h
    simp only [ofMembers] at h
    split at h
    next m _ names departments hm hk hn hd =>
      exact ⟨m, names, departments, hm, hk, hn, hd, Except.ok.inj h⟩
    next => cases h
  · rintro ⟨m, names, departments, hm, hk, hn, hd, rfl⟩
    simp only [ofMembers, hm, hk, hn, hd]

theorem ofMembers_members {op : Operation} (h : op.isValid = true) :
    ofMembers op.kind op.members = .ok op := by
  rw [ofMembers_eq_ok, member?_modifier, member?_kind, member?_names, member?_departments]
  cases op with
  | create departments m =>
    obtain ⟨hd, hm⟩ : 1 ≤ departments.length ∧ OperationKind.create.allows m = true := by
      simpa [isValid, Nat.one_le_iff_ne_zero] using h
    exact ⟨m, [], departments, checkModifier_name hm, rfl, rfl, checkTexts_textList hd, rfl⟩
  | add names departments m =>
    obtain ⟨⟨hn, hd⟩, hm⟩ : (1 ≤ names.length ∧ 1 ≤ departments.length) ∧
        OperationKind.add.allows m = true := by
      simpa [isValid, Nat.one_le_iff_ne_zero] using h
    exact ⟨m, names, departments, checkModifier_name hm, rfl, checkTexts_textList hn,
      checkTexts_textList hd, rfl⟩
  | remove names departments m =>
    obtain ⟨hd, hm⟩ : 1 ≤ departments.length ∧ OperationKind.remove.allows m = true := by
      simpa [isValid, Nat.one_le_iff_ne_zero] using h
    exact ⟨m, names, departments, checkModifier_name hm, rfl, checkTexts_textList (Nat.zero_le _),
      checkTexts_textList hd, rfl⟩
  | display departments m =>
    obtain ⟨hd, hm⟩ : 1 ≤ departments.length ∧ OperationKind.display.allows m = true := by
      simpa [isValid, Nat.one_le_iff_ne_zero] using h
    exact ⟨m, [], departments, checkModifier_name hm, rfl, rfl, checkTexts_textList hd, rfl⟩
  | unknown => exact ⟨.plain, [], [], checkModifier_name rfl, rfl, rfl, rfl, rfl⟩

theorem length_of_checkDepartments {kind : OperationKind} {v : Option Json} {ts : List Text}
    (hkind : kind ≠ .unknown) (h : checkDepartments kind v = .ok ts) : 1 ≤ ts.length := by
  cases v with
  | none => cases kind <;> first | exact absurd rfl hkind | cases h
  | some v =>
    have htexts : checkTexts departmentsField 1 v = .ok ts := by
      cases kind <;> first | exact absurd rfl hkind | exact h
    exact least_le_of_checkTexts htexts

theorem length_of_checkNames_add {v : Option Json} {ts : List Text}
    (h : checkNames .add v = .ok ts) : 1 ≤ ts.length := by
  cases v with
  | none => cases h
  | some v =>
    have htexts : checkTexts namesField 1 v = .ok ts := h
    exact least_le_of_checkTexts htexts

/-- The checks leave nothing that breaks a rule of its kind. -/
theorem isValid_of_ofMembers {kind : OperationKind} {fields : List (Text × Json)} {op : Operation}
    (h : ofMembers kind fields = .ok op) : op.isValid = true := by
  obtain ⟨m, names, departments, hm, -, hn, hd, rfl⟩ := ofMembers_eq_ok.1 h
  have hm := allows_of_checkModifier hm
  cases kind with
  | unknown => rfl
  | add =>
    have hn := length_of_checkNames_add hn
    have hd := length_of_checkDepartments (by simp) hd
    simpa [make, isValid, hm, Nat.one_le_iff_ne_zero] using And.intro hn hd
  | _ =>
    have hd := length_of_checkDepartments (by simp) hd
    simpa [make, isValid, hm, Nat.one_le_iff_ne_zero] using hd

theorem ofJson_eq_ok {v : Json} {op : Operation} : ofJson v = .ok op ↔
    ∃ fields kind, v = .object fields ∧ member? kindField fields = some (.string kind.name) ∧
      ofMembers kind fields = .ok op := by
  constructor
  · intro h
    unfold ofJson at h
    split at h
    next fields =>
      split at h
      next => cases h
      next s hkind =>
        split at h
        next => cases h
        next kind hname =>
          rw [OperationKind.ofName?_eq_some] at hname
          subst hname
          exact ⟨fields, kind, rfl, hkind, Except.mapError_eq_ok.1 h⟩
      next => cases h
    next => cases h
  · rintro ⟨fields, kind, rfl, hkind, h⟩
    simp [ofJson, hkind, h]

theorem ofJson_toJson {op : Operation} (h : op.isValid = true) : ofJson op.toJson = .ok op :=
  ofJson_eq_ok.2 ⟨op.members, op.kind, rfl, member?_kind op, ofMembers_members h⟩

theorem isValid_of_ofJson {v : Json} {op : Operation} (h : ofJson v = .ok op) :
    op.isValid = true := by
  obtain ⟨fields, kind, -, -, h⟩ := ofJson_eq_ok.1 h
  exact isValid_of_ofMembers h

theorem listFrom_eq_ok {i : Nat} {vs : List Json} {ops : List Operation} :
    listFrom i vs = .ok ops ↔ List.Forall₂ (fun v op => ofJson v = .ok op) vs ops := by
  induction vs generalizing i ops with
  | nil =>
    rw [listFrom, List.forall₂_nil_left_iff]
    simp [eq_comm]
  | cons v vs ih =>
    rw [List.forall₂_cons_left_iff]
    constructor
    · intro h
      simp only [listFrom] at h
      split at h
      next op ops' hop hops =>
        exact ⟨op, ops', Except.mapError_eq_ok.1 hop, ih.1 hops, (Except.ok.inj h).symm⟩
      next => cases h
    · rintro ⟨op, ops', hop, hops, rfl⟩
      simp [listFrom, hop, ih.2 hops]

theorem listOfJson_listToJson {ops : List Operation} :
    listOfJson (listToJson ops) = .ok ops ↔ ∀ op ∈ ops, op.isValid = true := by
  rw [listToJson, listOfJson, listFrom_eq_ok, List.forall₂_map_left_iff, List.forall₂_same]
  exact forall₂_congr fun op _ => ⟨isValid_of_ofJson, ofJson_toJson⟩

theorem numberFree_textList (ts : List Text) : (textList ts).NumberFree := by
  apply numberFree_array
  simpa using fun t _ => numberFree_string t

theorem numberFree_toJson (op : Operation) : op.toJson.NumberFree := by
  apply numberFree_object
  cases op <;> simp [members, names?, departments?, numberFree_textList, numberFree_string]

theorem numberFree_listToJson (ops : List Operation) : (listToJson ops).NumberFree := by
  apply numberFree_array
  simpa using fun op _ => numberFree_toJson op

theorem depth_textList (ts : List Text) : (textList ts).depth ≤ 1 := by
  rw [textList, depth]
  apply itemsDepth_le
  simp [depth]

theorem depth_toJson (op : Operation) : op.toJson.depth ≤ 2 := by
  rw [toJson, depth]
  apply membersDepth_le
  cases op <;> simp [members, names?, departments?, depth_textList, depth]

/-- A list in a record in a list. -/
theorem depth_listToJson (ops : List Operation) : (listToJson ops).depth ≤ 3 := by
  rw [listToJson, depth]
  apply itemsDepth_le
  exact List.forall_mem_map.2 fun op _ => Nat.succ_le_succ (depth_toJson op)

theorem read?_listToJson (ops : List Operation) :
    read? (listToJson ops).compact = some (listToJson ops) ∧
      read? (listToJson ops).indented = some (listToJson ops) := by
  have hdepth : (listToJson ops).depth ≤ depthLimit :=
    Nat.le_trans (depth_listToJson ops) (by decide)
  exact ⟨read?_compact (numberFree_listToJson ops) hdepth,
    read?_indented (numberFree_listToJson ops) hdepth⟩

/-- The text of a list reads as the list of its records. -/
theorem listOfText_listToJson (ops : List Operation) :
    listOfText (listToJson ops).compact = listOfJson (listToJson ops) ∧
      listOfText (listToJson ops).indented = listOfJson (listToJson ops) := by
  obtain ⟨hcompact, hindented⟩ := read?_listToJson ops
  exact ⟨by rw [listOfText, hcompact], by rw [listOfText, hindented]⟩

end Operation

/-- Operations come back from what is written of them, indented, compact or as records, if and only
if all of them are valid. -/
theorem listOfText_formatOperations_iff (ops : List Operation) (indexed : Bool) :
    (∀ op ∈ ops, op.isValid = true) ↔
      Operation.listOfText (formatOperations .json indexed ops) = .ok ops ∧
        Operation.listOfText (Operation.listToJson ops).compact = .ok ops ∧
        Operation.listOfJson (Operation.listToJson ops) = .ok ops := by
  obtain ⟨hcompact, hindented⟩ := Operation.listOfText_listToJson ops
  rw [formatOperations, hindented, hcompact, ← Operation.listOfJson_listToJson, and_self, and_self]

/-- Names with a quotation mark, a backslash, control characters and one of an emoji come back. -/
theorem listOfText_quotedNames :
    let ops : List Operation :=
      [.add ["\"Bo\"\\b".toList, []] ["R&D\n\x00".toList] .overwrite,
        .remove [] ["😀 é".toList] .failSilently, .unknown]
    Operation.listOfText (formatOperations .json true ops) = .ok ops :=
  ((listOfText_formatOperations_iff _ true).1 (by decide)).1

end Roster
