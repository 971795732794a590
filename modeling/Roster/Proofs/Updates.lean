import Roster.Proofs.Records

/-! Updates of an operation. A call gives one field anew and checks the whole record again, or does
not apply; fields keep out of each other's way, so after any calls every field has the argument of
the last one on it that applied. -/
namespace Roster
open Json

/-- A call that gives a field of an operation anew. -/
inductive Update where
  | modifier (m : Modifier)
  | names (texts : List Text)
  | departments (texts : List Text)
  deriving DecidableEq, Repr

namespace Update

def field : Update → Text
  | modifier _ => Operation.modifierField
  | names _ => Operation.namesField
  | departments _ => Operation.departmentsField

def value : Update → Json
  | modifier m => .string m.name
  | names texts | departments texts => Operation.textList texts

def modifier? : Update → Option Modifier
  | modifier m => some m
  | _ => none

def names? : Update → Option (List Text)
  | names texts => some texts
  | _ => none

def departments? : Update → Option (List Text)
  | departments texts => some texts
  | _ => none

/-- The kind lacks the field, needs an element in it, or does not allow the modifier. -/
def Refused (kind : OperationKind) : Update → Prop
  | modifier m => kind = .unknown ∨ m ∉ kind.allowedModifiers
  | names texts => (kind ≠ .add ∧ kind ≠ .remove) ∨ (kind = .add ∧ texts = [])
  | departments texts => kind = .unknown ∨ texts = []

instance (kind : OperationKind) : (u : Update) → Decidable (u.Refused kind)
  | modifier _ | names _ | departments _ => inferInstanceAs (Decidable (_ ∨ _))

/-- The argument of the last update that applies, or else the value that was there. -/
def latest {α : Type} (arg? : Update → Option α) (kind : OperationKind) (us : List Update)
    (original : α) : α :=
  ((us.filter fun u => ¬u.Refused kind).filterMap arg?).getLastD original

theorem latest_nil {α : Type} (arg? : Update → Option α) (kind : OperationKind) :
    latest arg? kind [] = id := rfl

/-- The first call tells what is there for the later ones. -/
theorem latest_cons {α : Type} (arg? : Update → Option α) (kind : OperationKind) (u : Update)
    (us : List Update) (a : α) :
    latest arg? kind (u :: us) a =
      latest arg? kind us (if u.Refused kind then a else (arg? u).getD a) := by
  by_cases hu : u.Refused kind
  · simp [latest, hu]
  · cases harg : arg? u <;>
      simp only [latest, hu, harg, not_false_eq_true, decide_true, List.filter_cons_of_pos,
        List.filterMap_cons, List.getLastD_cons, Option.getD_none, Option.getD_some, ↓reduceIte]

/-- The field given anew in place. -/
def set (op : Operation) : Update → Operation
  | modifier m => op.setModifier m
  | names texts => op.setNames texts
  | departments texts => op.setDepartments texts

/-- The update without a check of the whole record. -/
def plain? (op : Operation) : Update → Option Operation
  | modifier m => op.withModifier? m
  | names texts => op.withNames? texts
  | departments texts => op.withDepartments? texts

/-- What a call gives, if it applies: the record with the field given anew, checked as a whole. -/
def call? (op : Operation) : Update → Option (Checked Operation)
  | modifier m =>
    if op.takesModifier m then some (op.rebuild [(Operation.modifierField, .string m.name)])
    else none
  | names texts => op.withNameItems? (texts.map .string)
  | departments texts => op.withDepartmentItems? (texts.map .string)

end Update

namespace Operation

/-- A call that does not apply keeps the operation. -/
def afterCall (op : Operation) (u : Update) : Checked Operation := (u.call? op).getD (.ok op)

def afterCalls (op : Operation) (us : List Update) : Checked Operation := us.foldlM afterCall op

/-- The operation that a call leaves, as far as its kind and the call tell. -/
def updated (op : Operation) (u : Update) : Operation :=
  if u.Refused op.kind then op else u.set op

/-- What an operation has become: in each field the argument of the last call that applied. -/
structure Reached (op : Operation) (us : List Update) (final : Operation) : Prop where
  kind_eq : final.kind = op.kind
  isValid : final.isValid = true
  modifier_eq : final.modifier = Update.latest Update.modifier? op.kind us op.modifier
  names_eq : final.names? = op.names?.map (Update.latest Update.names? op.kind us)
  departments_eq :
    final.departments? = op.departments?.map (Update.latest Update.departments? op.kind us)

variable {op : Operation} {u v : Update}

@[simp] theorem kind_set (op : Operation) (u : Update) : (u.set op).kind = op.kind := by
  cases u <;> cases op <;> rfl

theorem modifier_set (hu : ¬u.Refused op.kind) :
    (u.set op).modifier = u.modifier?.getD op.modifier := by
  cases u with
  | modifier m =>
    cases op with
    | unknown => exact absurd (.inl rfl) hu
    | create | add | remove | display => rfl
  | names | departments => cases op <;> rfl

theorem names?_set (op : Operation) (u : Update) :
    (u.set op).names? = op.names?.map u.names?.getD := by
  cases u <;> cases op <;> rfl

theorem departments?_set (op : Operation) (u : Update) :
    (u.set op).departments? = op.departments?.map u.departments?.getD := by
  cases u <;> cases op <;> rfl

theorem set_comm (op : Operation) (h : u.field ≠ v.field) :
    u.set (v.set op) = v.set (u.set op) := by
  cases u <;> cases v <;> first | exact absurd rfl h | (cases op <;> rfl)

theorem set_set (op : Operation) (h : u.field = v.field) : v.set (u.set op) = v.set op := by
  have hfields : [modifierField, namesField, departmentsField].Nodup := by decide
  cases u <;> cases v
  case modifier.modifier | names.names | departments.departments => cases op <;> rfl
  all_goals simp_all [Update.field]

theorem mem_allowedModifiers {kind : OperationKind} {m : Modifier} :
    m ∈ kind.allowedModifiers ↔ kind.allows m = true := by
  cases kind <;> cases m <;> decide

theorem takesModifier_iff {m : Modifier} :
    op.takesModifier m = true ↔ ¬(Update.modifier m).Refused op.kind := by
  simp [takesModifier, Update.Refused, mem_allowedModifiers]

theorem takesNames_iff {texts : List Text} :
    op.takesNames texts.isEmpty = true ↔ ¬(Update.names texts).Refused op.kind := by
  cases op <;> simp [takesNames, Update.Refused, kind]

theorem takesDepartments_iff {texts : List Text} :
    op.takesDepartments texts.isEmpty = true ↔ ¬(Update.departments texts).Refused op.kind := by
  simp [takesDepartments, Update.Refused]

theorem plain?_eq (op : Operation) (u : Update) :
    u.plain? op = if u.Refused op.kind then none else some (u.set op) := by
  cases u with
  | modifier m => simp only [Update.plain?, withModifier?, takesModifier_iff, ite_not, Update.set]
  | names texts => simp only [Update.plain?, withNames?, takesNames_iff, ite_not, Update.set]
  | departments texts =>
    simp only [Update.plain?, withDepartments?, takesDepartments_iff, ite_not, Update.set]

theorem isValid_set (hv : op.isValid = true) (hu : ¬u.Refused op.kind) :
    (u.set op).isValid = true := by
  cases u with
  | modifier m => exact isValid_setModifier hv (takesModifier_iff.2 hu)
  | names texts => cases op <;> simp_all [Update.Refused, Update.set, setNames, isValid, kind]
  | departments texts =>
    cases op <;> simp_all [Update.Refused, Update.set, setDepartments, isValid, kind]

theorem member?_concat (name field : Text) (v : Json) (fields : List (Text × Json)) :
    member? name (fields ++ [(field, v)]) = if name = field then some v else member? name fields := by
  rw [member?, List.reverse_concat, List.lookup_cons, member?]
  by_cases h : name = field
  · rw [if_pos h, beq_iff_eq.2 h]
  · rw [if_neg h, beq_eq_false_iff_ne.2 h]

/-- A record with one field given anew is read as the operation that has its fields. -/
theorem rebuild_eq_ok {op' : Operation} {field : Text} {v : Json} (hv : op'.isValid = true)
    (hkind : op'.kind = op.kind) (hk : kindField ≠ field)
    (hm : (if modifierField = field then some v else some (.string op.modifier.name)) =
      some (.string op'.modifier.name))
    (hn : (if namesField = field then some v else op.names?.map textList) =
      op'.names?.map textList)
    (hd : (if departmentsField = field then some v else op.departments?.map textList) =
      op'.departments?.map textList) :
    op.rebuild [(field, v)] = .ok op' := by
  have hread := ofMembers_members hv
  rw [ofMembers, member?_modifier, member?_kind, member?_names, member?_departments, hkind]
    at hread
  rw [rebuild, ofMembers, member?_concat, member?_concat, member?_concat, member?_concat,
    member?_modifier, member?_kind, member?_names, member?_departments, hm, if_neg hk, hn, hd]
  exact hread

/-- The check of the whole record does not fail. -/
theorem rebuild_update (hv : op.isValid = true) (hu : ¬u.Refused op.kind) :
    op.rebuild [(u.field, u.value)] = .ok (u.set op) := by
  have hfields : [modifierField, kindField, namesField, departmentsField].Nodup := by decide
  simp only [List.nodup_cons, List.mem_cons, List.not_mem_nil, not_or, or_false] at hfields
  obtain ⟨⟨hmk, hmn, hmd⟩, ⟨hkn, hkd⟩, hnd, -⟩ := hfields
  have hset := isValid_set hv hu
  cases u with
  | modifier m =>
    refine rebuild_eq_ok hset (kind_set op _) (Ne.symm hmk) ?_ ?_ ?_
    · rw [modifier_set hu]
      exact if_pos rfl
    · rw [names?_set, Option.map_map]
      exact if_neg (Ne.symm hmn)
    · rw [departments?_set, Option.map_map]
      exact if_neg (Ne.symm hmd)
  | names texts =>
    refine rebuild_eq_ok hset (kind_set op _) hkn ?_ ?_ ?_
    · rw [modifier_set hu]
      exact if_neg hmn
    · rw [names?_set]
      cases op with
      | add | remove => exact if_pos rfl
      | create | display | unknown => simp [Update.Refused, kind] at hu
    · rw [departments?_set, Option.map_map]
      exact if_neg (Ne.symm hnd)
  | departments texts =>
    refine rebuild_eq_ok hset (kind_set op _) hkd ?_ ?_ ?_
    · rw [modifier_set hu]
      exact if_neg hmd
    · rw [names?_set, Option.map_map]
      exact if_neg hnd
    · rw [departments?_set]
      cases op with
      | unknown => exact absurd (.inl rfl) hu
      | create | add | remove | display => exact if_pos rfl

theorem call?_eq (op : Operation) (u : Update) :
    u.call? op = if u.Refused op.kind then none else some (op.rebuild [(u.field, u.value)]) := by
  cases u with
  | modifier m => simp only [Update.call?, takesModifier_iff, ite_not]; rfl
  | names texts =>
    simp only [Update.call?, withNameItems?, List.isEmpty_map, takesNames_iff, ite_not]
    rfl
  | departments texts =>
    simp only [Update.call?, withDepartmentItems?, List.isEmpty_map, takesDepartments_iff, ite_not]
    rfl

theorem call?_eq_plain? (hv : op.isValid = true) (u : Update) :
    u.call? op = (u.plain? op).map .ok := by
  rw [call?_eq, plain?_eq]
  by_cases hu : u.Refused op.kind
  · rw [if_pos hu, if_pos hu]
    rfl
  · rw [if_neg hu, if_neg hu, rebuild_update hv hu]
    rfl

theorem call?_eq_none_iff (op : Operation) (u : Update) :
    u.call? op = none ↔ u.Refused op.kind := by
  rw [call?_eq]
  split
  · next hu => simp [hu]
  · next hu => simp [hu]

theorem kind_updated (op : Operation) (u : Update) : (op.updated u).kind = op.kind := by
  rw [updated]
  split
  · rfl
  · exact kind_set op u

theorem isValid_updated (hv : op.isValid = true) (u : Update) : (op.updated u).isValid = true := by
  rw [updated]
  split
  · exact hv
  · next hu => exact isValid_set hv hu

theorem afterCall_eq_ok (hv : op.isValid = true) (u : Update) :
    op.afterCall u = .ok (op.updated u) := by
  rw [afterCall, call?_eq, updated]
  split
  · rfl
  · next hu => exact rebuild_update hv hu

theorem afterCalls_append (op : Operation) (us vs : List Update) :
    op.afterCalls (us ++ vs) = op.afterCalls us >>= fun op' => op'.afterCalls vs :=
  List.foldlM_append

theorem afterCalls_cons (hv : op.isValid = true) (u : Update) (us : List Update) :
    op.afterCalls (u :: us) = (op.updated u).afterCalls us := by
  rw [afterCalls, List.foldlM_cons, afterCall_eq_ok hv]
  rfl

theorem modifier_updated (op : Operation) (u : Update) : (op.updated u).modifier =
    if u.Refused op.kind then op.modifier else u.modifier?.getD op.modifier := by
  rw [updated]
  split
  · rfl
  · next hu => exact modifier_set hu

theorem names?_updated (op : Operation) (u : Update) : (op.updated u).names? =
    op.names?.map fun names => if u.Refused op.kind then names else u.names?.getD names := by
  rw [updated]
  split
  · exact Option.map_id'.symm
  · exact names?_set op u

theorem departments?_updated (op : Operation) (u : Update) : (op.updated u).departments? =
    op.departments?.map fun departments =>
      if u.Refused op.kind then departments else u.departments?.getD departments := by
  rw [updated]
  split
  · exact Option.map_id'.symm
  · exact departments?_set op u

theorem Reached.cons {us : List Update} {final : Operation} (h : Reached (op.updated u) us final) :
    Reached op (u :: us) final := by
  obtain ⟨hkind, hvalid, hmodifier, hnames, hdepartments⟩ := h
  rw [kind_updated] at hkind hmodifier hnames hdepartments
  refine ⟨hkind, hvalid, ?_, ?_, ?_⟩
  · rw [Update.latest_cons, ← modifier_updated]
    exact hmodifier
  · rw [hnames, names?_updated, Option.map_map]
    exact congrArg (op.names?.map ·) (funext fun _ => (Update.latest_cons _ _ _ _ _).symm)
  · rw [hdepartments, departments?_updated, Option.map_map]
    exact congrArg (op.departments?.map ·) (funext fun _ => (Update.latest_cons _ _ _ _ _).symm)

/-- No call fails, and each leaves the other fields as they are. -/
theorem exists_reached (hv : op.isValid = true) (us : List Update) :
    ∃ final, op.afterCalls us = .ok final ∧ Reached op us final := by
  induction us generalizing op with
  | nil => exact ⟨op, rfl, rfl, hv, rfl, by simp [Update.latest_nil],
    by simp [Update.latest_nil]⟩
  | cons u us ih =>
    obtain ⟨final, hfinal, h⟩ := ih (isValid_updated hv u)
    exact ⟨final, by rw [afterCalls_cons hv, hfinal], h.cons⟩

theorem updated_comm (op : Operation) (h : u.field ≠ v.field) :
    (op.updated u).updated v = (op.updated v).updated u := by
  rw [updated, kind_updated, updated, updated, kind_updated, updated]
  split
  · rfl
  · split
    · rfl
    · exact (set_comm op h).symm

theorem updated_updated (op : Operation) (h : u.field = v.field) (hv : ¬v.Refused op.kind) :
    (op.updated u).updated v = op.updated v := by
  rw [updated, kind_updated, if_neg hv, updated, updated, if_neg hv]
  split
  · rfl
  · exact set_set op h

/-- Calls on different fields may change places. -/
theorem afterCalls_swap (hv : op.isValid = true) (h : u.field ≠ v.field) (us vs : List Update) :
    op.afterCalls (us ++ u :: v :: vs) = op.afterCalls (us ++ v :: u :: vs) := by
  obtain ⟨op', hop, hreached⟩ := exists_reached hv us
  have hv' := hreached.isValid
  rw [afterCalls_append, afterCalls_append, hop]
  change op'.afterCalls (u :: v :: vs) = op'.afterCalls (v :: u :: vs)
  rw [afterCalls_cons hv', afterCalls_cons (isValid_updated hv' u), updated_comm op' h,
    ← afterCalls_cons (isValid_updated hv' v), ← afterCalls_cons hv']

/-- A call that applies hides the one before it on the same field. -/
theorem afterCalls_overwrite (hv : op.isValid = true) (h : u.field = v.field)
    (happlies : ¬v.Refused op.kind) (us vs : List Update) :
    op.afterCalls (us ++ u :: v :: vs) = op.afterCalls (us ++ v :: vs) := by
  obtain ⟨op', hop, hreached⟩ := exists_reached hv us
  have hv' := hreached.isValid
  rw [← hreached.kind_eq] at happlies
  rw [afterCalls_append, afterCalls_append, hop]
  change op'.afterCalls (u :: v :: vs) = op'.afterCalls (v :: vs)
  rw [afterCalls_cons hv', afterCalls_cons (isValid_updated hv' u), updated_updated op' h happlies,
    ← afterCalls_cons hv']

/-- From a valid operation, no calls fail, and the operation they lead to has in each field the
argument of the last call that applied. A call does not apply exactly if the kind refuses it; calls
on different fields commute, and a later one on a field hides an earlier one. -/
theorem afterCalls_eq_ok_reached (hv : op.isValid = true) (us : List Update) :
    ∃ final, op.afterCalls us = .ok final ∧ Reached op us final ∧
      (∀ u : Update, u.call? final = (u.plain? final).map .ok ∧
        (u.call? final = none ↔ u.Refused op.kind)) ∧
      (∀ (u v : Update) (vs : List Update), u.field ≠ v.field →
        op.afterCalls (us ++ u :: v :: vs) = op.afterCalls (us ++ v :: u :: vs)) ∧
      ∀ (u v : Update) (vs : List Update), u.field = v.field → ¬v.Refused op.kind →
        op.afterCalls (us ++ u :: v :: vs) = op.afterCalls (us ++ v :: vs) := by
  obtain ⟨final, hfinal, h⟩ := exists_reached hv us
  refine ⟨final, hfinal, h, fun u => ⟨call?_eq_plain? h.isValid u, ?_⟩,
    fun _ _ vs hne => afterCalls_swap hv hne us vs,
    fun _ _ vs heq happlies => afterCalls_overwrite hv heq happlies us vs⟩
  rw [call?_eq_none_iff, h.kind_eq]

def annRemoved : Operation := .remove ["Ann".toList] ["Sales".toList] .plain

/-- Two calls that do not apply, and one that leaves no name, which `Remove` allows. -/
def removalUpdates : List Update :=
  [.modifier .failSilently, .names [], .modifier .overwrite, .departments ["HR".toList],
    .departments []]

theorem afterCalls_removalUpdates :
    annRemoved.isValid = true ∧ ∃ final, annRemoved.afterCalls removalUpdates = .ok final ∧
      final.kind = .remove ∧ final.modifier = .failSilently ∧ final.names? = some [] ∧
      final.departments? = some ["HR".toList] := by
  have hv : annRemoved.isValid = true := by decide
  obtain ⟨final, hfinal, h, -⟩ := afterCalls_eq_ok_reached hv removalUpdates
  exact ⟨hv, final, hfinal, h.kind_eq, h.modifier_eq.trans (by decide),
    h.names_eq.trans (by decide), h.departments_eq.trans (by decide)⟩

end Operation
end Roster
