import Mathlib.Logic.Basic
import Mathlib.Tactic.ByContra
import Roster.Proofs.SettingsFile

/-! What a settings document has to meet. The conditions are looked at one after another; a document
that meets them all gives each setting its own value, and of any other the first broken condition
is reported. Nothing else in the document matters. -/
namespace Roster

/-- A look-up by name gives what has the name. -/
theorem name_of_find? {α : Type} {all : List α} {name : α → Text} {s : Text} {a : α}
    (h : all.find? (fun b => name b == s) = some a) : name a = s := by
  have hname := List.find?_some h
  exact eq_of_beq hname

theorem find?_name_eq_none {α : Type} {all : List α} {name : α → Text} {s : Text} :
    all.find? (fun b => name b == s) = none ↔ s ∉ all.map name := by
  simp

namespace Settings

/-- What a document says under a key of a section; nothing if the section is no table. -/
def valueAt? (doc : Toml.Table) (part name : Text) : Option Toml.Value :=
  match doc.lookup part with
  | some (.table t) => t.lookup name
  | _ => none

def promptKey : Text := "prompt".toList
def continuationPromptKey : Text := "continuation_prompt".toList
def formatKey : Text := "format".toList
def indexedKey : Text := "show_index".toList
def levelKey : Text := "level".toList

/-- What a document has to meet. -/
inductive Condition where
  | isTable (part : Text)
  | isText (part name : Text)
  | isBoolean (part name : Text)
  | knownFormat
  | knownLevel
  deriving DecidableEq, Repr

namespace Condition

/-- Conditions are met where nothing is said. -/
def Holds (doc : Toml.Table) : Condition → Prop
  | isTable part => doc.lookup part = none ∨ ∃ t, doc.lookup part = some (.table t)
  | isText part name =>
    valueAt? doc part name = none ∨ ∃ s, valueAt? doc part name = some (.string s)
  | isBoolean part name =>
    valueAt? doc part name = none ∨ ∃ b, valueAt? doc part name = some (.boolean b)
  | knownFormat => ∀ s, valueAt? doc outputPart formatKey = some (.string s) →
    s ∈ ["text".toList, "json".toList]
  | knownLevel => ∀ s, valueAt? doc loggingPart levelKey = some (.string s) →
    s.upper ∈ ["DEBUG".toList, "INFO".toList, "WARNING".toList, "ERROR".toList, "CRITICAL".toList]

/-- What is said of a document that breaks a condition. -/
inductive Complaint (doc : Toml.Table) : Condition → SettingsFault → Prop
  | notTable {part : Text} : Complaint doc (isTable part) (.notTable part)
  | notText {part name : Text} {v : Toml.Value} : valueAt? doc part name = some v →
      Complaint doc (isText part name) (.wrongType (dottedName part name) "str".toList v.typeName)
  | notBoolean {part name : Text} {v : Toml.Value} : valueAt? doc part name = some v →
      Complaint doc (isBoolean part name)
        (.wrongType (dottedName part name) "bool".toList v.typeName)
  | unknownFormat {given : Text} : valueAt? doc outputPart formatKey = some (.string given) →
      Complaint doc knownFormat (.unknownFormat given)
  | unknownLevel {given : Text} : valueAt? doc loggingPart levelKey = some (.string given) →
      Complaint doc knownLevel (.unknownLevel given.upper)

/-- All conditions, in the order in which they are looked at. -/
def all : List Condition :=
  [isTable replPart, isTable outputPart, isTable loggingPart, isText replPart promptKey,
    isText replPart continuationPromptKey, isText outputPart formatKey, knownFormat,
    isBoolean outputPart indexedKey, isText loggingPart levelKey, knownLevel]

end Condition

/-- The fault is that of the first condition that the document breaks. -/
def FirstBroken (doc : Toml.Table) (conditions : List Condition) (fault : SettingsFault) : Prop :=
  ∃ earlier c later, conditions = earlier ++ c :: later ∧ (∀ c' ∈ earlier, c'.Holds doc) ∧
    ¬c.Holds doc ∧ c.Complaint doc fault

/-- What a document says under a key, if it is a text. -/
def textOr (doc : Toml.Table) (part name default : Text) : Text :=
  match valueAt? doc part name with
  | some (.string s) => s
  | _ => default

/-- What a document says under a key, if it is a boolean. -/
def booleanOr (doc : Toml.Table) (part name : Text) (default : Bool) : Bool :=
  match valueAt? doc part name with
  | some (.boolean b) => b
  | _ => default

/-- Each setting is what the document says under its key, or else its default. -/
structure Stated (doc : Toml.Table) (settings : Settings) : Prop where
  prompt_eq : settings.prompt = textOr doc replPart promptKey "> ".toList
  continuationPrompt_eq :
    settings.continuationPrompt = textOr doc replPart continuationPromptKey ".. ".toList
  format_eq : settings.format.name = textOr doc outputPart formatKey "text".toList
  indexed_eq : settings.indexed = booleanOr doc outputPart indexedKey true
  level_eq : settings.level.name = (textOr doc loggingPart levelKey "WARNING".toList).upper

variable {doc doc' : Toml.Table} {c : Condition} {cs : List Condition} {fault : SettingsFault}

theorem Condition.exists_complaint (h : ¬c.Holds doc) : ∃ fault, c.Complaint doc fault := by
  cases c with
  | isTable part => exact ⟨_, .notTable⟩
  | isText part name =>
    cases hv : valueAt? doc part name with
    | none => exact absurd (.inl hv) h
    | some v => exact ⟨_, .notText hv⟩
  | isBoolean part name =>
    cases hv : valueAt? doc part name with
    | none => exact absurd (.inl hv) h
    | some v => exact ⟨_, .notBoolean hv⟩
  | knownFormat =>
    simp only [Holds, not_forall] at h
    obtain ⟨s, hs, -⟩ := h
    exact ⟨_, .unknownFormat hs⟩
  | knownLevel =>
    simp only [Holds, not_forall] at h
    obtain ⟨s, hs, -⟩ := h
    exact ⟨_, .unknownLevel hs⟩

theorem not_firstBroken_nil : ¬FirstBroken doc [] fault := by
  rintro ⟨earlier, c, later, h, -⟩
  simp at h

theorem firstBroken_cons : FirstBroken doc (c :: cs) fault ↔
    (¬c.Holds doc ∧ c.Complaint doc fault) ∨ (c.Holds doc ∧ FirstBroken doc cs fault) := by
  constructor
  · rintro ⟨earlier, d, later, heq, hearlier, hd, hfault⟩
    cases earlier with
    | nil =>
      obtain ⟨rfl, rfl⟩ := List.cons.inj heq
      exact .inl ⟨hd, hfault⟩
    | cons b earlier =>
      obtain ⟨rfl, rfl⟩ := List.cons.inj heq
      obtain ⟨hb, hearlier⟩ := List.forall_mem_cons.1 hearlier
      exact .inr ⟨hb, earlier, d, later, rfl, hearlier, hd, hfault⟩
  · rintro (⟨hc, hfault⟩ | ⟨hc, earlier, d, later, rfl, hearlier, hd, hfault⟩)
    · exact ⟨[], c, cs, rfl, by simp, hc, hfault⟩
    · exact ⟨c :: earlier, d, later, rfl, List.forall_mem_cons.2 ⟨hc, hearlier⟩, hd, hfault⟩

theorem forall_holds_iff : (∀ c ∈ cs, c.Holds doc) ↔ ∀ fault, ¬FirstBroken doc cs fault := by
  induction cs with
  | nil => simp [not_firstBroken_nil]
  | cons c cs ih =>
    simp only [List.forall_mem_cons, firstBroken_cons, ih]
    constructor
    · rintro ⟨hc, hcs⟩ fault (⟨hnot, -⟩ | ⟨-, h⟩)
      · exact hnot hc
      · exact hcs fault h
    · intro h
      have hc : c.Holds doc := by
        by_contra hnot
        obtain ⟨fault, hfault⟩ := Condition.exists_complaint hnot
        exact h fault (.inl ⟨hnot, hfault⟩)
      exact ⟨hc, fun fault hfault => h fault (.inr ⟨hc, hfault⟩)⟩

/-- A step fails exactly if a condition is broken, and says so. -/
structure Judges {α : Type} (doc : Toml.Table) (c : Condition) (x : Except SettingsFault α) :
    Prop where
  holds : ∀ a, x = .ok a → c.Holds doc
  broken : ∀ fault, x = .error fault ↔ ¬c.Holds doc ∧ c.Complaint doc fault

theorem Judges.bind_eq_error {α β : Type} {x : Except SettingsFault α}
    {f : α → Except SettingsFault β} (h : Judges doc c x)
    (hf : ∀ a, x = .ok a → (f a = .error fault ↔ FirstBroken doc cs fault)) :
    (x >>= f) = .error fault ↔ FirstBroken doc (c :: cs) fault := by
  rw [Except.bind_eq_error, firstBroken_cons, h.broken]
  refine or_congr_right ?_
  constructor
  · rintro ⟨a, ha, hfault⟩
    exact ⟨h.holds a ha, (hf a ha).1 hfault⟩
  · rintro ⟨hc, hfault⟩
    cases hx : x with
    | ok a => exact ⟨a, rfl, (hf a hx).2 hfault⟩
    | error e => exact absurd hc ((h.broken e).1 hx).1

theorem Judges.of_ok {α : Type} {x : Except SettingsFault α} {a : α} (hx : x = .ok a)
    (hc : c.Holds doc) : Judges doc c x :=
  ⟨fun _ _ => hc, fun _ => ⟨fun h => absurd (hx.symm.trans h) (by simp), fun h => absurd hc h.1⟩⟩

theorem Judges.of_error {α : Type} {x : Except SettingsFault α} (hx : x = .error fault)
    (hc : ¬c.Holds doc) (hfault : ∀ fault', c.Complaint doc fault' ↔ fault' = fault) :
    Judges doc c x := by
  refine ⟨fun a ha => absurd (hx.symm.trans ha) (by simp), fun fault' => ?_⟩
  rw [hx, Except.error.injEq, hfault, and_iff_right hc, eq_comm]

theorem judges_tableAt (doc : Toml.Table) (part : Text) :
    Judges doc (.isTable part) (tableAt doc part) := by
  rw [tableAt]
  split
  next h => exact .of_ok rfl (.inl h)
  next t h => exact .of_ok rfl (.inr ⟨t, h⟩)
  next v hv h =>
    refine .of_error rfl ?_ fun fault => ⟨?_, ?_⟩
    · rintro (hnone | ⟨t, ht⟩)
      · simp [h] at hnone
      · rw [h] at ht
        exact hv t (Option.some.inj ht)
    · rintro ⟨⟩
      rfl
    · rintro rfl
      exact .notTable

/-- In the table of a section stands what the document says. -/
theorem lookup_of_tableAt {part : Text} {t : Toml.Table} (h : tableAt doc part = .ok t)
    (name : Text) : t.lookup name = valueAt? doc part name := by
  rw [tableAt] at h
  rw [valueAt?]
  split at h
  next hnone =>
    cases h
    rw [hnone]
    rfl
  next t' ht =>
    cases h
    rw [ht]
  next => cases h

variable {part : Text} {t : Toml.Table}

theorem judges_textAt (h : tableAt doc part = .ok t) (name default : Text) :
    Judges doc (.isText part name) (textAt t part name default) := by
  rw [textAt, lookup_of_tableAt h]
  split
  next hv => exact .of_ok rfl (.inl hv)
  next s hv => exact .of_ok rfl (.inr ⟨s, hv⟩)
  next v hne hv =>
    refine .of_error rfl ?_ fun fault => ⟨?_, ?_⟩
    · rintro (hnone | ⟨s, hs⟩)
      · simp [hv] at hnone
      · rw [hv] at hs
        exact hne s (Option.some.inj hs)
    · intro hcomplaint
      cases hcomplaint with
      | notText hv' =>
        rw [hv] at hv'
        rw [Option.some.inj hv']
    · rintro rfl
      exact .notText hv

theorem judges_boolAt (h : tableAt doc part = .ok t) (name : Text) (default : Bool) :
    Judges doc (.isBoolean part name) (boolAt t part name default) := by
  rw [boolAt, lookup_of_tableAt h]
  split
  next hv => exact .of_ok rfl (.inl hv)
  next b hv => exact .of_ok rfl (.inr ⟨b, hv⟩)
  next v hne hv =>
    refine .of_error rfl ?_ fun fault => ⟨?_, ?_⟩
    · rintro (hnone | ⟨b, hb⟩)
      · simp [hv] at hnone
      · rw [hv] at hb
        exact hne b (Option.some.inj hb)
    · intro hcomplaint
      cases hcomplaint with
      | notBoolean hv' =>
        rw [hv] at hv'
        rw [Option.some.inj hv']
    · rintro rfl
      exact .notBoolean hv

theorem textAt_eq_ok (h : tableAt doc part = .ok t) {name default s : Text}
    (hs : textAt t part name default = .ok s) :
    valueAt? doc part name = some (.string s) ∨ valueAt? doc part name = none ∧ s = default := by
  rw [textAt, lookup_of_tableAt h] at hs
  split at hs
  next hv => exact .inr ⟨hv, (Except.ok.inj hs).symm⟩
  next s' hv =>
    cases hs
    exact .inl hv
  next => cases hs

theorem eq_textOr_of_textAt (h : tableAt doc part = .ok t) {name default s : Text}
    (hs : textAt t part name default = .ok s) : s = textOr doc part name default := by
  rcases textAt_eq_ok h hs with hv | ⟨hv, rfl⟩ <;> rw [textOr, hv]

theorem eq_booleanOr_of_boolAt (h : tableAt doc part = .ok t) {name : Text} {default b : Bool}
    (hb : boolAt t part name default = .ok b) : b = booleanOr doc part name default := by
  rw [boolAt, lookup_of_tableAt h] at hb
  rw [booleanOr]
  split at hb
  next hv => rw [hv, Except.ok.inj hb]
  next b' hv => rw [hv, Except.ok.inj hb]
  next => cases hb

theorem formatOf_eq_ok {given : Text} {f : OutputFormat} (h : formatOf given = .ok f) :
    f.name = given := by
  rw [formatOf] at h
  split at h
  next hf =>
    cases h
    exact name_of_find? hf
  next => cases h

theorem levelOf_eq_ok {given : Text} {l : LogLevel} (h : levelOf given = .ok l) :
    l.name = given.upper := by
  rw [levelOf] at h
  split at h
  next hl =>
    cases h
    exact name_of_find? hl
  next => cases h

/-- A text that has been read is what the document says, unless it is a default that will do. -/
theorem forall_valueAt?_iff (h : tableAt doc part = .ok t) {name default given : Text}
    (hs : textAt t part name default = .ok given) {P : Text → Prop} (hdefault : P default) :
    (∀ s, valueAt? doc part name = some (.string s) → P s) ↔ P given := by
  rcases textAt_eq_ok h hs with hv | ⟨hv, rfl⟩
  · simp [hv]
  · simp [hv, hdefault]

theorem valueAt?_of_not (h : tableAt doc part = .ok t) {name default given : Text}
    (hs : textAt t part name default = .ok given) {P : Text → Prop} (hdefault : P default)
    (hgiven : ¬P given) : valueAt? doc part name = some (.string given) := by
  rcases textAt_eq_ok h hs with hv | ⟨-, rfl⟩
  · exact hv
  · exact absurd hdefault hgiven

theorem judges_formatOf (h : tableAt doc outputPart = .ok t) {given : Text}
    (hs : textAt t outputPart formatKey defaults.format.name = .ok given) :
    Judges doc .knownFormat (formatOf given) := by
  have hdefault : defaults.format.name ∈ OutputFormat.all.map OutputFormat.name := by decide
  have hholds : Condition.knownFormat.Holds doc ↔ given ∈ OutputFormat.all.map OutputFormat.name :=
    forall_valueAt?_iff h hs hdefault
  rw [formatOf]
  split
  next f hf =>
    refine .of_ok rfl (hholds.2 ?_)
    rw [← name_of_find? hf]
    exact List.mem_map_of_mem (List.mem_of_find?_eq_some hf)
  next hnone =>
    have hgiven := find?_name_eq_none.1 hnone
    have hv := valueAt?_of_not h hs hdefault hgiven
    refine .of_error rfl (mt hholds.1 hgiven) fun fault => ⟨?_, ?_⟩
    · intro hcomplaint
      cases hcomplaint with
      | unknownFormat hv' =>
        rw [hv] at hv'
        cases hv'
        rfl
    · rintro rfl
      exact .unknownFormat hv

theorem judges_levelOf (h : tableAt doc loggingPart = .ok t) {given : Text}
    (hs : textAt t loggingPart levelKey defaults.level.name = .ok given) :
    Judges doc .knownLevel (levelOf given) := by
  have hdefault : defaults.level.name.upper ∈ LogLevel.all.map LogLevel.name := by decide
  have hholds : Condition.knownLevel.Holds doc ↔
      given.upper ∈ LogLevel.all.map LogLevel.name := forall_valueAt?_iff h hs hdefault
  rw [levelOf]
  split
  next l hl =>
    refine .of_ok rfl (hholds.2 ?_)
    rw [← name_of_find? hl]
    exact List.mem_map_of_mem (List.mem_of_find?_eq_some hl)
  next hnone =>
    have hgiven := find?_name_eq_none.1 hnone
    have hv := valueAt?_of_not h hs (P := fun s => s.upper ∈ LogLevel.all.map LogLevel.name)
      hdefault hgiven
    refine .of_error rfl (mt hholds.1 hgiven) fun fault => ⟨?_, ?_⟩
    · intro hcomplaint
      cases hcomplaint with
      | unknownLevel hv' =>
        rw [hv] at hv'
        cases hv'
        rfl
    · rintro rfl
      exact .unknownLevel hv

/-- The fault of a document is that of its first broken condition. -/
theorem ofTable_eq_error_iff :
    ofTable doc = .error fault ↔ FirstBroken doc Condition.all fault := by
  refine (judges_tableAt doc replPart).bind_eq_error fun repl hrepl => ?_
  refine (judges_tableAt doc outputPart).bind_eq_error fun output houtput => ?_
  refine (judges_tableAt doc loggingPart).bind_eq_error fun logging hlogging => ?_
  refine (judges_textAt hrepl _ _).bind_eq_error fun prompt _ => ?_
  refine (judges_textAt hrepl _ _).bind_eq_error fun continuationPrompt _ => ?_
  refine (judges_textAt houtput _ _).bind_eq_error fun given hgiven => ?_
  refine (judges_formatOf houtput hgiven).bind_eq_error fun format _ => ?_
  refine (judges_boolAt houtput _ _).bind_eq_error fun indexed _ => ?_
  refine (judges_textAt hlogging _ _).bind_eq_error fun given hgiven => ?_
  refine (judges_levelOf hlogging hgiven).bind_eq_error fun level _ => ?_
  exact iff_of_false (by simp [pure, Except.pure]) not_firstBroken_nil

theorem stated_of_ofTable {settings : Settings} (h : ofTable doc = .ok settings) :
    Stated doc settings := by
  obtain ⟨repl, hrepl, h⟩ := Except.bind_eq_ok.1 h
  obtain ⟨output, houtput, h⟩ := Except.bind_eq_ok.1 h
  obtain ⟨logging, hlogging, h⟩ := Except.bind_eq_ok.1 h
  obtain ⟨prompt, hprompt, h⟩ := Except.bind_eq_ok.1 h
  obtain ⟨continuationPrompt, hcontinuation, h⟩ := Except.bind_eq_ok.1 h
  obtain ⟨given, hgiven, h⟩ := Except.bind_eq_ok.1 h
  obtain ⟨format, hformat, h⟩ := Except.bind_eq_ok.1 h
  obtain ⟨indexed, hindexed, h⟩ := Except.bind_eq_ok.1 h
  obtain ⟨given', hgiven', h⟩ := Except.bind_eq_ok.1 h
  obtain ⟨level, hlevel, h⟩ := Except.bind_eq_ok.1 h
  obtain rfl := Except.ok.inj h
  refine ⟨eq_textOr_of_textAt hrepl hprompt, eq_textOr_of_textAt hrepl hcontinuation, ?_,
    eq_booleanOr_of_boolAt houtput hindexed, ?_⟩
  · rw [formatOf_eq_ok hformat]
    exact eq_textOr_of_textAt houtput hgiven
  · rw [levelOf_eq_ok hlevel, eq_textOr_of_textAt hlogging hgiven']
    rfl

theorem ofTable_eq_ok_iff :
    (∃ settings, ofTable doc = .ok settings) ↔ ∀ c ∈ Condition.all, c.Holds doc := by
  rw [forall_holds_iff]
  simp only [← ofTable_eq_error_iff]
  cases ofTable doc with
  | ok settings => simp
  | error fault => simp

/-- The documents agree on which sections are tables and on the keys of the settings. -/
structure DocumentsAlike (doc doc' : Toml.Table) : Prop where
  parts : ∀ part ∈ [replPart, outputPart, loggingPart],
    (Condition.isTable part).Holds doc ↔ (Condition.isTable part).Holds doc'
  keys : ∀ key ∈ [(replPart, promptKey), (replPart, continuationPromptKey), (outputPart, formatKey),
      (outputPart, indexedKey), (loggingPart, levelKey)],
    valueAt? doc key.1 key.2 = valueAt? doc' key.1 key.2

theorem tableAt_bind_congr {α : Type} {f f' : Toml.Table → Except SettingsFault α}
    (hpart : (Condition.isTable part).Holds doc ↔ (Condition.isTable part).Holds doc')
    (hf : ∀ t t', tableAt doc part = .ok t → tableAt doc' part = .ok t' → f t = f' t') :
    (tableAt doc part >>= f) = (tableAt doc' part >>= f') := by
  cases h : tableAt doc part with
  | ok t =>
    have hholds := (judges_tableAt doc part).holds t h
    cases h' : tableAt doc' part with
    | ok t' => exact hf t t' h h'
    | error e => exact absurd (hpart.1 hholds) (((judges_tableAt doc' part).broken e).1 h').1
  | error e =>
    obtain ⟨hnot, ⟨⟩⟩ := ((judges_tableAt doc part).broken e).1 h
    have h' := ((judges_tableAt doc' part).broken (.notTable part)).2 ⟨mt hpart.2 hnot, .notTable⟩
    rw [h']
    rfl

theorem bind_eq_bind {α β : Type} {x x' : Except SettingsFault α}
    {f f' : α → Except SettingsFault β} (hx : x = x') (hf : ∀ a, f a = f' a) :
    (x >>= f) = (x' >>= f') := by
  rw [hx, funext hf]

theorem textAt_congr {t' : Toml.Table} (h : tableAt doc part = .ok t)
    (h' : tableAt doc' part = .ok t') {name : Text}
    (hkey : valueAt? doc part name = valueAt? doc' part name) (default : Text) :
    textAt t part name default = textAt t' part name default := by
  rw [textAt, textAt, lookup_of_tableAt h, lookup_of_tableAt h', hkey]

theorem boolAt_congr {t' : Toml.Table} (h : tableAt doc part = .ok t)
    (h' : tableAt doc' part = .ok t') {name : Text}
    (hkey : valueAt? doc part name = valueAt? doc' part name) (default : Bool) :
    boolAt t part name default = boolAt t' part name default := by
  rw [boolAt, boolAt, lookup_of_tableAt h, lookup_of_tableAt h', hkey]

/-- All other keys and sections are ignored. -/
theorem ofTable_congr (h : DocumentsAlike doc doc') : ofTable doc = ofTable doc' := by
  have hparts := h.parts
  have hkeys := h.keys
  simp only [List.forall_mem_cons] at hparts hkeys
  obtain ⟨hrepl, houtput, hlogging, -⟩ := hparts
  obtain ⟨hprompt, hcontinuation, hformat, hindexed, hlevel, -⟩ := hkeys
  refine tableAt_bind_congr hrepl fun repl repl' hr hr' => ?_
  refine tableAt_bind_congr houtput fun output output' ho ho' => ?_
  refine tableAt_bind_congr hlogging fun logging logging' hl hl' => ?_
  refine bind_eq_bind (textAt_congr hr hr' hprompt _) fun prompt => ?_
  refine bind_eq_bind (textAt_congr hr hr' hcontinuation _) fun continuationPrompt => ?_
  refine bind_eq_bind (textAt_congr ho ho' hformat _) fun given => bind_congr fun format => ?_
  refine bind_eq_bind (boolAt_congr ho ho' hindexed _) fun indexed => ?_
  exact bind_eq_bind (textAt_congr hl hl' hlevel _) fun given => rfl

/-- The entry is a file, and its text is read as the document. -/
def HasDocument (e : Entry) (doc : Toml.Table) : Prop :=
  ∃ octets s, e = .file octets ∧ Text.decodeUtf8 octets = some s ∧
    Toml.read (Text.unifyLineEnds s) = .ok doc

variable {entry : Text → Entry} {named : Option Text}

theorem load_of_hasDocument (h : HasDocument (entry (named.getD fileName)) doc) (directory : Text) :
    load entry directory named =
      ((ofTable doc).mapError (.invalid (shownPath directory named))).map fun settings =>
        (settings, some (shownPath directory named)) := by
  obtain ⟨octets, s, he, hs, hdoc⟩ := h
  have hread : (Entry.file octets).read = .ok (Text.unifyLineEnds s) := by
    simp only [Entry.read, hs]
  rw [load_of_present (by simp [he]) (by simp [he]), he, ofEntry, hread, Except.mapError_ok]
  change Except.map _ ((Toml.read (Text.unifyLineEnds s)).mapError _ >>= _) = _
  rw [hdoc]
  rfl

/-- A settings file with a document is loaded exactly if the document meets all conditions, and its
settings are then what the document says; otherwise the first broken condition is reported. Other
documents that agree on the keys of the settings do the same. -/
theorem load_document (h : HasDocument (entry (named.getD fileName)) doc) (directory : Text) :
    ((∃ loaded, load entry directory named = .ok loaded) ↔ ∀ c ∈ Condition.all, c.Holds doc) ∧
      (∀ settings path, load entry directory named = .ok (settings, path) →
        Stated doc settings ∧ path = some (shownPath directory named)) ∧
      (∀ error, load entry directory named = .error error ↔
        ∃ fault, FirstBroken doc Condition.all fault ∧
          error = .invalid (shownPath directory named) fault) ∧
      ∀ entry' doc', HasDocument (entry' (named.getD fileName)) doc' → DocumentsAlike doc doc' →
        load entry' directory named = load entry directory named := by
  have hload := load_of_hasDocument h directory
  refine ⟨?_, ?_, ?_, ?_⟩
  · rw [← ofTable_eq_ok_iff, hload]
    cases ofTable doc <;> simp [Except.map]
  · intro settings path hok
    rw [hload] at hok
    cases hsettings : ofTable doc with
    | ok settings' =>
      rw [hsettings] at hok
      cases hok
      exact ⟨stated_of_ofTable hsettings, rfl⟩
    | error fault =>
      rw [hsettings] at hok
      cases hok
  · intro error
    simp only [← ofTable_eq_error_iff, hload]
    cases ofTable doc <;> simp [Except.map, eq_comm]
  · intro entry' doc' h' halike
    rw [load_of_hasDocument h', hload, ofTable_congr halike]

/-- Settings with three faults, in another order than that of the conditions. -/
def threeFaults : Text :=
  "[logging]\nlevel = \"loud\"\n[output]\nshow_index = \"on\"\nformat = \"xml\"\n".toList

def threeFaultsTable : Toml.Table :=
  [("logging".toList, .table [("level".toList, .string "loud".toList)]),
    ("output".toList,
      .table [("show_index".toList, .string "on".toList), ("format".toList, .string "xml".toList)])]

def threeFaultsFile : Entry := .file (threeFaults.map Char.toNat)

theorem hasDocument_threeFaults : HasDocument threeFaultsFile threeFaultsTable := by
  have hdecoded : Text.decodeUtf8 (threeFaults.map Char.toNat) = some threeFaults := by
    decide +kernel
  have hread : Toml.read (Text.unifyLineEnds threeFaults) = .ok threeFaultsTable := by cbv
  exact ⟨_, threeFaults, rfl, hdecoded, hread⟩

theorem firstBroken_threeFaults :
    FirstBroken threeFaultsTable Condition.all (.unknownFormat "xml".toList) := by
  have hrepl : threeFaultsTable.lookup replPart = none := by decide
  have hprompts (name : Text) : valueAt? threeFaultsTable replPart name = none := by
    rw [valueAt?, hrepl]
  have houtput : ∃ t, threeFaultsTable.lookup outputPart = some (.table t) := ⟨_, rfl⟩
  have hlogging : ∃ t, threeFaultsTable.lookup loggingPart = some (.table t) := ⟨_, rfl⟩
  have hformat : valueAt? threeFaultsTable outputPart formatKey = some (.string "xml".toList) :=
    rfl
  refine ⟨Condition.all.take 6, .knownFormat, Condition.all.drop 7, by decide, ?_, ?_,
    .unknownFormat hformat⟩
  · simp only [Condition.all, List.take_succ_cons, List.take_zero, List.forall_mem_cons]
    exact ⟨.inl hrepl, .inr houtput, .inr hlogging, .inl (hprompts _), .inl (hprompts _),
      .inr ⟨_, hformat⟩, by simp⟩
  · intro hholds
    exact absurd (hholds _ hformat) (by decide)

/-- The format is complained of, although the level stands before it. -/
theorem load_threeFaults :
    HasDocument threeFaultsFile threeFaultsTable ∧
      load (fun _ => threeFaultsFile) "/srv".toList none =
        .error (.invalid "/srv/eql.toml".toList (.unknownFormat "xml".toList)) := by
  have hpath : shownPath "/srv".toList none = "/srv/eql.toml".toList := by decide
  have hloaded := @load_document threeFaultsTable (fun _ => threeFaultsFile) none
    hasDocument_threeFaults "/srv".toList
  exact ⟨hasDocument_threeFaults,
    (hloaded.2.2.1 _).2 ⟨_, firstBroken_threeFaults, by rw [hpath]⟩⟩

end Settings
end Roster
