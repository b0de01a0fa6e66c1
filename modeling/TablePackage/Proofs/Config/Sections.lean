import Mathlib.Logic.Relation
import TablePackage.Proofs.Fragments

/-!
# Sections of a configuration

A configuration is checked section by section, and a section field by field, each by itself. Only
the entries with known keys are read: what stands in other ones, and where, makes no difference
(`Config.AddsUnknown`). What is read passes all checks when it is written out.

* `Checked.field_congr`: what a field depends on;
* `Checked.Tells.ap`, `Checked.tells_field`: a check that fails has a fault to tell;
* `Config.readsAs_of_check`, `Config.faults_check`: a configuration is made of what is read from its
  sections, and otherwise it has their faults;
* `Config.check_of_adds`: one more entry with an unknown key;
* `Config.check_toValue`: a configuration that is written out;
* `Config.check_is_sectionwise`: all values.
-/

namespace TablePackage

variable {α β : Type} {check : Value → Checked α} {default : α} {f : Checked (α → β)}
  {a : Checked α} {b : α} {entries u w : List (Value × Value)} {key v x y : Value}
  {model name : Text} {names : List Text} {c : Config}

/-! ## Entries -/

namespace Value

/-- The value of an entry with a text as its key. -/
def valueAt? (name : Text) : Value × Value → Option Value
  | (.text key, v) => if key = name then some v else none
  | _ => none

theorem valueAt?_of_ne (h : key ≠ .text name) (x : Value) : valueAt? name (key, x) = none := by
  cases key with
  | text other => exact if_neg fun he => h (congrArg text he)
  | _ => rfl

/-- The first entry with a key is the one that counts. -/
theorem entry?_eq_findSome? (name : Text) (u : List (Value × Value)) :
    entry? name u = u.findSome? (valueAt? name) := by
  induction u using entry?.induct name with
  | case1 => rfl
  | case2 x u => rw [List.findSome?_cons, entry?, valueAt?, if_pos rfl, if_pos rfl]
  | case3 key x u hkey ih =>
    rw [List.findSome?_cons, entry?, valueAt?, if_neg hkey, if_neg hkey, ih]
  | case4 p u hp ih =>
    have hne : p.1 ≠ .text name := fun he => hp name p.2 (Prod.ext he rfl)
    rw [List.findSome?_cons, entry?, valueAt?_of_ne hne p.2, ih]
    exact hp

end Value

/-! ## Fields -/

namespace Checked

/-- A field depends on nothing but what its check finds in its value, if it is there. -/
theorem field_congr (h : (u.findSome? (Value.valueAt? name)).map check =
    (w.findSome? (Value.valueAt? name)).map check) (default : α) :
    field u name default check = field w name default check := by
  rw [field, field, Value.entry?_eq_findSome?, Value.entry?_eq_findSome?]
  cases hu : u.findSome? (Value.valueAt? name) with
  | none =>
    rw [hu] at h
    rw [Option.map_eq_none_iff.1 h.symm]
  | some x =>
    rw [hu] at h
    obtain ⟨y, hw, hxy⟩ := Option.map_eq_some_iff.1 h.symm
    rw [hw]
    dsimp only
    rw [hxy]

/-- The value of an entry may be another one if the check of its field finds the same in both. -/
theorem field_replace (name' : Text) (default : α) (h : name' = name → check x = check y) :
    field (u ++ (.text name', x) :: w) name default check =
      field (u ++ (.text name', y) :: w) name default check := by
  refine field_congr ?_ default
  rw [List.findSome?_append, List.findSome?_append, List.findSome?_cons, List.findSome?_cons,
    Value.valueAt?, Value.valueAt?]
  by_cases hname : name' = name
  · rw [if_pos hname, if_pos hname, Option.map_or, Option.map_or]
    exact congrArg _ (congrArg some (h hname))
  · rw [if_neg hname, if_neg hname]

/-! ## Failures -/

/-- A check that fails has a fault to tell. -/
def Tells (a : Checked α) : Prop := a.faults = [] → ∃ x, a = .ok x

theorem tells_ok (x : α) : Tells (.ok x) := fun _ => ⟨x, rfl⟩

theorem tells_error (f : FieldFault) (fs : List FieldFault) :
    Tells (.error (f :: fs) : Checked α) := fun h => absurd h (List.cons_ne_nil f fs)

/-- Something that is made of two parts fails only if one of them does. -/
theorem Tells.ap (hf : f.Tells) (ha : a.Tells) : (Checked.ap f a).Tells := by
  intro h
  rw [faults_ap, List.append_eq_nil_iff] at h
  obtain ⟨g, rfl⟩ := hf h.1
  obtain ⟨x, rfl⟩ := ha h.2
  exact ⟨g x, rfl⟩

/-- A field fails only if its value does. -/
theorem tells_field (hcheck : ∀ v, (check v).Tells) : (field entries name default check).Tells := by
  intro h
  cases hentry : Value.entry? name entries with
  | none => exact ⟨default, by rw [field, hentry]⟩
  | some v =>
    rw [faults_field hentry, List.map_eq_nil_iff] at h
    obtain ⟨x, hx⟩ := hcheck v h
    refine ⟨x, field_eq_ok_iff.2 ?_⟩
    rw [ReadsAs, hentry]
    exact hx

theorem tells_ofMap {read : List (Value × Value) → Checked α} (h : ∀ entries, (read entries).Tells)
    (v : Value) : (ofMap model read v).Tells := by
  unfold ofMap
  split
  · exact h _
  · exact tells_error _ _

end Checked

open Checked

namespace Value

theorem tells_checkText (v : Value) : v.checkText.Tells := by
  unfold checkText
  split
  · exact tells_ok _
  · exact tells_ok _
  · split
    · exact tells_ok _
    · exact tells_error _ _
  · exact tells_error _ _

theorem tells_checkFragment (v : Value) : v.checkFragment.Tells := by
  unfold checkFragment
  split
  · exact tells_error _ _
  · rename_i hes
    rw [← hes]
    exact tells_checkText _
  · split
    · exact tells_ok _
    · exact tells_error _ _

theorem tells_checkBool (v : Value) : v.checkBool.Tells := by
  unfold checkBool
  dsimp only
  split
  · exact tells_ok _
  · split
    · exact tells_ok _
    · exact tells_error _ _
  · exact tells_error _ _
  · split
    · split
      · exact tells_ok _
      · exact tells_error _ _
    · exact tells_error _ _
  · split
    · exact tells_ok _
    · exact tells_ok _
    · exact tells_error _ _
    · exact tells_error _ _

theorem tells_checkLevel (v : Value) : v.checkLevel.Tells := by
  unfold checkLevel
  split
  · split
    · exact tells_ok _
    · exact tells_error _ _
  · exact tells_error _ _
  · exact tells_error _ _

end Value

/-! ## Sections -/

theorem Naming.tells_check (v : Value) : (Naming.check v).Tells := by
  refine tells_ofMap (fun entries => ?_) v
  have hfield : ∀ name default, (field entries name default Value.checkFragment).Tells :=
    fun name default => tells_field Value.tells_checkFragment
  exact (((((tells_ok _).ap (hfield _ _)).ap (hfield _ _)).ap (hfield _ _)).ap (hfield _ _)).ap
    (hfield _ _)

theorem Strictness.tells_check (v : Value) : (Strictness.check v).Tells :=
  tells_ofMap (fun _ => (tells_ok _).ap (tells_field Value.tells_checkBool)) v

theorem Logging.tells_check (v : Value) : (Logging.check v).Tells :=
  tells_ofMap (fun _ => ((tells_ok _).ap (tells_field Value.tells_checkLevel)).ap
    (tells_field Value.tells_checkText)) v

namespace Config

theorem tells_check (v : Value) : (Config.check v).Tells :=
  tells_ofMap (fun _ => (((tells_ok _).ap (tells_field Naming.tells_check)).ap
    (tells_field Strictness.tells_check)).ap (tells_field Logging.tells_check)) v

/-- The faults of the sections of a configuration, in their order. -/
def sectionFaults (entries : List (Value × Value)) : List FieldFault :=
  faultsIn entries "naming" Naming.check ++ faultsIn entries "validation" Strictness.check ++
    faultsIn entries "logging" Logging.check

/-- Each section is what is read from its value, or the default one if it is left out. -/
structure ReadsAs (entries : List (Value × Value)) (c : Config) : Prop where
  naming : Checked.ReadsAs entries "naming" {} Naming.check c.naming
  validation : Checked.ReadsAs entries "validation" {} Strictness.check c.validation
  logging : Checked.ReadsAs entries "logging" {} Logging.check c.logging

/-- A configuration that is read is made of what is read from the sections. -/
theorem readsAs_of_check (h : Config.check (.map entries) = .ok c) : ReadsAs entries c := by
  obtain ⟨_, logging, h₁, hlogging, rfl⟩ := ap_eq_ok_iff.1 h
  obtain ⟨_, validation, h₂, hvalidation, rfl⟩ := ap_eq_ok_iff.1 h₁
  obtain ⟨_, naming, h₃, hnaming, rfl⟩ := ap_eq_ok_iff.1 h₂
  obtain rfl := Except.ok.inj h₃
  exact ⟨field_eq_ok_iff.1 hnaming, field_eq_ok_iff.1 hvalidation, field_eq_ok_iff.1 hlogging⟩

/-- The faults of a configuration are those of its sections. -/
theorem faults_check (entries : List (Value × Value)) :
    (Config.check (.map entries)).faults = sectionFaults entries := by
  simp only [Config.check, ofMap, faults_ap, faults_ok, faults_field_eq, List.nil_append,
    sectionFaults]

end Config

/-! ## Unknown entries -/

/-- One more entry somewhere in a map, with a key that is none of `names`. -/
inductive AddsEntry (names : List Text) :
    List (Value × Value) → List (Value × Value) → Prop
  | mk {u w : List (Value × Value)} {key x : Value} : (∀ name ∈ names, key ≠ .text name) →
    AddsEntry names (u ++ w) (u ++ (key, x) :: w)

/-- A field with one of the names is read as before. -/
theorem AddsEntry.field_eq (h : AddsEntry names u w) (hname : name ∈ names) (default : α)
    (check : Value → Checked α) :
    field w name default check = field u name default check := by
  obtain ⟨hkey⟩ := h
  refine field_congr ?_ default
  rw [List.findSome?_append, List.findSome?_append, List.findSome?_cons,
    Value.valueAt?_of_ne (hkey name hname)]

namespace Config

/-- The sections of a configuration, and the fields in each of them. -/
def sections : List (Text × List Text) :=
  [("naming", Naming.fieldNames), ("validation", ["require_primary_key"]),
    ("logging", ["level", "format"])]

/-- One more entry with an unknown key, in a configuration or in a section. -/
inductive AddsUnknown : Value → Value → Prop
  | top {u w : List (Value × Value)} :
    AddsEntry (sections.map (·.1)) u w → AddsUnknown (.map u) (.map w)
  | inside {name : Text} {names : List Text} {p q u w : List (Value × Value)} :
    (name, names) ∈ sections → AddsEntry names p q →
    AddsUnknown (.map (u ++ (.text name, .map p) :: w)) (.map (u ++ (.text name, .map q) :: w))

end Config

theorem Naming.check_of_adds (h : AddsEntry Naming.fieldNames u w) :
    Naming.check (.map w) = Naming.check (.map u) := by
  simp (disch := decide) only [Naming.check, ofMap, h.field_eq]

theorem Strictness.check_of_adds (h : AddsEntry ["require_primary_key"] u w) :
    Strictness.check (.map w) = Strictness.check (.map u) := by
  simp (disch := decide) only [Strictness.check, ofMap, h.field_eq]

theorem Logging.check_of_adds (h : AddsEntry ["level", "format"] u w) :
    Logging.check (.map w) = Logging.check (.map u) := by
  simp (disch := decide) only [Logging.check, ofMap, h.field_eq]

namespace Config

theorem check_of_adds (h : AddsUnknown v x) : Config.check x = Config.check v := by
  cases h with
  | top h => simp (disch := decide) only [Config.check, ofMap, h.field_eq]
  | @inside name names p q u w hname h =>
    -- The section with this name reads the same, and the other ones are not touched.
    have hsections : (name = "naming" → Naming.check (.map q) = Naming.check (.map p)) ∧
        (name = "validation" → Strictness.check (.map q) = Strictness.check (.map p)) ∧
        (name = "logging" → Logging.check (.map q) = Logging.check (.map p)) := by
      simp only [sections, List.mem_cons, Prod.mk.injEq, List.not_mem_nil, or_false] at hname
      rcases hname with ⟨rfl, rfl⟩ | ⟨rfl, rfl⟩ | ⟨rfl, rfl⟩
      · exact ⟨fun _ => Naming.check_of_adds h, fun he => absurd he (by decide),
          fun he => absurd he (by decide)⟩
      · exact ⟨fun he => absurd he (by decide), fun _ => Strictness.check_of_adds h,
          fun he => absurd he (by decide)⟩
      · exact ⟨fun he => absurd he (by decide), fun he => absurd he (by decide),
          fun _ => Logging.check_of_adds h⟩
    obtain ⟨hnaming, hvalidation, hlogging⟩ := hsections
    simp only [Config.check, ofMap]
    rw [field_replace name _ hnaming, field_replace name _ hvalidation,
      field_replace name _ hlogging]

/-- Entries with unknown keys make no difference, however many of them are added, taken away or
    changed. -/
theorem check_of_eqvGen (h : Relation.EqvGen AddsUnknown v x) :
    Config.check x = Config.check v := by
  induction h with
  | rel v x h => exact check_of_adds h
  | refl v => rfl
  | symm v x _ ih => exact ih.symm
  | trans v x y _ _ ih₁ ih₂ => exact ih₂.trans ih₁

end Config

/-! ## Writing a configuration out -/

/-- A field is read from the value of its entry. -/
theorem Checked.field_of_entry (h : Value.entry? name entries = some v) (hv : check v = .ok b)
    (default : α) : field entries name default check = .ok b := by
  rw [field_eq_ok_iff, ReadsAs, h]
  exact hv

theorem Strictness.check_toValue (s : Strictness) : Strictness.check s.toValue = .ok s := rfl

theorem Logging.check_toValue (l : Logging) : Logging.check l.toValue = .ok l := by
  obtain ⟨level, format⟩ := l
  cases level <;> rfl

namespace Config

/-- A configuration that has been read is read again if it is written out. -/
theorem check_toValue (h : Config.check v = .ok c) : Config.check c.toValue = .ok c := by
  have hnaming : Naming.check c.naming.toValue = .ok c.naming :=
    Naming.check_toValue_iff.2 fun t ht => Value.isFragment_iff.1 (isFragment_of_check h t ht)
  rw [Config.check, toValue, Value.record, ofMap]
  dsimp only
  rw [field_of_entry rfl hnaming, field_of_entry rfl (Strictness.check_toValue _),
    field_of_entry rfl (Logging.check_toValue _)]
  rfl

/-- A value that is no map is refused as a whole. A map is refused with the faults that each section
    tells of its own value, and if there are none, it is made of what is read from the sections.
    Entries with unknown keys make no difference, in a configuration and in its sections. A
    configuration that has been read is read again if it is written out with all its fields. -/
theorem check_is_sectionwise (v : Value) :
    ((∀ entries, v ≠ .map entries) →
      Config.check v = .error [.here (.notModel "GeneratorConfig") v]) ∧
    (∀ entries, v = .map entries →
      (sectionFaults entries = [] → ∃ c, Config.check v = .ok c ∧ ReadsAs entries c) ∧
      (sectionFaults entries ≠ [] → Config.check v = .error (sectionFaults entries))) ∧
    (∀ w, Relation.EqvGen AddsUnknown v w → Config.check w = Config.check v) ∧
    ∀ c, Config.check v = .ok c → Config.check c.toValue = .ok c := by
  refine ⟨fun hv => ?_, fun entries hv => ?_, fun w => check_of_eqvGen, fun c => check_toValue⟩
  · unfold Config.check ofMap
    split
    · exact absurd rfl (hv _)
    · rfl
  · subst hv
    refine ⟨fun h => ?_, fun h => ?_⟩
    · obtain ⟨c, hc⟩ := tells_check _ ((faults_check entries).trans h)
      exact ⟨c, hc, readsAs_of_check hc⟩
    · rw [← faults_check] at h ⊢
      cases hcheck : Config.check (.map entries) with
      | ok c => exact absurd (hcheck ▸ rfl) h
      | error fs => rfl

/-- A null, a map with faults in two of its sections, and one in which an unknown entry is taken
    away and another one is added to a section. -/
theorem check_is_sectionwise_off :
    let off : Value × Value := (.text "require_primary_key", .text "OFF")
    let faulty : Value := .map [(.text "logging", .map [(.text "level", .text "LOUD")]),
      (.text "validation", .map [off]), (.text "naming", .list [])]
    let faults : List FieldFault := [⟨["naming"], .notModel "NamingConfig", .list []⟩,
      ⟨["logging", "level"], .notLevel, .text "LOUD"⟩]
    let before : Value := .map [(.text "x", .null), (.text "validation", .map [off])]
    let after : Value := .map [(.text "validation", .map [off, (.text "naming", .int 1)])]
    let c : Config := { validation := ⟨false⟩ }
    (∀ entries, Value.null ≠ .map entries) ∧
      Config.check .null = .error [.here (.notModel "GeneratorConfig") .null] ∧
    Config.check faulty = .error faults ∧
    Relation.EqvGen AddsUnknown before after ∧ Config.check after = Config.check before ∧
    Config.check before = .ok c ∧ Config.check c.toValue = .ok c := by
  intro off faulty faults before after c
  have hnull : ∀ entries, Value.null ≠ .map entries := fun _ he => nomatch he
  have hunknown : ∀ {t : Text} {names : List Text}, t ∉ names →
      ∀ name ∈ names, Value.text t ≠ .text name := fun ht name hname he =>
    ht (Value.text.inj he ▸ hname)
  have hchanged : Relation.EqvGen AddsUnknown before after :=
    .trans _ (.map [(.text "validation", .map [off])]) _
      (.symm _ _ (.rel _ _ (.top (.mk (u := []) (hunknown (by decide))))))
      (.rel _ _ (@AddsUnknown.inside "validation" ["require_primary_key"] _ _ [] [] (by decide)
        (.mk (u := [off]) (w := []) (hunknown (by decide)))))
  have hbefore : Config.check before = .ok c := rfl
  obtain ⟨hrefused, -⟩ := check_is_sectionwise .null
  obtain ⟨-, hfaulty, -⟩ := check_is_sectionwise faulty
  obtain ⟨-, -, hunchanged, hagain⟩ := check_is_sectionwise before
  exact ⟨hnull, hrefused hnull, (hfaulty _ rfl).2 (List.cons_ne_nil _ _), hchanged,
    hunchanged after hchanged, hbefore, hagain c hbefore⟩

end Config

end TablePackage
