import TablePackage.Config.Source

/-!
# Checked configurations

What is known of a configuration that has been read from a value, or loaded from a file.

* `Checked.ap_eq_ok_iff`, `Checked.field_eq_ok_iff`: a section is read if all of its fields are;
* `Checked.faults_ap`, `Checked.faults_field`: and otherwise it has the faults of its fields;
* `Config.isFragment_of_check`: all names of a configuration are parts of identifiers;
* `Config.load_eq_ok`: a configuration that is loaded is the default one, or it is read from a
  value.
-/

namespace TablePackage

namespace Checked

variable {α β : Type} {f : Checked (α → β)} {a : Checked α} {x : α} {b : β}

/-- Something is made of what was read first and next if both were read. -/
theorem ap_eq_ok_iff : ap f a = .ok b ↔ ∃ g x, f = .ok g ∧ a = .ok x ∧ g x = b := by
  cases f <;> cases a <;> simp [ap]

/-- The field `name` is read as `x`: this is what its check makes of its value, or the default if
    the field is left out. -/
def ReadsAs (entries : List (Value × Value)) (name : Text) (default : α) (check : Value → Checked α)
    (x : α) : Prop :=
  match Value.entry? name entries with
  | none => x = default
  | some v => check v = .ok x

theorem field_eq_ok_iff {entries : List (Value × Value)} {name : Text} {default : α}
    {check : Value → Checked α} :
    field entries name default check = .ok x ↔ ReadsAs entries name default check x := by
  unfold field ReadsAs
  cases Value.entry? name entries with
  | none => exact ⟨fun h => (Except.ok.inj h).symm, fun h => congrArg _ h.symm⟩
  | some v =>
    dsimp only
    cases check v with
    | ok y => exact ⟨fun h => congrArg _ (Except.ok.inj h), fun h => congrArg _ (Except.ok.inj h)⟩
    | error fs => exact ⟨fun h => (by cases h), fun h => (by cases h)⟩

/-- A field that was read has its default, or it was read from a value. -/
theorem field_eq_ok {entries : List (Value × Value)} {name : Text} {default : α}
    {check : Value → Checked α} (h : field entries name default check = .ok x) :
    x = default ∨ ∃ v, check v = .ok x := by
  rw [field_eq_ok_iff, ReadsAs] at h
  split at h
  · exact .inl h
  · exact .inr ⟨_, h⟩

/-- All faults that a check has found. -/
def faults : Checked α → List FieldFault
  | .ok _ => []
  | .error faults => faults

theorem faults_ok (a : α) : faults (.ok a) = [] := rfl

/-- The faults of what was read first come before those of what was read next. -/
theorem faults_ap (f : Checked (α → β)) (a : Checked α) :
    (ap f a).faults = f.faults ++ a.faults := by
  cases f <;> cases a <;> simp [ap, faults]

/-- A field has the faults of its value, each with the name of the field in front of its place. -/
theorem faults_field {entries : List (Value × Value)} {name : Text} {v : Value}
    (h : Value.entry? name entries = some v) (default : α) (check : Value → Checked α) :
    (field entries name default check).faults = (check v).faults.map (.within name) := by
  unfold field
  rw [h]
  dsimp only
  cases check v <;> rfl

/-- A field that is left out has none. -/
theorem faults_field_of_none {entries : List (Value × Value)} {name : Text}
    (h : Value.entry? name entries = none) (default : α) (check : Value → Checked α) :
    (field entries name default check).faults = [] := by
  unfold field
  rw [h]
  rfl

/-- The faults of the field `name`, with its name in front of their places; there are none if it is
    left out. -/
def faultsIn (entries : List (Value × Value)) (name : Text) (check : Value → Checked α) :
    List FieldFault :=
  match Value.entry? name entries with
  | none => []
  | some v => (check v).faults.map (.within name)

/-- A field has the faults of its value, whatever its default is. -/
theorem faults_field_eq (entries : List (Value × Value)) (name : Text) (default : α)
    (check : Value → Checked α) :
    (field entries name default check).faults = faultsIn entries name check := by
  unfold faultsIn
  cases h : Value.entry? name entries with
  | none => exact faults_field_of_none h default check
  | some v => exact faults_field h default check

/-- A section that was read was a map. -/
theorem ofMap_eq_ok {model : Text} {read : List (Value × Value) → Checked α} {v : Value}
    (h : ofMap model read v = .ok x) : ∃ entries, v = .map entries ∧ read entries = .ok x := by
  unfold ofMap at h
  split at h
  · exact ⟨_, rfl, h⟩
  · cases h

end Checked

/-! ## Names -/

/-- The parts of identifiers that a naming has. -/
def Naming.fragments (n : Naming) : List Text :=
  [n.create, n.update, n.delete, n.getById, n.packageSuffix]

/-- A part of an identifier that was read is one. -/
theorem Value.isFragment_of_check {v : Value} {t : Text} (h : v.checkFragment = .ok t) :
    isFragment t = true := by
  unfold checkFragment at h
  split at h
  · cases h
  · cases h
  · split at h
    · cases h
      assumption
    · cases h

/-- All parts of identifiers in a naming that was read are such. -/
theorem Naming.isFragment_of_check {v : Value} {n : Naming} (h : Naming.check v = .ok n) :
    ∀ t ∈ n.fragments, Value.isFragment t = true := by
  obtain ⟨entries, -, h⟩ := Checked.ofMap_eq_ok h
  have hfield : ∀ {name default t}, Value.isFragment default = true →
      Checked.field entries name default Value.checkFragment = .ok t →
      Value.isFragment t = true := by
    intro name default t hdefault h
    rcases Checked.field_eq_ok h with rfl | ⟨v, hv⟩
    · exact hdefault
    · exact Value.isFragment_of_check hv
  obtain ⟨_, suffix, h₁, hsuffix, rfl⟩ := Checked.ap_eq_ok_iff.1 h
  obtain ⟨_, getById, h₂, hgetById, rfl⟩ := Checked.ap_eq_ok_iff.1 h₁
  obtain ⟨_, delete, h₃, hdelete, rfl⟩ := Checked.ap_eq_ok_iff.1 h₂
  obtain ⟨_, update, h₄, hupdate, rfl⟩ := Checked.ap_eq_ok_iff.1 h₃
  obtain ⟨_, create, h₅, hcreate, rfl⟩ := Checked.ap_eq_ok_iff.1 h₄
  obtain rfl := Except.ok.inj h₅
  simp only [fragments, List.forall_mem_cons]
  exact ⟨hfield (by decide) hcreate, hfield (by decide) hupdate, hfield (by decide) hdelete,
    hfield (by decide) hgetById, hfield (by decide) hsuffix, List.forall_mem_nil _⟩

/-- All parts of identifiers in a configuration that was read are such. -/
theorem Config.isFragment_of_check {v : Value} {c : Config} (h : Config.check v = .ok c) :
    ∀ t ∈ c.naming.fragments, Value.isFragment t = true := by
  obtain ⟨entries, -, h⟩ := Checked.ofMap_eq_ok h
  obtain ⟨_, logging, h₁, -, rfl⟩ := Checked.ap_eq_ok_iff.1 h
  obtain ⟨_, validation, h₂, -, rfl⟩ := Checked.ap_eq_ok_iff.1 h₁
  obtain ⟨_, naming, h₃, hnaming, rfl⟩ := Checked.ap_eq_ok_iff.1 h₂
  obtain rfl := Except.ok.inj h₃
  rcases Checked.field_eq_ok hnaming with rfl | ⟨v, hv⟩
  · exact (by decide : ∀ t ∈ Naming.fragments {}, Value.isFragment t = true)
  · exact Naming.isFragment_of_check hv

/-! ## Files -/

namespace Config

variable {files : Files} {env : Environment} {path : Path} {source : Option Text} {c : Config}

/-- The configuration in a file is the default one, or it is read from a value. -/
theorem ofFile_eq_ok (h : ofFile files path = .ok c) : c = {} ∨ ∃ v, check v = .ok c := by
  unfold ofFile at h
  simp only [bind, Except.bind] at h
  split at h
  · cases h
  split at h
  · cases h
  split at h
  · cases h
  split at h
  · cases h
  split at h
  · exact .inl (Except.ok.inj h).symm
  · split at h
    · rename_i c' hcheck
      obtain rfl : c' = c := Except.ok.inj h
      exact .inr ⟨_, hcheck⟩
    · split at h <;> cases h

/-- A configuration that is loaded is the default one, or it is read from a value. -/
theorem load_eq_ok (h : load files env source = .ok c) : c = {} ∨ ∃ v, check v = .ok c := by
  have hvariable : ∀ {name}, ofVariable files env name = .ok c →
      c = {} ∨ ∃ v, check v = .ok c := by
    intro name h
    unfold ofVariable at h
    simp only [bind, Except.bind] at h
    split at h
    case h_3 => exact ofFile_eq_ok h
    all_goals
      split at h
      · cases h
      · split at h
        · exact ofFile_eq_ok h
        · exact .inl (Except.ok.inj h).symm
  unfold load at h
  split at h
  · exact hvariable h
  · exact hvariable h
  · exact ofFile_eq_ok h

/-- All parts of identifiers in a configuration that is loaded are such. -/
theorem isFragment_of_load (h : load files env source = .ok c) :
    ∀ t ∈ c.naming.fragments, Value.isFragment t = true := by
  rcases load_eq_ok h with rfl | ⟨v, hv⟩
  · exact (by decide : ∀ t ∈ Naming.fragments {}, Value.isFragment t = true)
  · exact isFragment_of_check hv

end Config

end TablePackage
