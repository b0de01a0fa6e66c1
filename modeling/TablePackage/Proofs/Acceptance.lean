import TablePackage.Proofs.Declaration.Recovery
import TablePackage.Proofs.Insertion

/-!
# Accepted selections

Of which selections a package is made, and what keeps it from being made of the others. A
selection is looked at three times: whether it opens with a table, where the first table is
declared, and which columns are declared. All of them agree on one text, since a table that opens
it is the first one (`Opens.tableName_eq`). The validation looks at the name of the key and not
at the flags; but no column that has been read is without a name, so this comes to the same
(`Schema.key_ofText_eq_nil_iff`).

* `Schema.fault?_eq_some_iff`: what is wrong with a table that has a name;
* `Generated.failsWith_iff`: what is wrong with a selection;
* `build_outcome`: each end that the making of a package may come to, and when it does.
-/

namespace TablePackage

open Declaration

variable {n S t : Text} {c : Column} {cs : List Column} {s : Schema} {requireKey : Bool}
  {kind : Fault.Kind} {naming : Naming}

/-! ## Openings -/

namespace Declaration

/-- A text opens, behind blanks, with the declaration of the table `n`. -/
def Opens (n t : Text) : Prop :=
  ∃ b w r, Ascii.Blanks b ∧ WrittenTable n w ∧ t = b ++ (w ++ r)

theorem opensWithTable_iff : opensWithTable t = true ↔ ∃ n, Opens n t := by
  constructor
  · intro h
    obtain ⟨⟨n, r⟩, hread⟩ := Option.isSome_iff_exists.1 h
    obtain ⟨w, hw, hskip⟩ := table?_eq_some_iff.1 hread
    obtain ⟨b, hb, ht⟩ := Ascii.exists_blanks t
    exact ⟨n, b, w, r, hb, hw, hskip ▸ ht⟩
  · rintro ⟨n, b, w, r, hb, hw, rfl⟩
    exact opensWithTable_append hb hw

/-- The table that opens a text is the first one that is declared in it. -/
theorem Opens.tableName_eq (h : Opens n t) : tableName t = n := by
  obtain ⟨b, w, r, hb, hw, rfl⟩ := h
  exact Declaration.tableName_eq (hb.not_mem rfl) hw

theorem Opens.ne_nil (h : Opens n t) : n ≠ [] := by
  obtain ⟨b, w, r, hb, hw, rfl⟩ := h
  exact hw.isName.1

end Declaration

/-! ## Keys -/

/-- The key of a table with the given columns: the name of the last one flagged as a key, or
    nothing if none is. -/
inductive KeyOf : List Column → Text → Prop
  | last {before after : List Column} {c : Column} : c.isKey = true →
    (∀ d ∈ after, d.isKey = false) → KeyOf (before ++ c :: after) c.name
  | none {cs : List Column} : (∀ c ∈ cs, c.isKey = false) → KeyOf cs []

namespace Schema

/-- The key of a schema is that of its columns. -/
theorem keyOf_ofColumns (table : Text) (cs : List Column) :
    KeyOf cs (ofColumns table cs).key := by
  cases hfind : cs.reverse.find? (·.isKey) with
  | none =>
    have hnone : ∀ c ∈ cs, c.isKey = false := fun c hc =>
      Bool.eq_false_iff.2 (List.find?_eq_none.1 hfind c (List.mem_reverse.2 hc))
    rw [key_ofColumns_eq_nil hnone]
    exact .none hnone
  | some c =>
    obtain ⟨hc, after, before, heq, hafter⟩ := List.find?_eq_some_iff_append.1 hfind
    have hafter' : ∀ d ∈ after.reverse, d.isKey = false := fun d hd => by
      simpa using hafter d (List.mem_reverse.1 hd)
    obtain rfl : cs = before.reverse ++ c :: after.reverse := by
      simpa using congrArg List.reverse heq
    rw [key_ofColumns_append before.reverse hc hafter']
    exact .last hc hafter'

/-- A table that has been read has no key if none of its columns is flagged as one. -/
theorem key_ofText_eq_nil_iff (t : Text) :
    (ofText t).key = [] ↔ ∀ c ∈ (ofText t).columns, c.isKey = false := by
  have hkey : KeyOf (ofText t).columns (ofText t).key := keyOf_ofColumns _ _
  have hnames : ∀ c ∈ (ofText t).columns, c.name ≠ [] := fun c hc => by
    obtain ⟨m, hm, rfl⟩ := List.mem_map.1 hc
    exact (isName_of_mem_scan hm).1
  generalize (ofText t).columns = cs, (ofText t).key = key at hkey hnames
  cases hkey with
  | @last before after c hc =>
    have hmem : c ∈ before ++ c :: after := by simp
    refine ⟨fun h => absurd h (hnames c hmem), fun h => ?_⟩
    rw [h c hmem] at hc
    cases hc
  | none hcs => exact iff_of_true rfl hcs

/-! ## Faults of a table -/

/-- What is wrong with a table that has a name: it has no columns, or its key is required and
    none of its columns, or each of them, is flagged as one. -/
theorem fault?_eq_some_iff (htable : s.table ≠ [])
    (hkey : s.key = [] ↔ ∀ c ∈ s.columns, c.isKey = false) :
    (∃ fault, s.fault? requireKey = some fault ∧ fault.kind = kind) ↔
      (s.columns = [] ∧ kind = .schemaParse) ∨
      (s.columns ≠ [] ∧ requireKey = true ∧ ((∀ c ∈ s.columns, c.isKey = false) ∨
        ∀ c ∈ s.columns, c.isKey = true) ∧ kind = .primaryKey) := by
  have hvalues : s.valueColumns = [] ↔ ∀ c ∈ s.columns, c.isKey = true := by
    rw [valueColumns, List.filter_eq_nil_iff]
    simp
  have hcomplete : s.isComplete = decide (s.columns ≠ []) := by simp [isComplete, htable]
  rw [fault?, hcomplete, ← hkey, ← hvalues]
  by_cases hcolumns : s.columns = []
  · simp [hcolumns, Fault.kind, @eq_comm _ kind]
  · cases requireKey with
    | false => simp [hcolumns]
    | true =>
      by_cases hnone : s.key = []
      · simp [hcolumns, hnone, Fault.kind, @eq_comm _ kind]
      · by_cases hall : s.valueColumns = [] <;>
          simp [hcolumns, hnone, hall, Fault.kind, @eq_comm _ kind]

end Schema

/-! ## Ends -/

/-- No package is made, for a fault of the given kind. -/
def Outcome.FailsWith (outcome : Outcome) (kind : Fault.Kind) : Prop :=
  ∃ fault, outcome = .error fault ∧ fault.kind = kind

/-- A package is made if it does not fail. -/
theorem Outcome.exists_eq_ok_iff (outcome : Outcome) :
    (∃ g, outcome = .ok g) ↔ ∀ kind, ¬outcome.FailsWith kind := by
  cases outcome <;> simp [FailsWith]

/-- Columns are not flagged alike if one of them is a key and another one is none. -/
theorem not_flags_alike_iff :
    ¬((∀ c ∈ cs, c.isKey = false) ∨ ∀ c ∈ cs, c.isKey = true) ↔
      (∃ c ∈ cs, c.isKey = true) ∧ ∃ c ∈ cs, c.isKey = false := by
  simp [not_or]

/-- A selection fails for how it opens, or else for the table that it declares. -/
theorem Generated.failsWith_iff :
    Outcome.FailsWith (build S naming requireKey) kind ↔
      (¬∃ n, Opens n S) ∧ kind = .selectionFormat ∨
      (∃ n, Opens n S) ∧
        ∃ fault, (Schema.ofText S).fault? requireKey = some fault ∧ fault.kind = kind := by
  rw [← opensWithTable_iff, Outcome.FailsWith, build]
  cases opensWithTable S with
  | false => simp [Fault.kind, @eq_comm _ kind]
  | true => cases hfault : (Schema.ofText S).fault? requireKey <;> simp [hfault]

/-- What a package says that was made of the selection `S`: its table is the one that opens the
    selection, its columns are those that are declared there, in their order, and its key is that
    of the columns. -/
structure Generated.Describes (g : Generated) (S : Text) (c : Config) : Prop where
  selection_eq : g.selection = S
  package_eq : g.package = Package.ofSchema c.naming g.schema
  opens : Opens g.schema.table S
  table_ne_nil : g.schema.table ≠ []
  columns_eq : g.schema.columns = (scan S).map (·.column)
  key : KeyOf g.schema.columns g.schema.key
  key_eq_nil_iff : g.schema.key = [] ↔ ∀ d ∈ g.schema.columns, d.isKey = false
  strict : c.validation.requireKey = true →
    (∃ d ∈ g.schema.columns, d.isKey = true) ∧ ∃ d ∈ g.schema.columns, d.isKey = false

/-- How the making of a package ends. A selection that does not open with a table is no selection;
    one that does is no table if it has no columns; under `requireKey`, a table has no key if
    none of its columns, or each of them, is flagged as one; and of any other selection a package
    is made. No table without a name ever comes to be validated. -/
theorem build_outcome (S : Text) (c : Config) :
    let outcome : Outcome := Generated.build S c.naming c.validation.requireKey
    let opens := ∃ n, Opens n S
    let columns := (scan S).map (·.column)
    (outcome.FailsWith .selectionFormat ↔ ¬opens) ∧
    (outcome.FailsWith .schemaParse ↔ opens ∧ columns = []) ∧
    (outcome.FailsWith .primaryKey ↔ opens ∧ columns ≠ [] ∧ c.validation.requireKey = true ∧
      ((∀ d ∈ columns, d.isKey = false) ∨ ∀ d ∈ columns, d.isKey = true)) ∧
    ((∃ g, outcome = .ok g) ↔ opens ∧ columns ≠ [] ∧ (c.validation.requireKey = true →
      (∃ d ∈ columns, d.isKey = true) ∧ ∃ d ∈ columns, d.isKey = false)) ∧
    (∀ g, outcome = .ok g → g.Describes S c) ∧
    (opens → (Schema.ofText S).table ≠ []) := by
  intro outcome opens columns
  have hname : opens → (Schema.ofText S).table ≠ [] := by
    rintro ⟨n, hn⟩
    change tableName S ≠ []
    rw [hn.tableName_eq]
    exact hn.ne_nil
  have hfails : ∀ kind, outcome.FailsWith kind ↔ ¬opens ∧ kind = .selectionFormat ∨
      opens ∧ ((columns = [] ∧ kind = .schemaParse) ∨ (columns ≠ [] ∧
        c.validation.requireKey = true ∧ ((∀ d ∈ columns, d.isKey = false) ∨
          ∀ d ∈ columns, d.isKey = true) ∧ kind = .primaryKey)) := fun kind => by
    refine Generated.failsWith_iff.trans (or_congr_right (and_congr_right fun h => ?_))
    exact Schema.fault?_eq_some_iff (hname h) (Schema.key_ofText_eq_nil_iff S)
  have hok : (∃ g, outcome = .ok g) ↔ opens ∧ columns ≠ [] ∧ (c.validation.requireKey = true →
      (∃ d ∈ columns, d.isKey = true) ∧ ∃ d ∈ columns, d.isKey = false) := by
    rw [Outcome.exists_eq_ok_iff]
    simp only [hfails, ← not_flags_alike_iff]
    constructor
    · intro h
      have hopens : opens := by_contra fun hn => h .selectionFormat (.inl ⟨hn, rfl⟩)
      have hcolumns : columns ≠ [] := fun hn => h .schemaParse (.inr ⟨hopens, .inl ⟨hn, rfl⟩⟩)
      exact ⟨hopens, hcolumns, fun hkey halike =>
        h .primaryKey (.inr ⟨hopens, .inr ⟨hcolumns, hkey, halike, rfl⟩⟩)⟩
    · rintro ⟨hopens, hcolumns, hflags⟩ kind (⟨hn, -⟩ | ⟨-, ⟨hn, -⟩ | ⟨-, hkey, halike, -⟩⟩)
      · exact hn hopens
      · exact hcolumns hn
      · exact hflags hkey halike
  refine ⟨by simp [hfails], by simp [hfails], by simp [hfails], hok, fun g hg => ?_, hname⟩
  obtain ⟨hopens, -, hstrict⟩ := hok.1 ⟨g, hg⟩
  obtain ⟨-, -, rfl⟩ := Generated.build_eq_ok_iff.1 hg
  have htable : Opens (Schema.ofText S).table S := by
    obtain ⟨n, hn⟩ := hopens
    change Opens (tableName S) S
    rw [hn.tableName_eq]
    exact hn
  exact ⟨rfl, rfl, htable, hname hopens, rfl, Schema.keyOf_ofColumns _ _,
    Schema.key_ofText_eq_nil_iff S, hstrict⟩

/-- The table that opens a selection gives the name, whatever table is declared behind it. -/
theorem build_outcome_second_table :
    let S : Text :=
      "\ttable_name(\"T\");table_name(\"U\");table_attr(\"K\").primarykey;table_attr(\"C\");"
    ∃ g, Generated.build S {} true = .ok g ∧ g.schema.table = "T" ∧
      g.schema.columns = [⟨"K", true⟩, ⟨"C", false⟩] ∧ g.schema.key ≠ [] := by
  intro S
  have hcolumns : (scan S).map (·.column) = [⟨"K", true⟩, ⟨"C", false⟩] := by decide +kernel
  have hopens : Opens "T" S := ⟨"\t", "table_name(\"T\");", _, by decide, .mk (@QuotedName.compact
    "table_name" "T" "table_name" (by decide) (by decide)), rfl⟩
  obtain ⟨-, -, -, hok, hdescribes, -⟩ := build_outcome S {}
  obtain ⟨g, hg⟩ := hok.2 ⟨⟨_, hopens⟩, by rw [hcolumns]; decide, fun _ => by rw [hcolumns]; decide⟩
  have h := hdescribes g hg
  have hschema := h.columns_eq.trans hcolumns
  refine ⟨g, hg, h.opens.tableName_eq.symm.trans hopens.tableName_eq, hschema, ?_⟩
  rw [Ne, h.key_eq_nil_iff, hschema]
  decide

end TablePackage
