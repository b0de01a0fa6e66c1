import TablePackage.Proofs.Insertion
import TablePackage.Proofs.Quotes
import TablePackage.Proofs.Routine.Statements

/-!
# Names that have been read

The names of a table and its columns are words, since they have been read between quotes, and the
parts of identifiers are words or empty, but for a line feed at the end. So all names of a package
are words if no part has a line feed.
-/

namespace TablePackage

open Ascii Routine

/-- A part of an identifier that has no line feed is a word, or empty. -/
theorem Value.letters_of_isFragment {t : Text} (h : isFragment t = true) (hline : '\n' ∉ t) :
    Letters t := by
  have hsplit : t.takeWhile isWord ++ t.dropWhile isWord = t := t.takeWhile_append_dropWhile
  rw [isFragment, Bool.or_eq_true, decide_eq_true_iff, decide_eq_true_iff] at h
  rcases h with h | h
  · rw [h, List.append_nil] at hsplit
    exact hsplit ▸ Text.forall_mem_takeWhile isWord t
  · rw [h] at hsplit
    exact absurd (hsplit ▸ List.mem_append_right _ List.mem_cons_self) hline

/-- A table that lacks nothing although its key is required has a name and a key. -/
theorem Schema.ne_nil_of_fault? {s : Schema} (h : s.fault? true = none) :
    s.table ≠ [] ∧ s.key ≠ [] := by
  unfold fault? at h
  cases hcomplete : s.isComplete with
  | false => rw [hcomplete] at h; cases h
  | true =>
    rw [hcomplete] at h
    refine ⟨fun htable => ?_, fun hkey => ?_⟩
    · rw [isComplete, decide_eq_false (not_not_intro htable)] at hcomplete
      cases hcomplete
    · rw [if_pos hkey] at h
      cases h

/-- The package of a text is that of the table that it declares. -/
theorem build_of_ofText {S : Text} {s : Schema} {requireKey : Bool}
    (hopens : Declaration.opensWithTable S = true) (hschema : Schema.ofText S = s)
    (hfault : s.fault? requireKey = none) (n : Naming) :
    Generated.build S n requireKey = .ok (.ofSchema S n s) := by
  subst hschema
  exact Generated.build_eq_ok_iff.2 ⟨hopens, hfault, rfl⟩

/-- All names of a table that has been read with its key are words. -/
theorem named_of_build {S : Text} {n : Naming} {g : Generated}
    (hbuild : Generated.build S n true = .ok g) (hn : ∀ t ∈ n.fragments, Letters t) :
    Named n g.schema := by
  obtain ⟨-, hfault, rfl⟩ := Generated.build_eq_ok_iff.1 hbuild
  obtain ⟨htable, hkey⟩ := Schema.ne_nil_of_fault? hfault
  have hworded := Schema.worded_ofText S
  exact ⟨⟨htable, hworded.table⟩, fun _ => Schema.isName_of_mem_ofText, hworded.key, hn,
    List.append_ne_nil_of_right_ne_nil _ hkey, List.append_ne_nil_of_right_ne_nil _ hkey,
    List.append_ne_nil_of_right_ne_nil _ hkey⟩

/-- So is the key, which is required to be there. -/
theorem isName_key_of_build {S : Text} {n : Naming} {g : Generated}
    (hbuild : Generated.build S n true = .ok g) : IsName g.schema.key := by
  obtain ⟨-, hfault, rfl⟩ := Generated.build_eq_ok_iff.1 hbuild
  exact ⟨(Schema.ne_nil_of_fault? hfault).2, (Schema.worded_ofText S).key⟩

end TablePackage
