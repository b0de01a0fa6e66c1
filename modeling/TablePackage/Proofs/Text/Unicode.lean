import TablePackage.Proofs.Text.Ascii
import TablePackage.Unicode.Blank
import TablePackage.Unicode.Fold
import TablePackage.Unicode.Word

/-!
# ASCII among all scripts

The classes of characters of all scripts (`TablePackage.Unicode`) agree with those of ASCII on
ASCII characters, so a text that has only these is read alike with either. The blanks are the
exception: four control characters of ASCII are blanks only among all scripts.
-/

namespace TablePackage

open Ascii

variable {a c : Char} {k q : Text}

theorem Ascii.lt_of_isWord (h : Ascii.isWord c = true) : c.toNat < 128 := by
  have := isWord_iff.1 h
  omega

theorem Unicode.isWord_of_isWord (h : Ascii.isWord c = true) : Unicode.isWord c = true := by
  rw [isWord_of_lt (lt_of_isWord h), h]

/-- A word character is no blank. -/
theorem Unicode.isBlank_of_isWord (h : Ascii.isWord c = true) : Unicode.isBlank c = false := by
  have := isWord_iff.1 h
  rw [Bool.eq_false_iff]
  intro hblank
  simp only [isBlank, Bool.or_eq_true, Bool.and_eq_true, decide_eq_true_iff] at hblank
  omega

/-- A blank is no word character, and is one in all scripts. -/
theorem Ascii.isWord_of_isBlank (h : Ascii.isBlank c = true) :
    c.toNat < 128 ∧ Ascii.isWord c = false := by
  have := isBlank_iff.1 h
  refine ⟨by omega, ?_⟩
  rw [Bool.eq_false_iff]
  intro hword
  have := isWord_iff.1 hword
  omega

theorem Unicode.isBlank_of_isBlank (h : Ascii.isBlank c = true) : Unicode.isBlank c = true := by
  have := Ascii.isBlank_iff.1 h
  simp only [isBlank, Bool.or_eq_true, Bool.and_eq_true, decide_eq_true_iff]
  omega

theorem Ascii.Blanks.unicode {b : Text} (hb : Blanks b) : ∀ c ∈ b, Unicode.isBlank c = true :=
  fun c hc => Unicode.isBlank_of_isBlank (hb c hc)

/-- ASCII characters are the same letter if they have the same lower case. -/
theorem Unicode.sameLetter_iff (ha : a.toNat < 128) (hc : c.toNat < 128) :
    sameLetter a c = true ↔ a.toLower = c.toLower := by
  rw [sameLetter, fold_of_lt ha, fold_of_lt hc, beq_iff_eq]

/-- The lower case of a word character is that of word characters only. -/
theorem Ascii.isWord_of_toLower_eq (ha : Ascii.isWord a = true) (h : a.toLower = c.toLower) :
    Ascii.isWord c = true := by
  have hn := congrArg Char.toNat h
  rw [toNat_toLower, toNat_toLower] at hn
  rw [isWord_iff] at ha ⊢
  split at hn <;> split at hn <;> omega

/-- A character whose lower case is in ASCII is in ASCII. -/
theorem Ascii.lt_of_toLower_lt (h : c.toLower.toNat < 128) : c.toNat < 128 := by
  rw [toNat_toLower] at h
  split at h <;> omega

/-- Lower case stays as it is. -/
theorem Ascii.toLower_toLower (c : Char) : c.toLower.toLower = c.toLower := by
  have hc := toNat_toLower c
  rw [← Char.toNat_inj, toNat_toLower c.toLower, if_neg]
  split at hc <;> omega

/-- An ASCII keyword in any letter case has the same letters among all scripts. -/
theorem Ascii.Spells.sameLetters (h : Spells k q) (hk : ∀ c ∈ k, c.toNat < 128) :
    List.Forall₂ (fun a c => Unicode.sameLetter a c = true) k q := by
  rw [Spells] at h
  subst h
  rw [List.forall₂_map_left_iff, List.forall₂_same]
  intro c hc
  have hlower := hk _ (List.mem_map_of_mem hc)
  rw [Unicode.sameLetter_iff hlower (lt_of_toLower_lt hlower), toLower_toLower]

end TablePackage
