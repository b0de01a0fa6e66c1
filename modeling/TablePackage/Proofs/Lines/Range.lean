import TablePackage.Proofs.Lines.Numbered
import TablePackage.Proofs.Number.Integer
import TablePackage.Proofs.Text.Occurrence

/-!
# Written ranges

Which texts are ranges of lines. A range is written with a colon between its sides, the first one
in the text. Each side is empty or an integer (`Literal.WrittenInteger`); the numbers start at one,
and the last one is not below the first one.

* `Text.firstAt_singleton_iff`: the first place of a character;
* `ofText_eq_ok_iff`: a text is read as a range exactly if it is written as one;
* `ofText_reads_written`: all texts, and what becomes of the ones that are no ranges.
-/

namespace TablePackage

variable {c : Char} {o : Option Int} {r : LineRange} {t u v : Text} {a b : Nat}

/-- A character stands at the end of what has none of it. -/
theorem Text.firstAt_singleton_iff : FirstAt [c] t u v ↔ t = u ++ c :: v ∧ c ∉ u := by
  constructor
  · rintro ⟨rfl, hfirst⟩
    refine ⟨by rw [List.append_assoc, List.singleton_append], fun hc => ?_⟩
    obtain ⟨x, y, rfl⟩ := List.append_of_mem hc
    have hle := hfirst x (y ++ [c] ++ v) (by simp)
    rw [List.length_append, List.length_cons] at hle
    omega
  · rintro ⟨rfl, hc⟩
    refine ⟨by rw [List.append_assoc, List.singleton_append], fun x y hxy => ?_⟩
    by_contra hlt
    have hbefore : x ++ [c] <+: u :=
      List.prefix_of_prefix_length_le ⟨y, hxy.symm⟩ ⟨c :: v, rfl⟩ (by
        rw [List.length_append, List.length_singleton]
        omega)
    exact hc (List.IsPrefix.subset hbefore (List.mem_append_right x List.mem_cons_self))

namespace LineRange

/-! ## Written ranges -/

/-- One side of a range: it is left out, or it is an integer. -/
inductive WrittenSide : Option Int → Text → Prop
  | leftOut : WrittenSide none []
  | number {n : Int} {w : Text} : Literal.WrittenInteger n w → WrittenSide (some n) w

/-- A range with a colon between its sides, and no other colon in front of it. -/
structure WrittenRange (r : LineRange) (t : Text) : Prop extends FromOne r where
  first_le_last : ∀ a b, r.first = some a → r.last = some b → a ≤ b
  sides : ∃ u v, t = u ++ ':' :: v ∧ ':' ∉ u ∧ WrittenSide r.first u ∧ WrittenSide r.last v

/-- A side is read if it is written. -/
theorem side?_eq_some_iff : side? t = some o ↔ WrittenSide o t := by
  unfold side?
  split
  · rename_i hnil
    subst hnil
    constructor
    · intro h
      obtain rfl := Option.some.inj h
      exact .leftOut
    · intro h
      cases h with
      | leftOut => rfl
      | number hn =>
        rw [← Literal.int?_eq_some_iff] at hn
        cases hn
  · rename_i hne
    rw [Option.map_eq_some_iff]
    constructor
    · rintro ⟨n, hn, rfl⟩
      exact .number (Literal.int?_eq_some_iff.1 hn)
    · intro h
      cases h with
      | leftOut => exact absurd rfl hne
      | number hn => exact ⟨_, Literal.int?_eq_some_iff.2 hn, rfl⟩

/-- A text is read as a range exactly if it is written as one. -/
theorem ofText_eq_ok_iff : ofText t = .ok r ↔ WrittenRange r t := by
  obtain ⟨first, last⟩ := r
  constructor
  · intro h
    unfold ofText at h
    split at h
    · cases h
    rename_i u v hcut
    obtain ⟨ht, hu⟩ := Text.firstAt_singleton_iff.1 (Text.cut?_eq_some_iff.1 hcut)
    split at h
    · rename_i a b ha hb
      split at h
      · rename_i hflaw
        obtain ⟨⟩ := h
        obtain ⟨hone, hle⟩ := flaw?_eq_none_iff.1 hflaw
        exact ⟨hone, hle, u, v, ht, hu, side?_eq_some_iff.1 ha, side?_eq_some_iff.1 hb⟩
      · cases h
    · cases h
  · rintro ⟨hone, hle, u, v, ht, hu, hfirst, hlast⟩
    have hcut := Text.cut?_eq_some_iff.2 (Text.firstAt_singleton_iff.2 ⟨ht, hu⟩)
    unfold ofText
    simp only [hcut, side?_eq_some_iff.2 hfirst, side?_eq_some_iff.2 hlast,
      flaw?_eq_none_iff.2 ⟨hone, hle⟩]

/-- A fault shows the text that is refused. -/
theorem text_of_ofText {f : Fault} (h : ofText t = .error f) : f.text = t := by
  unfold ofText at h
  split at h
  · obtain ⟨⟩ := h
    rfl
  · split at h
    · split at h
      · cases h
      · obtain ⟨⟩ := h
        rfl
    · obtain ⟨⟩ := h
      rfl

/-- A text that is not written as a range is refused. -/
theorem exists_ofText_eq_error_iff :
    (∃ cause, ofText t = .error ⟨cause, t⟩) ↔ ¬∃ r, WrittenRange r t := by
  simp only [← ofText_eq_ok_iff]
  cases h : ofText t with
  | ok r => exact iff_of_false (fun ⟨_, hcause⟩ => nomatch hcause) (not_not_intro ⟨r, rfl⟩)
  | error f =>
    obtain rfl := text_of_ofText h
    exact iff_of_true ⟨f.cause, rfl⟩ fun ⟨_, hr⟩ => nomatch hr

/-! ## Numbers in a range -/

/-- A number in its decimal form has no colon. -/
theorem colon_notMem_ofNat (n : Nat) : ':' ∉ Text.ofNat n := fun hmem =>
  absurd (Nat.isDigit_of_mem_toDigits (by decide) (by decide) hmem) (by decide)

/-- A number is a side of a range, if it has not too many digits. -/
theorem writtenSide_ofNat {n : Nat} (h : (Text.ofNat n).length ≤ Literal.digitLimit) :
    WrittenSide (some (n : Int)) (Text.ofNat n) :=
  .number (Literal.int?_eq_some_iff.1 (Literal.int?_ofNat h))

/-- The decimal form of a number is not longer than that of a larger one. -/
theorem length_ofNat_mono (h : a ≤ b) : (Text.ofNat a).length ≤ (Text.ofNat b).length := by
  have hpos : 0 < (Text.ofNat b).length := List.length_pos_iff.2 Nat.toDigits_ne_nil
  exact (Nat.length_toDigits_le_iff (by decide) hpos).2
    (h.trans_lt ((Nat.length_toDigits_le_iff (by decide) hpos).1 (Nat.le_refl _)))

/-- A text is read as a range of lines exactly if it is written as one, and that is the range;
    every other text is refused with a fault that shows it. So two numbers in order are read back
    from their decimal forms, as long as these are not longer than integers may be, and each of
    them alone. -/
theorem ofText_reads_written :
    (∀ t r, ofText t = .ok r ↔ WrittenRange r t) ∧
    (∀ t, (∃ cause, ofText t = .error ⟨cause, t⟩) ↔ ¬∃ r, WrittenRange r t) ∧
    ∀ a b : Nat, 0 < a → a ≤ b → (Text.ofNat b).length ≤ 4300 →
      ofText (Text.ofNat a ++ ':' :: Text.ofNat b) = .ok ⟨some a, some b⟩ ∧
      ofText (Text.ofNat a ++ [':']) = .ok ⟨some a, none⟩ ∧
      ofText (':' :: Text.ofNat b) = .ok ⟨none, some b⟩ := by
  refine ⟨fun t r => ofText_eq_ok_iff, fun t => exists_ofText_eq_error_iff, ?_⟩
  intro a b ha hab hb
  have hfirst : WrittenSide (some (a : Int)) (Text.ofNat a) :=
    writtenSide_ofNat ((length_ofNat_mono hab).trans hb)
  have hlast : WrittenSide (some (b : Int)) (Text.ofNat b) := writtenSide_ofNat hb
  have hcolon := colon_notMem_ofNat a
  simp only [ofText_eq_ok_iff]
  refine ⟨⟨⟨?_, ?_⟩, ?_, _, _, rfl, hcolon, hfirst, hlast⟩,
    ⟨⟨?_, ?_⟩, ?_, _, _, rfl, hcolon, hfirst, .leftOut⟩,
    ⟨⟨?_, ?_⟩, ?_, _, _, rfl, List.not_mem_nil, .leftOut, hlast⟩⟩
  -- The numbers start at one and are in order.
  all_goals simp <;> omega

/-- A range with blanks, a sign, an underscore and digits of another script, a text that is no
    range, and a range of two numbers. -/
theorem ofText_reads_written_foreign :
    WrittenRange ⟨some 10, some 30⟩ " +1_0\u2003:\t٣٠" ∧ (¬∃ r, WrittenRange r "5:2:7") ∧
    0 < 7 ∧ 7 ≤ 12 ∧ (Text.ofNat 12).length ≤ 4300 ∧
      ofText "7:12" = .ok ⟨some 7, some 12⟩ ∧ ofText "7:" = .ok ⟨some 7, none⟩ ∧
      ofText ":12" = .ok ⟨none, some 12⟩ := by
  obtain ⟨hread, hrefused, hnumbers⟩ := ofText_reads_written
  exact ⟨(hread _ _).1 (by decide +kernel), (hrefused _).1 ⟨.notInteger, by decide +kernel⟩,
    by decide, by decide, by decide, hnumbers 7 12 (by decide) (by decide) (by decide)⟩

end LineRange

end TablePackage
