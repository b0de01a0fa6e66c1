import TablePackage.Proofs.Routine.Grammar

/-!
# What follows a package

The inspector reads the first package of the wanted kind, up to its `END`. Neither the header of a
package nor an `END` goes on beyond a semicolon, so a text that has one is read alike whatever
follows it: no header and no end comes to stand before those that were found.

* `findPackage_eq_some_iff`: which package is read;
* `inspection_ignores_rest`: whatever follows a closed package is not looked at.
-/

namespace TablePackage

namespace Routine

variable {b k n q r s t u v w : Text} {p : PackageHeader} {isBody : Bool}

/-! ## Headers and semicolons -/

theorem IsSpace.not_mem (h : IsSpace b) : ';' ∉ b := fun hmem =>
  Bool.false_ne_true (h.2 ';' hmem)

theorem IsIdentifier.not_mem (h : IsIdentifier w) : ';' ∉ w := fun hmem =>
  Bool.false_ne_true (h.2 ';' hmem)

theorem SameLetters.not_mem (h : SameLetters k q) (hk : ';' ∉ k) : ';' ∉ q := fun hmem =>
  hk (h.mem_of_isCaseless (by decide) hmem)

theorem Keyword.not_mem (h : Keyword k w) (hk : ';' ∉ k) : ';' ∉ w := by
  obtain ⟨hq, hb⟩ := h
  rw [List.mem_append, not_or]
  exact ⟨hq.not_mem hk, hb.not_mem⟩

theorem WrittenOpening.not_mem (h : WrittenOpening w) : ';' ∉ w := by
  cases h with
  | plain hu hv =>
    simp only [List.mem_append, not_or]
    exact ⟨hu.not_mem (by decide), hv.not_mem (by decide)⟩
  | replacing hu hv hw hx =>
    simp only [List.mem_append, not_or]
    exact ⟨hu.not_mem (by decide), hv.not_mem (by decide), hw.not_mem (by decide),
      hx.not_mem (by decide)⟩

theorem WrittenName.not_mem (h : WrittenName n w) : ';' ∉ w := by
  obtain ⟨hn, hb, hq⟩ := h
  simp only [List.mem_append, not_or]
  exact ⟨hn.not_mem, hb.not_mem, hq.elim (·.not_mem (by decide)) (·.not_mem (by decide))⟩

theorem WrittenHeader.not_mem (h : WrittenHeader p w) : ';' ∉ w := by
  cases h with
  | specification hu hw =>
    rw [List.mem_append, not_or]
    exact ⟨hu.not_mem, hw.not_mem⟩
  | body hu hv hw =>
    simp only [List.mem_append, not_or]
    exact ⟨hu.not_mem, hv.not_mem (by decide), hw.not_mem⟩

/-- Whether a word ends in front of a text is seen at its first character. -/
theorem endsWord_append_iff (hd : ';' ∈ r) : EndsWord (r ++ s) ↔ EndsWord r := by
  cases r with
  | nil => cases hd
  | cons c r => exact Iff.rfl

/-- A header that stands in front of a semicolon stands there whatever follows, and no other one
    comes to stand there. -/
theorem headerAt_append_iff (hd : ';' ∈ t) :
    HeaderAt p (t ++ s) r ↔ ∃ r', HeaderAt p t r' ∧ r = r' ++ s := by
  constructor
  · rintro ⟨⟨w, hw, ht⟩, hends, hpreferred⟩
    obtain ⟨r', rfl, rfl, hr'⟩ := Text.exists_of_append_eq ht.symm hd hw.not_mem
    refine ⟨r', ⟨⟨w, hw, rfl⟩, (endsWord_append_iff hr').1 hends, ?_⟩, rfl⟩
    intro hp m x y hx hy hendsy
    have hmem : ';' ∈ y := (List.mem_append.1 (hy ▸ hd)).resolve_left hx.not_mem
    refine hpreferred hp m x (y ++ s) hx ?_ ((endsWord_append_iff hmem).2 hendsy)
    rw [hy, List.append_assoc]
  · rintro ⟨r', ⟨⟨w, hw, rfl⟩, hends, hpreferred⟩, rfl⟩
    have hr' : ';' ∈ r' := (List.mem_append.1 hd).resolve_left hw.not_mem
    refine ⟨⟨w, hw, List.append_assoc ..⟩, (endsWord_append_iff hr').2 hends, ?_⟩
    intro hp m x y hx hy hendsy
    obtain ⟨y', hy', rfl, hmem⟩ := Text.exists_of_append_eq hy.symm hd hx.not_mem
    exact hpreferred hp m x y' hx hy' ((endsWord_append_iff hmem).1 hendsy)

theorem settledBy_packageHeader? : Text.SettledBy ';' packageHeader? := by
  intro t s hd
  ext ⟨p, r⟩
  rw [Option.map_eq_some_iff, packageHeader?_eq_some_iff, headerAt_append_iff hd]
  simp only [Prod.exists, packageHeader?_eq_some_iff, Prod.mk.injEq]
  grind

/-- An end with a name goes on to a semicolon, and has no other one. -/
theorem WrittenEnd.isClosedBy (hn : IsIdentifier n) (h : WrittenEnd n w) :
    Text.IsClosedBy ';' w := by
  obtain @⟨v, m, b, hv, hm, hb⟩ := h
  refine ⟨v ++ (m ++ b), by simp only [List.append_assoc], ?_⟩
  simp only [List.mem_append, not_or]
  exact ⟨hv.not_mem (by decide), hm.not_mem hn.not_mem, fun hmem => Bool.false_ne_true (hb _ hmem)⟩

theorem settledBy_end? (hn : IsIdentifier n) : Text.SettledBy ';' (end? n) :=
  Text.settledBy_of_isClosedBy (fun _ => WrittenEnd n) (end?_eq_some_iff hn)
    (WrittenEnd.isClosedBy hn)

/-! ## The first package -/

/-- A header of a package of the kind stands at the start of `t`. -/
def IsHeaderAt (isBody : Bool) (t : Text) : Prop := ∃ n r, HeaderAt ⟨isBody, n⟩ t r

/-- The first header of a package of the wanted kind in `t` is that of the package `n`: `before`
    stands in front of it, and `rest` follows. -/
def FirstPackage (isBody : Bool) (n t before rest : Text) : Prop :=
  ∃ s, Text.FirstPlace (IsHeaderAt isBody) t before s ∧ HeaderAt ⟨isBody, n⟩ s rest

theorem wantedHeader?_eq_some_iff :
    wantedHeader? isBody t = some (p, r) ↔ HeaderAt p t r ∧ p.isBody = isBody := by
  rw [wantedHeader?, Option.filter_eq_some_iff, packageHeader?_eq_some_iff, decide_eq_true_iff]

theorem isSome_wantedHeader? (isBody : Bool) :
    (fun t => (wantedHeader? isBody t).isSome = true) = IsHeaderAt isBody := by
  funext t
  rw [eq_iff_iff, Option.isSome_iff_exists]
  constructor
  · rintro ⟨⟨⟨_, n⟩, r⟩, h⟩
    obtain ⟨hat, rfl⟩ := wantedHeader?_eq_some_iff.1 h
    exact ⟨n, r, hat⟩
  · rintro ⟨n, r, hat⟩
    exact ⟨_, wantedHeader?_eq_some_iff.2 ⟨hat, rfl⟩⟩

theorem settledBy_wantedHeader? (isBody : Bool) : Text.SettledBy ';' (wantedHeader? isBody) := by
  intro t s hd
  rw [wantedHeader?, settledBy_packageHeader? t s hd, Option.filter_map]
  rfl

/-- The package that is read is the first one. -/
theorem findPackage_eq_some_iff :
    findPackage isBody t = some (n, r) ↔ ∃ before, FirstPackage isBody n t before r := by
  rw [findPackage, Option.map_eq_some_iff]
  constructor
  · rintro ⟨f, hf, he⟩
    obtain ⟨rfl, rfl⟩ := Prod.mk.inj he
    obtain ⟨s, hs, hread⟩ := Text.find?_eq_some_iff.1 ⟨f, hf, rfl, rfl, rfl⟩
    obtain ⟨hat, rfl⟩ := wantedHeader?_eq_some_iff.1 hread
    exact ⟨f.before, s, isSome_wantedHeader? _ ▸ hs, hat⟩
  · rintro ⟨before, s, hs, hat⟩
    rw [← isSome_wantedHeader?] at hs
    obtain ⟨f, hf, -, hvalue, rfl⟩ :=
      Text.find?_eq_some_iff.2 ⟨s, hs, wantedHeader?_eq_some_iff.2 ⟨hat, rfl⟩⟩
    exact ⟨f, hf, by rw [hvalue]⟩

theorem FirstPackage.exists_eq_append {before : Text} (h : FirstPackage isBody n t before r) :
    ∃ w, WrittenHeader ⟨isBody, n⟩ w ∧ t = before ++ (w ++ r) := by
  obtain ⟨s, hs, ⟨w, hw, hsplit⟩, -⟩ := h
  exact ⟨w, hw, by rw [hs.eq_append, hsplit]⟩

theorem FirstPackage.isIdentifier {before : Text} (h : FirstPackage isBody n t before r) :
    IsIdentifier n := by
  obtain ⟨w, hw, -⟩ := h.exists_eq_append
  cases hw with
  | specification _ hn => cases hn with | mk hn _ _ => exact hn
  | body _ _ hn => cases hn with | mk hn _ _ => exact hn

theorem findPackage_append (h : findPackage isBody u = some (n, r)) (hd : ';' ∈ r) (v : Text) :
    findPackage isBody (u ++ v) = some (n, r ++ v) := by
  obtain ⟨f, hf, he⟩ := Option.map_eq_some_iff.1 h
  obtain ⟨rfl, rfl⟩ := Prod.mk.inj he
  have hmem : ∀ y, wantedHeader? isBody y = some (f.value, f.rest) → ';' ∈ y := by
    intro y hy
    obtain ⟨w, -, rfl⟩ := (wantedHeader?_eq_some_iff.1 hy).1.written
    exact List.mem_append_right w hd
  obtain ⟨g, hg, -, hvalue, hrest⟩ := (settledBy_wantedHeader? isBody).find?_append hf hmem v
  exact Option.map_eq_some_iff.2 ⟨g, hg, by rw [hvalue, hrest]⟩

/-! ## Closed packages -/

/-- The first package of the wanted kind is closed: somewhere behind its header stands the end that
    has its name. -/
def Closed (isBody : Bool) (u : Text) : Prop :=
  ∃ n before rest, FirstPackage isBody n u before rest ∧
    ∃ x w y, WrittenEnd n w ∧ rest = x ++ (w ++ y)

theorem closed_of_end? {x y : Text} (hu : findPackage isBody u = some (n, x ++ y))
    (hy : end? n y = some ((), r)) : Closed isBody u := by
  obtain ⟨before, hfirst⟩ := findPackage_eq_some_iff.1 hu
  obtain ⟨w, hw, rfl⟩ := (end?_eq_some_iff hfirst.isIdentifier).1 hy
  exact ⟨n, before, _, hfirst, x, w, r, hw, rfl⟩

/-- The contents of a closed package are the same whatever follows the text. -/
theorem Closed.contents?_append (h : Closed isBody u) (v : Text) :
    contents? isBody (u ++ v) = contents? isBody u := by
  obtain ⟨n, before, rest, hfirst, x, w, y, hw, rfl⟩ := h
  have hn := hfirst.isIdentifier
  have hend : ∀ {r}, WrittenEnd n r → ';' ∈ r := fun hr => (hr.isClosedBy hn).mem
  have hpackage := findPackage_eq_some_iff.2 ⟨before, hfirst⟩
  have hpackage' := findPackage_append hpackage
    (List.mem_append_right x (List.mem_append_left y (hend hw))) v
  -- An end is found in the text alone, and the same one with `v` behind it.
  obtain ⟨f, hf⟩ : ∃ f, Text.find? (end? n) (x ++ (w ++ y)) = some f := by
    rw [← Option.ne_none_iff_exists', ne_eq, Text.find?_eq_none_iff]
    intro hnone
    have hread : end? n (w ++ y) = some ((), y) := (end?_eq_some_iff hn).2 ⟨w, hw, rfl⟩
    rw [hnone x _ rfl] at hread
    cases hread
  have hmem : ∀ y, end? n y = some (f.value, f.rest) → ';' ∈ y := by
    intro y hy
    obtain ⟨w, hw, rfl⟩ := (end?_eq_some_iff hn).1 hy
    exact List.mem_append_left _ (hend hw)
  obtain ⟨g, hg, hbefore, -⟩ := (settledBy_end? hn).find?_append hf hmem v
  simp only [contents?, hpackage, hpackage', Option.bind_eq_bind, Option.bind_some, hf, hg,
    hbefore]

/-- Whatever follows a closed package is not looked at. -/
theorem inspection_ignores_rest (u v : Text) :
    (Closed true u → ofBody (u ++ v) = ofBody u) ∧
      (Closed false u → ofSpecification (u ++ v) = ofSpecification u) := by
  refine ⟨fun h => ?_, fun h => ?_⟩
  · rw [ofBody, h.contents?_append v, ofBody]
  · rw [ofSpecification, h.contents?_append v, ofSpecification]

/-- A specification of a package that is called `body`, and a body. -/
def twoPackages : Text :=
  "create package body is procedure p; end BODY ;\n" ++
    "create package body b as procedure q is end q; end B;"

theorem inspection_ignores_third_package :
    Closed true twoPackages ∧ Closed false twoPackages ∧
      ofBody (twoPackages ++ " CREATE PACKAGE BODY b IS PROCEDURE r IS END r; END b;") =
        ofBody twoPackages ∧
      ofSpecification (twoPackages ++ " IS CREATE PACKAGE body AS PROCEDURE r; END body;") =
        ofSpecification twoPackages := by
  have hbody : Closed true twoPackages :=
    closed_of_end? (n := "b") (x := " procedure q is end q; ") (y := "end B;") (r := [])
      (by decide +kernel) (by decide +kernel)
  have hspecification : Closed false twoPackages :=
    closed_of_end? (n := "body") (x := " procedure p; ")
      (y := "end BODY ;\ncreate package body b as procedure q is end q; end B;")
      (r := "\ncreate package body b as procedure q is end q; end B;")
      (by decide +kernel) (by decide +kernel)
  exact ⟨hbody, hspecification, (inspection_ignores_rest twoPackages _).1 hbody,
    (inspection_ignores_rest twoPackages _).2 hspecification⟩

end Routine

end TablePackage
