import TablePackage.Proofs.Lists
import TablePackage.Proofs.Routine.Enclosed
import TablePackage.Proofs.Text.Mapping

/-!
# Letter case in packages

The letter case of a package does not matter. Lower case changes the capital letters of ASCII only,
and whatever the readers of `TablePackage.Routine` ask of a character is the same for its lower
case: which letter it is, whether it is a blank or a word character, and which symbol it is. So
each reader gives of a text in lower case what it gives of the text, in lower case.

* `packageHeader?_toLower`, `end?_toLower`: packages and their ends;
* `headersFrom_toLower`: the headers of procedures;
* `parametersOf_toLower`: the parameters, whose modes stay as they are;
* `ofBody_toLower`, `ofSpecification_toLower`: all routines of a text;
* `inspection_ignores_case`: texts that differ in letter case have the same routines.
-/

namespace TablePackage

/-! ## Characters -/

/-- The letters that have a lower case. -/
def Ascii.capitals : Text := "ABCDEFGHIJKLMNOPQRSTUVWXYZ"

/-- What is the same for all capital letters and their lower cases is so for all characters. -/
theorem Ascii.apply_toLower {α : Type} {f : Char → α}
    (h : ∀ c ∈ capitals, f c.toLower = f c) (c : Char) : f c.toLower = f c := by
  by_cases hc : 65 ≤ c.toNat ∧ c.toNat ≤ 90
  · have hcapital : ∀ n < 91, 65 ≤ n → Char.ofNat n ∈ capitals := by decide
    have hmem := hcapital c.toNat (by omega) hc.1
    rw [Char.ofNat_toNat] at hmem
    exact h c hmem
  · have hsame : c.toLower = c := by
      rw [← Char.toNat_inj, toNat_toLower, if_neg hc]
    rw [hsame]

theorem Unicode.fold_toLower : ∀ c, fold c.toLower = fold c := Ascii.apply_toLower (by decide)

theorem Unicode.isWord_toLower : ∀ c, isWord c.toLower = isWord c := Ascii.apply_toLower (by decide)

theorem Unicode.isBlank_toLower : ∀ c, isBlank c.toLower = isBlank c :=
  Ascii.apply_toLower (by decide)

theorem Unicode.sameLetter_toLower (a c : Char) : sameLetter a c.toLower = sameLetter a c := by
  rw [sameLetter, sameLetter, fold_toLower]

theorem Unicode.toLower_sameLetter (a c : Char) : sameLetter a.toLower c = sameLetter a c := by
  rw [sameLetter, sameLetter, fold_toLower]

namespace Routine

variable {k n rest t : Text}

theorem upper_toLower : ∀ c : Char, upper c.toLower = upper c := Ascii.apply_toLower (by decide)

/-! ## Words and symbols -/

theorem word?_toLower (k t : Text) :
    word? k (t.map Char.toLower) = (word? k t).map (·.map Char.toLower) :=
  Text.after?_map Unicode.sameLetter_toLower k t

theorem wholeWord?_toLower (k t : Text) :
    wholeWord? k (t.map Char.toLower) = (wholeWord? k t).map (·.map Char.toLower) := by
  rw [wholeWord?, wholeWord?, word?_toLower]
  cases word? k t with
  | none => rfl
  | some r =>
    have hstop : (r.map Char.toLower).head?.any Unicode.isWord = r.head?.any Unicode.isWord := by
      cases r with
      | nil => rfl
      | cons c r => exact Unicode.isWord_toLower c
    rw [Option.map_some, Option.filter_some, Option.filter_some, hstop]
    split <;> rfl

theorem isOrAs?_toLower (t : Text) :
    isOrAs? (t.map Char.toLower) = (isOrAs? t).map (·.map Char.toLower) := by
  rw [isOrAs?, isOrAs?, wholeWord?_toLower, wholeWord?_toLower]
  cases wholeWord? "AS" t <;> rfl

theorem name?_toLower (t : Text) : name? (t.map Char.toLower) =
    (name? t).map fun (w, r) => (w.map Char.toLower, r.map Char.toLower) :=
  Text.run?_map Unicode.isWord_toLower t

theorem skipBlanks_toLower (t : Text) :
    skipBlanks (t.map Char.toLower) = (skipBlanks t).map Char.toLower :=
  Text.dropWhile_map Unicode.isBlank_toLower t

theorem blanks?_toLower (t : Text) :
    blanks? (t.map Char.toLower) = (blanks? t).map (·.map Char.toLower) := by
  rw [blanks?, blanks?, Text.run?_map Unicode.isBlank_toLower, Option.map_map, Option.map_map]
  rfl

theorem char?_toLower {c : Char} (hc : c.toNat < 65 ∨ 122 < c.toNat) (t : Text) :
    char? c (t.map Char.toLower) = (char? c t).map (·.map Char.toLower) := by
  cases t with
  | nil => rfl
  | cons d t =>
    rw [List.map_cons, char?, char?]
    by_cases hd : d = c
    · rw [if_pos hd, if_pos ((Ascii.toLower_eq_iff hc).2 hd)]
      rfl
    · rw [if_neg hd, if_neg (mt (Ascii.toLower_eq_iff hc).1 hd)]
      rfl

theorem keyword?_toLower (k t : Text) :
    keyword? k (t.map Char.toLower) = (keyword? k t).map (·.map Char.toLower) := by
  rw [keyword?, keyword?, word?_toLower, bind_map_eq blanks?_toLower]

/-! ## Packages -/

theorem named?_toLower (t : Text) : named? (t.map Char.toLower) =
    (named? t).map fun (n, r) => (n.map Char.toLower, r.map Char.toLower) := by
  unfold named?
  rw [name?_toLower]
  refine bind_map_eq fun (n, t) => ?_
  dsimp only [Option.bind_eq_bind]
  rw [blanks?_toLower]
  refine bind_map_eq fun t => ?_
  rw [isOrAs?_toLower]
  exact bind_map_eq fun r => rfl

theorem opening?_toLower (t : Text) :
    opening? (t.map Char.toLower) = (opening? t).map (·.map Char.toLower) := by
  unfold opening?
  rw [keyword?_toLower]
  refine bind_map_eq fun t => ?_
  rw [keyword?_toLower "OR", bind_map_eq (keyword?_toLower "REPLACE"), Option.getD_map,
    keyword?_toLower]

/-- The header of a package with its name in lower case. -/
def PackageHeader.lower (p : PackageHeader) : PackageHeader := ⟨p.isBody, p.name.map Char.toLower⟩

theorem packageHeader?_toLower (t : Text) : packageHeader? (t.map Char.toLower) =
    (packageHeader? t).map fun (p, r) => (p.lower, r.map Char.toLower) := by
  rw [packageHeader?, packageHeader?, opening?_toLower]
  refine bind_map_eq fun t => ?_
  rw [keyword?_toLower, bind_map_eq named?_toLower]
  cases (keyword? "BODY" t).bind named? with
  | some f => rfl
  | none =>
    rw [Option.map_none]
    dsimp only
    rw [named?_toLower, Option.map_map, Option.map_map]
    rfl

/-- An end is read with a name in any letter case. -/
theorem end?_toLower (n t : Text) : end? (n.map Char.toLower) (t.map Char.toLower) =
    (end? n t).map fun (u, r) => (u, r.map Char.toLower) := by
  unfold end?
  rw [keyword?_toLower]
  refine bind_map_eq fun t => ?_
  dsimp only [Option.bind_eq_bind]
  rw [word?, Text.after?_map_left Unicode.toLower_sameLetter, ← word?, word?_toLower]
  refine bind_map_eq fun t => ?_
  rw [skipBlanks_toLower, char?_toLower (by decide)]
  exact bind_map_eq fun t => rfl

theorem wantedHeader?_toLower (isBody : Bool) (t : Text) :
    wantedHeader? isBody (t.map Char.toLower) =
      (wantedHeader? isBody t).map fun (p, r) => (p.lower, r.map Char.toLower) := by
  rw [wantedHeader?, packageHeader?_toLower, Option.filter_map]
  rfl

theorem findPackage_toLower (isBody : Bool) (t : Text) :
    findPackage isBody (t.map Char.toLower) =
      (findPackage isBody t).map fun (n, r) => (n.map Char.toLower, r.map Char.toLower) := by
  rw [findPackage, findPackage, Text.find?_map (wantedHeader?_toLower isBody), Option.map_map,
    Option.map_map]
  rfl

theorem contents?_toLower (isBody : Bool) (t : Text) : contents? isBody (t.map Char.toLower) =
    (contents? isBody t).map fun (n, r) => (n.map Char.toLower, r.map Char.toLower) := by
  unfold contents?
  rw [findPackage_toLower]
  refine bind_map_eq fun (n, t) => ?_
  dsimp only
  rw [Text.find?_map (g := id) (end?_toLower n)]
  cases Text.find? (end? n) t <;> rfl

/-! ## Procedures -/

/-- A header of a procedure in lower case. -/
def Header.lower (h : Header) : Header :=
  ⟨h.name.map Char.toLower, h.text.map Char.toLower, h.opens, h.rest.map Char.toLower⟩

theorem header?_toLower (t : Text) :
    header? (t.map Char.toLower) = (header? t).map Header.lower := by
  unfold header?
  rw [keyword?_toLower]
  refine bind_map_eq fun u => ?_
  dsimp only [Option.bind_eq_bind]
  rw [name?_toLower]
  refine bind_map_eq fun (n, u) => ?_
  dsimp only
  rw [skipBlanks_toLower, char?_toLower (by decide)]
  cases char? '(' (skipBlanks u) <;> rfl

theorem upTo_map (f : Char → Char) (rest t : Text) :
    upTo (rest.map f) (t.map f) = (upTo rest t).map f := by
  rw [upTo, upTo, List.map_take, List.length_map, List.length_map]

/-- Whether a text ends in a line feed does not depend on its letter case. -/
theorem getLast?_toLower_iff (t : Text) :
    (t.map Char.toLower).getLast? = some '\n' ↔ t.getLast? = some '\n' := by
  rw [List.getLast?_map]
  cases t.getLast? with
  | none => exact Iff.rfl
  | some c =>
    rw [Option.map_some, Option.some_inj, Option.some_inj, Ascii.toLower_eq_iff (by decide)]

/-- Where a header may start, it is read, and otherwise the next character is looked at. -/
theorem headersFrom_eq (m : Bool) (c : Char) (t : Text) :
    headersFrom m (c :: t) = match if m then header? (c :: t) else none with
      | some h => h :: headersFrom ((upTo h.rest (c :: t)).getLast? = some '\n') h.rest
      | none => headersFrom (Unicode.isBlank c) t := by
  rw [headersFrom]
  split <;> rename_i hh <;> rw [hh]

theorem headersFrom_toLower (m : Bool) (t : Text) :
    headersFrom m (t.map Char.toLower) = (headersFrom m t).map Header.lower := by
  have hread : ∀ (m : Bool) (c : Char) (t : Text),
      (if m then header? (c.toLower :: t.map Char.toLower) else none) =
        (if m then header? (c :: t) else none).map Header.lower := fun m c t => by
    rw [← List.map_cons, header?_toLower]
    split <;> rfl
  induction m, t using headersFrom.induct with
  | case1 m => rw [List.map_nil, headersFrom, List.map_nil]
  | case2 m c t h hh ih =>
    rw [dite_eq_ite] at hh
    rw [List.map_cons, headersFrom_eq, headersFrom_eq, hread, hh, Option.map_some]
    dsimp only
    have hlast : (upTo h.lower.rest (c.toLower :: t.map Char.toLower)).getLast? = some '\n' ↔
        (upTo h.rest (c :: t)).getLast? = some '\n' := by
      rw [Header.lower, ← List.map_cons, upTo_map, getLast?_toLower_iff]
    rw [decide_eq_decide.2 hlast, List.map_cons, ← ih]
    rfl
  | case3 m c t hh ih =>
    rw [dite_eq_ite] at hh
    rw [List.map_cons, headersFrom_eq, headersFrom_eq, hread, hh, Option.map_none]
    dsimp only
    rw [Unicode.isBlank_toLower, ih]

/-! ## Parameters -/

theorem closing?_toLower (depth : Nat) (t : Text) : closing? depth (t.map Char.toLower) =
    (closing? depth t).map fun (i, r) => (i.map Char.toLower, r.map Char.toLower) := by
  have hcloses : ∀ c : Char, c.toLower = ')' ↔ c = ')' := fun c => Ascii.toLower_eq_iff (by decide)
  have hopens : ∀ c : Char, c.toLower = '(' ↔ c = '(' := fun c => Ascii.toLower_eq_iff (by decide)
  induction t generalizing depth with
  | nil => rfl
  | cons c t ih =>
    rw [List.map_cons]
    unfold closing?
    by_cases hc : c = ')'
    · rw [if_pos hc, if_pos ((hcloses c).2 hc)]
      cases depth with
      | zero => rfl
      | succ depth =>
        dsimp only
        rw [ih, Option.map_map, Option.map_map]
        rfl
    · rw [if_neg hc, if_neg (mt (hcloses c).1 hc)]
      simp only [hopens]
      rw [ih, Option.map_map, Option.map_map]
      rfl

theorem parameterSection?_toLower (h : Header) : parameterSection? h.lower =
    (parameterSection? h).map fun (i, r) => (i.map Char.toLower, r.map Char.toLower) := by
  unfold parameterSection?
  rw [Header.lower]
  dsimp only
  split
  · exact closing?_toLower 0 h.rest
  · rfl

theorem isWordOf_toLower (k w : Text) : isWordOf k (w.map Char.toLower) = isWordOf k w := by
  rw [isWordOf, isWordOf, List.map_map, show upper ∘ Char.toLower = upper from funext upper_toLower]

theorem splitMode_toLower (ws : List Text) : splitMode (ws.map (·.map Char.toLower)) =
    ((splitMode ws).1, (splitMode ws).2.map (·.map Char.toLower)) := by
  cases ws with
  | nil => rfl
  | cons w ws =>
    rw [List.map_cons]
    unfold splitMode
    dsimp only
    rw [isWordOf_toLower, isWordOf_toLower]
    split
    · cases ws with
      | nil => rfl
      | cons x ws =>
        rw [List.map_cons]
        dsimp only
        rw [isWordOf_toLower]
        split <;> rfl
    · split <;> rfl

end Routine

/-- A parameter in lower case. -/
def Parameter.lower (q : Parameter) : Parameter :=
  ⟨q.name.map Char.toLower, q.mode, q.type.map Char.toLower⟩

/-- A routine in lower case. -/
def Routine.lower (r : Routine) : Routine :=
  ⟨r.package.map Char.toLower, r.name.map Char.toLower, r.parameters.map Parameter.lower,
    r.text.map Char.toLower⟩

namespace Routine

theorem parameter?_toLower (entry : Text) :
    parameter? (entry.map Char.toLower) = (parameter? entry).map Parameter.lower := by
  unfold parameter?
  rw [Text.wordsBy_map Unicode.isBlank_toLower]
  cases Text.wordsBy Unicode.isBlank entry with
  | nil => rfl
  | cons n ws =>
    rw [List.map_cons]
    dsimp only
    rw [splitMode_toLower]
    by_cases htype : (splitMode ws).2 = []
    · rw [if_pos htype, if_pos (List.map_eq_nil_iff.2 htype)]
      rfl
    · rw [if_neg htype, if_neg (mt List.map_eq_nil_iff.1 htype), Option.map_some, Parameter.lower,
        ← Text.join_map]
      rfl

theorem parametersOf_toLower (t : Text) :
    parametersOf (t.map Char.toLower) = (parametersOf t).map Parameter.lower := by
  rw [parametersOf, parametersOf, Lists.splitOn_map fun d => Ascii.toLower_eq_iff (by decide),
    List.filterMap_map, List.map_filterMap]
  congr
  funext entry
  exact parameter?_toLower entry

/-! ## Routines -/

theorem trim_toLower (t : Text) : trim (t.map Char.toLower) = (trim t).map Char.toLower :=
  Text.trimBy_map Unicode.isBlank_toLower t

theorem definition?_toLower (n : Text) (h : Header) :
    definition? (n.map Char.toLower) h.lower = (definition? n h).map Routine.lower := by
  unfold definition?
  rw [parameterSection?_toLower]
  refine bind_map_eq fun (i, rest) => ?_
  dsimp only
  rw [skipBlanks_toLower, isOrAs?_toLower]
  cases isOrAs? (skipBlanks rest) with
  | none => rfl
  | some u =>
    have hroutine : ∀ stop : Text,
        Routine.mk (n.map Char.toLower) (h.name.map Char.toLower)
          (parametersOf (i.map Char.toLower))
          (trim (upTo (stop.map Char.toLower) (h.text.map Char.toLower))) =
        (Routine.mk n h.name (parametersOf i) (trim (upTo stop h.text))).lower := fun stop => by
      rw [parametersOf_toLower, upTo_map, trim_toLower]
      rfl
    dsimp only [Header.lower]
    rw [Text.find?_map (g := id) (end?_toLower h.name)]
    cases Text.find? (end? h.name) rest with
    | none => exact congrArg some (hroutine [])
    | some f => exact congrArg some (hroutine f.rest)

theorem declaration?_toLower (n : Text) (h : Header) :
    declaration? (n.map Char.toLower) h.lower = (declaration? n h).map Routine.lower := by
  unfold declaration?
  rw [parameterSection?_toLower]
  refine bind_map_eq fun (i, rest) => ?_
  dsimp only [Option.bind_eq_bind]
  rw [skipBlanks_toLower, char?_toLower (by decide)]
  refine bind_map_eq fun stop => ?_
  rw [parametersOf_toLower, Header.lower]
  dsimp only
  rw [upTo_map, trim_toLower]
  rfl

theorem filterMap_headers_toLower {read read' : Header → Option Routine}
    (hread : ∀ h, read' h.lower = (read h).map Routine.lower) (t : Text) :
    (headers (t.map Char.toLower)).filterMap read' =
      ((headers t).filterMap read).map Routine.lower := by
  rw [headers, headers, headersFrom_toLower, List.filterMap_map, List.map_filterMap]
  exact List.filterMap_congr fun h _ => hread h

/-- The body of a package in lower case has the routines of the body, in lower case. -/
theorem ofBody_toLower (t : Text) :
    ofBody (t.map Char.toLower) = (ofBody t).map Routine.lower := by
  unfold ofBody
  rw [contents?_toLower]
  cases contents? true t with
  | none => rfl
  | some f => exact filterMap_headers_toLower (definition?_toLower f.1) f.2

/-- The specification of a package in lower case has the routines of the specification, in lower
    case. -/
theorem ofSpecification_toLower (t : Text) :
    ofSpecification (t.map Char.toLower) = (ofSpecification t).map Routine.lower := by
  unfold ofSpecification
  rw [contents?_toLower]
  cases contents? false t with
  | none => rfl
  | some f => exact filterMap_headers_toLower (declaration?_toLower f.1) f.2

end Routine

/-! ## Texts that differ in letter case -/

/-- Two parameters have the same mode, and names and types that differ in letter case only. -/
structure Parameter.SameUpToCase (p q : Parameter) : Prop where
  name_eq : p.name.map Char.toLower = q.name.map Char.toLower
  mode_eq : p.mode = q.mode
  type_eq : p.type.map Char.toLower = q.type.map Char.toLower

namespace Routine

/-- Two routines differ in letter case only, and their parameters have the same modes. -/
structure SameUpToCase (r s : Routine) : Prop where
  package_eq : r.package.map Char.toLower = s.package.map Char.toLower
  name_eq : r.name.map Char.toLower = s.name.map Char.toLower
  parameters : List.Forall₂ Parameter.SameUpToCase r.parameters s.parameters
  text_eq : r.text.map Char.toLower = s.text.map Char.toLower

theorem sameUpToCase_of_lower_eq {r s : Routine} (h : r.lower = s.lower) : SameUpToCase r s := by
  rw [Routine.lower, Routine.lower, mk.injEq] at h
  obtain ⟨hpackage, hname, hparameters, htext⟩ := h
  refine ⟨hpackage, hname, ?_, htext⟩
  rw [← List.forall₂_eq_eq_eq, List.forall₂_map_left_iff, List.forall₂_map_right_iff] at hparameters
  refine hparameters.imp fun p q hpq => ?_
  rw [Parameter.lower, Parameter.lower, Parameter.mk.injEq] at hpq
  exact ⟨hpq.1, hpq.2.1, hpq.2.2⟩

/-- Lists of routines that are the same in lower case. -/
theorem forall₂_sameUpToCase {rs ss : List Routine}
    (h : rs.map Routine.lower = ss.map Routine.lower) : List.Forall₂ SameUpToCase rs ss := by
  rw [← List.forall₂_eq_eq_eq, List.forall₂_map_left_iff, List.forall₂_map_right_iff] at h
  exact h.imp fun _ _ => sameUpToCase_of_lower_eq

/-- The letter case of a text does not matter for its routines. If two texts differ only in the case
    of ASCII letters, then their routines correspond one to one: the names of the packages and of
    the routines, the texts of these, and the names and types of the parameters differ in letter
    case only, and the modes of the parameters are the same. -/
theorem inspection_ignores_case {t t' : Text}
    (h : t.map Char.toLower = t'.map Char.toLower) :
    List.Forall₂ SameUpToCase (ofBody t) (ofBody t') ∧
      List.Forall₂ SameUpToCase (ofSpecification t) (ofSpecification t') := by
  constructor
  · refine forall₂_sameUpToCase ?_
    rw [← ofBody_toLower, ← ofBody_toLower, h]
  · refine forall₂_sameUpToCase ?_
    rw [← ofSpecification_toLower, ← ofSpecification_toLower, h]

/-- In the second text, the names of the package and of its only routine are written in another
    letter case than at the ends of these. -/
theorem inspection_ignores_case_of_ends :
    let t : Text := "CREATE PACKAGE BODY p IS PROCEDURE q(a IN OUT r) IS BEGIN NULL; END q; END p;"
    let t' : Text := "create Package body P is Procedure Q(A in Out R) is begin null; end q; end p;"
    ∃ r r', ofBody t = [r] ∧ ofBody t' = [r'] ∧ r.name = ("q" : Text) ∧ r'.name = ("Q" : Text) ∧
      SameUpToCase r r' := by
  intro t t'
  have h : t.map Char.toLower = t'.map Char.toLower := by decide +kernel
  have hbody : ofBody t = [⟨"p", "q", [⟨"a", .inputOutput, "r"⟩],
    "PROCEDURE q(a IN OUT r) IS BEGIN NULL; END q;"⟩] := by decide +kernel
  have hbody' : ofBody t' = [⟨"P", "Q", [⟨"A", .inputOutput, "R"⟩],
    "Procedure Q(A in Out R) is begin null; end q;"⟩] := by decide +kernel
  have hsame := (inspection_ignores_case h).1
  rw [hbody, hbody'] at hsame
  exact ⟨_, _, hbody, hbody', rfl, rfl, (List.forall₂_cons.1 hsame).1⟩

end Routine

end TablePackage
