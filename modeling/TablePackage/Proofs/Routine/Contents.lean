import TablePackage.Proofs.Routine.Members

/-!
# Contents of a package

The text of a package is read from its header to its `END`, and its members are found in
between, one after the other: what stands between two headers has been shown not to matter.

* `filterMap_headersFrom_append`, `filterMap_headersFrom_eq_nil`: a text without further headers is
  passed over;
* `filterMap_headersFrom_member`, `filterMap_headersFrom_members`: members, one after the other, are
  read as they are written;
* `packageHeader?_specification`, `packageHeader?_body`: the header of a package;
* `ofSpecification_block`: the procedures of a specification.
-/

namespace TablePackage.Routine

open Ascii

variable {follow : Text → Option Text} {T b n t u v w x : Text} {c : Char} {m : Bool}
  {h : Header} {read : Header → Option Routine}

/-! ## Headers -/

/-- At a character, either a header starts or the next character is looked at. -/
theorem headersFrom_cons (m : Bool) (c : Char) (t : Text) :
    headersFrom m (c :: t) = headersFrom (Unicode.isBlank c) t ∨
      ∃ h m', header? (c :: t) = some h ∧ headersFrom m (c :: t) = h :: headersFrom m' h.rest := by
  rw [headersFrom]
  split
  · rename_i h hh
    exact .inr ⟨h, _, (Option.ite_none_right_eq_some.1 hh).2, rfl⟩
  · exact .inl rfl

theorem headersFrom_of_header (hh : header? (c :: t) = some h) :
    ∃ m, headersFrom true (c :: t) = h :: headersFrom m h.rest := by
  rw [headersFrom]
  split
  · rename_i h' hh'
    rw [if_pos rfl, hh] at hh'
    obtain rfl := Option.some.inj hh'
    exact ⟨_, rfl⟩
  · rename_i hh'
    rw [if_pos rfl, hh] at hh'
    cases hh'

/-- No header starts where a word ends. -/
theorem header?_eq_none (ht : Stops t) : header? t = none := by
  rw [header?, keyword?, word?_eq_none (by decide) ht]
  rfl

/-- A gap is passed over, and a header may stand behind it. -/
theorem headersFrom_gap (hb : IsGap b) : headersFrom m (b ++ t) = headersFrom true t := by
  obtain ⟨hne, hblanks⟩ := hb
  induction b generalizing m with
  | nil => exact absurd rfl hne
  | cons c b ih =>
    have hc := hblanks c List.mem_cons_self
    have hnext : headersFrom m (c :: (b ++ t)) = headersFrom true (b ++ t) := by
      rcases headersFrom_cons m c (b ++ t) with hnext | ⟨h, _, hh, _⟩
      · rw [hnext, Unicode.isBlank_of_isBlank hc]
      · rw [header?_eq_none (stops_cons (isWord_of_isBlank hc))] at hh
        cases hh
    rw [List.cons_append, hnext]
    cases b with
    | nil => rfl
    | cons d b => exact ih (List.cons_ne_nil d b) fun e he => hblanks e (List.mem_cons_of_mem c he)

theorem char?_eq_some (h : char? c t = some u) : t = c :: u := by
  cases t with
  | nil => cases h
  | cons d t =>
    obtain ⟨rfl, hu⟩ := Option.ite_none_right_eq_some.1 h
    rw [Option.some.inj hu]

/-- A header takes a non-empty text without a semicolon off the start. -/
theorem header?_eq_append (hh : header? t = some h) :
    ∃ w, t = w ++ h.rest ∧ w ≠ [] ∧ ';' ∉ w := by
  simp only [header?, keyword?, blanks?, name?, Option.bind_eq_bind, Option.bind_eq_some_iff,
    Option.map_eq_some_iff, Prod.exists] at hh
  obtain ⟨_, ⟨t₁, h₁, b, t₂, h₂, rfl⟩, n, t₃, h₃, hh⟩ := hh
  obtain ⟨q, hq, rfl⟩ := Text.after?_eq_some_iff.1 h₁
  obtain ⟨rfl, _, hb, _⟩ := Text.run?_eq_some_iff.1 h₂
  obtain ⟨rfl, hne, hn, _⟩ := Text.run?_eq_some_iff.1 h₃
  have hkeyword : ';' ∉ q := fun hmem => by
    obtain ⟨a, ha, hletter⟩ := exists_sameLetter hq hmem
    have hnone : ∀ a ∈ ("PROCEDURE" : Text), Unicode.sameLetter a ';' = false := by decide
    exact Bool.false_ne_true ((hnone a ha).symm.trans hletter)
  have hblanks : ';' ∉ b := fun hmem => Bool.false_ne_true (hb ';' hmem)
  have hname : ';' ∉ n := fun hmem => Bool.false_ne_true (hn ';' hmem)
  have hskip : ';' ∉ t₃.takeWhile Unicode.isBlank := fun hmem =>
    Bool.false_ne_true (Text.forall_mem_takeWhile _ t₃ ';' hmem)
  have hrest : ∃ w, t₃ = w ++ h.rest ∧ ';' ∉ w := by
    have hsplit : t₃ = t₃.takeWhile Unicode.isBlank ++ skipBlanks t₃ :=
      t₃.takeWhile_append_dropWhile.symm
    split at hh
    · rename_i r hr
      obtain rfl := Option.some.inj hh
      have hopen : skipBlanks t₃ = '(' :: r := char?_eq_some hr
      refine ⟨t₃.takeWhile Unicode.isBlank ++ ['('], ?_, by simp [hskip]⟩
      rw [List.append_assoc, List.singleton_append, ← hopen]
      exact hsplit
    · obtain rfl := Option.some.inj hh
      exact ⟨_, hsplit, hskip⟩
  obtain ⟨w, hw, hsemicolon⟩ := hrest
  refine ⟨q ++ (b ++ (n ++ w)), ?_, ?_, ?_⟩
  · conv_lhs => rw [hw]
    simp
  · simp [hne]
  · simp [hkeyword, hblanks, hname, hsemicolon]

/-- A text up to a semicolon, or to the end, is passed over if `read` accepts no header in it. -/
theorem exists_filterMap_headersFrom
    (hread : ∀ t h, header? t = some h → candidate? follow t = none → read h = none)
    (hu : Text.Misses (candidate? follow) u v) (hv : ∀ c ∈ v.head?, c = ';') :
    ∃ m', (headersFrom m (u ++ v)).filterMap read = (headersFrom m' v).filterMap read := by
  induction hlength : u.length using Nat.strongRecOn generalizing u m with
  | _ k ih =>
    cases u with
    | nil => exact ⟨m, rfl⟩
    | cons c u =>
      rw [List.cons_append]
      rcases headersFrom_cons m c (u ++ v) with hnext | ⟨h, m', hh, hnext⟩
      · rw [hnext]
        exact ih u.length (by rw [← hlength]; exact Nat.lt_succ_self _) hu.2 rfl
      · have hnone : read h = none := hread _ h hh hu.1
        rw [hnext, List.filterMap_cons_none hnone]
        -- The header ends in front of the semicolon.
        obtain ⟨w, hw, hne, hsemicolon⟩ := header?_eq_append hh
        obtain ⟨x, hx, hrest⟩ : ∃ x, c :: u = w ++ x ∧ h.rest = x ++ v := by
          rw [← List.cons_append] at hw
          rcases List.append_eq_append_iff.1 hw with ⟨x, rfl, rfl⟩ | ⟨x, hx, hrest⟩
          · cases x with
            | nil => exact ⟨[], by simp, rfl⟩
            | cons d x =>
              obtain rfl := hv d rfl
              exact absurd (by simp) hsemicolon
          · exact ⟨x, hx, hrest⟩
        have hlt : x.length < k := by
          have hpos := List.length_pos_iff.2 hne
          rw [← hlength, hx, List.length_append]
          omega
        rw [hx] at hu
        rw [hrest]
        exact ih x.length hlt (Text.misses_append.1 hu).2 rfl

/-- A text up to a semicolon is passed over. -/
theorem filterMap_headersFrom_append
    (hread : ∀ t h, header? t = some h → candidate? follow t = none → read h = none)
    (hu : Text.Misses (candidate? follow) (u ++ [';']) v) :
    (headersFrom m (u ++ ';' :: v)).filterMap read = (headersFrom false v).filterMap read := by
  obtain ⟨m', hskip⟩ := exists_filterMap_headersFrom (m := m) (v := ';' :: v) hread
    (Text.misses_append.1 hu).1 fun c hc => (Option.some.inj hc).symm
  rw [hskip]
  rcases headersFrom_cons m' ';' v with hnext | ⟨h, _, hh, _⟩
  · rw [hnext]
    rfl
  · rw [header?_eq_none (stops_cons (by decide))] at hh
    cases hh

/-- A text without accepted headers has no routines. -/
theorem filterMap_headersFrom_eq_nil
    (hread : ∀ t h, header? t = some h → candidate? follow t = none → read h = none)
    (hu : Text.Misses (candidate? follow) u []) : (headersFrom m u).filterMap read = [] := by
  obtain ⟨m', hskip⟩ := exists_filterMap_headersFrom (m := m) hread hu (fun _ hc => nomatch hc)
  rw [List.append_nil] at hskip
  rw [hskip, headersFrom, List.filterMap_nil]

/-! ## Headers that go on otherwise -/

/-- A header that is no candidate is followed neither by a parenthesis nor by what `follow`
    reads. -/
theorem not_candidate (hh : header? t = some h) (hnone : candidate? follow t = none) :
    parameterSection? h = some ([], h.rest) ∧ follow (skipBlanks h.rest) = none := by
  rw [candidate?, hh, Option.filter_eq_none_iff] at hnone
  have hnot := hnone h rfl
  rw [Bool.or_eq_true, not_or, Option.isSome_iff_ne_none, not_not, Bool.not_eq_true] at hnot
  obtain ⟨hopens, hfollow⟩ := hnot
  have hskip : skipBlanks h.rest = h.rest := by
    simp only [header?, Option.bind_eq_bind, Option.bind_eq_some_iff, Prod.exists] at hh
    obtain ⟨_, _, _, t₃, _, hh⟩ := hh
    split at hh
    · obtain rfl := Option.some.inj hh
      cases hopens
    · obtain rfl := Option.some.inj hh
      exact skipBlanks_skipBlanks t₃
  refine ⟨?_, hskip.symm ▸ hfollow⟩
  rw [parameterSection?, hopens]
  rfl

theorem declaration?_eq_none (n : Text) (hh : header? t = some h)
    (hnone : candidate? (char? ';') t = none) : declaration? n h = none := by
  obtain ⟨hsection, hfollow⟩ := not_candidate hh hnone
  unfold declaration?
  rw [hsection]
  simp only [bind, Option.bind]
  rw [hfollow]

theorem definition?_eq_none (n : Text) (hh : header? t = some h)
    (hnone : candidate? isOrAs? t = none) : definition? n h = none := by
  obtain ⟨hsection, hfollow⟩ := not_candidate hh hnone
  unfold definition?
  rw [hsection]
  simp only [bind, Option.bind]
  rw [hfollow]
  rfl

/-! ## Packages -/

theorem stops_is (r : Text) : Stops (" IS" ++ r) :=
  IsGap.stops (b := " ") (r := "IS" ++ r) (by decide)

theorem named?_append (hn : IsName n) (hr : Stops r) :
    named? (n ++ (" IS" ++ r)) = some (n, r) := by
  have hblanks : blanks? (" IS" ++ r) = some ("IS" ++ r) :=
    blanks?_append (b := " ") (by decide) (head?_name (w := "IS") (by decide))
  rw [named?, name?_append hn (stops_is r)]
  simp only [bind, Option.bind]
  rw [hblanks]
  dsimp only
  rw [isOrAs?_is hr]
  rfl

/-- The opening of a package is read up to the word behind it. -/
theorem opening?_append (hk : IsName k) :
    opening? ("CREATE OR REPLACE PACKAGE " ++ (k ++ x)) = some (k ++ x) := by
  have hsplit : ("CREATE OR REPLACE PACKAGE " : Text) = "CREATE" ++ (" " ++ ("OR" ++ (" " ++
      ("REPLACE" ++ (" " ++ ("PACKAGE" ++ (" " : Text))))))) := by decide
  rw [hsplit]
  simp only [List.append_assoc]
  rw [opening?, keyword?_append "CREATE" (w := "OR") (by decide), Option.bind_eq_bind,
    Option.bind_some, keyword?_append "OR" (w := "REPLACE") (by decide), Option.bind_some,
    keyword?_append "REPLACE" (w := "PACKAGE") (by decide), Option.getD_some,
    keyword?_append "PACKAGE" hk]

/-- The header of a specification is read, unless the name is `BODY` and the text behind it goes on
    like that of a package. -/
theorem packageHeader?_specification (hn : IsName n) (hr : Stops r)
    (hnone : (blanks? r).bind isOrAs? = none) :
    packageHeader? ("CREATE OR REPLACE PACKAGE " ++ (n ++ (" IS" ++ r))) =
      some (⟨false, n⟩, r) := by
  have hbody : (keyword? "BODY" (n ++ (" IS" ++ r))).bind named? = none := by
    rw [keyword?]
    cases hword : word? "BODY" (n ++ (" IS" ++ r)) with
    | none => rfl
    | some y =>
      obtain ⟨q, w, rfl, rfl, _⟩ := word?_append_eq_some (by decide) (stops_is r) hword
      rw [Option.bind_some]
      cases w with
      | nil =>
        have hblanks : blanks? ([] ++ ((" IS" : Text) ++ r)) = some ("IS" ++ r) :=
          blanks?_append (b := " ") (by decide) (head?_name (w := "IS") (by decide))
        rw [hblanks, Option.bind_some, named?, name?_append (by decide) hr]
        change (blanks? r).bind (fun x => (isOrAs? x).bind _) = none
        rw [← Option.bind_assoc, hnone]
        rfl
      | cons c w =>
        have hc := Unicode.isBlank_of_isWord (hn.2 c (List.mem_append_right q List.mem_cons_self))
        rw [List.cons_append, blanks?_eq_none (Text.forall_head?_cons hc _)]
        rfl
  rw [packageHeader?, opening?_append hn, Option.bind_some, hbody, named?_append hn hr]
  rfl

theorem packageHeader?_body (hn : IsName n) (hr : Stops r) :
    packageHeader? ("CREATE OR REPLACE PACKAGE BODY " ++ (n ++ (" IS" ++ r))) =
      some (⟨true, n⟩, r) := by
  have hsplit : ("CREATE OR REPLACE PACKAGE BODY " : Text) =
      "CREATE OR REPLACE PACKAGE " ++ ("BODY" ++ (" " : Text)) := by decide
  rw [hsplit, List.append_assoc, List.append_assoc, packageHeader?, opening?_append (by decide),
    Option.bind_some, keyword?_append "BODY" hn, Option.bind_some, named?_append hn hr]

theorem findPackage_of_header {isBody : Bool} (ht : packageHeader? t = some (⟨isBody, n⟩, r)) :
    findPackage isBody t = some (n, r) := by
  rw [findPackage, Text.find?_of_read (a := PackageHeader.mk isBody n) (r := r)]
  · rfl
  · rw [wantedHeader?, ht, Option.filter_some, if_pos (decide_eq_true rfl)]

/-- The contents of a package go on to the first end that has its name. -/
theorem contents?_eq_some {isBody : Bool} {e : Text}
    (ht : packageHeader? t = some (⟨isBody, n⟩, u ++ e)) (hu : Text.Misses (end? n) u e)
    (he : end? n e = some ((), v)) : contents? isBody t = some (n, u) := by
  have hfind : Text.find? (end? n) (u ++ e) = some ⟨u, e.take (e.length - v.length), (), v⟩ := by
    rw [Text.find?_append_of_misses hu, Text.find?_of_read he, Option.map_some, List.append_nil]
  unfold contents?
  rw [findPackage_of_header ht]
  simp only [bind, Option.bind]
  rw [hfind]
  rfl

/-! ## Blocks of members -/

/-- Members as they stand in a package. -/
def members (ws : List Text) : Text :=
  ws.flatMap fun w => Procedure.indent ++ (w ++ ("\n\n" : Text))

variable {ws : List Text} {routines : List Routine}

theorem block_eq (opening n : Text) (ws : List Text) :
    Package.block opening n (ws.map (Procedure.indent ++ ·)) =
      opening ++ ("\n" ++ (members ws ++ ("END " ++ (n ++ ';' :: "\n")))) := by
  unfold Package.block members
  simp only [List.flatMap_map, List.append_assoc]
  rfl

/-- A member is read as it is written, and then what follows the empty line behind it. -/
theorem filterMap_headersFrom_member {w : Text} {routine : Routine}
    (hread : ∀ t h, header? t = some h → candidate? follow t = none → read h = none)
    (hw : Reads read follow w routine) (hb : IsGap b) (t : Text) :
    (headersFrom m (b ++ (w ++ ("\n\n" ++ t)))).filterMap read =
      routine :: (headersFrom false ("\n\n" ++ t)).filterMap read := by
  obtain ⟨h, u, hh, hroutine, hrest, hu⟩ := hw ("\n\n" ++ t)
  rw [headersFrom_gap hb]
  generalize w ++ ("\n\n" ++ _) = x at hh ⊢
  cases x with
  | nil => cases hh
  | cons c x =>
    obtain ⟨m', hheaders⟩ := headersFrom_of_header hh
    rw [hheaders, List.filterMap_cons_some hroutine, hrest, filterMap_headersFrom_append hread hu]

/-- A gap goes on with the indentation of a member. -/
theorem IsGap.append_indent (hb : IsGap b) : IsGap (b ++ Procedure.indent) :=
  ⟨List.append_ne_nil_of_left_ne_nil hb.1 _, List.forall_mem_append.2 ⟨hb.2, by decide⟩⟩

/-- Members, one after the other, are read as they are written. -/
theorem filterMap_headersFrom_members
    (hread : ∀ t h, header? t = some h → candidate? follow t = none → read h = none)
    (hws : List.Forall₂ (Reads read follow) ws routines) (hb : IsGap b) :
    (headersFrom m (b ++ members ws)).filterMap read = routines := by
  induction hws generalizing b m with
  | nil =>
    rw [headersFrom_gap hb, members, List.flatMap_nil, headersFrom, List.filterMap_nil]
  | @cons w routine ws routines hw _ ih =>
    have hsplit : b ++ members (w :: ws) =
        (b ++ Procedure.indent) ++ (w ++ ("\n\n" ++ members ws)) := by
      simp only [members, List.flatMap_cons, List.append_assoc]
    rw [hsplit, filterMap_headersFrom_member hread hw hb.append_indent, ih (by decide)]

/-- No end is read in members if none is read in each of them. -/
theorem misses_members (hws : ∀ w ∈ ws, ∀ v, Text.Misses (end? n) w v) :
    Text.Misses (end? n) (members ws) v := by
  induction ws with
  | nil => exact trivial
  | cons w ws ih =>
    rw [members, List.flatMap_cons]
    refine Text.misses_append.2 ⟨Text.misses_append.2 ⟨?_, Text.misses_append.2 ⟨?_, ?_⟩⟩, ?_⟩
    · exact (keyed_end? n).misses_of_isFree (by decide)
    · exact hws w List.mem_cons_self _
    · exact (keyed_end? n).misses_of_isFree (by decide)
    · exact ih fun x hx => hws x (List.mem_cons_of_mem w hx)

/-- Behind the header of a package there is neither `IS` nor `AS`. -/
theorem isOrAs?_members (hws : ∀ w ∈ ws, ∃ x, w = "PROCEDURE" ++ (' ' :: x)) :
    (blanks? ("\n" ++ (members ws ++ ("END " ++ v)))).bind isOrAs? = none := by
  have hkeyword : ∀ {b k y : Text}, IsGap b → IsName k → ¬IsOrAs k →
      (blanks? (b ++ (k ++ ' ' :: y))).bind isOrAs? = none := fun hb hk hnot => by
    rw [blanks?_append hb (head?_name hk), Option.bind_some,
      isOrAs?_eq_none hk.letters hnot (stops_cons (by decide))]
  cases ws with
  | nil => exact @hkeyword "\n" "END" v (by decide) (by decide) (by decide)
  | cons w ws =>
    obtain ⟨x, rfl⟩ := hws _ List.mem_cons_self
    have hsplit : "\n" ++ (members (("PROCEDURE" ++ ' ' :: x) :: ws) ++ ("END " ++ v)) =
        "\n" ++ Procedure.indent ++ ("PROCEDURE" ++ ' ' :: (x ++ ("\n\n" ++ (members ws ++
          ("END " ++ v))))) := by
      simp only [members, List.flatMap_cons, List.append_assoc, List.cons_append]
    rw [hsplit]
    exact hkeyword (by decide) (by decide) (by decide)

/-- The declarations of a specification are read as they are written. -/
theorem ofSpecification_block (hn : IsName n)
    (hstart : ∀ w ∈ ws, ∃ x, w = "PROCEDURE" ++ (' ' :: x))
    (hends : ∀ w ∈ ws, ∀ v, Text.Misses (end? n) w v)
    (hreads : List.Forall₂ (Reads (declaration? n) (char? ';')) ws routines) :
    ofSpecification (Package.block ("CREATE OR REPLACE PACKAGE " ++ n ++ " IS") n
      (ws.map (Procedure.indent ++ ·))) = routines := by
  have hheader : packageHeader? ("CREATE OR REPLACE PACKAGE " ++ n ++ " IS" ++
      ("\n" ++ (members ws ++ ("END " ++ (n ++ ';' :: "\n"))))) =
      some (⟨false, n⟩, "\n" ++ members ws ++ ("END " ++ (n ++ ';' :: "\n"))) := by
    simp only [List.append_assoc]
    exact packageHeader?_specification hn (stops_cons (by decide)) (isOrAs?_members hstart)
  have hmisses : Text.Misses (end? n) ("\n" ++ members ws) ("END " ++ (n ++ ';' :: "\n")) :=
    Text.misses_append.2 ⟨(keyed_end? n).misses_of_isFree (by decide), misses_members hends⟩
  rw [block_eq, ofSpecification, contents?_eq_some hheader hmisses (end?_append hn)]
  exact filterMap_headersFrom_members (fun t h => declaration?_eq_none n) hreads (by decide)

end TablePackage.Routine
