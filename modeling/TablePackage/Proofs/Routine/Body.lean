import TablePackage.Proofs.Routine.Contents

/-!
# Bodies of packages

A body is taken to end at the first `END` with the name of the package. This is its own one if no
procedure has this name, in any letter case. Otherwise it is the `END` of the first procedure that
has it: nothing is read behind this procedure, and the text of the procedure itself is read without
its `END`.

* `ofBody_definitions`: the procedures of a body, whatever their names are;
* `bodyRoutines_eq_zipWith`: the bodies that are read as they are written.
-/

namespace TablePackage.Routine

open Ascii

variable {T b n : Text} {m : Bool} {p : Procedure} {ps : List Procedure} {qs : List Parameter}
  {qss : List (List Parameter)}

/-- Procedures as they stand in the body of the package `n`, as far as they are looked at. -/
def bodyText (n : Text) : List Procedure → Text
  | [] => []
  | p :: ps =>
    let more : Text :=
      if SameName n p.name then [] else "END " ++ (p.name ++ ';' :: ("\n\n" ++ bodyText n ps))
    Procedure.indent ++ (heading p ++ (middle p ++ more))

/-- What is read of procedures in the body of the package `n`. -/
def bodyRoutines (n : Text) : List Procedure → List (List Parameter) → List Routine
  | [], _ | _ :: _, [] => []
  | p :: ps, qs :: qss =>
    if SameName n p.name then [⟨n, p.name, qs, trim (heading p ++ middle p)⟩]
    else ⟨n, p.name, qs, trim p.definition⟩ :: bodyRoutines n ps qss

/-! ## The end of a body -/

theorem members_written_cons (p : Procedure) (ps : List Procedure) (x : Text) :
    members ((p :: ps).map written) ++ x =
      Procedure.indent ++ (heading p ++ (middle p ++ ("END " ++ (p.name ++ ';' ::
        ("\n\n" ++ (members (ps.map written) ++ x)))))) := by
  rw [← written_append]
  simp only [members, List.map_cons, List.flatMap_cons, List.append_assoc]

/-- What is looked at of procedures goes on to the first end that has the name of the package. -/
theorem exists_end_of_members (hn : IsName n) (hT : IsName T) (hne : ¬IsOrAs T)
    (h : List.Forall₂ (Legible T) ps qss) (hquiet : ∀ p ∈ ps, Quiet p) (x : Text) :
    ∃ e v, members (ps.map written) ++ ("END " ++ (n ++ ';' :: x)) = bodyText n ps ++ e ∧
      Text.Misses (end? n) (bodyText n ps) e ∧ end? n e = some ((), v) := by
  induction h with
  | nil => exact ⟨_, x, rfl, trivial, end?_append hn⟩
  | @cons p qs ps qss hp _ ih =>
    have hindent : ∀ s, Text.Misses (end? n) Procedure.indent s := fun s =>
      (keyed_end? n).misses_of_isFree (by decide)
    have hquiet' := List.forall_mem_cons.1 hquiet
    rw [members_written_cons, bodyText]
    by_cases hname : SameName n p.name
    · -- The `END` of this procedure is taken for that of the package.
      rw [if_pos hname, List.append_nil]
      have hassoc : ∀ y : Text, Procedure.indent ++ (heading p ++ (middle p ++ y)) =
          Procedure.indent ++ (heading p ++ middle p) ++ y := fun y => by
        simp only [List.append_assoc]
      have hend := fun v => end?_append_of_sameName (v := v) hn hp.name hname
      refine ⟨_, _, hassoc _, Text.misses_append.2 ⟨hindent _, ?_⟩, hend _⟩
      exact misses_statements hp hT hne hquiet'.1 hn
    · obtain ⟨e, v, hsplit, hmisses, hend⟩ := ih hquiet'.2
      have hmember : Text.Misses (end? n) (written p) ("\n\n" ++ bodyText n ps ++ e) :=
        misses_definition hp hT hne hquiet'.1 hn hname
      have hline : Text.Misses (end? n) "\n\n" (bodyText n ps ++ e) :=
        (keyed_end? n).misses_of_isFree (by decide)
      rw [if_neg hname, hsplit, ← written_append, ← written_append]
      refine ⟨e, v, by simp only [List.append_assoc], ?_, hend⟩
      exact Text.misses_append.2 ⟨hindent _, Text.misses_append.2
        ⟨hmember, Text.misses_append.2 ⟨hline, hmisses⟩⟩⟩

/-! ## The procedures of a body -/

/-- The last procedure that is looked at is read without its `END`. -/
theorem filterMap_headersFrom_namesake (h : Legible T p qs) (hT : IsName T) (hne : ¬IsOrAs T)
    (hp : Quiet p) (hb : IsGap b) :
    (headersFrom m (b ++ (heading p ++ middle p))).filterMap (definition? n) =
      [⟨n, p.name, qs, trim (heading p ++ middle p)⟩] := by
  have hheader := header?_definition h.name hp []
  have hread := definition?_of_quiet h hT hp n (heading p ++ (middle p ++ [])) []
  have htext : upTo [] (heading p ++ middle p) = heading p ++ middle p := by
    rw [upTo, List.length_nil, Nat.sub_zero, List.take_length]
  rw [headersFrom_gap hb]
  simp only [List.append_nil] at hheader hread
  -- The text is taken as a whole, as only its first character decides how headers are looked for.
  generalize hx : heading p ++ middle p = x at hheader hread htext ⊢
  cases x with
  | nil => cases hheader
  | cons c x =>
    obtain ⟨m', hheaders⟩ := headersFrom_of_header hheader
    rw [hheaders, List.filterMap_cons_some hread, filterMap_headersFrom_eq_nil
      (fun t h => definition?_eq_none n) (misses_remainder h hT hne hp)]
    exact congrArg (fun t => [Routine.mk n p.name qs (trim t)]) htext

/-- Procedures are read one after the other, up to one that is named like the package. -/
theorem filterMap_headersFrom_bodyText (hT : IsName T) (hne : ¬IsOrAs T)
    (h : List.Forall₂ (Legible T) ps qss) (hquiet : ∀ p ∈ ps, Quiet p) (hb : IsGap b) :
    (headersFrom m (b ++ bodyText n ps)).filterMap (definition? n) = bodyRoutines n ps qss := by
  induction h generalizing b m with
  | nil => rw [headersFrom_gap hb, bodyText, headersFrom, List.filterMap_nil, bodyRoutines]
  | @cons p qs ps qss hp _ ih =>
    have hquiet' := List.forall_mem_cons.1 hquiet
    rw [bodyText, bodyRoutines, ← List.append_assoc b]
    by_cases hname : SameName n p.name
    · rw [if_pos hname, if_pos hname, List.append_nil]
      exact filterMap_headersFrom_namesake hp hT hne hquiet'.1 hb.append_indent
    · have hread : Reads (definition? n) isOrAs? (written p) ⟨n, p.name, qs, trim p.definition⟩ :=
        reads_definition hp hT hne hquiet'.1 n
      rw [if_neg hname, if_neg hname, ← written_append, filterMap_headersFrom_member
        (fun t h => definition?_eq_none n) hread hb.append_indent, ih hquiet'.2 (by decide)]

/-- Quiet procedures are read from the body of their package in their order, up to and including the
    first one that is named like the package. -/
theorem ofBody_definitions (hn : IsName n) (hT : IsName T) (hne : ¬IsOrAs T)
    (h : List.Forall₂ (Legible T) ps qss) (hquiet : ∀ p ∈ ps, Quiet p) :
    ofBody (Package.block ("CREATE OR REPLACE PACKAGE BODY " ++ n ++ " IS") n
      (ps.map (·.definition))) = bodyRoutines n ps qss := by
  obtain ⟨e, v, hsplit, hmisses, hend⟩ := exists_end_of_members hn hT hne h hquiet "\n"
  have hheader : packageHeader? ("CREATE OR REPLACE PACKAGE BODY " ++ n ++ " IS" ++
      ("\n" ++ (bodyText n ps ++ e))) = some (⟨true, n⟩, "\n" ++ bodyText n ps ++ e) := by
    simp only [List.append_assoc]
    exact packageHeader?_body hn (stops_cons (by decide))
  have hline : Text.Misses (end? n) ("\n" ++ bodyText n ps) e :=
    Text.misses_append.2 ⟨(keyed_end? n).misses_of_isFree (by decide), hmisses⟩
  rw [map_definition, block_eq, hsplit, ofBody, contents?_eq_some hheader hline hend]
  exact filterMap_headersFrom_bodyText hT hne h hquiet (by decide)

/-- All procedures are read as they are written if none is named like the package. -/
theorem bodyRoutines_eq_zipWith (hnames : ∀ p ∈ ps, ¬SameName n p.name)
    (qss : List (List Parameter)) :
    bodyRoutines n ps qss =
      List.zipWith (fun p qs => ⟨n, p.name, qs, trim p.definition⟩) ps qss := by
  induction ps generalizing qss with
  | nil => rfl
  | cons p ps ih =>
    obtain ⟨hp, hps⟩ := List.forall_mem_cons.1 hnames
    cases qss with
    | nil => rfl
    | cons qs qss => rw [bodyRoutines, if_neg hp, ih hps, List.zipWith_cons_cons]

end TablePackage.Routine
