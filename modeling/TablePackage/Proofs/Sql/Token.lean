import Mathlib.Data.List.Induction
import TablePackage.Proofs.Routine.Contents

/-!
# Tokens

Statements are read as their tokens: the words, and each symbol by itself. Blanks separate tokens,
and are none. Where a text is cut in two, but not inside a word, its tokens are those of the parts.

* `tokens_append_of_stops`, `tokens_append_of_closed`: two texts, one after the other;
* `tokens_join`: items with commas between them;
* `tokens_written`, `tokens_block`: the definition of a procedure, and a whole package.
-/

namespace TablePackage.Sql

open Ascii Routine

variable {b n t u v w : Text} {c : Char} {ts : List Text}

/-- Puts a character in front of the first token. -/
def glue (c : Char) : List Text → List Text
  | [] => [[c]]
  | w :: ws => (c :: w) :: ws

/-- The words and symbols of a text. -/
def tokens : Text → List Text
  | [] => []
  | c :: t =>
    if isBlank c then tokens t
    else if isWord c && t.head?.any isWord then glue c (tokens t)
    else [c] :: tokens t

/-! ## Texts one after the other -/

theorem glue_append {ws : List Text} (h : ws ≠ []) (c : Char) (vs : List Text) :
    glue c (ws ++ vs) = glue c ws ++ vs := by
  obtain ⟨w, ws, rfl⟩ := List.exists_cons_of_ne_nil h
  rfl

/-- A text that starts with a word has tokens. -/
theorem tokens_ne_nil (h : t.head?.any isWord = true) : tokens t ≠ [] := by
  cases t with
  | nil => cases h
  | cons c t =>
    have hblank : ¬isBlank c = true := fun hc => by
      rw [List.head?_cons, Option.any_some, (isWord_of_isBlank hc).2] at h
      cases h
    rw [tokens, if_neg hblank]
    split
    · cases tokens t <;> exact List.cons_ne_nil _ _
    · exact List.cons_ne_nil _ _

/-- A text may be cut in front of what is no word character. -/
theorem tokens_append_of_stops (hv : Stops v) (u : Text) :
    tokens (u ++ v) = tokens u ++ tokens v := by
  induction u with
  | nil => rfl
  | cons c u ih =>
    have hhead : (u ++ v).head?.any isWord = u.head?.any isWord := by
      cases u with
      | nil =>
        cases hd : v.head? with
        | none => rw [List.nil_append, hd]; rfl
        | some d => rw [List.nil_append, hd, Option.any_some, (hv d hd).2]; rfl
      | cons d u => rfl
    rw [List.cons_append, tokens, tokens, ih, hhead]
    split
    · rfl
    · split
      · rename_i hword
        exact glue_append (tokens_ne_nil (Bool.and_eq_true_iff.1 hword).2) c _
      · rfl

/-- A character that is no word character goes on with no word. -/
theorem tokens_cons (hc : isWord c = false) (t : Text) :
    tokens (c :: t) = tokens [c] ++ tokens t := by
  rw [tokens, tokens, hc, Bool.false_and, if_neg Bool.false_ne_true, Bool.false_and,
    if_neg Bool.false_ne_true]
  split <;> rfl

/-- A phrase behind which no word goes on: it ends with an ASCII character that is no word
    character. -/
def Closed (t : Text) : Prop := ∀ c ∈ t.getLast?, c.toNat < 128 ∧ isWord c = false

instance : Decidable (Closed t) :=
  inferInstanceAs (Decidable (∀ c ∈ t.getLast?, c.toNat < 128 ∧ isWord c = false))

/-- A text may be cut behind a closed phrase. -/
theorem tokens_append_of_closed (hu : Closed u) (v : Text) :
    tokens (u ++ v) = tokens u ++ tokens v := by
  cases u using List.reverseRecOn with
  | nil => rfl
  | append_singleton u c =>
    have hc := hu c List.getLast?_concat
    rw [List.append_assoc, List.singleton_append, tokens_append_of_stops (stops_cons hc),
      tokens_append_of_stops (v := [c]) (stops_cons hc), tokens_cons hc.2, List.append_assoc]

/-- A phrase is read without its blanks. -/
theorem tokens_phrase (k : Text) (hu : Closed u ∧ tokens u = tokens k) (v : Text) :
    tokens (u ++ v) = tokens k ++ tokens v := by
  rw [tokens_append_of_closed hu.1, hu.2]

/-- Blanks are not read. -/
theorem tokens_blanks (hb : Closed b ∧ tokens b = []) (v : Text) : tokens (b ++ v) = tokens v := by
  rw [tokens_append_of_closed hb.1, hb.2]
  rfl

/-- A word may stand in front of a phrase that starts with no word character. -/
theorem stops_phrase (hu : u ≠ [] ∧ Stops u) (v : Text) : Stops (u ++ v) := by
  obtain ⟨c, u, rfl⟩ := List.exists_cons_of_ne_nil hu.1
  exact hu.2

/-- A word is one token. -/
theorem tokens_word (hw : IsName w) : tokens w = [w] := by
  obtain ⟨hne, hall⟩ := hw
  induction w with
  | nil => exact absurd rfl hne
  | cons c w ih =>
    obtain ⟨hc, hw⟩ := List.forall_mem_cons.1 hall
    have hblank : ¬isBlank c = true := fun hb => by
      rw [(isWord_of_isBlank hb).2] at hc
      cases hc
    rw [tokens, if_neg hblank]
    cases w with
    | nil => rw [if_neg (by simp)]; rfl
    | cons d w =>
      rw [if_pos (by simp [hc, hw d List.mem_cons_self]), ih (List.cons_ne_nil d w) hw]
      rfl

theorem tokens_name (hw : IsName w) (hv : Stops v) : tokens (w ++ v) = w :: tokens v := by
  rw [tokens_append_of_stops hv, tokens_word hw]
  rfl

/-- A token has only characters of the text, and no blanks. -/
theorem mem_of_mem_tokens (hw : w ∈ tokens t) {a : Char} (ha : a ∈ w) :
    a ∈ t ∧ isBlank a = false := by
  induction t generalizing w with
  | nil => cases hw
  | cons c t ih =>
    have hlater : ∀ {v}, v ∈ tokens t → a ∈ v → a ∈ c :: t ∧ isBlank a = false :=
      fun hv ha => (ih hv ha).imp_left (List.mem_cons_of_mem c)
    rw [tokens] at hw
    split at hw
    · exact hlater hw ha
    · rename_i hblank
      have hself : c ∈ c :: t ∧ isBlank c = false := ⟨List.mem_cons_self, by simpa using hblank⟩
      split at hw
      · cases htokens : tokens t with
        | nil =>
          rw [htokens] at hw
          obtain rfl := List.mem_singleton.1 (List.mem_singleton.1 hw ▸ ha)
          exact hself
        | cons v ws =>
          rw [htokens] at hw hlater
          rcases List.mem_cons.1 hw with rfl | hw
          · rcases List.mem_cons.1 ha with rfl | ha
            · exact hself
            · exact hlater List.mem_cons_self ha
          · exact hlater (List.mem_cons_of_mem v hw) ha
      · rcases List.mem_cons.1 hw with rfl | hw
        · obtain rfl := List.mem_singleton.1 ha
          exact hself
        · exact hlater hw ha

/-! ## Lists -/

/-- The token between two items. -/
def comma : Text := ","

/-- Items with a comma between two of them are read as the tokens of the items, with commas
    between. -/
theorem tokens_join {separator : Text} (hstops : ∀ t, Stops (separator ++ t))
    (hseparator : Closed separator ∧ tokens separator = tokens comma) (ts : List Text) :
    tokens (Text.join separator ts) = [comma].intercalate (ts.map tokens) := by
  induction ts with
  | nil => rfl
  | cons t ts ih =>
    cases ts with
    | nil => simp only [Text.join, List.map_cons, List.map_nil, List.intercalate_singleton]
    | cons u ts =>
      rw [Text.join, List.intercalate_cons_cons, List.append_assoc,
        tokens_append_of_stops (hstops _), tokens_phrase _ hseparator, ih]
      simp only [List.map_cons, List.intercalate_cons_cons, List.append_assoc]
      rfl

/-! ## Procedures -/

/-- What stands in the parentheses of a procedure is read as its parameters. -/
theorem tokens_inside (p : Procedure) :
    tokens (inside p) = [comma].intercalate (p.parameters.map tokens) := by
  obtain ⟨e, he, hinside⟩ := exists_inside p
  have hstops : Stops e ∧ tokens e = [] := by
    rcases he with rfl | rfl <;> decide
  rw [hinside, tokens_blanks (by decide), tokens_append_of_stops hstops.1, hstops.2,
    List.append_nil]
  exact tokens_join (fun _ => stops_cons (by decide)) (by decide) p.parameters

/-- Statements are read one after the other. -/
theorem tokens_indented (ts : List Text) (v : Text) :
    tokens (indented ts ++ v) = ts.flatMap tokens ++ tokens v := by
  induction ts with
  | nil => rfl
  | cons t ts ih =>
    have hsplit : indented (t :: ts) ++ v =
        Procedure.statementIndent ++ (t ++ ("\n" ++ (indented ts ++ v))) := by
      simp only [indented, List.map_cons, List.flatMap_cons, List.append_assoc]
    rw [hsplit, tokens_blanks (by decide), tokens_append_of_stops (stops_phrase (by decide) _),
      tokens_blanks (by decide), ih, List.flatMap_cons, List.append_assoc]

/-- The parameters of a procedure in their parentheses, if it takes any. -/
def argumentTokens (p : Procedure) : List Text :=
  if p.takesArguments then tokens "(" ++ (tokens (inside p) ++ tokens ")") else []

/-- The heading of a procedure, as long as no word follows it. -/
theorem tokens_heading {p : Procedure} (hname : IsName p.name) (hv : Stops v) :
    tokens (heading p ++ v) = tokens "PROCEDURE" ++ p.name :: (argumentTokens p ++ tokens v) := by
  by_cases h : p.takesArguments = true
  · have hsplit : heading p ++ v =
        "PROCEDURE " ++ (p.name ++ ("(" ++ (inside p ++ (")" ++ v)))) := by
      rw [heading_of_takesArguments h]
      simp
    rw [hsplit, tokens_phrase "PROCEDURE" (by decide),
      tokens_name hname (stops_phrase (by decide) _), tokens_phrase "(" (by decide),
      tokens_append_of_stops (stops_phrase (by decide) _),
      tokens_phrase ")" (by decide), argumentTokens, if_pos h, List.append_assoc,
      List.append_assoc]
  · have hsplit : heading p ++ v = "PROCEDURE " ++ (p.name ++ v) := by
      rw [heading_of_not_takesArguments h]
      simp
    rw [hsplit, tokens_phrase "PROCEDURE" (by decide), tokens_name hname hv, argumentTokens,
      if_neg h]
    rfl

/-- The definition of a procedure. -/
theorem tokens_written {p : Procedure} (hname : IsName p.name) :
    tokens (written p) = tokens "PROCEDURE" ++ p.name :: (argumentTokens p ++ (tokens "IS" ++
      (p.locals.flatMap tokens ++ (tokens "BEGIN" ++ (p.statements.flatMap tokens ++
        (tokens "END" ++ p.name :: tokens ";")))))) := by
  have hsplit : written p = heading p ++ (" IS\n" ++ (indented p.locals ++ (Procedure.indent ++
      ("BEGIN\n" ++ (indented p.statements ++ (Procedure.indent ++ ("END " ++
        (p.name ++ [';'])))))))) := by
    simp only [written, middle, List.append_assoc]
  rw [hsplit, tokens_heading hname (stops_phrase (by decide) _), tokens_phrase "IS" (by decide),
    tokens_indented, tokens_blanks (by decide), tokens_phrase "BEGIN" (by decide),
    tokens_indented, tokens_blanks (by decide), tokens_phrase "END" (by decide),
    tokens_name hname (stops_cons (by decide))]
  rfl

/-- The members of a package. -/
theorem tokens_members (ws : List Text) (v : Text) :
    tokens (members ws ++ v) = ws.flatMap tokens ++ tokens v := by
  induction ws with
  | nil => rfl
  | cons w ws ih =>
    have hsplit : members (w :: ws) ++ v =
        Procedure.indent ++ (w ++ ("\n\n" ++ (members ws ++ v))) := by
      simp only [members, List.flatMap_cons, List.append_assoc]
    rw [hsplit, tokens_blanks (by decide), tokens_append_of_stops (stops_phrase (by decide) _),
      tokens_blanks (by decide), ih, List.flatMap_cons, List.append_assoc]

/-- The definitions of a package. -/
theorem tokens_block (hn : IsName n) (ps : List Procedure) :
    tokens (Package.block ("CREATE OR REPLACE PACKAGE BODY " ++ n ++ " IS") n
      (ps.map (·.definition))) =
      tokens "CREATE OR REPLACE PACKAGE BODY" ++ n :: (tokens "IS" ++
        ((ps.map written).flatMap tokens ++ (tokens "END" ++ n :: tokens ";"))) := by
  rw [map_definition, block_eq]
  simp only [List.append_assoc]
  rw [tokens_phrase "CREATE OR REPLACE PACKAGE BODY" (by decide),
    tokens_name hn (stops_phrase (by decide) _),
    tokens_append_of_stops (stops_phrase (by decide) _), tokens_blanks (by decide),
    tokens_members, tokens_phrase "END" (by decide),
    tokens_name hn (stops_cons (by decide))]
  rfl

end TablePackage.Sql
