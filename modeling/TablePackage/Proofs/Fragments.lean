import TablePackage.Proofs.Sql.Alignment

/-!
# Parts of identifiers

Which texts a naming accepts, and what becomes of the names that are made with them. A text is
accepted if it is a word, or empty; but there may be one line feed behind it. A name that is made
with an accepted text is a word, and one token of the package, exactly if there is no line feed.

* `Value.isFragment_iff`: the texts that may be parts of identifiers;
* `Naming.refuses_iff`: where a fault of a naming is found;
* `Naming.fields_accept_fragments`: what each field accepts, and the names that are made of it.
-/

namespace TablePackage

open Ascii Sql

variable {entries : List (Value × Value)} {f : FieldFault} {mark name t v w : Text} {ws : List Text}
  {n : Naming} {s : Schema}

/-! ## Accepted texts -/

/-- A text that may be a part of an identifier. -/
inductive Fragment : Text → Prop
  | letters {w : Text} : Letters w → Fragment w
  /-- One line feed may stand at the end. -/
  | line {w : Text} : Letters w → Fragment (w ++ ['\n'])

/-- There are other such texts than the words only because of the line feed. -/
theorem fragment_iff_letters_iff :
    (Fragment t ↔ Letters t) ↔ ∀ w, Letters w → t ≠ w ++ ['\n'] := by
  constructor
  · rintro h w hw rfl
    have hline := h.1 (.line hw) '\n' (List.mem_append_right w (List.mem_singleton.2 rfl))
    cases hline
  · refine fun h => ⟨fun ht => ?_, .letters⟩
    cases ht with
    | letters ht => exact ht
    | line hw => exact absurd rfl (h _ hw)

theorem Value.isFragment_iff : isFragment t = true ↔ Fragment t := by
  rw [isFragment, Bool.or_eq_true, decide_eq_true_iff, decide_eq_true_iff]
  constructor
  · have hsplit := t.takeWhile_append_dropWhile (p := isWord)
    have hletters : Letters (t.takeWhile isWord) := Text.forall_mem_takeWhile isWord t
    rintro (h | h)
    · rw [h, List.append_nil] at hsplit
      exact hsplit ▸ .letters hletters
    · rw [h] at hsplit
      exact hsplit ▸ .line hletters
  · intro h
    cases h with
    | letters hw =>
      have hdrop := Text.dropWhile_append_stop hw (r := []) (by decide)
      rw [List.append_nil] at hdrop
      exact .inl hdrop
    | line hw => exact .inr (Text.dropWhile_append_stop hw (by decide))

/-- A text is refused with its fault exactly if it is no part of an identifier. -/
theorem Value.faults_checkFragment (t : Text) :
    (Value.text t).checkFragment.faults =
      if isFragment t then [] else [.here (.notFragment t) (.text t)] := by
  simp only [checkFragment, checkText]
  split <;> rfl

/-- A value is refused as a part of an identifier at its own place. -/
theorem Value.location_of_mem_checkFragment {v : Value} (h : f ∈ v.checkFragment.faults) :
    f.location = [] := by
  unfold checkFragment checkText at h
  split at h
  · exact List.mem_singleton.1 h ▸ rfl
  · rename_i hes
    split at hes
    · cases hes
    · cases hes
    · split at hes <;> cases hes
      exact List.mem_singleton.1 h ▸ rfl
    · cases hes
      exact List.mem_singleton.1 h ▸ rfl
  · split at h
    · cases h
    · exact List.mem_singleton.1 h ▸ rfl

/-! ## Fields of a naming -/

namespace Naming

/-- The names of the fields. -/
def fieldNames : List Text :=
  ["create_prefix", "update_prefix", "delete_prefix", "get_by_id_prefix", "package_suffix"]

/-- The faults of the field `name` of a naming. -/
def faultsAt (entries : List (Value × Value)) (name : Text) : List FieldFault :=
  match Value.entry? name entries with
  | none => []
  | some v => v.checkFragment.faults.map (.within name)

theorem faults_fragment (entries : List (Value × Value)) (name default : Text) :
    (Checked.field entries name default Value.checkFragment).faults = faultsAt entries name :=
  Checked.faults_field_eq entries name default _

/-- The faults of a naming are those of its fields, in their order. -/
theorem faults_check (entries : List (Value × Value)) :
    (check (.map entries)).faults = fieldNames.flatMap (faultsAt entries) := by
  simp only [check, Checked.ofMap, Checked.faults_ap, Checked.faults_ok, faults_fragment,
    fieldNames, List.flatMap_cons, List.flatMap_nil, List.append_nil, List.nil_append,
    List.append_assoc]

/-- All faults of a field are told with its name. -/
theorem location_of_mem_faultsAt (h : f ∈ faultsAt entries name) : f.location = [name] := by
  unfold faultsAt at h
  split at h
  · cases h
  · obtain ⟨g, hg, rfl⟩ := List.mem_map.1 h
    rw [FieldFault.within, Value.location_of_mem_checkFragment hg]

/-- A naming is refused with a fault that is told with the name of a field. -/
def Refuses (entries : List (Value × Value)) (name : Text) : Prop :=
  ∃ f ∈ (check (.map entries)).faults, f.location = [name]

/-- This is so exactly if this field has a fault. -/
theorem refuses_iff (hname : name ∈ fieldNames) :
    Refuses entries name ↔ faultsAt entries name ≠ [] := by
  rw [Refuses, faults_check, ← List.isEmpty_eq_false_iff, List.isEmpty_eq_false_iff_exists_mem]
  constructor
  · rintro ⟨f, hf, hlocation⟩
    obtain ⟨other, -, hmem⟩ := List.mem_flatMap.1 hf
    rw [location_of_mem_faultsAt hmem, List.cons.injEq] at hlocation
    exact ⟨f, hlocation.1 ▸ hmem⟩
  · rintro ⟨f, hf⟩
    exact ⟨f, List.mem_flatMap.2 ⟨name, hname, hf⟩, location_of_mem_faultsAt hf⟩

/-- A field refuses exactly the texts that are no parts of identifiers. -/
theorem faultsAt_eq_nil_iff (h : Value.entry? name entries = some (.text t)) :
    faultsAt entries name = [] ↔ Fragment t := by
  rw [faultsAt, h]
  dsimp only
  rw [List.map_eq_nil_iff, Value.faults_checkFragment, ← Value.isFragment_iff]
  split <;> simp_all

/-- A naming that is written with all its fields is read back if its texts are accepted. -/
theorem check_toValue_iff : check n.toValue = .ok n ↔ ∀ t ∈ n.fragments, Fragment t := by
  simp only [← Value.isFragment_iff]
  refine ⟨isFragment_of_check, fun h => ?_⟩
  simp only [fragments, List.forall_mem_cons] at h
  obtain ⟨hcreate, hupdate, hdelete, hgetById, hsuffix, -⟩ := h
  have hfield : ∀ {entries name t} default, Value.entry? name entries = some (.text t) →
      Value.isFragment t = true →
      Checked.field entries name default Value.checkFragment = .ok t := by
    intro entries name t default hentry ht
    unfold Checked.field
    rw [hentry]
    simp only [Value.checkFragment, Value.checkText, if_pos ht]
    rfl
  rw [check, toValue, Value.record, Checked.ofMap]
  dsimp only
  rw [hfield _ rfl hcreate, hfield _ rfl hupdate, hfield _ rfl hdelete, hfield _ rfl hgetById,
    hfield _ rfl hsuffix]
  rfl

end Naming

/-! ## Names with accepted parts -/

/-- What becomes of a name that is made with `part` and stands where the tokens `ws` start: it is a
    word, and the first of the tokens, exactly if the part has no line feed. -/
structure MadeWith (part name : Text) (ws : List Text) : Prop where
  ne_nil : name ≠ []
  isName_iff : IsName name ↔ '\n' ∉ part
  head?_iff : ws.head? = some name ↔ '\n' ∉ part

/-- A name is a word if its part is one; otherwise the line feed in it is in no token. -/
theorem madeWith {part : Text} (hpart : Value.isFragment part = true) (hmem : ∀ c ∈ part, c ∈ name)
    (hname : Letters part → IsName name) (hne : name ≠ [])
    (hws : IsName name → ws.head? = some name) (htokens : ∀ w ∈ ws, w ∈ tokens t) :
    MadeWith part name ws := by
  have hisName : IsName name ↔ '\n' ∉ part :=
    ⟨fun h hline => h.not_mem rfl (hmem _ hline),
      fun h => hname (Value.letters_of_isFragment hpart h)⟩
  refine ⟨hne, hisName, fun h hline => ?_, fun h => hws (hisName.2 h)⟩
  have hblank := (mem_of_mem_tokens (htokens name (List.mem_of_mem_head? h)) (hmem _ hline)).2
  cases hblank

theorem madeWith_parameter {c : Text} (hT : IsName t) (hc : IsName c)
    (hmark : Value.isFragment mark = true) :
    MadeWith mark (mark ++ c) (tokens (Package.parameter mark t c)) :=
  madeWith hmark (fun _ => List.mem_append_left c) (fun h => h.append_name hc)
    (List.append_ne_nil_of_right_ne_nil mark hc.1)
    (fun h => by rw [tokens_parameter hT hc, tokens_word h]; rfl) fun _ hw => hw

/-- The tokens of the specification of a package behind the words that it opens with. -/
def tokensFromName (p : Package) : List Text :=
  (tokens p.declarations).drop (tokens "CREATE OR REPLACE PACKAGE").length

theorem madeWith_packageName (hT : IsName s.table)
    (hsuffix : Value.isFragment n.packageSuffix = true) :
    MadeWith n.packageSuffix (n.packageName s.table) (tokensFromName (.ofSchema n s)) := by
  refine madeWith hsuffix (fun _ => List.mem_append_right s.table) (fun h => hT.append_letters h)
    (List.append_ne_nil_of_left_ne_nil hT.1 _) (fun h => ?_) fun _ hw => List.mem_of_mem_drop hw
  have hsplit : ∀ name members, ∃ v, Package.block ("CREATE OR REPLACE PACKAGE " ++ name ++ " IS")
      name members = "CREATE OR REPLACE PACKAGE " ++ (name ++ (" IS" ++ v)) := by
    intro name members
    simp only [Package.block, List.append_assoc, List.append_cancel_left_eq, exists_eq']
  obtain ⟨v, hv⟩ := hsplit (n.packageName s.table) ((Package.proceduresOf n s).map (·.declaration))
  have hdeclarations : (Package.ofSchema n s).declarations = _ := hv
  rw [tokensFromName, hdeclarations, tokens_phrase "CREATE OR REPLACE PACKAGE" (by decide),
    tokens_name h (stops_phrase (by decide) _), List.drop_left]
  rfl

/-- Each field of a naming accepts exactly the words, which may be empty and have one line feed
    behind them, whatever its other fields are: so it accepts the words only, but for this line
    feed. A name that is made with an accepted text is never empty; it is a word, and one token of
    the package, exactly if the text has no line feed. -/
theorem Naming.fields_accept_fragments (entries : List (Value × Value)) (n : Naming) (s : Schema)
    (c : Text) :
    (∀ name ∈ fieldNames,
      (∀ t, Value.entry? name entries = some (.text t) →
        (Refuses entries name ↔ ¬Fragment t) ∧
        ((Refuses entries name ↔ ¬Letters t) ↔ ∀ w, Letters w → t ≠ w ++ ['\n'])) ∧
      ∀ points, Value.entry? name entries = some (.points points) → Refuses entries name) ∧
    (check n.toValue = .ok n ↔ ∀ t ∈ n.fragments, Fragment t) ∧
    ((∃ v, check v = .ok n) → IsName s.table → IsName c →
      (∀ mark ∈ [n.create, n.update, n.delete, n.getById],
        MadeWith mark (mark ++ c) (tokens (Package.parameter mark s.table c))) ∧
      MadeWith n.packageSuffix (n.packageName s.table) (tokensFromName (.ofSchema n s))) := by
  refine ⟨fun name hname => ⟨fun t ht => ?_, fun points hpoints => ?_⟩, check_toValue_iff, ?_⟩
  · have hrefuses : Refuses entries name ↔ ¬Fragment t := by
      rw [refuses_iff hname, ne_eq, faultsAt_eq_nil_iff ht]
    exact ⟨hrefuses, by rw [hrefuses, not_iff_not, fragment_iff_letters_iff]⟩
  · rw [refuses_iff hname, faultsAt, hpoints]
    exact List.cons_ne_nil _ _
  · rintro ⟨v, hn⟩ hT hc
    have hfragments := isFragment_of_check hn
    refine ⟨fun mark hmark => madeWith_parameter hT hc (hfragments mark ?_),
      madeWith_packageName hT (hfragments _ (by simp [fragments]))⟩
    exact (List.sublist_append_left [n.create, n.update, n.delete, n.getById]
      [n.packageSuffix]).subset hmark

/-- A naming with an empty prefix, and with a line feed at the end of another one. -/
def lineNaming : Naming := { create := "", delete := "d_\n" }

/-- It is accepted; but the parameter that a row is deleted by is none that can be read. -/
theorem Naming.fields_accept_fragments_line :
    let entries : List (Value × Value) :=
      [(.text "create_prefix", .text ""), (.text "delete_prefix", .text "d_\n")]
    let s : Schema := ⟨"T", [⟨"ID", true⟩, ⟨"NAME", false⟩], "ID"⟩
    check (.map entries) = .ok lineNaming ∧ IsName s.table ∧ IsName "ID" ∧
      ¬Refuses entries "delete_prefix" ∧
      MadeWith "" "ID" (tokens (Package.parameter "" "T" "ID")) ∧
      MadeWith "d_\n" "d_\nID" (tokens (Package.parameter "d_\n" "T" "ID")) := by
  intro entries s
  have hcheck : check (.map entries) = .ok lineNaming := rfl
  have hT : IsName s.table := by decide
  have hID : IsName "ID" := by decide
  obtain ⟨haccepts, -, hnames⟩ := fields_accept_fragments entries lineNaming s "ID"
  obtain ⟨hmarks, -⟩ := hnames ⟨_, hcheck⟩ hT hID
  refine ⟨hcheck, hT, hID, fun hrefuses => ?_, hmarks "" (by decide), hmarks "d_\n" (by decide)⟩
  have hline : Fragment "d_\n" := .line (w := "d_") (by decide)
  exact ((haccepts "delete_prefix" (by decide)).1 "d_\n" rfl).1.1 hrefuses hline

/-- So the accepted texts are not only the words. -/
theorem Naming.not_only_letters :
    ¬∀ n : Naming, check n.toValue = .ok n ↔ ∀ t ∈ n.fragments, Letters t := by
  intro h
  have hcheck : check lineNaming.toValue = .ok lineNaming := rfl
  exact absurd ((h lineNaming).1 hcheck) (by decide)

end TablePackage
