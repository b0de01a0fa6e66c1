import Mathlib.Data.List.DropRight
import TablePackage.Proofs.Lists
import TablePackage.Proofs.Routine.Enclosed
import TablePackage.Proofs.Routine.Parentheses

/-!
# Where routines stand

The routines that are read of any text are pieces of it, each behind the start of the one before,
between the header of the first package and its end.

* `exists_upToEnd`: between which places a package is read;
* `pairwise_headersFrom`: the headers of procedures, one after the other;
* `located_declaration`, `located_definition`: the piece that one routine is;
* `routines_stand_in_text`: all routines of a text.
-/

namespace TablePackage.Routine

variable {b k n s t u v w x y z : Text} {h : Header} {r : Routine} {isBody : Bool}

/-! ## The contents of a package -/

/-- The end that has the name `n` stands at the start of a text. -/
def IsEndAt (n t : Text) : Prop := ∃ w r, WrittenEnd n w ∧ t = w ++ r

/-- `contents` goes on to the first end with the name `n` in `rest`, where `after` starts; if there
    is none, it is all of `rest`. -/
inductive UpToEnd (n rest : Text) : Text → Text → Prop
  | ended {contents after : Text} : Text.FirstPlace (IsEndAt n) rest contents after →
    UpToEnd n rest contents after
  | endless : (∀ x y, rest = x ++ y → ¬IsEndAt n y) → UpToEnd n rest rest []

theorem isSome_end? (hn : IsIdentifier n) :
    (fun t => (end? n t).isSome = true) = IsEndAt n := by
  funext t
  rw [eq_iff_iff, Option.isSome_iff_exists, IsEndAt, exists_comm]
  constructor
  · rintro ⟨⟨⟨⟩, r⟩, hr⟩
    exact ⟨r, (end?_eq_some_iff hn).1 hr⟩
  · rintro ⟨r, hr⟩
    exact ⟨((), r), (end?_eq_some_iff hn).2 hr⟩

/-- A package is read from its header up to its end. -/
theorem exists_upToEnd {contents : Text} (h : contents? isBody t = some (n, contents)) :
    ∃ before rest after, FirstPackage isBody n t before rest ∧ UpToEnd n rest contents after := by
  obtain ⟨⟨m, rest⟩, hfind, hcontents⟩ := Option.bind_eq_some_iff.1 h
  obtain ⟨before, hfirst⟩ := findPackage_eq_some_iff.1 hfind
  have hpredicate := isSome_end? hfirst.isIdentifier
  cases hend : Text.find? (end? m) rest with
  | none =>
    simp only [hend] at hcontents
    cases hcontents
    refine ⟨before, _, [], hfirst, .endless fun x y hxy hy => ?_⟩
    rw [← hpredicate, Text.find?_eq_none_iff.1 hend x y hxy] at hy
    cases hy
  | some f =>
    simp only [hend] at hcontents
    cases hcontents
    obtain ⟨after, hafter, -⟩ := Text.find?_eq_some_iff.1 ⟨f, hend, rfl, rfl, rfl⟩
    exact ⟨before, _, after, hfirst, .ended (hpredicate ▸ hafter)⟩

/-- Nothing is read without a header of the wanted kind. -/
theorem contents?_eq_none (h : contents? isBody t = none) (n before rest : Text) :
    ¬FirstPackage isBody n t before rest := by
  intro hfirst
  have hfind := findPackage_eq_some_iff.2 ⟨before, hfirst⟩
  rw [contents?, hfind, Option.bind_eq_bind, Option.bind_some] at h
  dsimp only at h
  split at h <;> cases h

/-! ## Texts without blanks at their ends -/

/-- A text that does not end with a blank. -/
def EndsFull (t : Text) : Prop := ∀ c ∈ t.getLast?, Unicode.isBlank c = false

theorem endsFull_append (hne : w ≠ []) (hw : ∀ c ∈ w, Unicode.isBlank c = false) (u : Text) :
    EndsFull (u ++ w) := by
  intro c hc
  rw [List.getLast?_append_of_ne_nil u hne] at hc
  exact hw c (List.mem_of_getLast? hc)

theorem trim_eq_rdropWhile (h : StartsFull t) : trim t = t.rdropWhile Unicode.isBlank := by
  have hdrop : t.dropWhile Unicode.isBlank = t :=
    Text.dropWhile_append_stop (w := []) (List.forall_mem_nil _) h
  rw [trim, Text.trimBy, hdrop]
  rfl

theorem trim_eq_self (h : StartsFull t) (he : EndsFull t) : trim t = t := by
  rw [trim_eq_rdropWhile h, List.rdropWhile_eq_self_iff]
  intro hne hblank
  rw [he _ (List.getLast?_eq_some_getLast hne)] at hblank
  cases hblank

/-- Only the blanks at the end of a text are taken off if it has none at the start. -/
theorem exists_trim (h : StartsFull t) :
    ∃ b, (∀ c ∈ b, Unicode.isBlank c = true) ∧ t = trim t ++ b ∧ EndsFull (trim t) := by
  rw [trim_eq_rdropWhile h]
  refine ⟨t.rtakeWhile Unicode.isBlank, fun c hc => List.mem_rtakeWhile_imp hc,
    (List.rdropWhile_append_rtakeWhile ..).symm, fun c hc => ?_⟩
  have hne : t.rdropWhile Unicode.isBlank ≠ [] := by
    intro hnil
    rw [hnil] at hc
    cases hc
  rw [List.getLast?_eq_some_getLast hne] at hc
  obtain rfl := Option.some.inj hc
  rw [← Bool.not_eq_true]
  exact List.rdropWhile_last_not _ _ hne

/-- A part that does not end with a blank stays at the start. -/
theorem exists_trim_append (h : StartsFull (w ++ t)) (he : EndsFull w) :
    ∃ z b, (∀ c ∈ b, Unicode.isBlank c = true) ∧ trim (w ++ t) = w ++ z ∧ t = z ++ b ∧
      EndsFull (w ++ z) := by
  obtain ⟨b, hb, hsplit, hfull⟩ := exists_trim h
  rcases List.append_eq_append_iff.1 hsplit with ⟨z, hz, ht⟩ | ⟨d, hw, hbd⟩
  · exact ⟨z, b, hb, hz, ht, hz ▸ hfull⟩
  · cases d using List.reverseRecOn with
    | nil =>
      rw [List.append_nil] at hw
      obtain rfl : b = t := hbd
      exact ⟨[], b, hb, by rw [List.append_nil, ← hw], rfl, by rwa [List.append_nil]⟩
    | append_singleton d c =>
      have hc := he c (by rw [hw, ← List.append_assoc, List.getLast?_concat]; rfl)
      rw [hb c (by rw [hbd]; simp)] at hc
      cases hc

/-! ## The headers of a package -/

/-- Headers of procedures are ends of the text, each shorter than the one before. -/
theorem pairwise_headersFrom (m : Bool) (t : Text) :
    (∀ h ∈ headersFrom m t, h.text <:+ t ∧ header? h.text = some h) ∧
      (headersFrom m t).Pairwise fun h h' => h'.text.length < h.text.length := by
  induction hlength : t.length using Nat.strongRecOn generalizing m t with
  | _ l ih =>
    cases t with
    | nil =>
      rw [headersFrom]
      exact ⟨List.forall_mem_nil _, .nil⟩
    | cons c t =>
      rcases headersFrom_cons m c t with hnext | ⟨h, m', hh, hnext⟩
      · obtain ⟨hall, hpair⟩ := ih t.length (hlength ▸ Nat.lt_succ_self _) _ t rfl
        rw [hnext]
        exact ⟨fun h hmem => (hall h hmem).imp_left fun hs => hs.trans (List.suffix_cons c t),
          hpair⟩
      · have hlt := header?_length hh
        obtain ⟨hall, hpair⟩ := ih h.rest.length (hlength ▸ hlt) m' h.rest rfl
        obtain ⟨w, hw, -⟩ := header?_eq_append hh
        obtain htext := (header?_eq_some hh).1
        rw [hnext, List.forall_mem_cons, List.pairwise_cons]
        refine ⟨⟨⟨htext ▸ List.suffix_refl _, htext.symm ▸ hh⟩, fun h' hmem => ?_⟩,
          fun h' hmem => ?_, hpair⟩
        · exact (hall h' hmem).imp_left fun hs => hs.trans ⟨w, hw.symm⟩
        · rw [htext]
          exact Nat.lt_of_le_of_lt (hall h' hmem).1.length_le hlt

/-! ## The text of a routine -/

/-- The text of a routine called `name`: it has no blanks at its ends, and starts with `PROCEDURE`
    and the name. -/
structure IsRoutineText (name text : Text) : Prop where
  startsFull : StartsFull text
  endsFull : EndsFull text
  header : ∃ k b z, k.map Char.toLower = ("procedure" : Text) ∧ IsSpace b ∧ IsIdentifier name ∧
    text = k ++ (b ++ (name ++ z)) ∧ EndsWord z

theorem EndsWord.of_append (h : EndsWord (z ++ s)) : EndsWord z := by
  cases z with
  | nil => exact fun _ hc => nomatch hc
  | cons c z => exact h

theorem WrittenProcedure.startsFull (h : WrittenProcedure n w) (t : Text) :
    StartsFull (w ++ t) := by
  obtain ⟨hv, -⟩ := h
  rw [List.append_assoc]
  exact hv.startsFull (by decide) (by decide) _

theorem WrittenProcedure.endsFull (h : WrittenProcedure n w) : EndsFull w := by
  obtain ⟨-, hn⟩ := h
  exact endsFull_append hn.1 hn.isBlank_eq_false _

theorem WrittenProcedure.isRoutineText (h : WrittenProcedure n w) (hz : EndsWord z)
    (he : EndsFull (w ++ z)) : IsRoutineText n (w ++ z) where
  startsFull := h.startsFull z
  endsFull := he
  header := by
    obtain ⟨⟨hq, hb⟩, hn⟩ := h
    refine ⟨_, _, z, Unicode.map_toLower_of_sameLetters (by decide) hq, hb, hn, ?_, hz⟩
    simp only [List.append_assoc]

/-- A routine that goes on to a semicolon is the whole text up to there. -/
theorem isRoutineText_closed (hh : header? t = some h) (hrest : h.rest = k ++ ';' :: s) :
    ∃ y, trim (upTo s h.text) = y ++ (k ++ [';']) ∧ t = trim (upTo s h.text) ++ s ∧
      IsRoutineText h.name (trim (upTo s h.text)) := by
  obtain ⟨htext, w, x, hw, ht, hends⟩ := header?_eq_some hh
  have hsplit : t = w ++ (x ++ (k ++ [';'])) ++ s := by
    rw [ht, hrest]
    simp only [List.append_assoc, List.singleton_append]
  have hup : upTo s h.text = w ++ (x ++ (k ++ [';'])) := by
    rw [htext, hsplit, upTo_append]
  have hend : EndsFull (w ++ (x ++ (k ++ [';']))) := by
    simp only [← List.append_assoc]
    exact endsFull_append (by decide) (by decide) _
  rw [hrest, List.append_cons, ← List.append_assoc] at hends
  rw [hup, trim_eq_self (hw.startsFull _) hend]
  exact ⟨w ++ x, (List.append_assoc ..).symm, hsplit, hw.isRoutineText hends.of_append hend⟩

/-- A routine that goes on to the end is the whole text but for the blanks there. -/
theorem isRoutineText_endless (hh : header? t = some h) :
    ∃ b, (∀ c ∈ b, Unicode.isBlank c = true) ∧ t = trim (upTo [] h.text) ++ b ∧
      IsRoutineText h.name (trim (upTo [] h.text)) := by
  obtain ⟨htext, w, x, hw, ht, hends⟩ := header?_eq_some hh
  have hup : upTo [] h.text = w ++ (x ++ h.rest) := by
    rw [htext, upTo, List.length_nil, Nat.sub_zero, List.take_length, ← ht]
  obtain ⟨z, b, hb, htrim, hz, hfull⟩ := exists_trim_append (hw.startsFull (x ++ h.rest))
    hw.endsFull
  rw [hup, htrim]
  rw [hz] at ht hends
  exact ⟨b, hb, by rw [ht, List.append_assoc], hw.isRoutineText hends.of_append hfull⟩

/-! ## Parameters -/

/-- A parameter that has been read has a name of one word, without commas, and a type. -/
structure IsParameter (p : Parameter) : Prop where
  name_ne_nil : p.name ≠ []
  comma_not_mem : ',' ∉ p.name
  isBlank_eq_false : ∀ c ∈ p.name, Unicode.isBlank c = false
  type_ne_nil : p.type ≠ []

/-- The mode takes words off in front of those of the type. -/
theorem splitMode_suffix (ws : List Text) : (splitMode ws).2 <:+ ws := by
  cases ws with
  | nil => exact List.suffix_refl _
  | cons w ws =>
    rw [splitMode.eq_def]
    dsimp only
    split
    · cases ws with
      | nil => exact List.nil_suffix
      | cons w' ws =>
        dsimp only
        split
        · exact (List.suffix_cons w' ws).trans (List.suffix_cons w _)
        · exact List.suffix_cons w _
    · split
      · exact List.suffix_cons w ws
      · exact List.suffix_refl _

theorem isParameter_of_mem {p : Parameter} (h : p ∈ parametersOf t) : IsParameter p := by
  obtain ⟨entry, hentry, hp⟩ := List.mem_filterMap.1 h
  have hcomma : ',' ∉ entry := Lists.not_mem_of_mem_splitOn hentry
  rw [parameter?] at hp
  split at hp
  · cases hp
  · rename_i name words hwords
    have hword : ∀ w ∈ name :: words, w ≠ [] ∧ ∀ c ∈ w, c ∈ entry ∧ Unicode.isBlank c = false :=
      fun w hw => Text.mem_wordsBy (hwords ▸ hw)
    obtain ⟨hne, hname⟩ := hword name List.mem_cons_self
    obtain rfl : Parameter.mk name (splitMode words).1
        (if (splitMode words).2 = [] then "unknown" else Text.join " " (splitMode words).2) = p :=
      Option.some.inj hp
    refine ⟨hne, fun hmem => hcomma (hname _ hmem).1, fun c hc => (hname c hc).2, ?_⟩
    dsimp only
    split
    · decide
    · rename_i htype
      obtain ⟨w, ws, hws⟩ := List.exists_cons_of_ne_nil htype
      have hw : w ∈ words := (splitMode_suffix words).subset (hws ▸ List.mem_cons_self)
      obtain ⟨y, hy⟩ := Text.exists_join_cons " " w ws
      rw [hws, hy]
      exact List.append_ne_nil_of_left_ne_nil (hword w (List.mem_cons_of_mem name hw)).1 y

/-! ## Routines -/

/-- How the text of a routine ends, where `y` stands behind it in the contents of the package. -/
def EndsAsRoutine (isBody : Bool) (r : Routine) (y : Text) : Prop :=
  match isBody with
  | true => (∃ s w, WrittenEnd r.name w ∧ r.text = s ++ w) ∨ ∀ c ∈ y, Unicode.isBlank c = true
  | false => ∃ s, r.text = s ++ [';']

/-- The routine `r` of the package `n` is a piece of the contents, which stand behind `front` in a
    text, and it starts at the offset `start` of this text. -/
structure Located (isBody : Bool) (n front contents : Text) (start : Nat) (r : Routine) : Prop
    extends IsRoutineText r.name r.text where
  package : r.package = n
  piece : ∃ x y, contents = x ++ (r.text ++ y) ∧ (front ++ x).length = start ∧
    EndsAsRoutine isBody r y
  parameters : ∀ p ∈ r.parameters, IsParameter p

theorem exists_of_parameterSection? (hsection : parameterSection? h = some (u, v)) :
    ∃ k, h.rest = k ++ v := by
  rw [parameterSection?] at hsection
  split at hsection
  · -- The parenthesis that closes the list is taken off with it.
    refine ⟨u ++ [')'], ?_⟩
    rw [(closing?_eq_some_iff.1 hsection).1, List.append_assoc, List.singleton_append]
  · cases hsection
    exact ⟨[], rfl⟩

/-- A declaration is located where its header stands. -/
theorem located_declaration (front : Text) (hh : header? t = some h)
    (hr : declaration? n h = some r) :
    Located false n front (x ++ t) (front ++ x).length r := by
  simp only [declaration?, Option.bind_eq_bind, Option.bind_eq_some_iff, Option.pure_def,
    Option.some.injEq, Prod.exists] at hr
  obtain ⟨u, v, hsection, s, hs, rfl⟩ := hr
  obtain ⟨k, hk⟩ := exists_of_parameterSection? hsection
  obtain ⟨b, -, hv⟩ := exists_skipBlanks v
  have hrest : h.rest = k ++ b ++ ';' :: s := by
    rw [hk, hv, char?_eq_some hs, List.append_assoc]
  obtain ⟨y, hy, ht, htext⟩ := isRoutineText_closed hh hrest
  refine ⟨htext, rfl, ⟨x, s, by rw [← ht], rfl, y ++ (k ++ b), ?_⟩,
    fun p hp => isParameter_of_mem hp⟩
  rw [List.append_assoc, ← hy]

/-- So is a definition. -/
theorem located_definition (front : Text) (hh : header? t = some h)
    (hr : definition? n h = some r) :
    Located true n front (x ++ t) (front ++ x).length r := by
  obtain ⟨-, w, -, hw, -, -⟩ := header?_eq_some hh
  have hname : IsIdentifier h.name := by
    obtain ⟨-, hn⟩ := hw
    exact hn
  simp only [definition?, Option.bind_eq_bind, Option.bind_eq_some_iff, Option.pure_def,
    Option.some.injEq, Prod.exists] at hr
  obtain ⟨u, v, hsection, -, -, rfl⟩ := hr
  obtain ⟨k, hk⟩ := exists_of_parameterSection? hsection
  cases hend : Text.find? (end? h.name) v with
  | none =>
    obtain ⟨b, hb, ht, htext⟩ := isRoutineText_endless hh
    exact ⟨htext, rfl, ⟨x, b, by rw [← ht], rfl, .inr hb⟩, fun p hp => isParameter_of_mem hp⟩
  | some f =>
    obtain ⟨s, hs, hread⟩ := Text.find?_eq_some_iff.1 ⟨f, hend, rfl, rfl, rfl⟩
    obtain ⟨e, he, hse⟩ := (end?_eq_some_iff hname).1 hread
    obtain ⟨d, rfl, -⟩ := he.isClosedBy hname
    have hrest : h.rest = k ++ f.before ++ d ++ ';' :: f.rest := by
      rw [hk, hs.eq_append, hse]
      simp only [List.append_assoc, List.singleton_append]
    obtain ⟨y, hy, ht, htext⟩ := isRoutineText_closed hh hrest
    refine ⟨htext, rfl, ⟨x, f.rest, by rw [← ht], rfl, .inl ⟨y ++ (k ++ f.before), _, he, ?_⟩⟩,
      fun p hp => isParameter_of_mem hp⟩
    rw [hy]
    simp only [List.append_assoc]

/-- The routines `rs` stand in `t`: they belong to the first package, and are pieces of its contents
    that start one behind the other. -/
inductive StandIn (isBody : Bool) (t : Text) : List Routine → Prop
  | nothing : (∀ n before rest, ¬FirstPackage isBody n t before rest) → StandIn isBody t []
  | pieces {n before rest front contents after : Text} {starts : List Nat} {rs : List Routine} :
    FirstPackage isBody n t before rest → t = front ++ rest → UpToEnd n rest contents after →
    starts.Pairwise (· < ·) → List.Forall₂ (Located isBody n front contents) starts rs →
    StandIn isBody t rs

/-- Routines stand one behind the other if their headers do so. -/
theorem exists_starts {front contents : Text} {read : Header → Option Routine} {hs : List Header}
    (hread : ∀ x t h r, header? t = some h → read h = some r →
      Located isBody n front (x ++ t) (front ++ x).length r)
    (hall : ∀ h ∈ hs, h.text <:+ contents ∧ header? h.text = some h)
    (hpair : hs.Pairwise fun h h' => h'.text.length < h.text.length) :
    ∃ starts : List Nat, starts.Pairwise (· < ·) ∧
      List.Forall₂ (Located isBody n front contents) starts (hs.filterMap read) := by
  -- A header starts where the rest of the contents is as long as its text.
  let start (h : Header) : Nat := (front ++ contents).length - h.text.length
  refine ⟨(hs.filter fun h => (read h).isSome).map start, ?_, ?_⟩
  · rw [List.pairwise_map]
    refine (hpair.sublist List.filter_sublist).imp_of_mem fun {h h'} hmem _ hlt => ?_
    have hle := (hall h (List.mem_filter.1 hmem).1).1.length_le
    have hlength : (front ++ contents).length = front.length + contents.length :=
      List.length_append
    change (front ++ contents).length - _ < (front ++ contents).length - _
    omega
  · rw [List.forall₂_map_left_iff]
    refine Lists.forall₂_filterMap fun h hmem r hr => ?_
    obtain ⟨⟨x, rfl⟩, hh⟩ := hall h hmem
    have hstart : start h = (front ++ x).length := by
      change (front ++ (x ++ h.text)).length - _ = _
      rw [← List.append_assoc, List.length_append, Nat.add_sub_cancel]
    rw [hstart]
    exact hread x h.text h r hh hr

/-- What is read of the headers between a package's header and its end stands in the text. -/
theorem standIn_of_contents? {contents : Text} {read : Header → Option Routine}
    (h : contents? isBody t = some (n, contents))
    (hread : ∀ front x t h r, header? t = some h → read h = some r →
      Located isBody n front (x ++ t) (front ++ x).length r) :
    StandIn isBody t ((headers contents).filterMap read) := by
  obtain ⟨before, rest, after, hfirst, hend⟩ := exists_upToEnd h
  obtain ⟨w, -, hsplit⟩ := hfirst.exists_eq_append
  obtain ⟨hall, hpair⟩ := pairwise_headersFrom true contents
  obtain ⟨starts, hstarts, hlocated⟩ := exists_starts (hread (before ++ w)) hall hpair
  exact .pieces hfirst (by rw [hsplit, List.append_assoc]) hend hstarts hlocated

/-- The routines that are read of any text stand in it. -/
theorem routines_stand_in_text (t : Text) :
    StandIn true t (ofBody t) ∧ StandIn false t (ofSpecification t) := by
  constructor
  · rw [ofBody]
    cases h : contents? true t with
    | none => exact .nothing (contents?_eq_none h)
    | some f =>
      exact standIn_of_contents? h fun front x t h r => located_definition front
  · rw [ofSpecification]
    cases h : contents? false t with
    | none => exact .nothing (contents?_eq_none h)
    | some f =>
      exact standIn_of_contents? h fun front x t h r => located_declaration front

end TablePackage.Routine
