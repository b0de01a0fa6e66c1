import Mathlib.Tactic.Common
import TablePackage.CommandLine.Arguments

/-!
# Arguments of the two commands

A generation has the options of a preview but one, `--summary`. So the arguments of both are read
alike, unless one of them is taken for that option: what is ambiguous for a preview is ambiguous
for a generation, since only two dashes with nothing behind them are the start of more than one
long option.

* `classify_cases`, `words_cases`: what the arguments are to the two commands;
* `Draft.read_scope`: the command only matters to what is told if the reading stops;
* `ofArguments_name`: behind its name, a command gets all arguments as they are;
* `ofArguments_cases`: the requests of the two commands.
-/

namespace TablePackage.CommandLine

variable {a t : Text} {arguments rest extras : List Text} {s s' : Scope} {w : Word}
  {ws : List (Text × Word)} {d d' : Draft} {c : Command}

/-! ## One argument -/

/-- What stands before the first equals sign of a long option starts with both dashes. -/
theorem exists_splitValue (t : Text) :
    ∃ m attached, splitValue ('-' :: '-' :: t) = ('-' :: '-' :: m, attached) := by
  unfold splitValue
  cases hcut : Text.cut? ['='] t with
  | none =>
    refine ⟨t, .nothing, ?_⟩
    simp [Text.cut?, Text.after?, hcut]
  | some p =>
    refine ⟨p.1, .value p.2, ?_⟩
    simp [Text.cut?, Text.after?, hcut]

/-- What an argument is depends on the options that it may stand for. -/
theorem classify_eq_of_candidates (h : candidates s a = candidates s' a) :
    classify s a = classify s' a := by
  unfold classify
  split
  · rw [h]
  · rfl

/-- What an argument with two dashes may stand for. -/
theorem candidates_long {m : Text} {attached : Attached}
    (h : splitValue ('-' :: '-' :: t) = ('-' :: '-' :: m, attached)) :
    candidates s ('-' :: '-' :: t) =
      (s.spellings.filter fun (_, spelling) => ('-' :: '-' :: m).isPrefixOf spelling).map
        fun (switch, spelling) => (switch, spelling, attached) := by
  rw [candidates, h]

/-- A preview has the options of a generation, and one for the summary. -/
theorem filter_spellings_preview (p : Text → Bool) :
    ((Scope.command .preview).spellings.filter fun (_, spelling) => p spelling) =
      ((Scope.command .generate).spellings.filter fun (_, spelling) => p spelling) ++
        if p "--summary" then [(Switch.summary, ("--summary" : Text))] else [] := by
  have hspellings : (Scope.command .preview).spellings =
      (Scope.command .generate).spellings ++ [(Switch.summary, ("--summary" : Text))] := rfl
  rw [hspellings, List.filter_append, List.filter_cons, List.filter_nil]

/-- A short option is the same to both commands. -/
theorem candidates_short {e : Char} (he : e ≠ '-') :
    candidates (.command .generate) ('-' :: e :: t) =
      candidates (.command .preview) ('-' :: e :: t) := by
  have hsummary : ("--summary" : Text) ≠ ['-', e] := fun h =>
    absurd (congrArg List.length h) (by simp)
  have hcandidates : ∀ s, candidates s ('-' :: e :: t) =
      (s.spellings.filter fun (_, spelling) => spelling = ['-', e]).map
        fun (switch, spelling) => (switch, spelling, attachedTail t) := fun s => by
    unfold candidates
    split
    · rename_i heq
      exact absurd (List.cons.inj (List.cons.inj heq).2).1 he
    · rename_i heq
      cases heq
      rfl
    · rename_i h
      exact absurd rfl (h e t)
  rw [hcandidates, hcandidates, filter_spellings_preview (decide <| · = ['-', e]),
    if_neg (by simp), List.append_nil]

/-- A long option is the same to both commands unless it goes on as `--summary` does. -/
theorem candidates_of_ne {e : Char} {m : Text} {attached : Attached} (he : e ≠ 's')
    (h : splitValue ('-' :: '-' :: t) = ('-' :: '-' :: e :: m, attached)) :
    candidates (.command .generate) ('-' :: '-' :: t) =
      candidates (.command .preview) ('-' :: '-' :: t) := by
  have hsummary : ('-' :: '-' :: e :: m).isPrefixOf ("--summary" : Text) = false := by
    simp [List.isPrefixOf, he]
  rw [candidates_long h, candidates_long h,
    filter_spellings_preview (('-' :: '-' :: e :: m).isPrefixOf ·), hsummary,
    if_neg Bool.false_ne_true, List.append_nil]

/-- An option that goes on as `--summary` does is no other one. -/
theorem candidates_of_eq {m : Text} {attached : Attached}
    (h : splitValue ('-' :: '-' :: t) = ('-' :: '-' :: 's' :: m, attached)) :
    candidates (.command .generate) ('-' :: '-' :: t) = [] ∧
      (candidates (.command .preview) ('-' :: '-' :: t) = [] ∨
        candidates (.command .preview) ('-' :: '-' :: t) =
          [(Switch.summary, ("--summary" : Text), attached)]) := by
  have hnone : candidates (.command .generate) ('-' :: '-' :: t) = [] := by
    rw [candidates_long h]
    rfl
  refine ⟨hnone, ?_⟩
  rw [candidates_long h] at hnone ⊢
  rw [filter_spellings_preview (('-' :: '-' :: 's' :: m).isPrefixOf ·), List.map_append, hnone,
    List.nil_append]
  cases ('-' :: '-' :: 's' :: m).isPrefixOf ("--summary" : Text) with
  | false => exact .inl rfl
  | true => exact .inr rfl

/-- Two dashes with nothing behind them may stand for any long option. -/
theorem exists_ambiguous {attached : Attached} (c : Command)
    (h : splitValue ('-' :: '-' :: t) = (['-', '-'], attached)) :
    ∃ fault, classify (.command c) ('-' :: '-' :: t) = .error fault := by
  rw [classify, candidates_long h]
  cases c with
  | generate => exact ⟨_, rfl⟩
  | preview => exact ⟨_, rfl⟩

/-- An argument is the same to both commands, or it asks for a summary, or it is ambiguous to
    both. -/
theorem classify_cases (a : Text) :
    classify (.command .generate) a = classify (.command .preview) a ∨
      (∃ short attached, classify (.command .preview) a = .ok (.option .summary short attached)) ∨
      ∃ fault fault', classify (.command .preview) a = .error fault ∧
        classify (.command .generate) a = .error fault' := by
  by_cases hshape : ∃ e t, a = '-' :: e :: t
  · obtain ⟨e, t, rfl⟩ := hshape
    by_cases he : e = '-'
    · subst he
      obtain ⟨m, attached, hsplit⟩ := exists_splitValue t
      cases m with
      | nil =>
        obtain ⟨fault, hpreview⟩ := exists_ambiguous .preview hsplit
        obtain ⟨fault', hgenerate⟩ := exists_ambiguous .generate hsplit
        exact .inr (.inr ⟨fault, fault', hpreview, hgenerate⟩)
      | cons e m =>
        by_cases he : e = 's'
        · subst he
          obtain ⟨hgenerate, hpreview | hpreview⟩ := candidates_of_eq hsplit
          · exact .inl (classify_eq_of_candidates (hgenerate.trans hpreview.symm))
          · exact .inr (.inl ⟨_, attached, by rw [classify, hpreview]⟩)
        · exact .inl (classify_eq_of_candidates (candidates_of_ne he hsplit))
    · exact .inl (classify_eq_of_candidates (candidates_short he))
  · have hoperand : ∀ s, classify s a = .ok .operand := fun s => by
      unfold classify
      split
      · exact absurd ⟨_, _, rfl⟩ hshape
      · rfl
    exact .inl ((hoperand _).trans (hoperand _).symm)

/-! ## All arguments -/

/-- Whether a word asks for help, or for a summary. -/
def Word.isFlag : Word → Bool
  | .option switch _ _ => !switch.takesValue
  | _ => false

/-- What the first argument is, and what the others are. -/
theorem words_cons (s : Scope) (ha : a ≠ ['-', '-']) (rest : List Text) :
    words s (a :: rest) =
      (classify s a).bind fun w => (words s rest).map fun ws => (a, w) :: ws := by
  rw [words, if_neg ha]
  cases classify s a <;> cases words s rest <;> rfl

/-- Arguments are the same to both commands, or one of them is a flag of a preview, or one of
    them is ambiguous to both. -/
theorem words_cases (rest : List Text) :
    words (.command .generate) rest = words (.command .preview) rest ∨
      (∃ ws, words (.command .preview) rest = .ok ws ∧ ∃ w ∈ ws, w.2.isFlag = true) ∨
      ∃ fault fault', words (.command .preview) rest = .error fault ∧
        words (.command .generate) rest = .error fault' := by
  induction rest with
  | nil => exact .inl rfl
  | cons a rest ih =>
    by_cases ha : a = ['-', '-']
    · exact .inl (by rw [words, words, if_pos ha, if_pos ha])
    -- What is wrong with the arguments behind it is told if nothing is wrong with it.
    have hrest : ∀ {s fault}, words s rest = .error fault →
        ∃ fault', words s (a :: rest) = .error fault' := fun {s fault} h => by
      rw [words_cons s ha, h]
      cases classify s a with
      | error fault' => exact ⟨fault', rfl⟩
      | ok w => exact ⟨fault, rfl⟩
    rcases ih with hwords | ⟨ws, hws, w, hw, hflag⟩ | ⟨fault, fault', hpreview, hgenerate⟩
    · rcases classify_cases a with hword | ⟨short, attached, hsummary⟩ |
        ⟨fault, fault', hpreview, hgenerate⟩
      · exact .inl (by rw [words_cons _ ha, words_cons _ ha, hwords, hword])
      · cases hws : words (.command .preview) rest with
        | error fault =>
          obtain ⟨fault', hpreview⟩ := hrest hws
          obtain ⟨fault'', hgenerate⟩ := hrest (hwords.trans hws)
          exact .inr (.inr ⟨fault', fault'', hpreview, hgenerate⟩)
        | ok ws =>
          refine .inr (.inl ⟨(a, .option .summary short attached) :: ws, ?_, _,
            List.mem_cons_self, rfl⟩)
          rw [words_cons _ ha, hsummary, hws]
          rfl
      · refine .inr (.inr ⟨fault, fault', ?_, ?_⟩)
        · rw [words_cons _ ha, hpreview]; rfl
        · rw [words_cons _ ha, hgenerate]; rfl
    · cases hword : classify (.command .preview) a with
      | ok v =>
        refine .inr (.inl ⟨_, ?_, w, List.mem_cons_of_mem (a, v) hw, hflag⟩)
        rw [words_cons _ ha, hword, hws]
        rfl
      | error fault =>
        rcases classify_cases a with hsame | ⟨short, attached, hsummary⟩ |
          ⟨_, fault', -, hgenerate⟩
        · refine .inr (.inr ⟨fault, fault, ?_, ?_⟩)
          · rw [words_cons _ ha, hword]; rfl
          · rw [words_cons _ ha, hsame, hword]; rfl
        · rw [hsummary] at hword
          cases hword
        · refine .inr (.inr ⟨fault, fault', ?_, ?_⟩)
          · rw [words_cons _ ha, hword]; rfl
          · rw [words_cons _ ha, hgenerate]; rfl
    · obtain ⟨_, hpreview⟩ := hrest hpreview
      obtain ⟨_, hgenerate⟩ := hrest hgenerate
      exact .inr (.inr ⟨_, _, hpreview, hgenerate⟩)

/-! ## Drafts -/

/-- What stops the reading of arguments, told of another scope. -/
def Stop.under (s : Scope) : Stop → Stop
  | .help _ => .help s
  | .refused _ fault => .refused s fault

/-- An option without a value stops the reading, or it asks for a summary. -/
theorem Draft.read_flag {switch : Switch} {short : Bool} {attached : Attached}
    (h : ¬switch.takesValue = true) :
    d.read s ((a, .option switch short attached) :: ws) =
      match attached.ignored? short with
      | some t => .error (.refused s (.ignoredValue switch t))
      | none =>
        if switch = .help then .error (.help s) else { d with summary := true }.read s ws := by
  rw [Draft.read.eq_def]
  exact if_neg h

/-- Arguments are read in the same way for both commands; which one it is only matters to what
    stops the reading. -/
theorem Draft.read_scope (s s' : Scope) (d : Draft) (ws : List (Text × Word)) :
    d.read s ws = (d.read s' ws).mapError (·.under s) := by
  fun_induction Draft.read s d ws with
  | case15 d a switch short attached rest hflag t hignored =>
    rw [Draft.read_flag hflag, hignored]
    rfl
  | case16 d a short attached rest hignored hflag =>
    rw [Draft.read_flag hflag, hignored]
    rfl
  | case17 d a switch short attached rest hflag hignored hhelp ih =>
    rw [Draft.read_flag hflag, hignored]
    dsimp only
    rw [if_neg hhelp, ih]
  | _ => simp [Draft.read, Except.mapError, Stop.under, *]

/-- A value is no summary. -/
theorem Draft.summary_set {switch : Switch} (h : d.set switch t = .ok d') :
    d'.summary = d.summary := by
  unfold Draft.set at h
  split at h
  · split at h
    · cases h; rfl
    · split at h <;> cases h
      rfl
  · cases h; rfl
  · cases h; rfl
  · cases h; rfl

/-- Without a flag among them, arguments are refused, or they make a draft without a summary. -/
theorem Draft.read_of_no_flag (hws : ∀ w ∈ ws, w.2.isFlag = false) (hd : d.summary = false) :
    (∃ d', d.read s ws = .ok d' ∧ d'.summary = false) ∨
      ∃ fault, d.read s ws = .error (.refused s fault) := by
  have htail : ∀ {w : Text × Word} {ws : List (Text × Word)},
      (∀ v ∈ w :: ws, v.2.isFlag = false) → ∀ v ∈ ws, v.2.isFlag = false :=
    fun h v hv => h v (List.mem_cons_of_mem _ hv)
  fun_induction Draft.read s d ws with
  | case1 d => exact .inl ⟨d, rfl, hd⟩
  | case8 d a switch short htakes t rest d' hset ih =>
    exact ih (htail hws) ((Draft.summary_set hset).trans hd)
  | case10 d a switch short htakes t rest d' hset ih =>
    exact ih (htail hws) ((Draft.summary_set hset).trans hd)
  | case12 d a switch short htakes t rest d' hset ih =>
    exact ih (htail (htail hws)) ((Draft.summary_set hset).trans hd)
  | case9 | case11 | case13 | case14 => exact .inr ⟨_, rfl⟩
  | case15 | case16 | case17 =>
    have hflag := hws _ List.mem_cons_self
    simp_all [Word.isFlag]
  | case4 | case6 =>
    rename_i ih
    exact ih (htail (htail hws)) hd
  | _ =>
    rename_i ih
    exact ih (htail hws) hd

/-! ## Requests -/

/-- Before the name of a command there is one option only, with two spellings. -/
theorem length_filter_spellings_program {p : Text → Bool}
    (h : p "-h" = false ∨ p "--help" = false) :
    (Scope.program.spellings.filter fun (_, spelling) => p spelling).length ≤ 1 := by
  have hspellings : Scope.program.spellings =
      [(Switch.help, ("-h" : Text)), (Switch.help, ("--help" : Text))] := rfl
  rw [hspellings, List.filter_cons, List.filter_cons, List.filter_nil]
  rcases h with h | h <;> simp only [h, Bool.false_eq_true, ↓reduceIte] <;> split <;> simp

/-- An argument of the program stands for one option at most. -/
theorem length_candidates_program (a : Text) : (candidates .program a).length ≤ 1 := by
  unfold candidates
  split
  · rename_i t
    obtain ⟨m, attached, hsplit⟩ := exists_splitValue t
    rw [hsplit]
    dsimp only
    rw [List.length_map]
    exact length_filter_spellings_program (p := (('-' :: '-' :: m).isPrefixOf ·))
      (.inl (by simp [List.isPrefixOf]))
  · rename_i e t _
    rw [List.length_map]
    exact length_filter_spellings_program (p := (decide <| · = ['-', e]))
      (.inr (decide_eq_false fun h => absurd (congrArg List.length h) (by simp)))
  · exact Nat.zero_le 1

/-- No argument of the program is ambiguous. -/
theorem exists_classify_program (a : Text) : ∃ w, classify .program a = .ok w := by
  have hlength := length_candidates_program a
  unfold classify
  split
  · split
    · exact ⟨_, rfl⟩
    · split <;> exact ⟨_, rfl⟩
    · rename_i hone hnone
      match hcandidates : candidates .program _ with
      | [] => exact absurd hcandidates hnone
      | [x] => exact absurd hcandidates (hone _ _ _)
      | _ :: _ :: _ => rw [hcandidates] at hlength; simp at hlength
  · exact ⟨_, rfl⟩

/-- The program can tell of all arguments what they are. -/
theorem exists_words_program (rest : List Text) :
    ∃ ws, words .program rest = .ok ws ∧ ws.map (·.1) = rest := by
  induction rest with
  | nil => exact ⟨[], rfl, rfl⟩
  | cons a rest ih =>
    by_cases ha : a = ['-', '-']
    · refine ⟨(a, .terminator) :: rest.map (·, .operand), by rw [words, if_pos ha], ?_⟩
      rw [List.map_cons, List.map_map]
      exact congrArg (a :: ·) (List.map_id rest)
    · obtain ⟨w, hw⟩ := exists_classify_program a
      obtain ⟨ws, hws, hrest⟩ := ih
      refine ⟨(a, w) :: ws, ?_, congrArg (a :: ·) hrest⟩
      rw [words_cons _ ha, hw, hws]
      rfl

/-- A command gets all arguments behind its name as they are. -/
theorem ofArguments_name (c : Command) (rest : List Text) :
    Request.ofArguments (c.name :: rest) = Request.toCommand [] c rest := by
  obtain ⟨ws, hws, hrest⟩ := exists_words_program rest
  have hname : c.name ≠ ['-', '-'] := by cases c <;> decide
  have hoperand : classify .program c.name = .ok .operand := by cases c <;> rfl
  have hnamed : Command.named? c.name = some c := by cases c <;> rfl
  have hwords : words .program (c.name :: rest) = .ok ((c.name, .operand) :: ws) := by
    rw [words_cons _ hname, hoperand, hws]
    rfl
  rw [Request.ofArguments, hwords]
  change Request.ofWords [] ((c.name, .operand) :: ws) = _
  rw [Request.ofWords, hnamed, hrest]

/-- The request that a draft makes, if it has a file and no argument is left over. -/
def Draft.toRequest (c : Command) (d : Draft) : Except Stop Request :=
  match d.file, d.extras with
  | none, _ => .error (.refused (.command c) .missingFile)
  | some file, [] => .ok ⟨c, file, d.lines, d.config, d.summary⟩
  | some _, unwanted => .error (.refused .program (.unrecognized unwanted))

/-- A command makes its request of a draft. -/
theorem toCommand_of_words (hwords : words (.command c) rest = .ok ws) :
    Request.toCommand [] c rest = (Draft.read (.command c) {} ws).bind (·.toRequest c) := by
  rw [Request.toCommand, hwords]
  change (Draft.read (.command c) {} ws).bind _ = _
  cases Draft.read (.command c) {} ws with
  | error stop => rfl
  | ok d =>
    obtain ⟨file, lines, config, summary, extras⟩ := d
    cases file with
    | none => rfl
    | some file => cases extras <;> rfl

/-- A draft makes a request to each command, or to none. -/
theorem Draft.toRequest_cases (d : Draft) :
    (∃ file, ∀ c, d.toRequest c = .ok ⟨c, file, d.lines, d.config, d.summary⟩) ∨
      ∀ c, ∃ scope fault, d.toRequest c = .error (.refused scope fault) := by
  unfold Draft.toRequest
  split
  · exact .inr fun c => ⟨_, _, rfl⟩
  · exact .inl ⟨_, fun c => rfl⟩
  · exact .inr fun c => ⟨_, _, rfl⟩

/-- Arguments without a flag make the same request to both commands, or both of them are
    refused. -/
theorem ofArguments_cases (hrest : ∀ ws, words (.command .preview) rest = .ok ws →
      ∀ w ∈ ws, w.2.isFlag = false) :
    (∃ file lines config, ∀ c : Command,
      Request.ofArguments (c.name :: rest) = .ok ⟨c, file, lines, config, false⟩) ∨
    ∀ c : Command, ∃ scope fault,
      Request.ofArguments (c.name :: rest) = .error (.refused scope fault) := by
  simp only [ofArguments_name]
  have hambiguous : ∀ {c fault}, words (.command c) rest = .error fault →
      ∃ scope fault, Request.toCommand [] c rest = .error (.refused scope fault) :=
    fun {c fault} h => ⟨_, fault, by rw [Request.toCommand, h]; rfl⟩
  rcases words_cases rest with hwords | ⟨ws, hws, w, hw, hflag⟩ | ⟨_, _, hpreview, hgenerate⟩
  · have hsame : ∀ c : Command, words (.command c) rest = words (.command .preview) rest
      | .generate => hwords
      | .preview => rfl
    cases hws : words (.command .preview) rest with
    | error fault => exact .inr fun c => hambiguous ((hsame c).trans hws)
    | ok ws =>
      have hcommand : ∀ c, Request.toCommand [] c rest =
          (Draft.read (.command c) {} ws).bind (·.toRequest c) := fun c =>
        toCommand_of_words ((hsame c).trans hws)
      rcases Draft.read_of_no_flag (s := .command .preview) (d := {}) (hrest ws hws) rfl with
        ⟨d, hread, hsummary⟩ | ⟨fault, hread⟩
      · have hdraft : ∀ c, Request.toCommand [] c rest = d.toRequest c := fun c => by
          rw [hcommand, Draft.read_scope _ (.command .preview), hread]
          rfl
        simp only [hdraft]
        rcases d.toRequest_cases with ⟨file, hrequest⟩ | hrefused
        · exact .inl ⟨file, d.lines, d.config, fun c => hsummary ▸ hrequest c⟩
        · exact .inr hrefused
      · refine .inr fun c => ⟨.command c, fault, ?_⟩
        rw [hcommand, Draft.read_scope _ (.command .preview), hread]
        rfl
  · rw [hrest ws hws w hw] at hflag
    cases hflag
  · refine .inr fun c => ?_
    cases c with
    | generate => exact hambiguous hgenerate
    | preview => exact hambiguous hpreview

end TablePackage.CommandLine
