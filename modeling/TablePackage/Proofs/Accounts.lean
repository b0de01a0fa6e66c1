import TablePackage.Proofs.Acceptance
import TablePackage.Proofs.Repetition

/-!
# Accounts of a session

Over a session of any length on a buffer, what the buffer and the notes say of themselves agrees
with the steps that were taken: how often the document was replaced, how many notices there are,
and what a step may change at all. On a buffer that refuses to be replaced, nothing ever happens to
the document, and a run that comes as far as replacing it says so.

* `Session.generate_cases`: the two ways in which a run on a buffer ends;
* `Buffer.accounts_take`: what one step tells, changes and keeps (`Reply.Accounts`);
* `Session.balanced_after`: the accounts behind any number of steps (`Session.Balanced`);
* `session_accounts`: all of this together, on either kind of buffer.
-/

namespace TablePackage

/-! ## Kinds of steps -/

namespace Buffer.Step

/-- Whether a step replaces the document by a text that is given. -/
def replaces : Buffer.Step → Bool
  | .on (.replace _) => true
  | _ => false

/-- Whether a step moves the selection. -/
def selects : Buffer.Step → Bool
  | .select _ _ => true
  | _ => false

/-- Whether a step tells the user a notice that is given. -/
def notifies : Buffer.Step → Bool
  | .on (.notify _) => true
  | _ => false

/-- Whether a step runs the command, for which its configuration has to be valid. -/
def runs : Buffer.Step → Bool
  | .on (.generate none _) => true
  | .on (.generate (some .null) _) => true
  | .on (.generate (some v) _) => (Config.check v).isOk
  | _ => false

end Buffer.Step

theorem Buffer.Step.notifies_of_runs (i : Buffer.Step) (h : i.runs = true) :
    i.notifies = false := by
  rcases i with (_ | _ | _ | _ | _ | _) | _ <;> first | rfl | cases h

/-- Whether an answer is a package. -/
def Answer.isPackage : Answer → Bool
  | .generated _ => true
  | _ => false

/-- How many notices were kept. -/
def Notes.size (n : Notes) : Nat := n.errors.length + n.infos.length

theorem Notes.size_add (n : Notes) (notice : Notice) : (n.add notice).size = n.size + 1 := by
  cases notice <;> simp only [size, add, List.length_append, List.length_singleton] <;> omega

/-! ## One step -/

variable {s : Session Buffer} {config : Option Value} {c : Config} {i : Buffer.Step} {g : Generated}
  {notes : Notes} {present : Bool}

/-- A step that runs the command has a configuration for that. -/
theorem Session.exists_configFor (h : Buffer.Step.runs (.on (.generate config present)) = true) :
    ∃ c, s.configFor config = .ok c := by
  fun_cases Session.configFor s config with
  | case1 => exact ⟨_, rfl⟩
  | case2 => exact ⟨_, rfl⟩
  | case3 v hv =>
    have hok : (Config.check v).isOk = true := by
      rwa [Buffer.Step.runs.eq_3 _ _ hv] at h
    cases hcheck : Config.check v with
    | error faults => rw [hcheck] at hok; cases hok
    | ok c => exact ⟨c, rfl⟩

/-- A step whose configuration is not valid does not run the command. -/
theorem Session.configFor_of_not_runs
    (h : Buffer.Step.runs (.on (.generate config present)) = false) :
    ∃ faults, s.configFor config = .error faults := by
  fun_cases Session.configFor s config with
  | case1 => cases h
  | case2 => cases h
  | case3 v hv =>
    have hok : (Config.check v).isOk = false := by
      rwa [Buffer.Step.runs.eq_3 _ _ hv] at h
    cases hcheck : Config.check v with
    | error faults => exact ⟨faults, rfl⟩
    | ok c => rw [hcheck] at hok; cases hok

/-- A run on a buffer replaces the document and gives the package, or it leaves the buffer as it
    is. -/
theorem Session.generate_cases (s : Session Buffer) (c : Config) (present : Bool) :
    (∃ g t, (s.generate c present).answer = .generated g ∧ s.surface.refuses = false ∧
      (s.generate c present).session.surface =
        { s.surface with text := t, replacements := s.surface.replacements + 1 } ∧
      ∃ message, (s.generate c present).Tells s (.info message)) ∨
    (s.generate c present).Declines s := by
  cases present with
  | false => exact .inr (declines_close s .noActiveEditor [])
  | true =>
    rcases s.generate_buffer c with ⟨g, t, h, -⟩ | h
    · have hreplaced := h.replaced
      cases hrefuses : s.surface.refuses with
      | true => simp [Surface.replaceAll, Buffer.replaceAll?, hrefuses] at hreplaced
      | false =>
        rw [Buffer.replaceAll_eq_ok hrefuses] at hreplaced
        exact .inl ⟨g, t, h.answer_eq, rfl, (Except.ok.inj hreplaced).symm, h.tells⟩
    · exact .inr h

/-- How the reply to a step on a buffer is to be booked: what the step has told, what it has
    replaced, and what it has left as it was. -/
structure Reply.Accounts (s : Session Buffer) (i : Buffer.Step) (r : Reply Buffer) : Prop where
  /-- A run tells an error if there is no package, and an info if there is one. -/
  run : i.runs = true → (r.answer = .nothing ∧ ∃ message, r.Tells s (.error message)) ∨
    (∃ g, r.answer = .generated g) ∧ ∃ message, r.Tells s (.info message)
  notice : i.notifies = true → ∃ notice, r.Tells s notice
  /-- No other step tells anything. -/
  notifier_eq : i.runs = false → i.notifies = false → r.session.notifier = s.notifier
  isPackage_eq : i.runs = false → r.answer.isPackage = false
  /-- Only a replacement and a package change the document. -/
  text_eq : i.replaces = false → r.answer.isPackage = false →
    r.session.surface.text = s.surface.text
  /-- Only a step that moves the selection changes its offsets. -/
  offsets_eq : i.selects = false →
    r.session.surface.start = s.surface.start ∧ r.session.surface.stop = s.surface.stop
  refuses_eq : r.session.surface.refuses = s.surface.refuses
  /-- A buffer that does not refuse is replaced for each replacement and each package. -/
  replacements_eq : s.surface.refuses = false → r.session.surface.replacements =
    s.surface.replacements + (if i.replaces then 1 else 0) + if r.answer.isPackage then 1 else 0
  /-- A buffer that refuses stays as it is. -/
  refused : s.surface.refuses = true → r.session.surface.text = s.surface.text ∧
    r.session.surface.replacements = s.surface.replacements ∧ r.answer.isPackage = false

/-- A step that changes nothing and tells nothing. -/
theorem Reply.Accounts.of_session_eq {r : Reply Buffer} (hsession : r.session = s)
    (hpackage : r.answer.isPackage = false) (hruns : i.runs = false)
    (hnotifies : i.notifies = false)
    (hreplaces : i.replaces = false ∨ s.surface.refuses = true) : r.Accounts s i where
  run h := by rw [hruns] at h; cases h
  notice h := by rw [hnotifies] at h; cases h
  notifier_eq _ _ := by rw [hsession]
  isPackage_eq _ := hpackage
  text_eq _ _ := by rw [hsession]
  offsets_eq _ := by rw [hsession]; exact ⟨rfl, rfl⟩
  refuses_eq := by rw [hsession]
  replacements_eq h := by
    rcases hreplaces with hreplaces | hrefuses
    · rw [hsession, hreplaces, hpackage]; rfl
    · rw [h] at hrefuses; cases hrefuses
  refused _ := by rw [hsession]; exact ⟨rfl, rfl, hpackage⟩

/-- A run of the command is booked as one. -/
theorem Buffer.accounts_generate
    (hruns : Buffer.Step.runs (.on (.generate config present)) = true) :
    (s.generate c present).Accounts s (.on (.generate config present)) := by
  rcases s.generate_cases c present with ⟨g, t, hanswer, hrefuses, hsurface, htells⟩ | h
  · have hpackage : (s.generate c present).answer.isPackage = true := by rw [hanswer]; rfl
    exact {
      run := fun _ => .inr ⟨⟨g, hanswer⟩, htells⟩
      notice := fun h => nomatch h
      notifier_eq := fun h => by rw [hruns] at h; cases h
      isPackage_eq := fun h => by rw [hruns] at h; cases h
      text_eq := fun _ h => by rw [hpackage] at h; cases h
      offsets_eq := fun _ => by rw [hsurface]; exact ⟨rfl, rfl⟩
      refuses_eq := by rw [hsurface]
      replacements_eq := fun _ => by rw [hsurface, hpackage]; rfl
      refused := fun h => by rw [hrefuses] at h; cases h }
  · have hpackage : (s.generate c present).answer.isPackage = false := by rw [h.answer_eq]; rfl
    exact {
      run := fun _ => .inl ⟨h.answer_eq, h.tells⟩
      notice := fun h => nomatch h
      notifier_eq := fun h => by rw [hruns] at h; cases h
      isPackage_eq := fun h => by rw [hruns] at h; cases h
      text_eq := fun _ _ => by rw [h.surface_eq]
      offsets_eq := fun _ => by rw [h.surface_eq]; exact ⟨rfl, rfl⟩
      refuses_eq := by rw [h.surface_eq]
      replacements_eq := fun _ => by rw [h.surface_eq, hpackage]; rfl
      refused := fun _ => by rw [h.surface_eq]; exact ⟨rfl, rfl, hpackage⟩ }

/-- A replacement is booked as one, unless it is refused. -/
theorem Buffer.accounts_replace (s : Session Buffer) (t : Text) :
    (Buffer.take s (.on (.replace t))).Accounts s (.on (.replace t)) := by
  cases hrefuses : s.surface.refuses with
  | true =>
    have htake : Buffer.take s (.on (.replace t)) = ⟨.flag false, s, []⟩ := by
      simp only [Buffer.take, Session.step, Buffer.replaceAll_eq_unchanged hrefuses]
    rw [htake]
    exact .of_session_eq rfl rfl rfl rfl (.inr hrefuses)
  | false =>
    have htake : Buffer.take s (.on (.replace t)) =
        ⟨.flag true, { s with surface :=
          { s.surface with text := t, replacements := s.surface.replacements + 1 } }, []⟩ := by
      simp only [Buffer.take, Session.step, Buffer.replaceAll_eq_ok hrefuses]
    rw [htake]
    exact {
      run := fun h => nomatch h
      notice := fun h => nomatch h
      notifier_eq := fun _ _ => rfl
      isPackage_eq := fun _ => rfl
      text_eq := fun h => nomatch h
      offsets_eq := fun _ => ⟨rfl, rfl⟩
      refuses_eq := rfl
      replacements_eq := fun _ => rfl
      refused := fun h => by rw [hrefuses] at h; cases h }

/-- A notice is booked as one. -/
theorem Buffer.accounts_notify (s : Session Buffer) (notice : Notice) :
    (Buffer.take s (.on (.notify notice))).Accounts s (.on (.notify notice)) where
  run h := nomatch h
  notice _ := ⟨notice, fun notes h => by
    change (s.notifier.tell notice).1 = _
    rw [h]
    rfl, fun h => by
    change (s.notifier.tell notice).1 = _ ∧ ∃ log, (s.notifier.tell notice).2 = _
    rw [h]
    exact ⟨rfl, [], rfl⟩⟩
  notifier_eq _ h := nomatch h
  isPackage_eq _ := rfl
  text_eq _ _ := rfl
  offsets_eq _ := ⟨rfl, rfl⟩
  refuses_eq := rfl
  replacements_eq _ := rfl
  refused _ := ⟨rfl, rfl, rfl⟩

/-- Moving the selection is booked as that. -/
theorem Buffer.accounts_select (s : Session Buffer) (start stop : Option Int) :
    (Buffer.take s (.select start stop)).Accounts s (.select start stop) where
  run h := nomatch h
  notice h := nomatch h
  notifier_eq _ _ := rfl
  isPackage_eq _ := rfl
  text_eq _ _ := rfl
  offsets_eq h := nomatch h
  refuses_eq := rfl
  replacements_eq _ := rfl
  refused _ := ⟨rfl, rfl, rfl⟩

/-- The reply to each step is booked as what it is. -/
theorem Buffer.accounts_take (s : Session Buffer) (i : Buffer.Step) :
    (Buffer.take s i).Accounts s i := by
  rcases i with (_ | _ | t | ⟨config, present⟩ | notice | _) | ⟨start, stop⟩
  · exact .of_session_eq rfl rfl rfl rfl (.inl rfl)
  · exact .of_session_eq rfl rfl rfl rfl (.inl rfl)
  · exact Buffer.accounts_replace s t
  · cases hruns : Buffer.Step.runs (.on (.generate config present)) with
    | true =>
      obtain ⟨c, hc⟩ := Session.exists_configFor (s := s) hruns
      have htake : Buffer.take s (.on (.generate config present)) = s.generate c present := by
        simp only [Buffer.take, Session.step, hc]
      rw [htake]
      exact Buffer.accounts_generate hruns
    | false =>
      obtain ⟨faults, hfaults⟩ := Session.configFor_of_not_runs (s := s) hruns
      have htake : Buffer.take s (.on (.generate config present)) = ⟨.invalid faults, s, []⟩ := by
        simp only [Buffer.take, Session.step, hfaults]
      rw [htake]
      exact .of_session_eq rfl rfl hruns rfl (.inl rfl)
  · exact Buffer.accounts_notify s notice
  · exact .of_session_eq rfl rfl rfl rfl (.inl rfl)
  · exact Buffer.accounts_select s start stop

/-! ## All steps -/

/-- The accounts of a session that has started with the buffer `b` and without notices, behind the
    steps that have been taken: as many notices as runs and notices that were given, and, unless the
    buffer refuses, as many replacements as were asked for and as there are packages. -/
structure Session.Balanced (b : Buffer) (steps : List Buffer.Step) (replies : List (Reply Buffer))
    (s : Session Buffer) : Prop where
  notes : ∃ notes, s.notifier = .recording notes ∧
    notes.size = steps.countP (·.runs) + steps.countP (·.notifies)
  refuses_eq : s.surface.refuses = b.refuses
  replacements_eq : b.refuses = false → s.surface.replacements =
    b.replacements + (steps.countP (·.replaces) + replies.countP (·.answer.isPackage))
  refused : b.refuses = true → s.surface.text = b.text ∧
    s.surface.replacements = b.replacements ∧ ∀ r ∈ replies, r.answer.isPackage = false

/-- A step that is booked keeps the accounts balanced. -/
theorem Session.Balanced.take {b : Buffer} {steps : List Buffer.Step}
    {replies : List (Reply Buffer)} {r : Reply Buffer} (h : Balanced b steps replies s)
    (hr : r.Accounts s i) : Balanced b (steps ++ [i]) (replies ++ [r]) r.session where
  notes := by
    obtain ⟨notes, hnotes, hsize⟩ := h.notes
    have htold : ∀ {notice}, r.Tells s notice → ∃ notes', r.session.notifier = .recording notes' ∧
        notes'.size = steps.countP (·.runs) + steps.countP (·.notifies) + 1 := fun htells =>
      ⟨_, htells.notes notes hnotes, by rw [Notes.size_add, hsize]⟩
    simp only [List.countP_append, List.countP_singleton]
    cases hruns : i.runs with
    | true =>
      rw [i.notifies_of_runs hruns, if_pos rfl, if_neg Bool.false_ne_true, Nat.add_zero,
        Nat.add_right_comm]
      rcases hr.run hruns with ⟨-, message, htells⟩ | ⟨-, message, htells⟩ <;> exact htold htells
    | false =>
      rw [if_neg Bool.false_ne_true, Nat.add_zero]
      cases hnotifies : i.notifies with
      | true =>
        obtain ⟨notice, htells⟩ := hr.notice hnotifies
        exact htold htells
      | false => exact ⟨notes, (hr.notifier_eq hruns hnotifies).trans hnotes, hsize⟩
  refuses_eq := hr.refuses_eq.trans h.refuses_eq
  replacements_eq hb := by
    rw [hr.replacements_eq (h.refuses_eq.trans hb), h.replacements_eq hb, List.countP_append,
      List.countP_append, List.countP_singleton, List.countP_singleton]
    omega
  refused hb := by
    obtain ⟨htext, hreplacements, hpackage⟩ := hr.refused (h.refuses_eq.trans hb)
    obtain ⟨htext', hreplacements', hpackages⟩ := h.refused hb
    refine ⟨htext.trans htext', hreplacements.trans hreplacements', ?_⟩
    exact List.forall_mem_append.2 ⟨hpackages, List.forall_mem_singleton.2 hpackage⟩

/-- The accounts are balanced behind any number of steps. -/
theorem Session.balanced_after (b : Buffer) (config : Config) (steps : List Buffer.Step) :
    let s : Session Buffer := ⟨b, .recording {}, config⟩
    Balanced b steps (s.replies Buffer.take steps) (s.after Buffer.take steps) := by
  intro s
  induction steps using List.reverseRecOn with
  | nil => exact ⟨⟨{}, rfl, rfl⟩, rfl, fun _ => rfl, fun _ => ⟨rfl, rfl, fun _ h => nomatch h⟩⟩
  | append_singleton steps i ih =>
    rw [Session.replies_append_singleton, Session.after_append_singleton]
    exact ih.take (Buffer.accounts_take _ i)

/-! ## Refusals -/

/-- What keeps a package from being made is never that the document is not replaced. -/
theorem Generated.build_ne_documentUpdate (S : Text) (n : Naming) (requireKey : Bool) :
    Generated.build S n requireKey ≠ .error .documentUpdate := by
  intro h
  obtain ⟨-, hkind⟩ | ⟨-, fault, hfault, hkind⟩ :=
    Generated.failsWith_iff.1 ⟨.documentUpdate, h, rfl⟩
  · cases hkind
  · unfold Schema.fault? at hfault
    split_ifs at hfault <;> cases hfault <;> cases hkind

/-- A document that is not replaced has a message of its own. -/
theorem Fault.message_eq_documentUpdate_iff {fault : Fault} :
    fault.message = "Failed to update the document." ↔ fault = .documentUpdate := by
  have htable : ∀ t : Text, "Table " ++ t ≠ "Failed to update the document." := fun t h =>
    absurd (List.cons.inj h).1 (by decide)
  cases fault with
  | noActiveEditor => decide
  | selectionFormat => decide
  | noTableOrColumns => decide
  | noKeyColumn table => exact iff_of_false (htable _) nofun
  | onlyKeyColumns table => exact iff_of_false (htable _) nofun
  | documentUpdate => decide

/-- A run on a buffer that refuses to be replaced tells so if a package can be made. -/
theorem Session.tells_refusal_iff (hrefuses : s.surface.refuses = true)
    (hnotes : s.notifier = .recording notes) :
    (s.generate c true).session.notifier =
        .recording (notes.add (.error "Failed to update the document.")) ↔
      ∃ g, Generated.build s.surface.selection c.naming c.validation.requireKey = .ok g := by
  have htold : ∀ {fault log}, Run.generate c s.notifier s.surface =
      .ok (.close s.notifier (.error fault) s.surface log) →
      (s.generate c true).session.notifier = .recording (notes.add (.error fault.message)) :=
    fun {fault log} hrun => by
      rw [Session.generate_eq_afterRun hrun]
      exact (tells_close s (.error fault) s.surface log).notes notes hnotes
  cases hbuild : Generated.build s.surface.selection c.naming c.validation.requireKey with
  | ok g =>
    rw [htold (Run.generate_of_refusal rfl rfl hbuild (Buffer.replaceAll_eq_unchanged hrefuses _))]
    exact iff_of_true rfl ⟨g, rfl⟩
  | error fault =>
    rw [htold (Run.generate_of_fault rfl hbuild)]
    refine iff_of_false (fun h => ?_) nofun
    have hmessage : notes.errors ++ [fault.message] =
        notes.errors ++ [("Failed to update the document." : Text)] :=
      congrArg Notes.errors (Notifier.recording.inj h)
    have hfault := List.singleton_inj.1 (List.append_cancel_left hmessage)
    rw [Fault.message_eq_documentUpdate_iff.1 hfault] at hbuild
    exact Generated.build_ne_documentUpdate _ _ _ hbuild

/-! ## The accounts of a session -/

/-- The accounts of a session of any length on a buffer, whatever its text and offsets are. Behind
    the steps that have been taken there are as many notices as runs and notices that were given,
    and the reply to any next step is booked as what it is (`Reply.Accounts`). A buffer was replaced
    as often as a replacement was asked for or a package was given. If it refuses to be replaced, it
    has its text and was never replaced, there was no package, and a run that has the buffer tells
    that the document is not replaced if a package can be made of the selection. -/
theorem session_accounts (t : Text) (start stop : Option Int) (refuses : Bool) (config : Config)
    (steps : List Buffer.Step) :
    let b : Buffer := { Buffer.ofText t start stop with refuses := refuses }
    let s₀ : Session Buffer := ⟨b, .recording {}, config⟩
    let s := s₀.after Buffer.take steps
    let replies := s₀.replies Buffer.take steps
    ∃ notes, s.notifier = .recording notes ∧
      notes.errors.length + notes.infos.length =
        steps.countP (·.runs) + steps.countP (·.notifies) ∧
      (∀ i, (Buffer.take s i).Accounts s i) ∧
      match refuses with
      | false => s.surface.replacements =
          steps.countP (·.replaces) + replies.countP (·.answer.isPackage)
      | true => s.surface.text = t ∧ s.surface.replacements = 0 ∧
          (∀ r ∈ replies, r.answer.isPackage = false) ∧
          ∀ v c, s.configFor v = .ok c →
            ((Buffer.take s (.on (.generate v true))).session.notifier =
                .recording (notes.add (.error "Failed to update the document.")) ↔
              ∃ g, Generated.build s.surface.selection c.naming c.validation.requireKey =
                .ok g) := by
  intro b s₀ s replies
  have hbalanced : Session.Balanced b steps replies s := Session.balanced_after b config steps
  obtain ⟨notes, hnotes, hsize⟩ := hbalanced.notes
  refine ⟨notes, hnotes, hsize, Buffer.accounts_take s, ?_⟩
  cases refuses with
  | false => exact (hbalanced.replacements_eq rfl).trans (Nat.zero_add _)
  | true =>
    obtain ⟨htext, hreplacements, hpackages⟩ := hbalanced.refused rfl
    refine ⟨htext, hreplacements, hpackages, fun v c hc => ?_⟩
    have htake : Buffer.take s (.on (.generate v true)) = s.generate c true := by
      simp only [Buffer.take, Session.step, hc]
    rw [htake]
    exact Session.tells_refusal_iff hbalanced.refuses_eq hnotes

/-- A replacement is refused and a notice is given; then a run on the table that is selected tells
    that the document is not replaced. -/
theorem session_accounts_refusal :
    let S := smallTable []
    let b : Buffer := { Buffer.ofText S with refuses := true }
    let steps : List Buffer.Step := [.on (.replace "--"), .on (.notify (.info "refused"))]
    let s := Session.after Buffer.take ⟨b, .recording {}, {}⟩ steps
    s.configFor (some .null) = .ok {} ∧ s.surface.text = S ∧ ∃ notes,
      s.notifier = .recording notes ∧ notes.errors.length + notes.infos.length = 1 ∧
      (Buffer.take s (.on (.generate (some .null) true))).session.notifier =
        .recording (notes.add (.error "Failed to update the document.")) := by
  intro S b steps s
  obtain ⟨notes, hnotes, hsize, -, htext, -, -, hrun⟩ :=
    session_accounts S (some 0) none true {} steps
  have hselection : s.surface.selection = S := by
    have hslice := slice_append [] S []
    rwa [List.append_nil, List.nil_append, List.length_nil, Nat.zero_add] at hslice
  have hbuild : ∃ g, Generated.build s.surface.selection {} true = .ok g := by
    rw [hselection]
    exact exists_build_smallTable List.not_mem_nil
  exact ⟨rfl, htext, notes, hnotes, hsize, (hrun (some .null) {} rfl).2 hbuild⟩

end TablePackage
