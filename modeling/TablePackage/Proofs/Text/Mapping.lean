import TablePackage.Proofs.Text.Reading

/-!
# Readers and maps of characters

If a map of the characters keeps what a reader asks for, then what the reader gives of the mapped
text is what it gives of the text itself, mapped.

* `after?_map`, `run?_map`: what is taken off the start of a text;
* `find?_map`: what is found in a text;
* `wordsBy_map`, `trimBy_map`, `join_map`: how a text is cut and put together.
-/

namespace TablePackage

/-- A reader that goes on with what another one gives. -/
theorem bind_map_eq {α α' β β' : Type} {o : Option α} {g : α → α'} {next : α → Option β}
    {next' : α' → Option β'} {g' : β → β'} (h : ∀ a, next' (g a) = (next a).map g') :
    (o.map g).bind next' = (o.bind next).map g' := by
  cases o with
  | none => rfl
  | some a => exact h a

namespace Text

variable {f : Char → Char} {p : Char → Bool} {same : Char → Char → Bool} {α β : Type}

/-! ## The start of a text -/

/-- A pattern is read of a mapped text if its characters agree with the same ones. -/
theorem after?_map (h : ∀ a c, same a (f c) = same a c) (k t : Text) :
    after? same k (t.map f) = (after? same k t).map (·.map f) := by
  induction k generalizing t with
  | nil => rfl
  | cons a k ih =>
    cases t with
    | nil => rfl
    | cons c t =>
      rw [List.map_cons, after?, after?, h, ih]
      split <;> rfl

/-- A mapped pattern is read where the pattern is. -/
theorem after?_map_left (h : ∀ a c, same (f a) c = same a c) (k t : Text) :
    after? same (k.map f) t = after? same k t := by
  induction k generalizing t with
  | nil => rfl
  | cons a k ih =>
    cases t with
    | nil => rfl
    | cons c t => rw [List.map_cons, after?, after?, h, ih]

theorem dropWhile_map (hp : ∀ c, p (f c) = p c) (t : Text) :
    (t.map f).dropWhile p = (t.dropWhile p).map f := by
  rw [List.dropWhile_map, show p ∘ f = p from funext hp]

theorem run?_map (hp : ∀ c, p (f c) = p c) (t : Text) :
    run? p (t.map f) = (run? p t).map fun (w, r) => (w.map f, r.map f) := by
  rw [run?, run?, List.takeWhile_map, dropWhile_map hp, show p ∘ f = p from funext hp]
  cases t.takeWhile p <;> rfl

/-! ## Searching -/

/-- A found place of a mapped text. -/
def Found.map (f : Char → Char) (g : α → β) (x : Found α) : Found β :=
  ⟨x.before.map f, x.taken.map f, g x.value, x.rest.map f⟩

/-- A reader finds a place of a mapped text where it finds one of the text. -/
theorem find?_map {read : Text → Option (α × Text)} {read' : Text → Option (β × Text)} {g : α → β}
    (h : ∀ t, read' (t.map f) = (read t).map fun (a, r) => (g a, r.map f)) (t : Text) :
    find? read' (t.map f) = (find? read t).map (Found.map f g) := by
  induction t with
  | nil =>
    have hnil := h []
    rw [List.map_nil] at hnil ⊢
    rw [find?, find?, hnil]
    cases read [] <;> rfl
  | cons c t ih =>
    have hcons := h (c :: t)
    rw [List.map_cons] at hcons ⊢
    rw [find?, find?, hcons]
    cases read (c :: t) with
    | none =>
      rw [Option.map_none]
      dsimp only
      rw [ih, Option.map_map, Option.map_map]
      rfl
    | some x =>
      obtain ⟨a, r⟩ := x
      rw [Option.map_some]
      dsimp only
      rw [Option.map_some, Found.map, List.map_take, List.length_cons, List.length_cons,
        List.length_map, List.length_map, List.map_cons, List.map_nil]

/-! ## Cutting -/

theorem wordsBy_map (hp : ∀ c, p (f c) = p c) (t : Text) :
    wordsBy p (t.map f) = (wordsBy p t).map (·.map f) := by
  induction t with
  | nil => rfl
  | cons c t ih =>
    rw [List.map_cons, wordsBy.eq_def, wordsBy.eq_def p (c :: t)]
    dsimp only
    rw [hp, ih]
    split
    · rfl
    · cases t with
      | nil => rfl
      | cons d t =>
        rw [List.map_cons]
        dsimp only
        rw [hp]
        split
        · rfl
        · cases wordsBy p (d :: t) <;> rfl

theorem trimBy_map (hp : ∀ c, p (f c) = p c) (t : Text) :
    trimBy p (t.map f) = (trimBy p t).map f := by
  rw [trimBy, trimBy, dropWhile_map hp, ← List.map_reverse, dropWhile_map hp, List.map_reverse]

theorem join_map (separator : Text) (ts : List Text) :
    join (separator.map f) (ts.map (·.map f)) = (join separator ts).map f := by
  induction ts with
  | nil => rfl
  | cons t ts ih =>
    cases ts with
    | nil => simp only [join, List.map_cons, List.map_nil, List.intercalate_singleton]
    | cons u ts =>
      simp only [join, List.map_cons, List.intercalate_cons_cons, List.map_append] at ih ⊢
      rw [ih]

end Text

end TablePackage
