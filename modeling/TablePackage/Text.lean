/-!
# Texts

A *text* is the list of its characters; its offsets and lengths count characters. A *reader*
takes something off the start of a text and gives the rest, and `Text.find?` runs a reader
at every place of a text until it succeeds.
-/

namespace TablePackage

/-- A text is the list of its characters. -/
abbrev Text := List Char

/-- A string stands for the text of its characters. -/
instance : Coe String Text := ⟨String.toList⟩

/-- A number stands in a text by its decimal digits. -/
def Text.ofNat (n : Nat) : Text := Nat.toDigits 10 n

/-- A negative number has a minus sign before its digits. -/
def Text.ofInt : Int → Text
  | .ofNat n => Text.ofNat n
  | .negSucc n => '-' :: Text.ofNat (n + 1)

/-! ## Offsets

An offset may be any integer: a negative one counts from the end. -/

/-- The place that the offset `i` denotes among `n` items: it is never before the first
    or after the last one. -/
def placeOf (n : Nat) (i : Int) : Nat := if i < 0 then (n + i).toNat else min i.toNat n

/-- The items from `start` up to, and without, `stop`; a missing offset is the start,
    respectively the end. -/
def slice {α : Type} (xs : List α) (start stop : Option Int) : List α :=
  let first := (start.map (placeOf xs.length)).getD 0
  let last := (stop.map (placeOf xs.length)).getD xs.length
  (xs.take last).drop first

namespace Text

/-! ## Reading -/

/-- What follows `pattern` at the start of a text, if the text starts with it; `same` says
    when a character of the pattern and one of the text agree. -/
def after? (same : Char → Char → Bool) : Text → Text → Option Text
  | [], t => some t
  | _ :: _, [] => none
  | p :: ps, c :: t => if same p c then after? same ps t else none

theorem after?_length {same : Char → Char → Bool} {p t r : Text} (h : after? same p t = some r) :
    t.length = p.length + r.length := by
  induction p generalizing t with
  | nil => simp only [after?, Option.some.injEq] at h; simp [h]
  | cons a p ih =>
    cases t with
    | nil => simp [after?] at h
    | cons c t =>
      simp only [after?, Option.ite_none_right_eq_some] at h
      simp [ih h.2]; omega

/-- The non-empty run of characters in the class `p` at the start of a text, and the rest. -/
def run? (p : Char → Bool) (t : Text) : Option (Text × Text) :=
  match t.takeWhile p with
  | [] => none
  | c :: cs => some (c :: cs, t.dropWhile p)

theorem run?_length {p : Char → Bool} {t a r : Text} (h : run? p t = some (a, r)) :
    r.length < t.length := by
  have hs := congrArg List.length (t.takeWhile_append_dropWhile (p := p))
  unfold run? at h
  split at h
  · cases h
  · rename_i hc
    simp only [Option.some.injEq, Prod.mk.injEq] at h
    simp only [hc, List.length_append, List.length_cons, h.2] at hs
    omega

theorem length_dropWhile_le (p : Char → Bool) (t : Text) :
    (t.dropWhile p).length ≤ t.length := by
  have hs := congrArg List.length (t.takeWhile_append_dropWhile (p := p))
  simp only [List.length_append] at hs
  omega

/-! ## Searching -/

/-- A place of a text where a reader succeeds: what stands before it, what the reader took
    off there, what it made of that, and the rest. -/
structure Found (α : Type) where
  before : Text
  taken : Text
  value : α
  rest : Text

/-- The first place where `read` succeeds. -/
def find? {α : Type} (read : Text → Option (α × Text)) : Text → Option (Found α)
  | [] => (read []).map fun (a, rest) => ⟨[], [], a, rest⟩
  | c :: t =>
    match read (c :: t) with
    | some (a, rest) => some ⟨[], (c :: t).take ((c :: t).length - rest.length), a, rest⟩
    | none => (find? read t).map fun f => { f with before := c :: f.before }

/-- If whatever `read` leaves is shorter than what it got, so is what follows a found place. -/
theorem find?_rest_length {α : Type} {read : Text → Option (α × Text)}
    (hread : ∀ {t a r}, read t = some (a, r) → r.length < t.length) {t : Text} {f : Found α}
    (h : find? read t = some f) : f.rest.length < t.length := by
  induction t generalizing f with
  | nil =>
    simp only [find?, Option.map_eq_some_iff, Prod.exists] at h
    obtain ⟨a, r, hr, rfl⟩ := h
    exact hread hr
  | cons c t ih =>
    unfold find? at h
    split at h
    · rename_i hr
      cases h
      exact hread hr
    · obtain ⟨g, hg, rfl⟩ := Option.map_eq_some_iff.1 h
      have := ih hg
      simp only [List.length_cons]
      omega

/-- What stands before the first occurrence of `needle`, and what follows it. -/
def cut? (needle : Text) : Text → Option (Text × Text)
  | [] => (after? (· == ·) needle []).map ([], ·)
  | c :: t =>
    match after? (· == ·) needle (c :: t) with
    | some rest => some ([], rest)
    | none => (cut? needle t).map fun (before, rest) => (c :: before, rest)

/-- The text with its first occurrence of `needle` replaced, if there is one. -/
def replaceFirst (needle replacement t : Text) : Text :=
  match cut? needle t with
  | some (before, rest) => before ++ replacement ++ rest
  | none => t

/-! ## Cutting -/

/-- The maximal non-empty runs of characters outside the class `blank`. -/
def wordsBy (blank : Char → Bool) : Text → List Text
  | [] => []
  | c :: t =>
    if blank c then wordsBy blank t
    else
      match t with
      | [] => [[c]]
      | d :: _ =>
        if blank d then [c] :: wordsBy blank t
        else
          match wordsBy blank t with
          | [] => [[c]]
          | word :: words => (c :: word) :: words

/-- The text without the characters of the class `blank` at its ends. -/
def trimBy (blank : Char → Bool) (t : Text) : Text :=
  ((t.dropWhile blank).reverse.dropWhile blank).reverse

/-- The texts one after the other, with a separator between two of them. -/
abbrev join (separator : Text) (ts : List Text) : Text := separator.intercalate ts

/-- Every text ended by a line feed. -/
def lines (ts : List Text) : Text := ts.flatMap (· ++ ['\n'])

end Text

end TablePackage
