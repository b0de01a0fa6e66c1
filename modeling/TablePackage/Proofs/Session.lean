import Mathlib.Data.List.Induction
import TablePackage.Session

/-!
# Steps one after the other

What each step of a session keeps is kept by all of them. The invariant may speak of the steps
that have been taken so far, or of those among them that have succeeded.

* `Session.replies_keep`: steps that all count;
* `Session.replies_keep_filter`: steps of which some do nothing;
* `Session.after`: the session behind some steps, where the next one is taken.
-/

namespace TablePackage.Session

variable {σ ι : Type} {take : Session σ → ι → Reply σ} {steps : List ι} {s : Session σ}

/-- If each step keeps an invariant and is answered properly, then so is each of the steps that are
    taken one after the other, and the invariant holds behind it. -/
theorem replies_keep (Inv : List ι → Session σ → Prop) (Says : ι → Answer → Prop)
    (hstep : ∀ i ∈ steps, ∀ done s, Inv done s →
      Inv (done ++ [i]) (take s i).session ∧ Says i (take s i).answer)
    (done : List ι) (hs : Inv done s) :
    (s.replies take steps).length = steps.length ∧
      ∀ k i r, steps[k]? = some i → (s.replies take steps)[k]? = some r →
        Inv (done ++ steps.take (k + 1)) r.session ∧ Says i r.answer := by
  induction steps generalizing done s with
  | nil => exact ⟨rfl, fun k i r hi => nomatch hi⟩
  | cons i steps ih =>
    obtain ⟨hnext, hsays⟩ := hstep i List.mem_cons_self done s hs
    obtain ⟨hlength, hreplies⟩ :=
      ih (fun j hj => hstep j (List.mem_cons_of_mem i hj)) (done ++ [i]) hnext
    refine ⟨congrArg Nat.succ hlength, fun k j r hj hr => ?_⟩
    cases k with
    | zero =>
      obtain rfl : i = j := Option.some.inj hj
      obtain rfl := Option.some.inj hr
      exact ⟨hnext, hsays⟩
    | succ k =>
      obtain ⟨hinv, hsays'⟩ := hreplies k j r hj hr
      rw [List.append_assoc] at hinv
      exact ⟨hinv, hsays'⟩

/-- If each step that succeeds extends an invariant and is answered properly, and each other one
    keeps it and is not answered, then the invariant holds behind each of the steps that are taken
    one after the other, for those that have succeeded so far. -/
theorem replies_keep_filter (succeeds : ι → Bool) (Inv : List ι → Session σ → Prop)
    (Says : ι → Answer → Prop)
    (hpos : ∀ i ∈ steps, succeeds i = true → ∀ done s, Inv done s →
      Inv (done ++ [i]) (take s i).session ∧ Says i (take s i).answer)
    (hneg : ∀ i ∈ steps, succeeds i = false → ∀ done s, Inv done s →
      Inv done (take s i).session ∧ (take s i).answer = .nothing) (hs : Inv [] s) :
    (s.replies take steps).length = steps.length ∧
      ∀ k i r, steps[k]? = some i → (s.replies take steps)[k]? = some r →
        Inv ((steps.take (k + 1)).filter succeeds) r.session ∧
          if succeeds i then Says i r.answer else r.answer = .nothing := by
  have hstep : ∀ i ∈ steps, ∀ done s, Inv (done.filter succeeds) s →
      Inv ((done ++ [i]).filter succeeds) (take s i).session ∧
        if succeeds i then Says i (take s i).answer else (take s i).answer = .nothing := by
    intro i hi done s hs
    rw [List.filter_append]
    cases h : succeeds i with
    | true =>
      rw [List.filter_cons_of_pos h, List.filter_nil, if_pos rfl]
      exact hpos i hi h _ s hs
    | false =>
      have hneg' : ¬succeeds i = true := by rw [h]; decide
      rw [List.filter_cons_of_neg hneg', List.filter_nil, List.append_nil, if_neg (by decide)]
      exact hneg i hi h _ s hs
  exact replies_keep (fun done s => Inv (done.filter succeeds) s)
    (fun i a => if succeeds i then Says i a else a = .nothing) hstep [] hs

/-- The session behind steps that are taken one after the other. -/
def after (take : Session σ → ι → Reply σ) (s : Session σ) (steps : List ι) : Session σ :=
  steps.foldl (fun s i => (take s i).session) s

theorem after_append_singleton (i : ι) :
    s.after take (steps ++ [i]) = (take (s.after take steps) i).session := by
  rw [after, List.foldl_append]
  rfl

/-- The last reply is that to the last step, taken behind the steps before it. -/
theorem replies_append_singleton (i : ι) :
    s.replies take (steps ++ [i]) = s.replies take steps ++ [take (s.after take steps) i] := by
  induction steps generalizing s with
  | nil => rfl
  | cons j steps ih => exact congrArg (take s j :: ·) ih

end TablePackage.Session
