import Mathlib.Data.List.Induction

/-!
# Registers

A state read through registers, each of them written by the actions with its own key alone.  What a run
leaves in a register depends on those actions, in their order, and on nothing else:

    l.filter (key · = k) = l'.filter (key · = k) → get s = get t →
      get (l.foldl step s) = get (l'.foldl step t)                    (Register.get_foldl_eq)

Two systems of steps that write a register alike leave the same in it (`Register.get_foldl_congr`).  Where a write
either brings a value or is dropped, the register holds the last value brought (`latest`).
-/

namespace Registers

variable {S A K V : Type} [DecidableEq K]

/-- `get` reads what the actions with the key `k` write, and does not see the others. -/
structure Register (step : S → A → S) (key : A → K) (k : K) (get : S → V) : Prop where
  own : ∀ {s t : S} {a : A}, key a = k → get s = get t → get (step s a) = get (step t a)
  other : ∀ {s : S} {a : A}, key a ≠ k → get (step s a) = get s

section Register

variable {step step' : S → A → S} {key : A → K} {k : K} {get : S → V} {s t : S} {l l' : List A}

/-- The other actions can be left out of a run. -/
theorem Register.get_foldl_filter (h : Register step key k get) (l : List A) (hs : get s = get t) :
    get (l.foldl step s) = get ((l.filter fun a => key a = k).foldl step t) := by
  induction l generalizing s t with
  | nil => exact hs
  | cons a l ih =>
    by_cases ha : key a = k
    · rw [List.filter_cons_of_pos (by simpa using ha)]
      exact ih (h.own ha hs)
    · rw [List.filter_cons_of_neg (by simpa using ha)]
      exact ih ((h.other ha).trans hs)

/-- A register follows the actions with its key, in their order. -/
theorem Register.get_foldl_eq (h : Register step key k get)
    (hl : (l.filter fun a => key a = k) = l'.filter fun a => key a = k) (hs : get s = get t) :
    get (l.foldl step s) = get (l'.foldl step t) := by
  rw [h.get_foldl_filter l hs, h.get_foldl_filter l' (rfl : get t = get t), hl]

/-- A register that two systems of steps write alike. -/
theorem Register.get_foldl_congr (h : Register step key k get) (h' : Register step' key k get)
    (hown : ∀ s a, key a = k → get (step s a) = get (step' s a)) (hs : get s = get t) :
    get (l.foldl step s) = get (l.foldl step' t) := by
  induction l generalizing s t with
  | nil => exact hs
  | cons a l ih =>
    by_cases ha : key a = k
    · exact ih ((h.own ha hs).trans (hown t a ha))
    · exact ih ((h.other ha).trans (hs.trans (h'.other ha).symm))

end Register

/-! ## The last value -/

/-- The last value that one of the actions brings, or else the value `v` from before. -/
def latest (value : A → Option V) (v : V) (past : List A) : V :=
  past.foldl (fun v a => (value a).getD v) v

section Latest

variable {value : A → Option V} {v : V} {past more : List A} {a : A}

@[simp] theorem latest_nil : latest value v [] = v := rfl

@[simp] theorem latest_concat : latest value v (past ++ [a]) = (value a).getD (latest value v past) := by
  simp [latest]

theorem latest_append : latest value v (past ++ more) = latest value (latest value v past) more := by
  simp [latest]

/-- Nothing brings a value. -/
theorem latest_of_none (h : ∀ a ∈ past, value a = none) : latest value v past = v := by
  induction past using List.reverseRecOn with
  | nil => rfl
  | append_singleton past a ih =>
    rw [latest_concat, h a (by simp), Option.getD_none]
    exact ih fun b hb => h b (List.mem_append_left _ hb)

end Latest

end Registers
