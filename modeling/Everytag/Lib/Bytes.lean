import Mathlib.Data.Nat.ModEq

/-!
# Bytes in memory

Little-endian numbers (`leBytes`, `leNat`) and writes into fixed-size byte arrays: `overlay` lays
the bytes a read delivered over the start of an array (a short read leaves the rest as it was),
`blit` copies a block to an offset inside the array.

    leNat (leBytes n v) = v   for v < 256 ^ n        (leNat_leBytes)
    overlay old new.toList = new                     (overlay_toList)
    (blit a off bs h)[i] is bs[i - off] inside of the block and a[i] outside   (getElem_blit)
-/

namespace Bytes

/-- The number whose little-endian bytes are `bs`; bytes that are missing count as zero. -/
def leNat : List UInt8 → Nat
  | [] => 0
  | b :: bs => b.toNat + 256 * leNat bs

/-- The `n` low bytes of `v`, lowest first. -/
def leBytes : Nat → Nat → List UInt8
  | 0, _ => []
  | n + 1, v => UInt8.ofNat v :: leBytes n (v / 256)

@[simp] theorem length_leBytes (n v : Nat) : (leBytes n v).length = n := by
  induction n generalizing v with
  | zero => rfl
  | succ n ih => simp [leBytes, ih]

theorem leNat_leBytes (n v : Nat) (hv : v < 256 ^ n) : leNat (leBytes n v) = v := by
  induction n generalizing v with
  | zero => simp only [leBytes, leNat]; omega
  | succ n ih =>
    have hq : v / 256 < 256 ^ n := by
      rw [Nat.div_lt_iff_lt_mul (by decide)]
      rwa [Nat.pow_succ] at hv
    simp only [leBytes, leNat, ih _ hq, UInt8.toNat_ofNat']
    omega

variable {α : Type} {n : Nat}

/-- The array after a read delivered `new` into it: missing bytes keep their old value. -/
def overlay (old : Vector α n) (new : List α) : Vector α n :=
  Vector.ofFn fun i => new[i.val]?.getD old[i]

@[simp] theorem getElem_overlay (old : Vector α n) (new : List α) (i : Nat) (h : i < n) :
    (overlay old new)[i] = new[i]?.getD old[i] := by
  simp [overlay]

@[simp] theorem overlay_toList (old new : Vector α n) : overlay old new.toList = new := by
  ext i h
  simp [h]

/-- `memcpy(a + off, bs, bs.length)`; the block has to lie inside of the array. -/
def blit (a : Vector α n) (off : Nat) (bs : List α) (_ : off + bs.length ≤ n) : Vector α n :=
  Vector.ofFn fun i => if off ≤ i.val then bs[i.val - off]?.getD a[i] else a[i]

theorem getElem_blit (a : Vector α n) (off : Nat) (bs : List α) (h : off + bs.length ≤ n) (i : Nat)
    (hi : i < n) :
    (blit a off bs h)[i] = if off ≤ i then bs[i - off]?.getD a[i] else a[i] := by
  simp [blit]

/-! ## Arrays of arrays as one block of memory -/

/-- Flat memory of an array of rows. -/
def flat {m : Nat} (rows : Vector (Vector α n) m) : List α := rows.flatten.toList

/-- `overlay` on the flat memory of an array of rows. -/
def overlayRows {m : Nat} (old : Vector (Vector α n) m) (new : List α) : Vector (Vector α n) m :=
  Vector.ofFn fun i => Vector.ofFn fun j => new[i.val * n + j.val]?.getD old[i][j]

theorem getElem_flat {m : Nat} (rows : Vector (Vector α n) m) (i j : Nat) (hi : i < m) (hj : j < n) :
    (flat rows)[i * n + j]? = some rows[i][j] := by
  have hn : 0 < n := Nat.zero_lt_of_lt hj
  have hlt : i * n + j < m * n := by
    have := Nat.mul_le_mul_right n (Nat.succ_le_of_lt hi)
    rw [Nat.succ_mul] at this
    omega
  rw [flat, List.getElem?_eq_getElem (by simpa using hlt), Vector.getElem_toList, Vector.getElem_flatten]
  have hd : (i * n + j) / n = i := by
    rw [Nat.mul_comm, Nat.mul_add_div hn, Nat.div_eq_of_lt hj, Nat.add_zero]
  have hm : (i * n + j) % n = j := by
    rw [Nat.mul_comm, Nat.mul_add_mod, Nat.mod_eq_of_lt hj]
  simp only [hd, hm]

@[simp] theorem overlayRows_flat {m : Nat} (old rows : Vector (Vector α n) m) :
    overlayRows old (flat rows) = rows := by
  ext i hi j hj
  simp [overlayRows, getElem_flat rows i j hi hj]

@[simp] theorem length_flat {m : Nat} (rows : Vector (Vector α n) m) : (flat rows).length = m * n := by
  simp [flat]

/-! ## Comparison without an early exit -/

theorem foldl_or_xor_eq_zero (ps : List (UInt8 × UInt8)) (a : UInt8) :
    ps.foldl (fun diff p => diff ||| (p.1 ^^^ p.2)) a = 0 ↔ a = 0 ∧ ∀ p ∈ ps, p.1 = p.2 := by
  induction ps generalizing a with
  | nil => simp
  | cons p ps ih =>
    rw [List.foldl_cons, ih, UInt8.or_eq_zero_iff, UInt8.xor_eq_zero_iff, List.forall_mem_cons, and_assoc]

theorem forall_zip_eq_iff {xs ys : List α} (hlen : xs.length = ys.length) :
    (∀ p ∈ xs.zip ys, p.1 = p.2) ↔ xs = ys := by
  induction xs generalizing ys with
  | nil => simpa using List.length_eq_zero_iff.1 hlen.symm
  | cons x xs ih =>
    cases ys with
    | nil => simp at hlen
    | cons y ys =>
      rw [List.zip_cons_cons, List.forall_mem_cons, ih (Nat.succ.inj hlen), List.cons.injEq]

end Bytes
