import Mathlib.Algebra.Ring.Nat
import Mathlib.Data.List.Basic

/-!
# Records of length, type and data

A record is a length byte, which counts what follows, a type byte and the data.  A list of records is written
one behind the other; a reader stops at a length of zero, as bytes of padding have it, and has nothing if
the bytes end inside of a record.
-/

structure Tlv where
  type : UInt8
  data : List UInt8
deriving DecidableEq, Repr

namespace Tlv

/-- The bytes that a record takes. -/
def size (r : Tlv) : Nat := r.data.length + 2

/-- The length is that of a byte. -/
def Fits (r : Tlv) : Prop := r.data.length < 255

def encode (r : Tlv) : List UInt8 := UInt8.ofNat (r.data.length + 1) :: r.type :: r.data

def encodeAll (rs : List Tlv) : List UInt8 := rs.flatMap encode

def parse : List UInt8 → Option (List Tlv)
  | [] => some []
  | len :: rest =>
    if len = 0 then some []
    else
      match rest with
      | [] => none
      | type :: rest =>
        if rest.length < len.toNat - 1 then none
        else (parse (rest.drop (len.toNat - 1))).map (⟨type, rest.take (len.toNat - 1)⟩ :: ·)
termination_by bs => bs.length
decreasing_by
  simp only [List.length_drop, List.length_cons]
  omega

section

variable {r : Tlv} {rs rs' : List Tlv} {bs : List UInt8} {n : Nat}

@[simp] theorem encodeAll_nil : encodeAll [] = [] := rfl

@[simp] theorem encodeAll_cons : encodeAll (r :: rs) = r.encode ++ encodeAll rs := rfl

@[simp] theorem length_encode : r.encode.length = r.size := rfl

/-- The records take what their sizes add up to. -/
theorem length_encodeAll : (encodeAll rs).length = (rs.map size).sum := by
  induction rs with
  | nil => rfl
  | cons r rs ih => simp [ih]

@[simp] theorem parse_zero : parse (0 :: bs) = some [] := by
  rw [parse.eq_def]
  rfl

/-! ## Round trips -/

theorem parse_encode_append (h : r.Fits) : parse (r.encode ++ bs) = (parse bs).map (r :: ·) := by
  have hlen : (UInt8.ofNat (r.data.length + 1)).toNat = r.data.length + 1 := by
    rw [UInt8.toNat_ofNat']
    exact Nat.mod_eq_of_lt (by unfold Fits at h; omega)
  have hne : UInt8.ofNat (r.data.length + 1) ≠ 0 := fun h0 => by simp [h0] at hlen
  show parse (UInt8.ofNat (r.data.length + 1) :: r.type :: (r.data ++ bs)) = _
  have hlong : ¬ (r.data ++ bs).length < r.data.length := by simp
  rw [parse, if_neg hne]
  simp only [hlen, Nat.add_sub_cancel, if_neg hlong, List.drop_left, List.take_left]

/-- What is written is read back, whatever padding is behind it. -/
theorem parse_encodeAll (h : ∀ r ∈ rs, r.Fits) (n : Nat) :
    parse (encodeAll rs ++ List.replicate n 0) = some rs := by
  induction rs with
  | nil =>
    rw [encodeAll_nil, List.nil_append]
    cases n with
    | zero => rw [List.replicate_zero, parse]
    | succ n => rw [List.replicate_succ, parse_zero]
  | cons r rs ih =>
    obtain ⟨hr, hrs⟩ := List.forall_mem_cons.1 h
    rw [encodeAll_cons, List.append_assoc, parse_encode_append hr, ih hrs]
    rfl

/-- Two lists of records are the same if their bytes are. -/
theorem encodeAll_injective (h : ∀ r ∈ rs, r.Fits) (h' : ∀ r ∈ rs', r.Fits)
    (heq : encodeAll rs = encodeAll rs') : rs = rs' := by
  have hrs := parse_encodeAll h 0
  rw [heq, parse_encodeAll h' 0] at hrs
  exact (Option.some.inj hrs).symm

end

end Tlv
