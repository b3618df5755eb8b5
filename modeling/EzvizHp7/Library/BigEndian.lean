import Mathlib.Data.Nat.Digits.Lemmas
import Mathlib.Tactic.NormNum

/-!
# Big-endian fields

A number below `256 ^ width` as exactly `width` bytes, the most significant one first.
-/

namespace BigEndian

def value (bytes : List UInt8) : Nat := Nat.ofDigits 256 (bytes.reverse.map UInt8.toNat)

/-- The `width` bytes of a number below `256 ^ width`. -/
def bytes (width n : Nat) : List UInt8 :=
  ((Nat.digitsAppend 256 width n).map UInt8.ofNat).reverse

theorem bytes_length {width n : Nat} (hn : n < 256 ^ width) : (bytes width n).length = width := by
  rw [bytes, List.length_reverse, List.length_map]
  exact Nat.length_digitsAppend (by norm_num) width hn

theorem value_bytes {width n : Nat} (hn : n < 256 ^ width) : value (bytes width n) = n := by
  have hdigits : ((Nat.digitsAppend 256 width n).map UInt8.ofNat).map UInt8.toNat =
      Nat.digitsAppend 256 width n := by
    rw [List.map_map]
    refine (List.map_congr_left fun i hi => ?_).trans (List.map_id _)
    exact UInt8.toNat_ofNat_of_lt (Nat.lt_of_mem_digitsAppend (by norm_num) width i hi)
  rw [value, bytes, List.reverse_reverse, hdigits]
  exact (Nat.setInvOn_digitsAppend_ofDigits (by norm_num) width).2 hn

theorem value_lt (data : List UInt8) : value data < 256 ^ data.length := by
  have hlt : value data < 256 ^ (data.reverse.map UInt8.toNat).length := by
    apply Nat.ofDigits_lt_base_pow_length (by norm_num)
    intro x hx
    obtain ⟨b, _, rfl⟩ := List.mem_map.1 hx
    exact b.toNat_lt
  rwa [List.length_map, List.length_reverse] at hlt

theorem bytes_value (data : List UInt8) : bytes data.length (value data) = data := by
  have hdigits : Nat.digitsAppend 256 data.length (value data) =
      data.reverse.map UInt8.toNat := by
    apply (Nat.setInvOn_digitsAppend_ofDigits (by norm_num) data.length).1
    constructor
    · rw [List.length_map, List.length_reverse]
    · intro x hx
      obtain ⟨b, _, rfl⟩ := List.mem_map.1 hx
      exact b.toNat_lt
  have hback : (data.reverse.map UInt8.toNat).map UInt8.ofNat = data.reverse := by
    rw [List.map_map]
    exact (List.map_congr_left fun b _ => UInt8.ofNat_toNat).trans (List.map_id _)
  rw [bytes, hdigits, hback, List.reverse_reverse]

end BigEndian
