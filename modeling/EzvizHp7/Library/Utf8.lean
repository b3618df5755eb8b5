import Mathlib.Data.List.Basic

/-!
# Decoding UTF-8 with replacement

A decoder that never fails: where no character can be read it puts U+FFFD for as many bytes as
could have begun one. What was encoded is read back.
-/

namespace Utf8

def replacement : Char := Char.ofNat 0xFFFD

/-- The second byte of a character of three or four bytes. -/
def mayFollow (b0 b1 : UInt8) : Bool :=
  if b0 = 0xE0 then 0xA0 ≤ b1 && b1 ≤ 0xBF
  else if b0 = 0xED then 0x80 ≤ b1 && b1 ≤ 0x9F
  else if b0 = 0xF0 then 0x90 ≤ b1 && b1 ≤ 0xBF
  else if b0 = 0xF4 then 0x80 ≤ b1 && b1 ≤ 0x8F
  else (0xE1 ≤ b0 && b0 ≤ 0xF3) && (0x80 ≤ b1 && b1 ≤ 0xBF)

/-- How many bytes one replacement stands for, where no character can be read. -/
def invalidLength : List UInt8 → Nat
  | b0 :: b1 :: rest =>
    if mayFollow b0 b1 then
      if 0xF0 ≤ b0 ∧ rest.head?.any (fun b2 => 0x80 ≤ b2 && b2 ≤ 0xBF) then 3 else 2
    else 1
  | _ => 1

def decodeFrom : Nat → List UInt8 → List Char
  | 0, _ => []
  | _ + 1, [] => []
  | fuel + 1, b :: rest =>
    match (b :: rest).toByteArray.utf8DecodeChar? 0 with
    | some c => c :: decodeFrom fuel ((b :: rest).drop c.utf8Size)
    | none => replacement :: decodeFrom fuel ((b :: rest).drop (invalidLength (b :: rest)))

/-- Every character takes a byte, so there are no more of them than bytes. -/
def decodeReplacing (data : List UInt8) : List Char := decodeFrom data.length data

theorem invalidLength_pos (data : List UInt8) : 0 < invalidLength data := by
  unfold invalidLength
  split
  · split
    · split <;> decide
    · decide
  · decide

/-- More fuel than bytes changes nothing. -/
theorem decodeFrom_enough (fuel : Nat) : ∀ (fuel' : Nat) (data : List UInt8),
    data.length ≤ fuel → data.length ≤ fuel' → decodeFrom fuel data = decodeFrom fuel' data := by
  induction fuel with
  | zero =>
    intro fuel' data h _
    rw [List.eq_nil_of_length_eq_zero (Nat.le_zero.1 h)]
    cases fuel' <;> rfl
  | succ fuel ih =>
    intro fuel' data h h'
    cases data with
    | nil => cases fuel' <;> rfl
    | cons b rest =>
      cases fuel' with
      | zero => simp at h'
      | succ fuel' =>
        have hdrop (n : Nat) (hn : 0 < n) : decodeFrom fuel ((b :: rest).drop n) =
            decodeFrom fuel' ((b :: rest).drop n) := by
          rw [List.length_cons] at h h'
          apply ih <;> rw [List.length_drop, List.length_cons] <;> omega
        simp only [decodeFrom]
        split
        · rename_i c _
          rw [hdrop c.utf8Size c.utf8Size_pos]
        · rw [hdrop _ (invalidLength_pos _)]

theorem decodeReplacing_cons (c : Char) (data : List UInt8) :
    decodeReplacing (String.utf8EncodeChar c ++ data) = c :: decodeReplacing data := by
  have hlen : (String.utf8EncodeChar c).length = c.utf8Size := String.length_utf8EncodeChar c
  have hpos := c.utf8Size_pos
  have hread : (String.utf8EncodeChar c ++ data).toByteArray.utf8DecodeChar? 0 = some c := by
    rw [List.toByteArray_append]
    exact ByteArray.utf8DecodeChar?_utf8EncodeChar_append
  have hdrop : (String.utf8EncodeChar c ++ data).drop c.utf8Size = data := List.drop_left' hlen
  cases hencoded : String.utf8EncodeChar c ++ data with
  | nil =>
    rw [(List.append_eq_nil_iff.1 hencoded).1] at hlen
    simp at hlen
    omega
  | cons b rest =>
    rw [hencoded] at hread hdrop
    rw [decodeReplacing, List.length_cons, decodeFrom, hread]
    dsimp only
    rw [hdrop]
    congr 1
    have hrest : data.length ≤ rest.length := by
      have hboth := congrArg List.length hencoded
      rw [List.length_append, List.length_cons] at hboth
      omega
    exact decodeFrom_enough _ _ data hrest (Nat.le_refl _)

theorem decodeReplacing_encode (text : List Char) :
    decodeReplacing (text.flatMap String.utf8EncodeChar) = text := by
  induction text with
  | nil => rfl
  | cons c text ih => rw [List.flatMap_cons, decodeReplacing_cons, ih]

end Utf8
