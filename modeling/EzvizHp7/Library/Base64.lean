import Mathlib.Data.List.Basic

/-!
# Base64

The lenient decoder of Python's `binascii.a2b_base64`: characters outside the alphabet are left
out, and a complete padding ends the data. It reads back what any alphabet-preserving encoder
writes, once the padding that the encoder left off is there again.
-/

namespace Base64

inductive Error
  | oneMoreThanAMultipleOfFour
  | incorrectPadding
  deriving DecidableEq, Repr

def pad : UInt8 := 0x3d

def digit (n : Nat) : UInt8 :=
  if n < 26 then UInt8.ofNat (0x41 + n)
  else if n < 52 then UInt8.ofNat (0x61 + (n - 26))
  else if n < 62 then UInt8.ofNat (0x30 + (n - 52))
  else if n = 62 then 0x2b
  else 0x2f

def urlDigit (n : Nat) : UInt8 := if n = 62 then 0x2d else if n = 63 then 0x5f else digit n

def value? (c : UInt8) : Option Nat :=
  let n := c.toNat
  if 0x41 ≤ n ∧ n ≤ 0x5a then some (n - 0x41)
  else if 0x61 ≤ n ∧ n ≤ 0x7a then some (n - 0x61 + 26)
  else if 0x30 ≤ n ∧ n ≤ 0x39 then some (n - 0x30 + 52)
  else if n = 0x2b then some 62
  else if n = 0x2f then some 63
  else none

/-- `_urlsafe_decode_translation` -/
def translate (c : UInt8) : UInt8 := if c = 0x2d then 0x2b else if c = 0x5f then 0x2f else c

theorem value?_digit {n : Nat} (hn : n < 64) : value? (digit n) = some n := by
  revert n
  decide

theorem digit_ne_pad {n : Nat} (hn : n < 64) : digit n ≠ pad := by
  revert n
  decide

theorem translate_urlDigit {n : Nat} (hn : n < 64) : translate (urlDigit n) = digit n := by
  revert n
  decide

theorem urlDigit_ascii {n : Nat} (hn : n < 64) : (urlDigit n).toNat < 128 := by
  revert n
  decide

theorem urlDigit_ne_dot {n : Nat} (hn : n < 64) : urlDigit n ≠ 0x2e := by
  revert n
  decide

def sextets : List UInt8 → List Nat
  | [] => []
  | [a] => [a.toNat / 4, a.toNat % 4 * 16]
  | [a, b] => [a.toNat / 4, a.toNat % 4 * 16 + b.toNat / 16, b.toNat % 16 * 4]
  | a :: b :: c :: data =>
    a.toNat / 4 :: (a.toNat % 4 * 16 + b.toNat / 16) :: (b.toNat % 16 * 4 + c.toNat / 64) ::
      c.toNat % 64 :: sextets data

def urlEncode (data : List UInt8) : List UInt8 := (sextets data).map urlDigit

/-- The loop of `a2b_base64`: `pos` characters of a quad are read, `left` are the bits of them that
are not written yet, `pads` counts the padding since the last character. -/
def decodeFrom : (pos left pads : Nat) → List UInt8 → Except Error (List UInt8)
  | pos, _, _, [] =>
    if pos = 0 then .ok []
    else if pos = 1 then .error .oneMoreThanAMultipleOfFour
    else .error .incorrectPadding
  | pos, left, pads, c :: data =>
    if c = pad then
      if 2 ≤ pos then
        if 4 ≤ pos + (pads + 1) then .ok [] else decodeFrom pos left (pads + 1) data
      else decodeFrom pos left pads data
    else
      match value? c with
      | none => decodeFrom pos left pads data
      | some v =>
        match pos with
        | 0 => decodeFrom 1 v 0 data
        | 1 => (decodeFrom 2 (v % 16) 0 data).map (UInt8.ofNat (left * 4 + v / 16) :: ·)
        | 2 => (decodeFrom 3 (v % 4) 0 data).map (UInt8.ofNat (left * 16 + v / 4) :: ·)
        | _ => (decodeFrom 0 0 0 data).map (UInt8.ofNat (left * 64 + v) :: ·)

def decode (data : List UInt8) : Except Error (List UInt8) := decodeFrom 0 0 0 data

/-- `-n % 4` -/
def missing (n : Nat) : Nat := (-(n : Int) % 4).toNat

/-- `base64.urlsafe_b64decode` -/
def urlDecode (data : List UInt8) : Except Error (List UInt8) := decode (data.map translate)

theorem sextets_lt (data : List UInt8) : ∀ n ∈ sextets data, n < 64 := by
  induction data using sextets.induct with
  | case1 => simp [sextets]
  | case2 a =>
    have ha := a.toNat_lt
    simp only [sextets, List.mem_cons, List.not_mem_nil, or_false]
    omega
  | case3 a b =>
    have ha := a.toNat_lt
    have hb := b.toNat_lt
    simp only [sextets, List.mem_cons, List.not_mem_nil, or_false]
    omega
  | case4 a b c data ih =>
    have ha := a.toNat_lt
    have hb := b.toNat_lt
    have hc := c.toNat_lt
    simp only [sextets, List.mem_cons]
    intro n hn
    rcases hn with rfl | rfl | rfl | rfl | hn
    · omega
    · omega
    · omega
    · omega
    · exact ih n hn

section decodeFrom

variable {v left pads : Nat} (data : List UInt8)

theorem decodeFrom_zero (hv : v < 64) :
    decodeFrom 0 left pads (digit v :: data) = decodeFrom 1 v 0 data := by
  simp [decodeFrom, digit_ne_pad hv, value?_digit hv]

theorem decodeFrom_one (hv : v < 64) :
    decodeFrom 1 left pads (digit v :: data) =
      (decodeFrom 2 (v % 16) 0 data).map (UInt8.ofNat (left * 4 + v / 16) :: ·) := by
  simp [decodeFrom, digit_ne_pad hv, value?_digit hv]

theorem decodeFrom_two (hv : v < 64) :
    decodeFrom 2 left pads (digit v :: data) =
      (decodeFrom 3 (v % 4) 0 data).map (UInt8.ofNat (left * 16 + v / 4) :: ·) := by
  simp [decodeFrom, digit_ne_pad hv, value?_digit hv]

theorem decodeFrom_three (hv : v < 64) :
    decodeFrom 3 left pads (digit v :: data) =
      (decodeFrom 0 0 0 data).map (UInt8.ofNat (left * 64 + v) :: ·) := by
  simp [decodeFrom, digit_ne_pad hv, value?_digit hv]

end decodeFrom

theorem ofNat_eq {n : Nat} {a : UInt8} (h : n = a.toNat) : UInt8.ofNat n = a := by
  rw [h, UInt8.ofNat_toNat]

theorem missing_add_four (n : Nat) : missing (n + 4) = missing n := by
  simp only [missing]
  omega

theorem decode_sextets (data : List UInt8) :
    decode ((sextets data).map digit ++ List.replicate (missing (sextets data).length) pad) =
      .ok data := by
  have hlt := sextets_lt data
  unfold decode
  induction data using sextets.induct with
  | case1 => rfl
  | case2 a =>
    have ha := a.toNat_lt
    simp only [sextets, List.mem_cons, forall_eq_or_imp] at hlt
    have hpads : List.replicate (missing 2) pad = [pad, pad] := rfl
    simp only [sextets, List.map_cons, List.map_nil, List.length_cons, List.length_nil,
      List.cons_append, List.nil_append, hpads]
    rw [decodeFrom_zero _ hlt.1, decodeFrom_one _ hlt.2.1, ofNat_eq (a := a) (by omega)]
    rfl
  | case3 a b =>
    have ha := a.toNat_lt
    have hb := b.toNat_lt
    simp only [sextets, List.mem_cons, forall_eq_or_imp] at hlt
    have hpads : List.replicate (missing 3) pad = [pad] := rfl
    simp only [sextets, List.map_cons, List.map_nil, List.length_cons, List.length_nil,
      List.cons_append, List.nil_append, hpads]
    rw [decodeFrom_zero _ hlt.1, decodeFrom_one _ hlt.2.1, decodeFrom_two _ hlt.2.2.1,
      ofNat_eq (a := a) (by omega), ofNat_eq (a := b) (by omega)]
    rfl
  | case4 a b c data ih =>
    have ha := a.toNat_lt
    have hb := b.toNat_lt
    have hc := c.toNat_lt
    simp only [sextets, List.mem_cons, forall_eq_or_imp] at hlt
    simp only [sextets, List.map_cons, List.length_cons, List.cons_append, missing_add_four]
    rw [decodeFrom_zero _ hlt.1, decodeFrom_one _ hlt.2.1, decodeFrom_two _ hlt.2.2.1,
      decodeFrom_three _ hlt.2.2.2.1, ih hlt.2.2.2.2, ofNat_eq (a := a) (by omega),
      ofNat_eq (a := b) (by omega), ofNat_eq (a := c) (by omega)]
    rfl

theorem translate_urlEncode (data : List UInt8) :
    (urlEncode data).map translate = (sextets data).map digit := by
  rw [urlEncode, List.map_map]
  apply List.map_congr_left
  intro n hn
  exact translate_urlDigit (sextets_lt data n hn)

theorem urlEncode_ascii (data : List UInt8) : ∀ c ∈ urlEncode data, c.toNat < 128 := by
  intro c hc
  obtain ⟨n, hn, rfl⟩ := List.mem_map.1 hc
  exact urlDigit_ascii (sextets_lt data n hn)

theorem urlEncode_ne_dot (data : List UInt8) : ∀ c ∈ urlEncode data, c ≠ 0x2e := by
  intro c hc
  obtain ⟨n, hn, rfl⟩ := List.mem_map.1 hc
  exact urlDigit_ne_dot (sextets_lt data n hn)

theorem urlDecode_urlEncode (data : List UInt8) :
    urlDecode (urlEncode data ++ List.replicate (missing (urlEncode data).length) pad) =
      .ok data := by
  have hpad : translate pad = pad := rfl
  have hlen : (urlEncode data).length = (sextets data).length := List.length_map _
  rw [urlDecode, List.map_append, translate_urlEncode, List.map_replicate, hpad, hlen]
  exact decode_sextets data

end Base64
