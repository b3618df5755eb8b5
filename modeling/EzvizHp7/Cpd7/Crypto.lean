import EzvizHp7.Cpd7.KeyframeGate

/-!
# Nonces and the cryptographic libraries

`transform_nonce` is computed here; key loading, key exchange and the two ciphers belong to
third-party packages and are parameters that may fail on any input.
-/

namespace EzvizHp7.Cpd7

/-- What the decoder uses of its cryptographic packages, for a type of private keys and a type
of loaded public keys. -/
structure Crypto (Priv Pub : Type) where
  loadDerPublicKey : Bytes → Except String Pub
  exchange : Priv → Pub → Except String Bytes
  aesEcbDecrypt : (key data : Bytes) → Except String Bytes
  chacha20Decrypt : (key nonce body : Bytes) → Except String Bytes

def packLE32 (n : Nat) : Bytes :=
  [UInt8.ofNat n, UInt8.ofNat (n / 2 ^ 8), UInt8.ofNat (n / 2 ^ 16), UInt8.ofNat (n / 2 ^ 24)]

def transformNonce (nonceRaw4b : Bytes) : Except String Bytes :=
  match nonceRaw4b with
  | [b0, b1, b2, b3] =>
    let u32 := b0.toNat + b1.toNat * 2 ^ 8 + b2.toNat * 2 ^ 16 + b3.toNat * 2 ^ 24
    let u32 := ((u32 &&& 0xFF00FF00) >>> 8) ||| ((u32 &&& 0x00FF00FF) <<< 8)
    let u32 := (u32 >>> 16) ||| (((u32 &&& 0xFFFF) <<< 16) &&& 0xFFFFFFFF)
    .ok (packLE32 u32)
  | _ => .error "unpack requires a buffer of 4 bytes"

def nonce12b (nonce4b : Bytes) : Except String Bytes :=
  (transformNonce nonce4b).map (· ++ List.replicate 8 0x00)

/-- The two swaps reverse the four wire bytes. -/
example : transformNonce [0xAA, 0xBB, 0xCC, 0xDD] = .ok [0xDD, 0xCC, 0xBB, 0xAA] := by rfl

theorem nonce12b_ok {nonce4b : Bytes} (h : nonce4b.length = 4) :
    ∃ nonce, nonce12b nonce4b = .ok nonce ∧ nonce.length = 12 := by
  match nonce4b, h with
  | [_, _, _, _], _ => exact ⟨_, rfl, rfl⟩

def hexByte (b : UInt8) : String :=
  String.ofList [Nat.digitChar (b.toNat / 16), Nat.digitChar (b.toNat % 16)]

def hex (data : Bytes) : String := String.join (data.map hexByte)

end EzvizHp7.Cpd7
