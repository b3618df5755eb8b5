import EzvizHp7.Cpd7.Crypto
import EzvizHp7.Library.BigEndian
import EzvizHp7.Library.Segments

/-!
# The layout of a control packet

The doorbell and the cloud's CAS server speak the same framing: a 32-byte header of big-endian
words, a body, and the ASCII hex digits of the body's MD5 digest. The layout is stated once here;
either encoder of the source is shown to write it and either reader to read it back.
-/

namespace EzvizHp7.Control

open Cpd7 (Bytes)
open Segments (Delivery)

/-- A connected TCP socket; it ends in the message of an `OSError` unless the peer closes it. -/
abbrev Socket := Delivery String UInt8

/-- `struct.pack(">I", n)` -/
def packI (n : Nat) : Except String Bytes :=
  if n < 2 ^ 32 then .ok (BigEndian.bytes 4 n)
  else .error "'I' format requires 0 <= number <= 4294967295"

/-- `struct.unpack(">I", data)[0]` -/
def unpackI (data : Bytes) : Except String Nat :=
  if data.length = 4 then .ok (BigEndian.value data)
  else .error "unpack requires a buffer of 4 bytes"

/-- `data[start:stop]` -/
def slice (start stop : Nat) (data : Bytes) : Bytes := (data.drop start).take (stop - start)

abbrev Digest := {d : Bytes // d.length = 16}

def hexDigit (n : Nat) : UInt8 := if n < 10 then UInt8.ofNat (0x30 + n) else UInt8.ofNat (0x57 + n)

/-- `digest.hexdigest().encode("ascii")` -/
def hexdigest (d : Digest) : Bytes :=
  d.val.flatMap fun b => [hexDigit (b.toNat / 16), hexDigit (b.toNat % 16)]

theorem hexdigest_length (d : Digest) : (hexdigest d).length = 32 := by
  rw [hexdigest, List.length_flatMap]
  change (d.val.map fun _ => 2).sum = 32
  rw [List.map_const', d.property]
  rfl

def magic : Bytes := [0x9e, 0xba, 0xac, 0xe9]

def headerLen : Nat := 32

def trailerLen : Nat := 32

/-- A packet whose fields fit their words. -/
structure Packet where
  session : Nat
  cmd : Nat
  flags : Nat
  extra : Nat
  body : Bytes
  tail : Bytes
  session_lt : session < 2 ^ 32
  cmd_lt : cmd < 2 ^ 32
  flags_lt : flags < 2 ^ 32
  extra_lt : extra < 2 ^ 32
  body_lt : body.length < 2 ^ 32
  tail_length : tail.length = trailerLen

namespace Packet

def word (n : Nat) : Bytes := BigEndian.bytes 4 n

def header (p : Packet) : Bytes :=
  magic ++ [0x01, 0x00, 0x00, 0x00] ++ word p.session ++ [0x00, 0x00, 0x00, 0x00] ++ word p.cmd ++
    word p.flags ++ word p.body.length ++ word p.extra

def encode (p : Packet) : Bytes := p.header ++ p.body ++ p.tail

theorem zero_lt_word : 0 < 2 ^ 32 := by decide

theorem word_length {n : Nat} (hn : n < 2 ^ 32) : (word n).length = 4 :=
  BigEndian.bytes_length hn

theorem unpackI_word {n : Nat} (hn : n < 2 ^ 32) : unpackI (word n) = .ok n := by
  rw [unpackI, if_pos (word_length hn)]
  exact congrArg Except.ok (BigEndian.value_bytes (show n < 256 ^ 4 from hn))

theorem packI_word {n : Nat} (hn : n < 2 ^ 32) : packI n = .ok (word n) := if_pos hn

theorem header_length (p : Packet) : p.header.length = headerLen := by
  simp only [header, List.length_append, word_length p.session_lt, word_length p.cmd_lt,
    word_length p.flags_lt, word_length p.extra_lt, word_length p.body_lt]
  rfl

/-- Where the fields are. -/
structure Reads (data : Bytes) (p : Packet) : Prop where
  magic : data.take 4 = magic
  session : slice 8 12 data = word p.session
  cmd : slice 16 20 data = word p.cmd
  flags : slice 20 24 data = word p.flags
  bodyLen : slice 24 28 data = word p.body.length
  extra : slice 28 32 data = word p.extra

theorem reads_append (p : Packet) (more : Bytes) : Reads (p.header ++ more) p := by
  have hword {n : Nat} (hn : n < 2 ^ 32) : ∃ b0 b1 b2 b3, word n = [b0, b1, b2, b3] := by
    match h : word n, word_length hn with
    | [b0, b1, b2, b3], _ => exact ⟨b0, b1, b2, b3, rfl⟩
  obtain ⟨s0, s1, s2, s3, hs⟩ := hword p.session_lt
  obtain ⟨c0, c1, c2, c3, hc⟩ := hword p.cmd_lt
  obtain ⟨f0, f1, f2, f3, hf⟩ := hword p.flags_lt
  obtain ⟨l0, l1, l2, l3, hl⟩ := hword p.body_lt
  obtain ⟨e0, e1, e2, e3, he⟩ := hword p.extra_lt
  rw [header, hs, hc, hf, hl, he]
  exact ⟨rfl, hs.symm, hc.symm, hf.symm, hl.symm, he.symm⟩

end Packet

end EzvizHp7.Control
