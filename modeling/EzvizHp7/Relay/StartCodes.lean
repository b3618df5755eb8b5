import EzvizHp7.Relay.Buffer

/-!
# Where the two keyframe scanners start

A keyframe start code has three bytes in front of its NAL header, or four with a leading zero.
The relay's scanner returns the three bytes of the last code, the decoder's scanner the first code
with its leading zero.
-/

namespace EzvizHp7.Relay

open Occurrence
open Cpd7 (Bytes findKeyframe markerOffsets packsBefore)

/-- The keyframe start codes without a leading zero. -/
def shortMarkers : List Bytes := [hevcVps3B, h264Sps3B]

/-- The offsets of the start codes without their leading zeros, so that a four-byte code and the
three-byte one inside it count as one. -/
abbrev startCodes (buf : Bytes) : Set Nat := anyOffsets shortMarkers buf

/-- A marker is a start code, or the zero before one. -/
theorem mem_markerOffsets_iff {buf : Bytes} {i : Nat} :
    i ∈ markerOffsets buf ↔
      i ∈ startCodes buf ∨ buf[i]? = some 0x00 ∧ i + 1 ∈ startCodes buf := by
  have hvps : i ∈ offsets Cpd7.hevcVps4B buf ↔
      buf[i]? = some 0x00 ∧ i + 1 ∈ offsets hevcVps3B buf := mem_offsets_cons
  have hsps : i ∈ offsets Cpd7.h264Sps4B buf ↔
      buf[i]? = some 0x00 ∧ i + 1 ∈ offsets h264Sps3B buf := mem_offsets_cons
  have hmarkers : i ∈ markerOffsets buf ↔
      i ∈ offsets Cpd7.hevcVps4B buf ∨ i ∈ offsets hevcVps3B buf ∨
        i ∈ offsets Cpd7.h264Sps4B buf ∨ i ∈ offsets h264Sps3B buf := by
    simp [anyOffsets, Cpd7.keyframeMarkers, Cpd7.hevcVps3B, Cpd7.h264Sps3B, hevcVps3B, h264Sps3B]
  have hcodes (j : Nat) : j ∈ startCodes buf ↔
      j ∈ offsets hevcVps3B buf ∨ j ∈ offsets h264Sps3B buf := by
    simp [anyOffsets, shortMarkers]
  rw [hmarkers, hcodes, hcodes, hvps, hsps]
  constructor
  · intro hi
    rcases hi with hi | hi | hi | hi
    · exact .inr ⟨hi.1, .inl hi.2⟩
    · exact .inl (.inl hi)
    · exact .inr ⟨hi.1, .inr hi.2⟩
    · exact .inl (.inr hi)
  · intro hi
    rcases hi with (hi | hi) | ⟨hzero, hi | hi⟩
    · exact .inr (.inl hi)
    · exact .inr (.inr (.inr hi))
    · exact .inl ⟨hzero, hi⟩
    · exact .inr (.inr (.inl ⟨hzero, hi⟩))

def codeStart (buf : Bytes) : Nat → Nat
  | 0 => 0
  | i + 1 => if buf[i]? = some 0x00 then i else i + 1

private theorem greatest_marker {buf : Bytes} {k : Nat} (hk : IsGreatest (startCodes buf) k) :
    IsGreatest (markerOffsets buf) k := by
  refine ⟨mem_markerOffsets_iff.2 (.inl hk.1), fun i hi => ?_⟩
  rcases mem_markerOffsets_iff.1 hi with hi | ⟨_, hi⟩
  · exact hk.2 hi
  · exact (Nat.le_succ i).trans (hk.2 hi)

private theorem least_marker {buf : Bytes} {k : Nat} (hk : IsLeast (startCodes buf) k) :
    IsLeast (markerOffsets buf) (codeStart buf k) := by
  cases k with
  | zero => exact ⟨mem_markerOffsets_iff.2 (.inl hk.1), fun _ _ => Nat.zero_le _⟩
  | succ i =>
    rw [codeStart]
    split
    · rename_i hzero
      refine ⟨mem_markerOffsets_iff.2 (.inr ⟨hzero, hk.1⟩), fun j hj => ?_⟩
      rcases mem_markerOffsets_iff.1 hj with hj | ⟨_, hj⟩
      · exact (Nat.le_succ i).trans (hk.2 hj)
      · exact Nat.le_of_succ_le_succ (hk.2 hj)
    · rename_i hzero
      refine ⟨mem_markerOffsets_iff.2 (.inl hk.1), fun j hj => ?_⟩
      rcases mem_markerOffsets_iff.1 hj with hj | ⟨hj', hj⟩
      · exact hk.2 hj
      · have hne : i ≠ j := fun heq => hzero (heq ▸ hj')
        have := hk.2 hj
        omega

private theorem rfindLastKeyframe_of_greatest {buf : Bytes} {k : Nat}
    (hk : IsGreatest (markerOffsets buf) k) : rfindLastKeyframe buf = k := by
  rw [rfindLastKeyframe_eq]
  exact rfindAny_of_greatest (fun _ => Cpd7.marker_ne_nil) hk

/-- The patterns with a leading zero never decide the maximum. -/
theorem rfindLastKeyframe_of_last {buf : Bytes} {k : Nat} (hk : IsGreatest (startCodes buf) k) :
    rfindLastKeyframe buf = k :=
  rfindLastKeyframe_of_greatest (greatest_marker hk)

/-- The leading zero of the first start code decides the minimum. -/
theorem findKeyframe_of_first {buf : Bytes} {k : Nat} (hk : IsLeast (startCodes buf) k) :
    findKeyframe buf = codeStart buf k :=
  findAny_of_least (fun _ => Cpd7.marker_ne_nil) (least_marker hk)

private theorem found_iff (buf : Bytes) : 0 ≤ rfindLastKeyframe buf ↔ 0 ≤ findKeyframe buf := by
  rw [rfindLastKeyframe_eq, nonneg_rfindAny_iff _ _ fun _ => Cpd7.marker_ne_nil]
  exact (nonneg_findAny_iff Cpd7.keyframeMarkers buf fun _ => Cpd7.marker_ne_nil).symm

/-- The relay finds no pack header before the last keyframe. -/
def FallsBack (buf : Bytes) : Prop := rfind mpegPsPack (buf.take (rfindLastKeyframe buf).toNat) < 0

/-- Both scanners find a marker or neither does. With a single start code they find it at the same
offset, and where the relay falls back to it, it starts where a decoder of the same bytes does. -/
structure ScannersAgree (buf : Bytes) : Prop where
  found : 0 ≤ rfindLastKeyframe buf ↔ 0 ≤ findKeyframe buf
  offset : ∀ k, startCodes buf = {k} → rfindLastKeyframe buf = findKeyframe buf
  snapshot : ∀ k, startCodes buf = {k} → FallsBack buf →
    snapshotBufferForNewClient buf = (Cpd7.absorbPlain .fresh buf).out
  trim : ∀ k, startCodes buf = {k} → FallsBack buf → 1024 ≤ rfindLastKeyframe buf →
    trimBufferToLastKeyframe buf = (Cpd7.absorbPlain .fresh buf).out

variable {buf : Bytes} {k : Nat}

private theorem not_packsBefore_of_fallsBack (hk : IsGreatest (markerOffsets buf) k)
    (h : FallsBack buf) (i : Nat) : i ∉ packsBefore buf k := by
  rw [FallsBack, rfindLastKeyframe_of_greatest hk, Int.toNat_natCast] at h
  rcases Cpd7.rfind_pack_spec buf k with ⟨_, hnone⟩ | ⟨p, hp, _⟩
  · exact hnone i
  · have hp : rfind mpegPsPack (buf.take k) = p := hp
    omega

private theorem alignedStart_of_fallsBack (hk : IsGreatest (markerOffsets buf) k)
    (h : FallsBack buf) {s : Nat} (hs : AlignedStart buf s) : s = k :=
  hs.unique ⟨k, hk, .inr ⟨not_packsBefore_of_fallsBack hk h, rfl⟩⟩

private theorem snapshot_of_fallsBack (hk : IsGreatest (markerOffsets buf) k) (h : FallsBack buf) :
    snapshotBufferForNewClient buf = buf.drop k := by
  rcases snapshot_spec buf with ⟨hnone, _⟩ | ⟨s, hs, hsnapshot⟩
  · exact absurd hk.1 (hnone k)
  · rw [hsnapshot, alignedStart_of_fallsBack hk h hs]

private theorem trim_of_fallsBack (hk : IsGreatest (markerOffsets buf) k) (h : FallsBack buf)
    (hlate : 1024 ≤ k) : trimBufferToLastKeyframe buf = buf.drop k := by
  rcases trim_spec buf with ⟨_, hearly⟩ | ⟨s, hs, htrim⟩
  · have := hearly k hk.1
    omega
  · rw [htrim, alignedStart_of_fallsBack hk h hs]

private theorem absorbPlain_fresh_out (hk : IsLeast (markerOffsets buf) k)
    (hnone : ∀ i, i ∉ packsBefore buf k) : (Cpd7.absorbPlain .fresh buf).out = buf.drop k := by
  have hgate : Cpd7.GateOf ([] ++ buf) (Cpd7.absorbPlain .fresh buf) := by
    apply Cpd7.absorbPlain_gateOf
    exact .waiting 0 (.inl rfl) fun i hi => by simpa using Cpd7.marker_bound hi
  rw [List.nil_append] at hgate
  generalize Cpd7.absorbPlain .fresh buf = g at hgate
  cases hgate with
  | waiting c hc hno => exact absurd hk.1 (hno k)
  | started i s hi hs =>
    obtain rfl := hi.unique hk
    have hstart : Cpd7.EmissionStart buf i i := .inr ⟨rfl, fun p hp => absurd hp.1 (hnone p)⟩
    rw [hs.unique hstart]

/-- The scanners agree unless the only start code has four bytes. -/
theorem scanners_agree_iff (buf : Bytes) :
    ScannersAgree buf ↔ ∀ i, startCodes buf = {i + 1} → buf[i]? ≠ some 0x00 := by
  constructor
  · intro hagree i hsingle hzero
    have hoffset := hagree.offset (i + 1) hsingle
    have hlast : IsGreatest (startCodes buf) (i + 1) := hsingle ▸ isGreatest_singleton
    have hfirst : IsLeast (startCodes buf) (i + 1) := hsingle ▸ isLeast_singleton
    rw [rfindLastKeyframe_of_last hlast, findKeyframe_of_first hfirst, codeStart,
      if_pos hzero] at hoffset
    omega
  · intro hshort
    have hstart (k : Nat) (hsingle : startCodes buf = {k}) : codeStart buf k = k := by
      cases k with
      | zero => rfl
      | succ i => exact if_neg (hshort i hsingle)
    have hgreatest (k : Nat) (hsingle : startCodes buf = {k}) : IsGreatest (startCodes buf) k :=
      hsingle ▸ isGreatest_singleton
    have hleast (k : Nat) (hsingle : startCodes buf = {k}) : IsLeast (startCodes buf) k :=
      hsingle ▸ isLeast_singleton
    have hdecoder (k : Nat) (hsingle : startCodes buf = {k}) (hback : FallsBack buf) :
        (Cpd7.absorbPlain .fresh buf).out = buf.drop k := by
      have hfirst := least_marker (hleast k hsingle)
      rw [hstart k hsingle] at hfirst
      exact absorbPlain_fresh_out hfirst
        (not_packsBefore_of_fallsBack (greatest_marker (hgreatest k hsingle)) hback)
    refine ⟨found_iff buf, ?_, ?_, ?_⟩
    · intro k hsingle
      rw [rfindLastKeyframe_of_last (hgreatest k hsingle),
        findKeyframe_of_first (hleast k hsingle), hstart k hsingle]
    · intro k hsingle hback
      rw [hdecoder k hsingle hback]
      exact snapshot_of_fallsBack (greatest_marker (hgreatest k hsingle)) hback
    · intro k hsingle hback hlate
      rw [rfindLastKeyframe_of_last (hgreatest k hsingle)] at hlate
      rw [hdecoder k hsingle hback]
      exact trim_of_fallsBack (greatest_marker (hgreatest k hsingle)) hback (by omega)

/-- One VPS with a leading zero: the relay starts a byte later. -/
theorem not_scanners_agree : ¬ ∀ buf, ScannersAgree buf := by
  intro hagree
  have hsingle : startCodes hevcVps4B = {1} := by
    ext i
    constructor
    · rintro ⟨p, hp, hi⟩
      have hall : ∀ p ∈ shortMarkers, ∀ i < 6, p <+: hevcVps4B.drop i → i = 1 := by decide
      have hbound := offsets_bound
        ((by decide : ∀ p ∈ shortMarkers, p ≠ []) p hp) hi
      have hlen : hevcVps4B.length = 6 := rfl
      have hpos : 0 < p.length := (by decide : ∀ p ∈ shortMarkers, 0 < p.length) p hp
      exact hall p hp i (by omega) hi
    · rintro rfl
      exact ⟨hevcVps3B, by decide, (by decide : hevcVps3B <+: hevcVps4B.drop 1)⟩
  have hoffset := (hagree hevcVps4B).offset 1 hsingle
  revert hoffset
  decide

end EzvizHp7.Relay
