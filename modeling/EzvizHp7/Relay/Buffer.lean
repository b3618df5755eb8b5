import EzvizHp7.Cpd7.KeyframeGate

/-!
# The relay's ring buffer

The pump appends decoded chunks and cuts the buffer back to its last keyframe when it grows past
a target; a new viewer gets the slice from the last keyframe on. Cutting is only ever done where
the last keyframe of any continuation still finds its start.
-/

namespace EzvizHp7.Relay

open Occurrence
open Cpd7 (Bytes markerOffsets packsBefore)

def bufferTrimTarget : Nat := 4 * 1024 * 1024

def hevcVps4B : Bytes := [0x00, 0x00, 0x00, 0x01, 0x40, 0x01]
def hevcVps3B : Bytes := [0x00, 0x00, 0x01, 0x40, 0x01]
def h264Sps4B : Bytes := [0x00, 0x00, 0x00, 0x01, 0x67]
def h264Sps3B : Bytes := [0x00, 0x00, 0x01, 0x67]
def mpegPsPack : Bytes := [0x00, 0x00, 0x01, 0xba]

def keyframeMinTailBytes : Nat := 64 * 1024

def rfindLastKeyframe (buf : Bytes) : Int :=
  max (max (max (rfind hevcVps4B buf) (rfind hevcVps3B buf)) (rfind h264Sps4B buf))
    (rfind h264Sps3B buf)

def snapshotBufferForNewClient (buffer : Bytes) : Bytes :=
  if buffer = [] then []
  else
    let lastKf := rfindLastKeyframe buffer
    if lastKf < 0 then buffer
    else
      let pack := rfind mpegPsPack (buffer.take lastKf.toNat)
      let start := if 0 ≤ pack then pack else lastKf
      buffer.drop start.toNat

def trimBufferToLastKeyframe (buffer : Bytes) : Bytes :=
  let lastKf := rfindLastKeyframe buffer
  if lastKf < 1024 then buffer
  else
    let pack := rfind mpegPsPack (buffer.take lastKf.toNat)
    let start := if 0 ≤ pack then pack else lastKf
    if 0 < start then buffer.drop start.toNat else buffer

/-- The pump's append, trimming past `target`. -/
def extendBuffer (target : Nat) (buffer plain : Bytes) : Bytes :=
  let buffer := buffer ++ plain
  if target < buffer.length then trimBufferToLastKeyframe buffer else buffer

theorem rfindLastKeyframe_eq (buf : Bytes) :
    rfindLastKeyframe buf = rfindAny Cpd7.keyframeMarkers buf := by
  have hneg : -1 ≤ rfind hevcVps4B buf := by
    rcases rfind_spec hevcVps4B buf (by decide) with ⟨h, _⟩ | ⟨k, h, _⟩ <;> omega
  change _ = max (max (max (max (-1) (rfind hevcVps4B buf)) (rfind hevcVps3B buf))
    (rfind h264Sps4B buf)) (rfind h264Sps3B buf)
  rw [max_eq_right hneg, rfindLastKeyframe]

theorem rfindLastKeyframe_spec (buf : Bytes) :
    (rfindLastKeyframe buf = -1 ∧ ∀ i, i ∉ markerOffsets buf) ∨
      ∃ k : Nat, rfindLastKeyframe buf = k ∧ IsGreatest (markerOffsets buf) k := by
  rw [rfindLastKeyframe_eq]
  exact rfindAny_spec Cpd7.keyframeMarkers buf fun _ => Cpd7.marker_ne_nil

/-- Where a viewer's slice starts: the last pack header entirely before the last marker, and the
marker itself when there is none. -/
def AlignedStart (buf : Bytes) (s : Nat) : Prop :=
  ∃ k, IsGreatest (markerOffsets buf) k ∧
    (IsGreatest (packsBefore buf k) s ∨ (∀ i, i ∉ packsBefore buf k) ∧ s = k)

theorem AlignedStart.le {buf : Bytes} {s : Nat} (h : AlignedStart buf s) :
    ∃ k, IsGreatest (markerOffsets buf) k ∧ s ≤ k := by
  obtain ⟨k, hk, hs | ⟨_, rfl⟩⟩ := h
  · exact ⟨k, hk, (Nat.le_add_right s 4).trans hs.1.2⟩
  · exact ⟨s, hk, le_rfl⟩

theorem AlignedStart.drop_ne_nil {buf : Bytes} {s : Nat} (h : AlignedStart buf s) :
    buf.drop s ≠ [] := by
  obtain ⟨k, hk, hsk⟩ := h.le
  have := Cpd7.marker_bound hk.1
  rw [Ne, List.drop_eq_nil_iff]
  omega

theorem AlignedStart.unique {buf : Bytes} {s s' : Nat} (h : AlignedStart buf s)
    (h' : AlignedStart buf s') : s = s' := by
  obtain ⟨k, hk, hs⟩ := h
  obtain ⟨k', hk', hs'⟩ := h'
  obtain rfl := hk.unique hk'
  rcases hs with hs | ⟨hnone, rfl⟩ <;> rcases hs' with hs' | ⟨hnone', rfl⟩
  · exact hs.unique hs'
  · exact absurd hs.1 (hnone' _)
  · exact absurd hs'.1 (hnone _)
  · rfl

private theorem start_spec {buf : Bytes} {k : Nat} (hk : IsGreatest (markerOffsets buf) k) :
    ∃ s : Nat, AlignedStart buf s ∧
      (if 0 ≤ rfind mpegPsPack (buf.take k) then rfind mpegPsPack (buf.take k)
        else (k : Int)) = s := by
  rcases Cpd7.rfind_pack_spec buf k with ⟨hneg, hnone⟩ | ⟨p, hp, hgreatest⟩
  · refine ⟨k, ⟨k, hk, .inr ⟨hnone, rfl⟩⟩, if_neg ?_⟩
    change ¬ 0 ≤ rfind Cpd7.mpegPsPack (buf.take k)
    omega
  · refine ⟨p, ⟨k, hk, .inl hgreatest⟩, ?_⟩
    change (if 0 ≤ rfind Cpd7.mpegPsPack (buf.take k) then _ else _) = _
    rw [hp, if_pos (by omega)]
    exact hp

theorem snapshot_spec (buffer : Bytes) :
    ((∀ i, i ∉ markerOffsets buffer) ∧ snapshotBufferForNewClient buffer = buffer) ∨
      ∃ s, AlignedStart buffer s ∧ snapshotBufferForNewClient buffer = buffer.drop s := by
  rcases rfindLastKeyframe_spec buffer with ⟨hneg, hnone⟩ | ⟨k, hk, hgreatest⟩
  · refine .inl ⟨hnone, ?_⟩
    simp only [snapshotBufferForNewClient, hneg]
    split
    · next h => exact h.symm
    · rfl
  · obtain ⟨s, hs, hstart⟩ := start_spec hgreatest
    refine .inr ⟨s, hs, ?_⟩
    have hne : buffer ≠ [] := by
      intro heq
      subst heq
      have := Cpd7.marker_bound hgreatest.1
      simp at this
    simp only [snapshotBufferForNewClient, if_neg hne, hk, Int.toNat_natCast, hstart]
    rw [if_neg (by omega)]

theorem snapshot_suffix (buffer : Bytes) : snapshotBufferForNewClient buffer <:+ buffer := by
  rcases snapshot_spec buffer with ⟨_, h⟩ | ⟨s, _, h⟩
  · rw [h]
  · rw [h]
    exact List.drop_suffix s buffer

theorem snapshot_ne_nil {buffer : Bytes} (h : buffer ≠ []) :
    snapshotBufferForNewClient buffer ≠ [] := by
  rcases snapshot_spec buffer with ⟨_, heq⟩ | ⟨s, hs, heq⟩
  · rwa [heq]
  · rw [heq]
    exact hs.drop_ne_nil

/-- Trimming leaves a buffer alone whose last marker is within its first bytes, and cuts any
other at its aligned start. -/
theorem trim_spec (buffer : Bytes) :
    (trimBufferToLastKeyframe buffer = buffer ∧ ∀ i ∈ markerOffsets buffer, i < 1024) ∨
      ∃ s, AlignedStart buffer s ∧ trimBufferToLastKeyframe buffer = buffer.drop s := by
  rcases rfindLastKeyframe_spec buffer with ⟨hneg, hnone⟩ | ⟨k, hk, hgreatest⟩
  · exact .inl ⟨by simp only [trimBufferToLastKeyframe, hneg]; rfl, fun i hi => absurd hi (hnone i)⟩
  · obtain ⟨s, hs, hstart⟩ := start_spec hgreatest
    simp only [trimBufferToLastKeyframe, hk, Int.toNat_natCast, hstart]
    split
    · refine .inl ⟨rfl, fun i hi => ?_⟩
      have := hgreatest.2 hi
      omega
    · refine .inr ⟨s, hs, ?_⟩
      split
      · rfl
      · rw [show s = 0 by omega, List.drop_zero]

/-- An offset where the text may be cut: its start, a pack header with a marker behind it, or a
marker with no pack header before it. -/
inductive SafeCut (text : Bytes) : Nat → Prop
  | start : SafeCut text 0
  | pack {c k : Nat} (hc : c ∈ offsets mpegPsPack text) (hk : k ∈ markerOffsets text)
      (hck : c + 4 ≤ k) : SafeCut text c
  | marker {c : Nat} (hc : c ∈ markerOffsets text) (hnone : ∀ i, i ∉ packsBefore text c) :
      SafeCut text c

theorem SafeCut.bound {text : Bytes} {c : Nat} (h : SafeCut text c) : c ≤ text.length := by
  cases h with
  | start => exact Nat.zero_le _
  | pack hc =>
    have := offsets_bound (by decide) hc
    omega
  | marker hc =>
    have := Cpd7.marker_bound hc
    omega

theorem SafeCut.append {text : Bytes} {c : Nat} (h : SafeCut text c) (more : Bytes) :
    SafeCut (text ++ more) c := by
  have hb := h.bound
  cases h with
  | start => exact .start
  | pack hc hk hck =>
    exact .pack (offsets_append more (by decide) hc) (Cpd7.marker_append more hk) hck
  | marker hc hnone =>
    refine .marker (Cpd7.marker_append more hc) fun i hi => hnone i ⟨?_, hi.2⟩
    exact offsets_of_append (hi.2.trans hb) hi.1

/-- No pack header runs into a marker. -/
private theorem pack_marker {text : Bytes} {p k : Nat} (hp : p ∈ offsets mpegPsPack text)
    (hk : k ∈ markerOffsets text) (hpk : p < k) : p + 4 ≤ k := by
  have hno : ∀ q ∈ Cpd7.keyframeMarkers, ∀ d < 4, 0 < d → ¬ Agree mpegPsPack q d := by decide
  obtain ⟨q, hq, hk⟩ := hk
  by_contra hlt
  exact hno q hq (k - p) (by omega) (by omega) (offsets_agree hpk.le hp hk)

private theorem le_of_pack {text : Bytes} {c p : Nat} (hc : c ∈ markerOffsets text)
    (hnone : ∀ i, i ∉ packsBefore text c) (hp : p ∈ offsets mpegPsPack text) : c ≤ p := by
  by_contra hlt
  exact hnone p ⟨hp, pack_marker hp hc (by omega)⟩

private theorem mem_packsBefore_drop (text : Bytes) (c k i : Nat) :
    i ∈ packsBefore (text.drop c) k ↔ c + i ∈ packsBefore text (c + k) := by
  apply and_congr (mem_offsets_drop mpegPsPack text c i)
  omega

private theorem isGreatest_drop {A B : Set Nat} {c m : Nat} (h : ∀ i, i ∈ B ↔ c + i ∈ A)
    (hm : IsGreatest A m) (hcm : c ≤ m) : IsGreatest B (m - c) := by
  refine ⟨(h _).mpr (by rw [Nat.add_sub_cancel' hcm]; exact hm.1), fun i hi => ?_⟩
  have := hm.2 ((h i).mp hi)
  omega

theorem SafeCut.alignedStart {text : Bytes} {c s : Nat} (h : SafeCut text c)
    (hs : AlignedStart text s) : c ≤ s ∧ AlignedStart (text.drop c) (s - c) := by
  obtain ⟨k, hk, hs⟩ := hs
  have hck : c ≤ k := by
    cases h with
    | start => exact Nat.zero_le _
    | pack hc hk' hck =>
      have := hk.2 hk'
      omega
    | marker hc => exact hk.2 hc
  have hk' := isGreatest_drop (Cpd7.mem_markerOffsets_drop text c) hk hck
  have hpacks (i : Nat) : i ∈ packsBefore (text.drop c) (k - c) ↔ c + i ∈ packsBefore text k := by
    rw [mem_packsBefore_drop, Nat.add_sub_cancel' hck]
  rcases hs with hs | ⟨hnone, rfl⟩
  · have hcs : c ≤ s := by
      cases h with
      | start => exact Nat.zero_le _
      | pack hc hk' hck =>
        have := hk.2 hk'
        exact hs.2 ⟨hc, by omega⟩
      | marker hc hnone => exact le_of_pack hc hnone hs.1.1
    exact ⟨hcs, k - c, hk', .inl (isGreatest_drop hpacks hs hcs)⟩
  · exact ⟨hck, s - c, hk', .inr ⟨fun i hi => hnone _ ((hpacks i).mp hi), rfl⟩⟩

theorem SafeCut.snapshot {text : Bytes} {c : Nat} (h : SafeCut text c) :
    snapshotBufferForNewClient (text.drop c) = snapshotBufferForNewClient text := by
  rcases snapshot_spec text with ⟨hnone, _⟩ | ⟨s, hs, htext⟩
  · cases h with
    | start => rw [List.drop_zero]
    | pack _ hk => exact absurd hk (hnone _)
    | marker hc => exact absurd hc (hnone _)
  · obtain ⟨hcs, hs'⟩ := h.alignedStart hs
    rcases snapshot_spec (text.drop c) with ⟨hnone, _⟩ | ⟨s', hs'', hdrop⟩
    · obtain ⟨k, hk, _⟩ := hs'
      exact absurd hk.1 (hnone k)
    · rw [htext, hdrop, hs''.unique hs', List.drop_drop, Nat.add_sub_cancel' hcs]

/-- Cutting at the aligned start of what is left is safe for the whole text. -/
theorem SafeCut.trim {text : Bytes} {c s : Nat} (h : SafeCut text c)
    (hs : AlignedStart (text.drop c) s) : SafeCut text (c + s) := by
  obtain ⟨k, hk, hs⟩ := hs
  have hmarker := (Cpd7.mem_markerOffsets_drop text c k).mp hk.1
  rcases hs with hs | ⟨hnone, rfl⟩
  · have hpack := (mem_packsBefore_drop text c k s).mp hs.1
    exact .pack hpack.1 hmarker hpack.2
  · refine .marker hmarker fun p hp => ?_
    have hcp : c ≤ p := by
      cases h with
      | start => exact Nat.zero_le _
      | @pack _ k' hc hk' hck =>
        exfalso
        have hle := hk.2 ((Cpd7.mem_markerOffsets_drop text c (k' - c)).mpr
          (by rwa [Nat.add_sub_cancel' (by omega)]))
        exact hnone 0 ((mem_packsBefore_drop text c s 0).mpr ⟨hc, by omega⟩)
      | marker hc hnone => exact le_of_pack hc hnone hp.1
    refine hnone (p - c) ((mem_packsBefore_drop text c s (p - c)).mpr ?_)
    rwa [Nat.add_sub_cancel' hcp]

/-- The buffer holds the text from a safe cut on. -/
def BufferOf (text buffer : Bytes) : Prop := ∃ c, SafeCut text c ∧ buffer = text.drop c

theorem BufferOf.append {text buffer : Bytes} (h : BufferOf text buffer) (plain : Bytes) :
    BufferOf (text ++ plain) (buffer ++ plain) := by
  obtain ⟨c, hc, rfl⟩ := h
  exact ⟨c, hc.append plain, by rw [List.drop_append_of_le_length hc.bound]⟩

theorem BufferOf.trim {text buffer : Bytes} (h : BufferOf text buffer) :
    BufferOf text (trimBufferToLastKeyframe buffer) := by
  obtain ⟨c, hc, rfl⟩ := h
  rcases trim_spec (text.drop c) with ⟨h, _⟩ | ⟨s, hs, h⟩
  · exact ⟨c, hc, h⟩
  · exact ⟨c + s, hc.trim hs, by rw [h, List.drop_drop]⟩

theorem BufferOf.extend {text buffer : Bytes} (h : BufferOf text buffer) (target : Nat)
    (plain : Bytes) : BufferOf (text ++ plain) (extendBuffer target buffer plain) := by
  have happend := h.append plain
  simp only [extendBuffer]
  split
  · exact happend.trim
  · exact happend

theorem BufferOf.snapshot {text buffer : Bytes} (h : BufferOf text buffer) :
    snapshotBufferForNewClient buffer = snapshotBufferForNewClient text := by
  obtain ⟨c, hc, rfl⟩ := h
  exact hc.snapshot

theorem BufferOf.suffix {text buffer : Bytes} (h : BufferOf text buffer) : buffer <:+ text := by
  obtain ⟨c, _, rfl⟩ := h
  exact List.drop_suffix c text

private theorem bufferOf_foldl (target : Nat) (chunks : List Bytes) {text buffer : Bytes}
    (h : BufferOf text buffer) :
    BufferOf (text ++ chunks.flatten) (chunks.foldl (extendBuffer target) buffer) := by
  induction chunks generalizing text buffer with
  | nil => simpa using h
  | cons plain chunks ih =>
    rw [List.flatten_cons, ← List.append_assoc, List.foldl_cons]
    exact ih (h.extend target plain)

/-- Trimming is invisible: whatever the target and the chunks, a viewer gets the slice it would
get from the whole concatenation, of which the buffer is a suffix. -/
theorem extendBuffer_invisible (target : Nat) (chunks : List Bytes) :
    snapshotBufferForNewClient (chunks.foldl (extendBuffer target) []) =
        snapshotBufferForNewClient chunks.flatten ∧
      chunks.foldl (extendBuffer target) [] <:+ chunks.flatten := by
  have h : BufferOf ([] ++ chunks.flatten) (chunks.foldl (extendBuffer target) []) :=
    bufferOf_foldl target chunks ⟨0, .start, rfl⟩
  rw [List.nil_append] at h
  exact ⟨h.snapshot, h.suffix⟩

/-- What the pump wants to see before it lets a waiting viewer go. -/
def KeyframeComplete (buffer : Bytes) : Prop :=
  0 ≤ rfindLastKeyframe buffer ∧
    keyframeMinTailBytes ≤ buffer.length - rfindLastKeyframe buffer

instance (buffer : Bytes) : Decidable (KeyframeComplete buffer) :=
  inferInstanceAs (Decidable (_ ∧ _))

theorem keyframeComplete_iff (buffer : Bytes) :
    KeyframeComplete buffer ↔
      ∃ k, IsGreatest (markerOffsets buffer) k ∧ k + keyframeMinTailBytes ≤ buffer.length := by
  unfold KeyframeComplete
  rcases rfindLastKeyframe_spec buffer with ⟨hneg, hnone⟩ | ⟨k, hk, hgreatest⟩
  · rw [hneg]
    constructor
    · intro h
      omega
    · rintro ⟨k, hk, _⟩
      exact absurd hk.1 (hnone k)
  · rw [hk]
    constructor
    · intro h
      exact ⟨k, hgreatest, by omega⟩
    · rintro ⟨k', hk', hlength⟩
      obtain rfl := hk'.unique hgreatest
      omega

private theorem KeyframeComplete.drop {buffer : Bytes} {s : Nat} (h : KeyframeComplete buffer)
    (hs : AlignedStart buffer s) : KeyframeComplete (buffer.drop s) := by
  obtain ⟨k, hk, hlength⟩ := (keyframeComplete_iff buffer).mp h
  obtain ⟨k', hk', hsk⟩ := hs.le
  obtain rfl := hk.unique hk'
  refine (keyframeComplete_iff _).mpr ⟨k - s, ?_, ?_⟩
  · exact isGreatest_drop (Cpd7.mem_markerOffsets_drop buffer s) hk hsk
  · rw [List.length_drop]
    omega

theorem KeyframeComplete.snapshot {buffer : Bytes} (h : KeyframeComplete buffer) :
    KeyframeComplete (snapshotBufferForNewClient buffer) := by
  rcases snapshot_spec buffer with ⟨_, heq⟩ | ⟨s, hs, heq⟩
  · rwa [heq]
  · rw [heq]
    exact h.drop hs

theorem KeyframeComplete.extend {buffer plain : Bytes} (h : KeyframeComplete (buffer ++ plain))
    (target : Nat) : KeyframeComplete (extendBuffer target buffer plain) := by
  simp only [extendBuffer]
  split
  · rcases trim_spec (buffer ++ plain) with ⟨heq, _⟩ | ⟨s, hs, heq⟩
    · rwa [heq]
    · rw [heq]
      exact h.drop hs
  · exact h

theorem extendBuffer_ne_nil (target : Nat) {buffer plain : Bytes} (hplain : plain ≠ []) :
    extendBuffer target buffer plain ≠ [] := by
  have happend : buffer ++ plain ≠ [] := fun hnil => hplain (List.append_eq_nil_iff.mp hnil).2
  simp only [extendBuffer]
  split
  · rcases trim_spec (buffer ++ plain) with ⟨heq, _⟩ | ⟨s, hs, heq⟩
    · rwa [heq]
    · rw [heq]
      exact hs.drop_ne_nil
  · exact happend

theorem KeyframeComplete.ne_nil {buffer : Bytes} (h : KeyframeComplete buffer) : buffer ≠ [] := by
  obtain ⟨k, _, hlength⟩ := (keyframeComplete_iff buffer).mp h
  intro hnil
  rw [hnil] at hlength
  simp [keyframeMinTailBytes] at hlength

private theorem trim_length (buffer : Bytes) :
    (trimBufferToLastKeyframe buffer).length <
      (snapshotBufferForNewClient buffer).length + 1024 := by
  rcases trim_spec buffer with ⟨htrim, hearly⟩ | ⟨s, hs, htrim⟩
  · rw [htrim]
    rcases snapshot_spec buffer with ⟨_, hsnap⟩ | ⟨s, hs, hsnap⟩
    · rw [hsnap]
      omega
    · obtain ⟨k, hk, hsk⟩ := hs.le
      have hkearly := hearly k hk.1
      rw [hsnap, List.length_drop]
      omega
  · rcases snapshot_spec buffer with ⟨hnone, _⟩ | ⟨s', hs', hsnap⟩
    · obtain ⟨k, hk, _⟩ := hs
      exact absurd hk.1 (hnone k)
    · rw [htrim, hsnap, hs.unique hs']
      omega

/-- Past the target the buffer is kept only from the last keyframe on, and up to 1023 bytes in
front of it: it holds the slice a viewer gets from the whole session, and either stays within the
target or has fewer than 1024 bytes in front of that slice. -/
theorem extendBuffer_bounded (target : Nat) (chunks : List Bytes) :
    let buffer := chunks.foldl (extendBuffer target) []
    let burst := snapshotBufferForNewClient chunks.flatten
    burst <:+ buffer ∧ (buffer.length ≤ target ∨ buffer.length < burst.length + 1024) := by
  intro buffer burst
  have hburst : snapshotBufferForNewClient buffer = burst :=
    (extendBuffer_invisible target chunks).1
  refine ⟨hburst ▸ snapshot_suffix buffer, ?_⟩
  rcases List.eq_nil_or_concat chunks with hnil | ⟨front, plain, hchunks⟩
  · refine .inl ?_
    have hbuffer : buffer = [] := by simp only [buffer, hnil, List.foldl_nil]
    rw [hbuffer]
    exact Nat.zero_le target
  · have hbuffer : buffer = extendBuffer target (front.foldl (extendBuffer target) []) plain := by
      simp only [buffer, hchunks, List.concat_eq_append, List.foldl_append, List.foldl_cons,
        List.foldl_nil]
    have hof : BufferOf ([] ++ front.flatten) (front.foldl (extendBuffer target) []) :=
      bufferOf_foldl target front ⟨0, .start, rfl⟩
    rw [List.nil_append] at hof
    have htext : chunks.flatten = front.flatten ++ plain := by simp [hchunks]
    have hsnapshot := (hof.append plain).snapshot
    rw [← htext] at hsnapshot
    simp only [hbuffer, extendBuffer]
    split
    · refine .inr ?_
      rw [← show _ = burst from hsnapshot]
      exact trim_length _
    · rename_i hshort
      exact .inl (Nat.not_lt.mp hshort)

private theorem trim_early {buffer : Bytes} (h : ∀ i ∈ markerOffsets buffer, i < 1024) :
    trimBufferToLastKeyframe buffer = buffer := by
  have hearly : rfindLastKeyframe buffer < 1024 := by
    rcases rfindLastKeyframe_spec buffer with ⟨hneg, _⟩ | ⟨k, hk, hgreatest⟩
    · omega
    · have := h k hgreatest.1
      omega
  simp only [trimBufferToLastKeyframe, if_pos hearly]

private theorem extendBuffer_untrimmed (target : Nat) (chunks : List Bytes)
    (h : ∀ i ∈ markerOffsets chunks.flatten, i < 1024) :
    chunks.foldl (extendBuffer target) [] = chunks.flatten := by
  induction chunks using List.reverseRecOn with
  | nil => rfl
  | append_singleton chunks plain ih =>
    have htext : (chunks ++ [plain]).flatten = chunks.flatten ++ plain := by simp
    rw [htext] at h ⊢
    rw [List.foldl_append, ih fun i hi => h i (Cpd7.marker_append plain hi), List.foldl_cons,
      List.foldl_nil, extendBuffer, trim_early h]
    exact ite_self _

theorem markerOffsets_slices (head : Bytes) (n : Nat) :
    ∀ i ∈ markerOffsets (head ++ List.replicate n 0xff), i < head.length := by
  intro i hx
  obtain ⟨p, hp, hi⟩ := hx
  by_contra hlate
  have hff : p <+: List.replicate (n - (i - head.length)) 0xff := by
    have hdrop : (head ++ List.replicate n (0xff : UInt8)).drop i =
        List.replicate (n - (i - head.length)) 0xff := by
      rw [List.drop_append, List.drop_eq_nil_of_le (Nat.not_lt.mp hlate), List.nil_append,
        List.drop_replicate]
    rwa [← hdrop]
  have hzero : (0x00 : UInt8) ∈ p :=
    (by decide : ∀ q ∈ Cpd7.keyframeMarkers, (0x00 : UInt8) ∈ q) p hp
  have := List.eq_of_mem_replicate (hff.subset hzero)
  exact absurd this (by decide)

/-- 67 chunks of slice data after one keyframe. -/
theorem not_extendBuffer_bounded :
    ¬ ∀ (chunks : List Bytes) (last : Bytes),
      ((chunks ++ [last]).foldl (extendBuffer bufferTrimTarget) []).length ≤
        bufferTrimTarget + last.length := by
  intro hbounded
  have hle := hbounded (h264Sps3B :: List.replicate 66 (List.replicate 65000 0xff))
    (List.replicate 65000 0xff)
  have hflatten : (h264Sps3B :: List.replicate 66 (List.replicate 65000 (0xff : UInt8)) ++
      [List.replicate 65000 0xff]).flatten = h264Sps3B ++ List.replicate (67 * 65000) 0xff := by
    rw [List.cons_append, List.flatten_cons, ← List.replicate_succ',
      List.flatten_replicate_replicate]
  have hearly : ∀ i ∈ markerOffsets (h264Sps3B ++ List.replicate (67 * 65000) 0xff), i < 1024 := by
    intro i hi
    exact (markerOffsets_slices h264Sps3B _ i hi).trans (by decide)
  rw [extendBuffer_untrimmed bufferTrimTarget _ (by rwa [hflatten]),
    hflatten, List.length_append, List.length_replicate, List.length_replicate] at hle
  change 4 + 67 * 65000 ≤ 4 * 1024 * 1024 + 65000 at hle
  omega

end EzvizHp7.Relay
