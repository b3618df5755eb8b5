import Mathlib.Tactic.Linarith
import EzvizHp7.Library.Occurrence

/-!
# The keyframe gate of the stream decoder

`StreamDecoder._absorb_plain` holds plaintext back until a keyframe marker shows up and then
emits from the pack header around it. The gate is shown to emit what one look at the whole
plaintext would emit, whatever the pieces it arrives in and whatever it has discarded meanwhile.
-/

namespace EzvizHp7.Cpd7

open Occurrence

abbrev Bytes := List UInt8

def mpegPsPack : Bytes := [0x00, 0x00, 0x01, 0xba]

def hevcVps4B : Bytes := [0x00, 0x00, 0x00, 0x01, 0x40, 0x01]
def hevcVps3B : Bytes := [0x00, 0x00, 0x01, 0x40, 0x01]
def h264Sps4B : Bytes := [0x00, 0x00, 0x00, 0x01, 0x67]
def h264Sps3B : Bytes := [0x00, 0x00, 0x01, 0x67]

def maxPackLookbackBeforeKf : Nat := 64 * 1024

def maxPreKeyframeBuf : Nat := 2 * 1024 * 1024

/-- `_mpeg_started`, `_pending` and `_out` of the stream decoder. -/
structure KeyframeGate where
  mpegStarted : Bool
  pending : Bytes
  out : Bytes
  deriving DecidableEq, Repr

def KeyframeGate.fresh : KeyframeGate := ⟨false, [], []⟩

def findKeyframe (buf : Bytes) : Int :=
  let candidates :=
    [find hevcVps4B buf, find hevcVps3B buf, find h264Sps4B buf, find h264Sps3B buf]
  let candidates := candidates.filter (0 ≤ ·)
  candidates.min?.getD (-1)

def absorbPlain (g : KeyframeGate) (plain : Bytes) : KeyframeGate :=
  if g.mpegStarted then { g with out := g.out ++ plain }
  else
    let pending := g.pending ++ plain
    let kfOff := findKeyframe pending
    if 0 ≤ kfOff then
      let packOff := rfind mpegPsPack (pending.take kfOff.toNat)
      let start :=
        if 0 ≤ packOff ∧ kfOff - packOff ≤ maxPackLookbackBeforeKf then packOff else kfOff
      { mpegStarted := true, pending := [], out := g.out ++ pending.drop start.toNat }
    else if maxPreKeyframeBuf < pending.length then
      let keep := maxPreKeyframeBuf / 2
      { g with pending := pending.drop (pending.length - keep) }
    else { g with pending := pending }

def KeyframeGate.take (g : KeyframeGate) : Bytes × KeyframeGate := (g.out, { g with out := [] })

def keyframeMarkers : List Bytes := [hevcVps4B, hevcVps3B, h264Sps4B, h264Sps3B]

/-- The offsets at which a keyframe marker starts. -/
abbrev markerOffsets (buf : Bytes) : Set Nat := anyOffsets keyframeMarkers buf

private theorem marker_length {p : Bytes} (hp : p ∈ keyframeMarkers) :
    4 ≤ p.length ∧ p.length ≤ 6 := by
  revert p
  decide

theorem marker_ne_nil {p : Bytes} (hp : p ∈ keyframeMarkers) : p ≠ [] := by
  have := (marker_length hp).1
  intro heq
  subst heq
  simp at this

private theorem pack_ne_nil : mpegPsPack ≠ [] := by decide

theorem findKeyframe_spec (buf : Bytes) :
    (findKeyframe buf = -1 ∧ ∀ i, i ∉ markerOffsets buf) ∨
      ∃ k : Nat, findKeyframe buf = k ∧ IsLeast (markerOffsets buf) k :=
  findAny_spec keyframeMarkers buf fun _ => marker_ne_nil

theorem marker_bound {buf : Bytes} {i : Nat} (hi : i ∈ markerOffsets buf) :
    i + 4 ≤ buf.length := by
  obtain ⟨p, hp, hi⟩ := hi
  have := offsets_bound (marker_ne_nil hp) hi
  have := (marker_length hp).1
  omega

theorem marker_append {buf : Bytes} (more : Bytes) {i : Nat} (hi : i ∈ markerOffsets buf) :
    i ∈ markerOffsets (buf ++ more) := by
  obtain ⟨p, hp, hi⟩ := hi
  exact ⟨p, hp, offsets_append more (marker_ne_nil hp) hi⟩

theorem mem_markerOffsets_drop (buf : Bytes) (n i : Nat) :
    i ∈ markerOffsets (buf.drop n) ↔ n + i ∈ markerOffsets buf := by
  refine exists_congr fun p => and_congr_right fun _ => ?_
  exact mem_offsets_drop p buf n i

private theorem marker_of_append {buf more : Bytes} {i : Nat}
    (hi : i ∈ markerOffsets (buf ++ more)) : i ∈ markerOffsets buf ∨ buf.length < i + 6 := by
  obtain ⟨p, hp, hi⟩ := hi
  have hlen := (marker_length hp).2
  by_cases hb : i + p.length ≤ buf.length
  · exact .inl ⟨p, hp, offsets_of_append hb hi⟩
  · exact .inr (by omega)

/-- No marker lies strictly inside another one without sharing its end. -/
private theorem marker_end_mono {p q buf : Bytes} {i j : Nat} (hp : p ∈ keyframeMarkers)
    (hq : q ∈ keyframeMarkers) (hi : i ∈ offsets p buf) (hj : j ∈ offsets q buf) (hij : i < j) :
    i + p.length ≤ j + q.length := by
  have hno : ∀ p ∈ keyframeMarkers, ∀ q ∈ keyframeMarkers, ∀ d < 6, 0 < d →
      d + q.length < p.length → ¬ Agree p q d := by decide
  by_contra hlt
  have hlen := (marker_length hp).2
  have hlen' := (marker_length hq).1
  exact hno p hp q hq (j - i) (by omega) (by omega) (by omega)
    (offsets_agree hij.le hi hj)

/-- The first marker stays the first one when the text grows: an earlier one would have ended
by now. -/
theorem firstMarker_append {buf : Bytes} (more : Bytes) {k : Nat}
    (hk : IsLeast (markerOffsets buf) k) : IsLeast (markerOffsets (buf ++ more)) k := by
  refine ⟨marker_append more hk.1, ?_⟩
  intro i hx
  obtain ⟨p, hp, hi⟩ := hx
  by_contra hlt
  obtain ⟨q, hq, hkq⟩ := hk.1
  have hend := marker_end_mono hp hq hi (offsets_append more (marker_ne_nil hq) hkq) (by omega)
  have hb := offsets_bound (marker_ne_nil hq) hkq
  have := hk.2 ⟨p, hp, offsets_of_append (by omega) hi⟩
  omega

def packsBefore (buf : Bytes) (k : Nat) : Set Nat :=
  {i | i ∈ offsets mpegPsPack buf ∧ i + 4 ≤ k}

theorem rfind_pack_spec (buf : Bytes) (k : Nat) :
    (rfind mpegPsPack (buf.take k) = -1 ∧ ∀ i, i ∉ packsBefore buf k) ∨
      ∃ p : Nat, rfind mpegPsPack (buf.take k) = p ∧ IsGreatest (packsBefore buf k) p := by
  have hmem (i : Nat) : i ∈ offsets mpegPsPack (buf.take k) ↔ i ∈ packsBefore buf k :=
    mem_offsets_take buf k i pack_ne_nil
  have hset : offsets mpegPsPack (buf.take k) = packsBefore buf k := Set.ext hmem
  rcases rfind_spec mpegPsPack (buf.take k) pack_ne_nil with ⟨hneg, hnone⟩ | ⟨p, hp, hgreatest⟩
  · exact .inl ⟨hneg, fun i hi => hnone i ((hmem i).mpr hi)⟩
  · exact .inr ⟨p, hp, hset ▸ hgreatest⟩

/-- The output for a first marker at `k` starts at `s`: the last pack header entirely before
`k` when it is at most the lookback away, and `k` itself otherwise. -/
def EmissionStart (text : Bytes) (k s : Nat) : Prop :=
  (IsGreatest (packsBefore text k) s ∧ k - s ≤ maxPackLookbackBeforeKf) ∨
    (s = k ∧ ∀ p, IsGreatest (packsBefore text k) p → maxPackLookbackBeforeKf < k - p)

theorem EmissionStart.le {text : Bytes} {k s : Nat} (h : EmissionStart text k s) : s ≤ k := by
  rcases h with ⟨⟨⟨_, hs⟩, _⟩, _⟩ | ⟨rfl, _⟩
  · omega
  · exact le_rfl

theorem EmissionStart.unique {text : Bytes} {k s s' : Nat} (h : EmissionStart text k s)
    (h' : EmissionStart text k s') : s = s' := by
  rcases h with ⟨hg, hle⟩ | ⟨rfl, hfar⟩ <;> rcases h' with ⟨hg', hle'⟩ | ⟨rfl, hfar'⟩
  · exact hg.unique hg'
  · exact absurd (hfar' s hg) (by omega)
  · exact absurd (hfar s' hg') (by omega)
  · rfl

theorem EmissionStart.append {text : Bytes} (more : Bytes) {k s : Nat} (hk : k ≤ text.length)
    (h : EmissionStart text k s) : EmissionStart (text ++ more) k s := by
  have hset : packsBefore (text ++ more) k = packsBefore text k := by
    ext p
    refine ⟨fun hp => ⟨offsets_of_append ?_ hp.1, hp.2⟩,
      fun hp => ⟨offsets_append more pack_ne_nil hp.1, hp.2⟩⟩
    have hlen : mpegPsPack.length = 4 := rfl
    have := hp.2
    omega
  rwa [EmissionStart, hset]

/-- Discarded text does not move the start either, when the marker is further away from the
discarded part than the lookback. -/
theorem EmissionStart.of_drop {text : Bytes} {c k s : Nat}
    (hfar : c = 0 ∨ maxPackLookbackBeforeKf < k) (h : EmissionStart (text.drop c) k s) :
    EmissionStart text (c + k) (c + s) := by
  have hmem (p : Nat) : p ∈ packsBefore (text.drop c) k ↔ c + p ∈ packsBefore text (c + k) := by
    apply and_congr (mem_offsets_drop mpegPsPack text c p)
    omega
  have hgreatest (p : Nat) : IsGreatest (packsBefore (text.drop c) k) p ↔
      IsGreatest (packsBefore text (c + k)) (c + p) := by
    refine ⟨fun hp => ⟨(hmem p).mp hp.1, fun q hq => ?_⟩,
      fun hp => ⟨(hmem p).mpr hp.1, fun q hq => ?_⟩⟩
    · by_cases hqc : q < c
      · omega
      · have := hp.2 ((hmem (q - c)).mpr (by rwa [show c + (q - c) = q by omega]))
        omega
    · have := hp.2 ((hmem q).mp hq)
      omega
  rcases h with ⟨hg, hle⟩ | ⟨rfl, hno⟩
  · exact .inl ⟨(hgreatest s).mp hg, by omega⟩
  · refine .inr ⟨rfl, fun p hp => ?_⟩
    by_cases hpc : p < c
    · omega
    · have hd := hno (p - c) ((hgreatest _).mpr (by rwa [show c + (p - c) = p by omega]))
      omega

private theorem emissionStart_computed (buf : Bytes) (k : Nat) :
    let packOff := rfind mpegPsPack (buf.take k)
    EmissionStart buf k (if 0 ≤ packOff ∧ (k : Int) - packOff ≤ maxPackLookbackBeforeKf
      then packOff else (k : Int)).toNat := by
  intro packOff
  rcases rfind_pack_spec buf k with ⟨hneg, hnone⟩ | ⟨p, hp, hgreatest⟩
  · have hcond : ¬ (0 ≤ packOff ∧ (k : Int) - packOff ≤ maxPackLookbackBeforeKf) := by
      change ¬ (0 ≤ rfind mpegPsPack (buf.take k) ∧ _)
      omega
    rw [if_neg hcond, Int.toNat_natCast]
    exact .inr ⟨rfl, fun p hp => absurd hp.1 (hnone p)⟩
  · have hval : packOff = (p : Int) := hp
    have hpk := hgreatest.1.2
    rw [hval]
    by_cases hle : k - p ≤ maxPackLookbackBeforeKf
    · rw [if_pos ⟨by omega, by omega⟩, Int.toNat_natCast]
      exact .inl ⟨hgreatest, hle⟩
    · rw [if_neg (by omega), Int.toNat_natCast]
      refine .inr ⟨rfl, fun q hq => ?_⟩
      rw [hq.unique hgreatest]
      omega

/-- The gate after the plaintext `text`: nothing emitted while no marker has shown up, with at
least half of the bound still held; from the first marker on, everything from the start. -/
inductive GateOf (text : Bytes) : KeyframeGate → Prop
  | waiting (c : Nat) (hc : c = 0 ∨ c + maxPreKeyframeBuf / 2 ≤ text.length)
      (hnone : ∀ i, i ∉ markerOffsets text) : GateOf text ⟨false, text.drop c, []⟩
  | started (k s : Nat) (hk : IsLeast (markerOffsets text) k) (hs : EmissionStart text k s) :
      GateOf text ⟨true, [], text.drop s⟩

private theorem absorbPlain_waiting {text more : Bytes} {c : Nat}
    (hc : c = 0 ∨ c + maxPreKeyframeBuf / 2 ≤ text.length)
    (hnone : ∀ i, i ∉ markerOffsets text) :
    GateOf (text ++ more) (absorbPlain ⟨false, text.drop c, []⟩ more) := by
  have hbuf : text.drop c ++ more = (text ++ more).drop c := by
    rw [List.drop_append_of_le_length (by omega)]
  have hmem (i : Nat) : i ∈ markerOffsets ((text ++ more).drop c) ↔
      c + i ∈ markerOffsets (text ++ more) := mem_markerOffsets_drop _ c i
  -- a marker completed by the new piece starts within its own length of the old end
  have hnew (i : Nat) (hi : i ∈ markerOffsets (text ++ more)) : text.length < i + 6 :=
    (marker_of_append hi).resolve_left (hnone i)
  have hback (i : Nat) (hi : i ∈ markerOffsets (text ++ more)) : c ≤ i := by
    have := hnew i hi
    simp only [maxPreKeyframeBuf] at hc
    omega
  simp only [absorbPlain, hbuf, Bool.false_eq_true, if_false, List.nil_append]
  rcases findKeyframe_spec ((text ++ more).drop c) with ⟨hneg, hno⟩ | ⟨k, hk, hleast⟩
  · have hno' : ∀ i, i ∉ markerOffsets (text ++ more) := by
      intro i hi
      refine hno (i - c) ((hmem _).mpr ?_)
      rwa [show c + (i - c) = i by have := hback i hi; omega]
    rw [hneg, if_neg (by omega)]
    split
    · rename_i hlong
      rw [List.drop_drop]
      refine .waiting _ (.inr ?_) hno'
      simp only [List.length_drop, List.length_append, maxPreKeyframeBuf] at hlong ⊢
      omega
    · refine .waiting c ?_ hno'
      rw [List.length_append]
      omega
  · have hfirst : IsLeast (markerOffsets (text ++ more)) (c + k) := by
      refine ⟨(hmem k).mp hleast.1, fun i hi => ?_⟩
      have hci := hback i hi
      have := hleast.2 ((hmem (i - c)).mpr (by rwa [show c + (i - c) = i by omega]))
      omega
    have hfar : c = 0 ∨ maxPackLookbackBeforeKf < k := by
      have := hnew _ hfirst.1
      simp only [maxPreKeyframeBuf, maxPackLookbackBeforeKf] at hc ⊢
      omega
    rw [hk, if_pos (by omega), Int.toNat_natCast, List.drop_drop]
    exact .started _ _ hfirst ((emissionStart_computed _ k).of_drop hfar)

theorem absorbPlain_gateOf {text : Bytes} {g : KeyframeGate} (more : Bytes)
    (h : GateOf text g) : GateOf (text ++ more) (absorbPlain g more) := by
  cases h with
  | waiting c hc hnone => exact absorbPlain_waiting hc hnone
  | started k s hk hs =>
    have hlen := marker_bound hk.1
    have hsk := hs.le
    simp only [absorbPlain, if_true]
    rw [← List.drop_append_of_le_length (by omega)]
    exact .started k s (firstMarker_append more hk) (hs.append more (by omega))

theorem foldl_absorbPlain_started (pending out : Bytes) (pieces : List Bytes) :
    pieces.foldl absorbPlain ⟨true, pending, out⟩ = ⟨true, pending, out ++ pieces.flatten⟩ := by
  induction pieces generalizing out with
  | nil => simp
  | cons plain pieces ih =>
    rw [List.foldl_cons, List.flatten_cons, ← List.append_assoc]
    exact ih (out ++ plain)

theorem gateOf_pieces (pieces : List Bytes) :
    GateOf pieces.flatten (pieces.foldl absorbPlain .fresh) := by
  induction pieces using List.reverseRecOn with
  | nil =>
    refine .waiting 0 (.inl rfl) fun i hi => ?_
    have := marker_bound hi
    simp at this
  | append_singleton pieces more ih =>
    rw [List.flatten_append, List.flatten_singleton, List.foldl_append]
    exact absorbPlain_gateOf more ih

/-- Whatever the pieces, a stream without a marker emits nothing, and a stream whose first
marker is at `k` emits itself from the start that belongs to `k`. The output is the same for
every cutting of the stream. -/
theorem absorbPlain_wholeStream (pieces : List Bytes) :
    let text := pieces.flatten
    let emitted := (pieces.foldl absorbPlain .fresh).out
    ((∀ i, i ∉ markerOffsets text) → emitted = []) ∧
      (∀ k, IsLeast (markerOffsets text) k →
        ∃ s, EmissionStart text k s ∧ emitted = text.drop s) ∧
      ∀ pieces' : List Bytes, pieces'.flatten = text →
        (pieces'.foldl absorbPlain .fresh).out = emitted := by
  intro text emitted
  have hof := gateOf_pieces pieces
  have hnone (h : ∀ i, i ∉ markerOffsets text) {g : KeyframeGate} (hg : GateOf text g) :
      g.out = [] := by
    cases hg with
    | waiting => rfl
    | started k s hk => exact absurd hk.1 (h k)
  have hstart (k : Nat) (hk : IsLeast (markerOffsets text) k) {g : KeyframeGate}
      (hg : GateOf text g) : ∃ s, EmissionStart text k s ∧ g.out = text.drop s := by
    cases hg with
    | waiting c hc hno => exact absurd hk.1 (hno k)
    | started k' s hk' hs => exact ⟨s, hk'.unique hk ▸ hs, rfl⟩
  refine ⟨fun h => hnone h hof, fun k hk => hstart k hk hof, fun pieces' heq => ?_⟩
  have hof' : GateOf text (pieces'.foldl absorbPlain .fresh) := heq ▸ gateOf_pieces pieces'
  by_cases h : ∃ i, i ∈ markerOffsets text
  · have hleast : ∃ k, IsLeast (markerOffsets text) k := by
      classical
      exact ⟨Nat.find h, Nat.find_spec h, fun i hi => Nat.find_min' h hi⟩
    obtain ⟨k, hk⟩ := hleast
    obtain ⟨s, hs, he⟩ := hstart k hk hof
    obtain ⟨s', hs', he'⟩ := hstart k hk hof'
    rw [he', hs'.unique hs]
    exact he.symm
  · have hno : ∀ i, i ∉ markerOffsets text := fun i hi => h ⟨i, hi⟩
    rw [hnone hno hof']
    exact (hnone hno hof).symm

end EzvizHp7.Cpd7
