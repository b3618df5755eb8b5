import EzvizHp7.Library.Base64
import EzvizHp7.Library.Json

/-!
# The sign of a session token

`_extract_sign_from_jwt` of the CAS client, from the text of the token to the claim in it. How
deeply a payload may be nested is up to the interpreter.
-/

namespace EzvizHp7.Control

open Json (CodePoint Str Value codePoint)

inductive JwtError
  | notAscii
  | base64Error (e : Base64.Error)
  | unicodeDecodeError
  | jsonError (e : Json.Failure)
  | attributeError
  deriving DecidableEq, Repr

/-- An instance of one of the classes in the `except` clause, all of them `ValueError`s here. -/
def JwtError.caught : JwtError → Bool
  | .jsonError .recursionError => false
  | .jsonError .exhausted => false
  | .attributeError => false
  | _ => true

def dot : CodePoint := codePoint '.'

def equalsSign : CodePoint := codePoint '='

/-- `"s"` -/
def signKey : Str := [codePoint 's']

def ofAscii (data : List UInt8) : Str := data.map fun b => codePoint (Char.ofUInt8 b)

/-- `str.encode("ascii")` -/
def encodeAscii (text : Str) : Except JwtError (List UInt8) :=
  if ∀ c ∈ text, c.val < 128 then .ok (text.map fun c => UInt8.ofNat c.val) else .error .notAscii

/-- `bytes.decode("utf-8")` -/
def decodeUtf8 (data : List UInt8) : Except JwtError (List Char) :=
  match data.toByteArray.utf8Decode? with
  | some text => .ok text.toList
  | none => .error .unicodeDecodeError

/-- `str.encode("utf-8")` -/
def encodeUtf8 (text : List Char) : List UInt8 := text.flatMap String.utf8EncodeChar

/-- `data.get("s")` -/
def getSign : Value → Except JwtError (Option Value)
  | .object members => .ok (Json.lookup signKey members)
  | _ => .error .attributeError

/-- `isinstance(sign, str) and sign` -/
def nonEmpty : Option Value → Option Str
  | some (.string sign) => if sign = [] then none else some sign
  | _ => none

section

variable (limit : Nat)

/-- The value that a payload segment stands for. -/
def decodePayload (payload : Str) : Except JwtError Value := do
  let padded := payload ++ List.replicate (Base64.missing payload.length) equalsSign
  let encoded ← encodeAscii padded
  let data ← (Base64.urlDecode encoded).mapError .base64Error
  let text ← decodeUtf8 data
  (Json.loads limit text).mapError .jsonError

def payloadSign (payload : Str) : Except JwtError (Option Str) := do
  let data ← decodePayload limit payload
  let sign ← getSign data
  return nonEmpty sign

def signOf (raw : Str) : Except JwtError (Option Str) :=
  match raw.splitOn dot with
  | _ :: payload :: _ => payloadSign limit payload
  | _ => .ok none

/-- With `token.get("session_id")`. -/
def extractSignFromJwt (sessionId : Option Str) : Except JwtError Str :=
  let raw := sessionId.getD []
  match signOf limit raw with
  | .ok (some sign) => .ok sign
  | .ok none => .ok raw
  | .error e => if e.caught then .ok raw else .error e

/-- The segment after the first dot. -/
def SecondSegment (raw payload : Str) : Prop :=
  ∃ header rest, dot ∉ header ∧ dot ∉ payload ∧ raw = header ++ dot :: (payload ++ rest) ∧
    (rest = [] ∨ ∃ signature, rest = dot :: signature)

/-- The second segment decodes to an object whose `s` is a string that is not empty. -/
def Signs (raw sign : Str) : Prop :=
  ∃ payload members, SecondSegment raw payload ∧
    decodePayload limit payload = .ok (.object members) ∧
      Json.lookup signKey members = some (.string sign) ∧ sign ≠ []

/-- The sign in the token is returned, and the token itself where there is none. -/
structure Extracts (raw : Str) : Prop where
  sign : ∀ sign, Signs limit raw sign → extractSignFromJwt limit (some raw) = .ok sign
  fallback : (∀ sign, ¬Signs limit raw sign) → extractSignFromJwt limit (some raw) = .ok raw

/-- A second segment decodes to nothing but objects, and not to values nested too deeply. -/
def DecodesToObject (raw : Str) : Prop :=
  ∀ payload, SecondSegment raw payload →
    (∀ value, decodePayload limit payload = .ok value → ∃ members, value = .object members) ∧
      decodePayload limit payload ≠ .error (.jsonError .recursionError)

/-- The sign is read back from any token that has it in its payload. -/
def ReadsBack : Prop :=
  ∀ header signature text members sign, dot ∉ header →
    Json.loads limit text = .ok (.object members) →
      Json.lookup signKey members = some (.string sign) → sign ≠ [] →
        extractSignFromJwt limit (some (header ++ dot ::
          (ofAscii (Base64.urlEncode (encodeUtf8 text)) ++ dot :: signature))) = .ok sign

end

private theorem splitOn_of_not_mem {text : Str} (h : dot ∉ text) : text.splitOn dot = [text] := by
  apply List.splitOnP_eq_singleton
  intro c hc
  exact beq_false_of_ne fun heq => h (heq ▸ hc)

private theorem splitOn_append_dot {header : Str} (h : dot ∉ header) (rest : Str) :
    (header ++ dot :: rest).splitOn dot = header :: rest.splitOn dot := by
  have hheader : ∀ c ∈ header, (c == dot) = false := by
    intro c hc
    exact beq_false_of_ne fun heq => h (heq ▸ hc)
  exact List.splitOnP_append_cons_of_forall_mem hheader dot (beq_self_eq_true dot) rest

private theorem splitOn_of_second {raw payload : Str} (h : SecondSegment raw payload) :
    ∃ header rest, raw.splitOn dot = header :: payload :: rest := by
  obtain ⟨header, rest, hheader, hpayload, rfl, hrest⟩ := h
  rw [splitOn_append_dot hheader]
  rcases hrest with rfl | ⟨signature, rfl⟩
  · rw [List.append_nil, splitOn_of_not_mem hpayload]
    exact ⟨header, [], rfl⟩
  · rw [splitOn_append_dot hpayload]
    exact ⟨header, _, rfl⟩

theorem second_or_none (raw : Str) : dot ∉ raw ∨ ∃ payload, SecondSegment raw payload := by
  by_cases hraw : dot ∈ raw
  · right
    obtain ⟨header, rest, rfl, hheader⟩ := List.eq_append_cons_of_mem hraw
    by_cases hrest : dot ∈ rest
    · obtain ⟨payload, signature, rfl, hpayload⟩ := List.eq_append_cons_of_mem hrest
      exact ⟨payload, header, dot :: signature, hheader, hpayload, rfl, .inr ⟨signature, rfl⟩⟩
    · exact ⟨rest, header, [], hheader, hrest, by rw [List.append_nil], .inl rfl⟩
  · exact .inl hraw

private theorem second_unique {raw payload payload' : Str} (h : SecondSegment raw payload)
    (h' : SecondSegment raw payload') : payload' = payload := by
  obtain ⟨_, _, hsplit⟩ := splitOn_of_second h
  obtain ⟨_, _, hsplit'⟩ := splitOn_of_second h'
  rw [hsplit] at hsplit'
  simp only [List.cons.injEq] at hsplit'
  exact hsplit'.2.1.symm

variable {limit : Nat} {raw payload : Str}

private theorem signOf_of_second (h : SecondSegment raw payload) :
    signOf limit raw = payloadSign limit payload := by
  obtain ⟨header, rest, hsplit⟩ := splitOn_of_second h
  rw [signOf, hsplit]

theorem extract_of_second (limit : Nat) (h : SecondSegment raw payload) :
    extractSignFromJwt limit (some raw) = match payloadSign limit payload with
      | .ok (some sign) => .ok sign
      | .ok none => .ok raw
      | .error e => if e.caught then .ok raw else .error e := by
  rw [extractSignFromJwt, Option.getD_some, signOf_of_second h]

private theorem ok_bind {ε α β : Type} (a : α) (f : α → Except ε β) :
    (Except.ok a >>= f) = f a := rfl

private theorem error_of_bind {ε α β : Type} {x : Except ε α} {f : α → Except ε β} {e : ε}
    (h : (x >>= f) = .error e) : x = .error e ∨ ∃ a, x = .ok a ∧ f a = .error e := by
  cases x with
  | error e' =>
    cases h
    exact .inl rfl
  | ok a => exact .inr ⟨a, rfl, h⟩

theorem decodeUtf8_encode (text : List Char) : decodeUtf8 (encodeUtf8 text) = .ok text := by
  have hbytes : (encodeUtf8 text).toByteArray = text.utf8Encode := rfl
  rw [decodeUtf8, hbytes, List.utf8Decode?_utf8Encode]

private theorem codePoint_ofUInt8_val (b : UInt8) : (codePoint (Char.ofUInt8 b)).val = b.toNat := by
  have hchar : (Char.ofUInt8 b).toNat = b.toNat := UInt8.toNat_toUInt32 b
  change (Char.ofUInt8 b).toNat % 0x110000 = b.toNat
  rw [hchar]
  have := b.toNat_lt
  omega

private theorem encodeAscii_ofAscii {data : List UInt8} (h : ∀ c ∈ data, c.toNat < 128) :
    encodeAscii (ofAscii data) = .ok data := by
  have hascii : ∀ c ∈ ofAscii data, c.val < 128 := by
    intro c hc
    obtain ⟨b, hb, rfl⟩ := List.mem_map.1 hc
    rw [codePoint_ofUInt8_val]
    exact h b hb
  have hback : (ofAscii data).map (fun c => UInt8.ofNat c.val) = data := by
    rw [ofAscii, List.map_map]
    refine (List.map_congr_left fun b _ => ?_).trans (List.map_id data)
    simp only [Function.comp_apply, codePoint_ofUInt8_val, UInt8.ofNat_toNat, id_eq]
  rw [encodeAscii, if_pos hascii, hback]

private theorem decodePayload_encode (limit : Nat) (text : List Char) :
    decodePayload limit (ofAscii (Base64.urlEncode (encodeUtf8 text))) =
      (Json.loads limit text).mapError .jsonError := by
  let encoded := Base64.urlEncode (encodeUtf8 text)
  have hpadded : ofAscii encoded ++
      List.replicate (Base64.missing (ofAscii encoded).length) equalsSign =
        ofAscii (encoded ++ List.replicate (Base64.missing encoded.length) Base64.pad) := by
    simp only [ofAscii, List.length_map, List.map_append, List.map_replicate]
    rfl
  have hascii : ∀ c ∈ encoded ++ List.replicate (Base64.missing encoded.length) Base64.pad,
      c.toNat < 128 := by
    intro c hc
    rcases List.mem_append.1 hc with hc | hc
    · exact Base64.urlEncode_ascii _ c hc
    · rw [List.eq_of_mem_replicate hc]
      decide
  have hdata := Base64.urlDecode_urlEncode (encodeUtf8 text)
  change (encodeAscii (ofAscii encoded ++ List.replicate _ equalsSign) >>= _) = _
  rw [hpadded, encodeAscii_ofAscii hascii, ok_bind, hdata]
  change (decodeUtf8 (encodeUtf8 text) >>= _) = _
  rw [decodeUtf8_encode, ok_bind]

private theorem encodeAscii_error {text : Str} {e : JwtError} (h : encodeAscii text = .error e) :
    e = .notAscii := by
  unfold encodeAscii at h
  split at h
  · cases h
  · cases h
    rfl

private theorem decodeUtf8_error {data : List UInt8} {e : JwtError}
    (h : decodeUtf8 data = .error e) : e = .unicodeDecodeError := by
  unfold decodeUtf8 at h
  split at h
  · cases h
  · cases h
    rfl

/-- Whatever stops the decoding is caught, but for the nesting. -/
theorem decodePayload_caught {e : JwtError} (h : decodePayload limit payload = .error e)
    (hnesting : e ≠ .jsonError .recursionError) : e.caught = true := by
  rcases error_of_bind h with hencode | ⟨encoded, _, h⟩
  · rw [encodeAscii_error hencode]
    rfl
  rcases error_of_bind h with hdecode | ⟨data, _, h⟩
  · cases hbase : Base64.urlDecode encoded with
    | ok data =>
      rw [hbase] at hdecode
      cases hdecode
    | error e' =>
      rw [hbase] at hdecode
      cases hdecode
      rfl
  rcases error_of_bind h with hutf8 | ⟨text, _, h⟩
  · rw [decodeUtf8_error hutf8]
    rfl
  cases hjson : Json.loads limit text with
  | ok value =>
    rw [hjson] at h
    cases h
  | error e' =>
    rw [hjson] at h
    cases h
    cases e' with
    | decodeError message => rfl
    | tooManyDigits digits => rfl
    | recursionError => exact absurd rfl hnesting
    | exhausted => exact absurd hjson (Json.loads_ne_exhausted limit text)

private theorem nonEmpty_eq_some {value : Option Value} {sign : Str} :
    nonEmpty value = some sign ↔ value = some (.string sign) ∧ sign ≠ [] := by
  unfold nonEmpty
  split
  · rename_i s
    by_cases hs : s = []
    · simp only [hs, if_true, reduceCtorEq, false_iff, not_and, not_not, Option.some.injEq,
        Value.string.injEq]
      exact fun h => h.symm
    · simp only [hs, if_false, Option.some.injEq, Value.string.injEq]
      exact ⟨fun h => ⟨h, h ▸ hs⟩, And.left⟩
  · rename_i hother
    simp only [reduceCtorEq, false_iff, not_and]
    exact fun h => absurd h (hother sign)

private theorem payloadSign_of_object {members : List (Str × Value)}
    (h : decodePayload limit payload = .ok (.object members)) :
    payloadSign limit payload = .ok (nonEmpty (Json.lookup signKey members)) := by
  rw [payloadSign, h]
  rfl

theorem payloadSign_of_other {value : Value} (h : decodePayload limit payload = .ok value)
    (hvalue : ∀ members, value ≠ .object members) :
    payloadSign limit payload = .error .attributeError := by
  rw [payloadSign, h]
  cases value with
  | object members => exact absurd rfl (hvalue members)
  | _ => rfl

theorem payloadSign_of_error {e : JwtError} (h : decodePayload limit payload = .error e) :
    payloadSign limit payload = .error e := by
  rw [payloadSign, h]
  rfl

theorem extracts_of_object (h : SecondSegment raw payload) {members : List (Str × Value)}
    (hdecode : decodePayload limit payload = .ok (.object members)) : Extracts limit raw := by
  have hextract := extract_of_second limit h
  rw [payloadSign_of_object hdecode] at hextract
  constructor
  · rintro sign ⟨payload', members', hsecond, hdecode', hlookup, hsign⟩
    rw [second_unique h hsecond, hdecode] at hdecode'
    cases hdecode'
    rw [hextract, nonEmpty_eq_some.2 ⟨hlookup, hsign⟩]
  · intro hnone
    rw [hextract]
    cases hsign : nonEmpty (Json.lookup signKey members) with
    | none => rfl
    | some sign =>
      obtain ⟨hlookup, hne⟩ := nonEmpty_eq_some.1 hsign
      exact absurd ⟨payload, members, h, hdecode, hlookup, hne⟩ (hnone sign)

private theorem not_signs (h : SecondSegment raw payload)
    (hdecode : ∀ members, decodePayload limit payload ≠ .ok (.object members)) (sign : Str) :
    ¬Signs limit raw sign := by
  rintro ⟨payload', members, hsecond, hdecode', _⟩
  rw [second_unique h hsecond] at hdecode'
  exact hdecode members hdecode'

private theorem not_extracts (h : SecondSegment raw payload)
    (hdecode : ∀ members, decodePayload limit payload ≠ .ok (.object members)) {e : JwtError}
    (hraises : payloadSign limit payload = .error e) (he : e.caught = false) :
    ¬Extracts limit raw := by
  intro hextracts
  have hextract := extract_of_second limit h
  rw [hextracts.fallback (not_signs h hdecode), hraises] at hextract
  simp [he] at hextract

theorem extracts_of_caught (h : SecondSegment raw payload) {e : JwtError}
    (hdecode : decodePayload limit payload = .error e) (he : e.caught = true) :
    Extracts limit raw := by
  have hother : ∀ members, decodePayload limit payload ≠ .ok (.object members) := by
    simp [hdecode]
  constructor
  · intro sign hsign
    exact absurd hsign (not_signs h hother sign)
  · intro _
    rw [extract_of_second limit h, payloadSign_of_error hdecode]
    exact if_pos he

theorem extracts_of_single (hdot : dot ∉ raw) : Extracts limit raw := by
  constructor
  · rintro sign ⟨payload, _, ⟨header, rest, _, _, rfl, _⟩, _⟩
    simp at hdot
  · intro _
    rw [extractSignFromJwt, Option.getD_some, signOf, splitOn_of_not_mem hdot]

private theorem extracts_iff (limit : Nat) (raw : Str) :
    Extracts limit raw ↔ DecodesToObject limit raw := by
  rcases second_or_none raw with hdot | ⟨payload, h⟩
  · refine iff_of_true (extracts_of_single hdot) ?_
    rintro payload ⟨header, rest, _, _, rfl, _⟩
    simp at hdot
  have hthis : DecodesToObject limit raw ↔
      (∀ value, decodePayload limit payload = .ok value → ∃ members, value = .object members) ∧
        decodePayload limit payload ≠ .error (.jsonError .recursionError) := by
    constructor
    · intro hall
      exact hall payload h
    · intro hone payload' h'
      rwa [second_unique h h']
  rw [hthis]
  cases hdecode : decodePayload limit payload with
  | ok value =>
    by_cases hvalue : ∃ members, value = .object members
    · obtain ⟨members, rfl⟩ := hvalue
      refine iff_of_true (extracts_of_object h hdecode) ⟨?_, by simp⟩
      intro value' heq
      cases heq
      exact ⟨members, rfl⟩
    · have hother : ∀ members, value ≠ .object members := fun members heq => hvalue ⟨members, heq⟩
      refine iff_of_false ?_ fun hobject => hvalue (hobject.1 value rfl)
      refine not_extracts h ?_ (payloadSign_of_other hdecode hother) rfl
      simpa [hdecode] using hother
  | error e =>
    by_cases hnesting : e = .jsonError .recursionError
    · refine iff_of_false ?_ fun hobject => hobject.2 (congrArg _ hnesting)
      refine not_extracts h (by simp [hdecode]) (payloadSign_of_error hdecode) ?_
      rw [hnesting]
      rfl
    · refine iff_of_true (extracts_of_caught h hdecode (decodePayload_caught hdecode hnesting)) ?_
      simpa using hnesting

private theorem dot_not_mem_ofAscii {data : List UInt8} (h : ∀ c ∈ data, c ≠ 0x2e) :
    dot ∉ ofAscii data := by
  intro hdot
  obtain ⟨b, hb, heq⟩ := List.mem_map.1 hdot
  have hval : b.toNat = 0x2e := by rw [← codePoint_ofUInt8_val b, heq]; rfl
  exact h b hb (UInt8.toNat_inj.1 hval)

private theorem readsBack (limit : Nat) : ReadsBack limit := by
  intro header signature text members sign hheader hloads hlookup hsign
  have hdot := dot_not_mem_ofAscii (Base64.urlEncode_ne_dot (encodeUtf8 text))
  have hsecond : SecondSegment (header ++ dot ::
      (ofAscii (Base64.urlEncode (encodeUtf8 text)) ++ dot :: signature))
      (ofAscii (Base64.urlEncode (encodeUtf8 text))) :=
    ⟨header, dot :: signature, hheader, hdot, rfl, .inr ⟨signature, rfl⟩⟩
  have hdecode : decodePayload limit (ofAscii (Base64.urlEncode (encodeUtf8 text))) =
      .ok (.object members) := by
    rw [decodePayload_encode, hloads]
    rfl
  exact (extracts_of_object hsecond hdecode).sign sign
    ⟨_, members, hsecond, hdecode, hlookup, hsign⟩

/-- A sign is extracted wherever the payload is no value but an object that the interpreter can
nest, and the one that was put into a token is read back. -/
theorem sign_extracted_iff (limit : Nat) :
    (∀ raw, Extracts limit raw ↔ DecodesToObject limit raw) ∧ ReadsBack limit :=
  ⟨extracts_iff limit, readsBack limit⟩

/-- The payload is an object with the sign `a`. -/
theorem sign_extracted_iff_object :
    extractSignFromJwt 1 (some ([0x68] ++ dot :: (ofAscii (Base64.urlEncode (encodeUtf8
      ['\x7b', '"', 's', '"', ':', '"', 'a', '"', '\x7d'])) ++ dot :: [0x74]))) = .ok [0x61] :=
  (sign_extracted_iff 1).2 [0x68] [0x74] ['\x7b', '"', 's', '"', ':', '"', 'a', '"', '\x7d']
    [([0x73], .string [0x61])] [0x61] (by decide) rfl rfl (by decide)

/-- `"h.MQ.t"`, whose payload is the number 1. -/
def numberToken : Str := ['h', '.', 'M', 'Q', '.', 't'].map codePoint

theorem not_sign_extracted :
    ¬ ∀ limit : Nat, (∀ raw, Extracts limit raw) ∧ ReadsBack limit := by
  intro hextracts
  have hsecond : SecondSegment numberToken [0x4d, 0x51] :=
    ⟨[0x68], [dot, 0x74], by decide, by decide, rfl, .inr ⟨[0x74], rfl⟩⟩
  have hdecode : decodePayload 0 [0x4d, 0x51] = .ok (.int 1) :=
    decodePayload_encode 0 ['1']
  exact not_extracts hsecond (by simp [hdecode]) (payloadSign_of_other hdecode (by simp)) rfl
    ((hextracts 0).1 numberToken)

end EzvizHp7.Control
