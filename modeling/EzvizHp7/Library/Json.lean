import EzvizHp7.Library.Scanner

/-!
# JSON texts

The scanner of Python's `json.loads`, over the characters of a text. A string of the language may
have lone surrogates in it, an integer may be too long to convert, and the containers may be
nested too deeply for the interpreter. A float is kept as its literal.
-/

namespace Json

open Scanner (Consumes Tame next skipWhile many)

abbrev CodePoint := Fin 0x110000

/-- A string of the interpreter; its surrogates need not be in pairs. -/
abbrev Str := List CodePoint

def codePoint (c : Char) : CodePoint := Fin.ofNat 0x110000 c.toNat

inductive Value
  | null
  | bool (b : Bool)
  | int (n : Int)
  | float (literal : List Char)
  | string (s : Str)
  | array (values : List Value)
  | object (members : List (Str × Value))

inductive Failure
  | decodeError (message : String)
  | tooManyDigits (digits : Nat)
  | recursionError
  | exhausted
  deriving DecidableEq, Repr

/-- The last member under the key, which is the one that the dictionary keeps. -/
def lookup (key : Str) (members : List (Str × Value)) : Option Value := members.reverse.lookup key

abbrev Scan (β : Type) := Scanner Failure Char β

def fail {β : Type} (message : String) : Scan β := throw (.decodeError message)

def hexDigit (c : Char) : Option Nat :=
  if '0' ≤ c ∧ c ≤ '9' then some (c.toNat - '0'.toNat)
  else if 'a' ≤ c ∧ c ≤ 'f' then some (c.toNat - 'a'.toNat + 10)
  else if 'A' ≤ c ∧ c ≤ 'F' then some (c.toNat - 'A'.toNat + 10)
  else none

def hexValue (digits : List Char) : Option Nat :=
  digits.foldlM (fun n c => (hexDigit c).map (16 * n + ·)) 0

def invalidEscape : String := "Invalid \\uXXXX escape"

def codeUnit : Scan Nat := do
  let a ← next (.decodeError invalidEscape)
  let b ← next (.decodeError invalidEscape)
  let c ← next (.decodeError invalidEscape)
  let d ← next (.decodeError invalidEscape)
  if (← get) = [] then fail invalidEscape
  else
    match hexValue [a, b, c, d] with
    | some unit => return unit
    | none => fail invalidEscape

/-- What an escape that follows a high surrogate stands for. -/
def escapeAhead : List Char → Option (Option Nat)
  | '\\' :: 'u' :: a :: b :: c :: d :: _ :: _ => some (hexValue [a, b, c, d])
  | _ => none

def unicodeEscape : Scan CodePoint := do
  let unit ← codeUnit
  if 0xd800 ≤ unit ∧ unit < 0xdc00 then
    match escapeAhead (← get) with
    | none => return Fin.ofNat _ unit
    | some none => fail invalidEscape
    | some (some low) =>
      if 0xdc00 ≤ low ∧ low < 0xe000 then
        modify (·.drop 6)
        return Fin.ofNat _ (0x10000 + (unit - 0xd800) * 0x400 + (low - 0xdc00))
      else return Fin.ofNat _ unit
  else return Fin.ofNat _ unit

def simpleEscapes : List (Char × Char) :=
  [('"', '"'), ('\\', '\\'), ('/', '/'), ('b', '\x08'), ('f', '\x0c'), ('n', '\n'), ('r', '\r'),
    ('t', '\t')]

def unterminated : Failure := .decodeError "Unterminated string starting at"

def escape : Scan CodePoint := do
  let c ← next unterminated
  if c = 'u' then unicodeEscape
  else
    match simpleEscapes.lookup c with
    | some c' => return codePoint c'
    | none => fail "Invalid \\escape"

def stringItem : Scan (Option CodePoint) := do
  let c ← next unterminated
  if c = '"' then return none
  else if c = '\\' then return some (← escape)
  else if c.toNat ≤ 0x1f then fail "Invalid control character at"
  else return some (codePoint c)

def scanString : Scan Str := many .exhausted stringItem

def isDigit (c : Char) : Bool := '0' ≤ c && c ≤ '9'

def integerPart : List Char → List Char
  | '0' :: _ => ['0']
  | text => text.takeWhile isDigit

def fractionPart : List Char → List Char
  | '.' :: text =>
    match text.takeWhile isDigit with
    | [] => []
    | digits => '.' :: digits
  | _ => []

def signPart : List Char → List Char
  | '+' :: _ => ['+']
  | '-' :: _ => ['-']
  | _ => []

def exponentPart : List Char → List Char
  | c :: text =>
    if c = 'e' ∨ c = 'E' then
      match (text.drop (signPart text).length).takeWhile isDigit with
      | [] => []
      | digits => c :: signPart text ++ digits
    else []
  | [] => []

def maxStrDigits : Nat := 4300

def digitsValue (digits : List Char) : Nat :=
  digits.foldl (fun n c => 10 * n + (c.toNat - '0'.toNat)) 0

def convert (negative : Bool) (digits : List Char) : Scan Value :=
  if maxStrDigits < digits.length then throw (.tooManyDigits digits.length)
  else return .int (if negative then -(digitsValue digits : Int) else digitsValue digits)

def scanNumber : Scan Value := do
  let text ← get
  let sign := if text.head? = some '-' then ['-'] else []
  let integer := integerPart (text.drop sign.length)
  let fraction := fractionPart (text.drop (sign ++ integer).length)
  let exponent := exponentPart (text.drop (sign ++ integer ++ fraction).length)
  if integer = [] then fail "Expecting value"
  else
    let literal := sign ++ integer ++ fraction ++ exponent
    modify (·.drop literal.length)
    if fraction = [] ∧ exponent = [] then convert (sign ≠ []) integer
    else return .float literal

def constants : List (List Char × Value) :=
  [(['n', 'u', 'l', 'l'], .null), (['t', 'r', 'u', 'e'], .bool true),
    (['f', 'a', 'l', 's', 'e'], .bool false), (['N', 'a', 'N'], .float ['N', 'a', 'N']),
    (['I', 'n', 'f', 'i', 'n', 'i', 't', 'y'], .float ['I', 'n', 'f', 'i', 'n', 'i', 't', 'y']),
    (['-', 'I', 'n', 'f', 'i', 'n', 'i', 't', 'y'],
      .float ['-', 'I', 'n', 'f', 'i', 'n', 'i', 't', 'y'])]

def scanScalar : Scan Value := do
  let text ← get
  match constants.find? fun constant => constant.1.isPrefixOf text with
  | some (name, value) =>
    modify (·.drop name.length)
    return value
  | none => scanNumber

def isWhitespace (c : Char) : Bool := c = ' ' || c = '\t' || c = '\n' || c = '\r'

def skipSpace : Scan Unit := skipWhile isWhitespace

def containerItem {β : Type} (close : Char) (illegal : String) (item : Scan β) :
    Scan (Option β) := do
  skipSpace
  let c ← next (.decodeError "Expecting ',' delimiter")
  if c = close then return none
  else if c = ',' then
    skipSpace
    if (← get).head? = some close then fail illegal
    else return some (← item)
  else fail "Expecting ',' delimiter"

def container {β : Type} (close : Char) (illegal : String) (item : Scan β) : Scan (List β) := do
  skipSpace
  if (← get).head? = some close then
    modify (·.drop 1)
    return []
  else
    let first ← item
    return first :: (← many .exhausted (containerItem close illegal item))

def expectingName : Failure := .decodeError "Expecting property name enclosed in double quotes"

def member (value : Scan Value) : Scan (Str × Value) := do
  let quote ← next expectingName
  if quote = '"' then
    let key ← scanString
    skipSpace
    let colon ← next (.decodeError "Expecting ':' delimiter")
    if colon = ':' then
      skipSpace
      return (key, ← value)
    else fail "Expecting ':' delimiter"
  else throw expectingName

/-- A value, where the values inside it are scanned by `inner` if they may be nested at all. -/
def scanValue (inner : Option (Scan Value)) : Scan Value := do
  match (← get).head? with
  | some '"' =>
    modify (·.drop 1)
    return .string (← scanString)
  | some '\x7b' =>
    match inner with
    | none => throw .recursionError
    | some value =>
      modify (·.drop 1)
      return .object (← container '\x7d' "Illegal trailing comma before end of object"
        (member value))
  | some '[' =>
    match inner with
    | none => throw .recursionError
    | some value =>
      modify (·.drop 1)
      return .array (← container ']' "Illegal trailing comma before end of array" value)
  | _ => scanScalar

/-- A value whose containers are nested no deeper than the limit. -/
def scanOnce : Nat → Scan Value
  | 0 => scanValue none
  | depth + 1 => scanValue (some (scanOnce depth))

def document (limit : Nat) : Scan Value := do
  skipSpace
  let value ← scanOnce limit
  skipSpace
  if (← get) = [] then return value else fail "Extra data"

def loads (limit : Nat) (text : List Char) : Except Failure Value :=
  if text.head? = some (Char.ofNat 0xfeff) then
    .error (.decodeError "Unexpected UTF-8 BOM (decode using utf-8-sig)")
  else
    match (document limit).run text with
    | .ok value _ => .ok value
    | .error e _ => .error e

theorem fail_tame {β : Type} (message : String) : Tame .exhausted (fail message : Scan β) :=
  .raise (by simp)

theorem codeUnit_tame : Tame .exhausted codeUnit := by
  have hnext : Tame .exhausted (next (.decodeError invalidEscape) : Scan Char) := .next (by simp)
  refine .bind hnext fun a => .bind hnext fun b => .bind hnext fun c => .bind hnext fun d => ?_
  refine .bind .get fun _ => .ite (fail_tame _) ?_
  cases hexValue [a, b, c, d] with
  | none => exact fail_tame _
  | some unit => exact .pure unit

theorem unicodeEscape_tame : Tame .exhausted unicodeEscape := by
  refine .bind codeUnit_tame fun unit => .ite (.bind .get fun text => ?_) (.pure _)
  cases escapeAhead text with
  | none => exact .pure _
  | some low =>
    cases low with
    | none => exact fail_tame _
    | some low => exact .ite (.bind (Scanner.tame_drop 6) fun _ => .pure _) (.pure _)

theorem escape_tame : Tame .exhausted escape := by
  refine .bind (.next (by simp [unterminated])) fun c => .ite unicodeEscape_tame ?_
  cases simpleEscapes.lookup c with
  | none => exact fail_tame _
  | some c' => exact .pure _

theorem stringItem_rest (c : Char) : Tame .exhausted (if c = '"' then return none
    else if c = '\\' then return some (← escape)
    else if c.toNat ≤ 0x1f then fail "Invalid control character at"
    else return some (codePoint c) : Scan (Option CodePoint)) :=
  .ite (.pure _) (.ite (.bind escape_tame fun _ => .pure _) (.ite (fail_tame _) (.pure _)))

theorem scanString_tame : Tame .exhausted scanString :=
  .many (.bind (.next _) stringItem_rest) (.bind (.next (by simp [unterminated])) stringItem_rest)

theorem scanNumber_tame : Tame .exhausted scanNumber := by
  refine .bind .get fun text => .ite (fail_tame _) (.bind (Scanner.tame_drop _) fun _ => ?_)
  refine .ite ?_ (.pure _)
  exact .ite (.raise (by simp)) (.pure _)

theorem scanScalar_tame : Tame .exhausted scanScalar := by
  refine .bind .get fun text => ?_
  split
  · exact .bind (Scanner.tame_drop _) fun _ => .pure _
  · exact scanNumber_tame

theorem skipSpace_tame : Tame .exhausted skipSpace := .skipWhile isWhitespace

section Containers

variable {β : Type} {close : Char} {illegal : String} {item : Scan β}

theorem container_tame (hitem : Tame .exhausted item) :
    Tame .exhausted (container close illegal item) := by
  have hrest (c : Char) : Tame .exhausted (if c = close then return none
      else if c = ',' then do
        skipSpace
        if (← get).head? = some close then fail illegal
        else return some (← item)
      else fail "Expecting ',' delimiter" : Scan (Option β)) := by
    refine .ite (.pure _) (.ite ?_ (fail_tame _))
    refine .bind skipSpace_tame fun _ => .bind .get fun _ => ?_
    exact .ite (fail_tame _) (.bind hitem fun _ => .pure _)
  have hmore : Tame .exhausted (many .exhausted (containerItem close illegal item)) := by
    refine .many ?_ (.bind skipSpace_tame fun _ => .bind (.next (by simp)) hrest)
    exact .after skipSpace_tame fun _ => .bind (.next _) hrest
  refine .bind skipSpace_tame fun _ => .bind .get fun _ => .ite ?_ ?_
  · exact .bind (Scanner.tame_drop 1) fun _ => .pure _
  · exact .bind hitem fun _ => .bind hmore fun _ => .pure _

end Containers

theorem member_tame {value : Scan Value} (hvalue : Tame .exhausted value) :
    Tame .exhausted (member value) := by
  refine .bind (.next (by simp [expectingName])) fun _ => .ite ?_ (.raise (by simp [expectingName]))
  refine .bind scanString_tame fun _ => .bind skipSpace_tame fun _ => ?_
  refine .bind (.next (by simp)) fun _ => .ite (.bind skipSpace_tame fun _ => ?_) (fail_tame _)
  exact .bind hvalue fun _ => .pure _

theorem scanValue_tame {inner : Option (Scan Value)}
    (hinner : ∀ value ∈ inner, Tame .exhausted value) : Tame .exhausted (scanValue inner) := by
  refine .bind .get fun text => ?_
  split
  · exact .bind (Scanner.tame_drop 1) fun _ => .bind scanString_tame fun _ => .pure _
  · cases inner with
    | none => exact .raise (by simp)
    | some value =>
      exact .bind (Scanner.tame_drop 1) fun _ =>
        .bind (container_tame (member_tame (hinner value rfl))) fun _ => .pure _
  · cases inner with
    | none => exact .raise (by simp)
    | some value =>
      exact .bind (Scanner.tame_drop 1) fun _ =>
        .bind (container_tame (hinner value rfl)) fun _ => .pure _
  · exact scanScalar_tame

theorem scanOnce_tame (limit : Nat) : Tame .exhausted (scanOnce limit) := by
  induction limit with
  | zero => exact scanValue_tame (by simp)
  | succ depth ih =>
    refine scanValue_tame ?_
    intro value hvalue
    rw [Option.mem_some] at hvalue
    exact hvalue ▸ ih

/-- Every text is scanned to an end. -/
theorem loads_ne_exhausted (limit : Nat) (text : List Char) :
    loads limit text ≠ .error .exhausted := by
  have htame : Tame .exhausted (document limit) := by
    refine .bind skipSpace_tame fun _ => .bind (scanOnce_tame limit) fun _ => ?_
    exact .bind skipSpace_tame fun _ => .bind .get fun _ => .ite (.pure _) (fail_tame _)
  intro h
  rw [loads] at h
  split at h
  · cases h
  · cases hrun : (document limit).run text with
    | ok value rest =>
      rw [hrun] at h
      cases h
    | error e rest =>
      rw [hrun] at h
      cases h
      exact htame.avoids text rest hrun

end Json
