import EzvizHp7.Config.UserStep

/-!
# The model and the related device

What the client reads of the cloud's answer about a device: whether it is a CP7, and the serial of
its camera module. The answer is a parsed JSON document of any shape, and what Python does with a
wrong one is part of the model.
-/

namespace EzvizHp7.Setup

open Cloud (Exc ExcClass Method Replies bareSerial)
open Cloud.Hp7Api (ensureClient)

inductive Value
  | none
  | bool (b : Bool)
  | number (n : Rat)
  | str (s : String)
  | list (values : List Value)
  | dict (entries : List (String × Value))

namespace Value

def truthy : Value → Bool
  | none => false
  | bool b => b
  | number n => n ≠ 0
  | str s => s ≠ ""
  | list values => !values.isEmpty
  | dict entries => !entries.isEmpty

/-- `a or b` -/
def or (a b : Value) : Value := if a.truthy then a else b

def typeName : Value → String
  | none => "NoneType"
  | bool _ => "bool"
  | number n => if n.den = 1 then "int" else "float"
  | str _ => "str"
  | list _ => "list"
  | dict _ => "dict"

def attributeError (v : Value) (name : String) : Exc :=
  ⟨[.attributeError], "'" ++ v.typeName ++ "' object has no attribute '" ++ name ++ "'"⟩

def get (v : Value) (key : String) (default : Value) : Except Exc Value :=
  match v with
  | dict entries => .ok ((entries.lookup key).getD default)
  | v => .error (v.attributeError "get")

/-- A `TypeError` is none of the classes that are named. -/
def iterate : Value → Except Exc (List Value)
  | list values => .ok values
  | dict entries => .ok (entries.map fun e => str e.1)
  | str s => .ok (s.toList.map fun c => str (String.singleton c))
  | v => .error ⟨[], "'" ++ v.typeName ++ "' object is not iterable"⟩

end Value

def Value.strip : Value → Except Exc String
  | .str s => .ok (Config.strip s)
  | v => .error (v.attributeError "strip")

/-- `"CP7" in s.upper()`; nothing outside ASCII becomes one of its letters in upper case. -/
def upperHasCp7 : List Char → Bool
  | c :: p :: n :: rest =>
    (c = 'C' ∨ c = 'c') && (p = 'P' ∨ p = 'p') && n = '7' || upperHasCp7 (p :: n :: rest)
  | _ => false

def Value.isCp7 : Value → Except Exc Bool
  | .str s => .ok (upperHasCp7 s.toList)
  | v => .error (v.attributeError "upper")

def subCategory (dev : Value) : Except Exc Value := do
  let sub ← dev.get "deviceSubCategory" .none
  if sub.truthy then return sub
  let infos ← dev.get "deviceInfos" (.dict [])
  return (← infos.get "deviceSubCategory" .none).or (.str "")

/-- One of the sub-devices is a CP7; those behind it are not looked at. -/
def anyCp7 : List Value → Except Exc Bool
  | [] => .ok false
  | res :: rest => do
    if ← ((← res.get "deviceSubCategory" .none).or (.str "")).isCp7 then return true
    anyCp7 rest

def detectsCp7 (dev : Value) : Except Exc Bool := do
  if ← (← subCategory dev).isCp7 then return true
  anyCp7 (← ((← dev.get "resourceInfos" .none).or (.list [])).iterate)

/-- With the model that the client has been taken for, and the one that it is then. -/
def detectCapabilities (serial : String) (r : Replies) (getDeviceInfos : String → Except Exc Value)
    (model : String) : Method String := do
  ensureClient r
  if !(← get).api.client then return model
  match (getDeviceInfos (bareSerial serial)).bind detectsCp7 with
  | .ok cp7 => return if cp7 then "CP7" else model
  | .error exc =>
    if exc.isInstance [.keyError, .attributeError, .valueError] then return model else throw exc

/-- `serial.split("-", 1)[1]` -/
def afterHyphen (serial : String) : String :=
  String.ofList (serial.toList.dropWhile (· ≠ '-')).tail

def subSerial (sub : Value) : Except Exc String := do
  ((← sub.get "deviceSerial" .none).or (.str "")).strip

def resourceCandidates (serial : String) : List Value → Except Exc (List String)
  | [] => .ok []
  | res :: rest => do
    let sub ← subSerial res
    let others ← resourceCandidates serial rest
    return if sub ≠ "" ∧ sub ≠ serial then sub :: others else others

/-- Of the cameras only dictionaries are looked at. -/
def cameraSerial (camera : Value) : Except Exc String :=
  match camera with
  | .dict _ => subSerial camera
  | _ => .ok ""

def cameraCandidates (serial : String) (candidates : List String) :
    List Value → Except Exc (List String)
  | [] => .ok candidates
  | camera :: rest => do
    let s ← cameraSerial camera
    if s ≠ "" ∧ s ≠ serial ∧ s ∉ candidates then
      cameraCandidates serial (candidates ++ [s]) rest
    else cameraCandidates serial candidates rest

def candidates (serial : String) (dev : Value) : Except Exc (List String) := do
  let resources ← ((← dev.get "resourceInfos" .none).or (.list [])).iterate
  let found ← resourceCandidates serial resources
  let cameras ← ((← dev.get "cameraInfos" .none).or (.list [])).iterate
  cameraCandidates serial found cameras

def relatedErrors : List ExcClass :=
  [.pyEzvizError, .httpError, .invalidHost, .invalidUrl, .valueError, .keyError, .osError]

def getRelatedDevice (serial : String) (r : Replies)
    (getDeviceInfos : String → Except Exc Value) : Method String := do
  if '-' ∈ serial.toList then return afterHyphen serial
  ensureClient r
  if !(← get).api.client then return serial
  match getDeviceInfos serial with
  | .error exc => if exc.isInstance relatedErrors then return serial else throw exc
  | .ok dev =>
    match candidates serial dev with
    | .error exc => throw exc
    | .ok found => return found.headD serial

end EzvizHp7.Setup
