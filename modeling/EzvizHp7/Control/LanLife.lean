import EzvizHp7.Control.LanStart
import EzvizHp7.Library.Mealy

/-!
# The life of a LAN client

`start`, `read_chunk` and `close` of `Cpd7LanClient` in any order. The sockets that a client has
opened and not closed are the one that it holds and the datagram sockets that a start could not
connect; once closed, it yields nothing any more.
-/

namespace EzvizHp7.Control

open Cpd7 (Bytes)

variable {Priv : Type} (cipher : ControlCipher) (md5 : Bytes → Digest)

/-- The client in its process, and its `_closed`. -/
structure LanLife (Priv : Type) where
  world : LanWorld Priv
  closed : Bool

/-- What `recv` makes of the stream; a `TimeoutError` is an `OSError`. -/
inductive Recv
  | data (bytes : Bytes)
  | timeoutError
  | osError (message : String)

inductive ClientCall (Priv : Type)
  | start (net : Network) (drawn : Drawn Priv)
  | readChunk (timeoutSet : Except String Unit) (received : Recv)
  | close (shutdown closed : Except String Unit)

inductive ClientAnswer
  | started (outcome : Except StartError Unit)
  | read (outcome : Except StartError Bytes)
  | closed

def answerOf {α : Type} : EStateM.Result StartError (LanWorld Priv) α → Except StartError α
  | .ok a _ => .ok a
  | .error e _ => .error e

def readChunk (timeoutSet : Except String Unit) (received : Recv) (s : LanLife Priv) :
    Except StartError Bytes :=
  if s.world.client.playSock.isNone ∨ s.closed then .ok []
  else
    match timeoutSet, received with
    | .error message, _ => .error (.lan (.osError message))
    | .ok (), .data bytes => .ok bytes
    | .ok (), .timeoutError | .ok (), .osError _ => .ok []

/-- Neither a `shutdown` nor a `close` that fails keeps the socket. -/
def closeClient (s : LanLife Priv) : LanLife Priv where
  closed := true
  world :=
    match s.world.client.playSock with
    | none => s.world
    | some sock =>
      { sockets := s.world.sockets.close sock
        client := { s.world.client with playSock := none } }

def performCall (call : ClientCall Priv) (s : LanLife Priv) : ClientAnswer × LanLife Priv :=
  match call with
  | .start net drawn =>
    (.started (answerOf ((start cipher md5 net drawn).run s.world)),
      { s with world := (start cipher md5 net drawn).left s.world })
  | .readChunk timeoutSet received => (.read (readChunk timeoutSet received s), s)
  | .close _ _ => (.closed, closeClient s)

def Network.Leaks (net : Network) : Prop := net.udpMade = .ok () ∧ net.udpConnected ≠ .ok ()

inductive Started (net : Network) (w : LanWorld Priv) (outcome : Except StartError Unit)
    (w' : LanWorld Priv) : Prop
  | keeps (hlive : w'.sockets.live = w.sockets.live)
      (hplay : w'.client.playSock = w.client.playSock)
  | opens (s : Nat) (houtcome : outcome = .ok ()) (hfresh : w.client.playSock = none)
      (hnew : s ∉ w.sockets.live)
      (hlive : w'.sockets.live = w.sockets.live ++ [s]) (hplay : w'.client.playSock = some s)
  | leaks (s : Nat) (hfresh : w.client.playSock = none) (hleaks : net.Leaks)
      (hnew : s ∉ w.sockets.live)
      (hlive : w'.sockets.live = w.sockets.live ++ [s]) (hplay : w'.client.playSock = none)

theorem Sockets.not_mem_live {sockets : Sockets} {s : Nat} (h : sockets.next ≤ s) :
    s ∉ sockets.live := fun hs => Nat.not_lt_of_le h (sockets.fresh s hs)

private theorem start_started (cipher : ControlCipher) (md5 : Bytes → Digest) (net : Network)
    (drawn : Drawn Priv) (w : LanWorld Priv) :
    Started net w (answerOf ((start cipher md5 net drawn).run w))
      ((start cipher md5 net drawn).left w) := by
  cases hfresh : w.client.playSock with
  | some s =>
    have hrun : (start cipher md5 net drawn).run w =
        .error (.runtimeError "already started") w := by simp [start, hfresh]
    rw [EStateM.left_of_error hrun]
    exact .keeps rfl rfl
  | none =>
    by_cases hudp : net.udpMade = .ok () → net.udpConnected = .ok ()
    · have hatomic : Atomic w w (handshake cipher md5 net drawn) :=
        handshake_atomic hudp ⟨rfl, Nat.le_refl _, rfl⟩
      have hstart : (start cipher md5 net drawn).run w =
          (handshake cipher md5 net drawn).run w := by
        simp [start, hfresh]
      rcases hatomic with ⟨w', s, hrun, hnext, hplay, hlive⟩ | ⟨e, w', hrun, hplay, hlive⟩
      · rw [EStateM.left_of_ok (hstart.trans hrun)]
        exact .opens s (by rw [hstart, hrun]; rfl) hfresh (Sockets.not_mem_live hnext) hlive hplay
      · rw [EStateM.left_of_error (hstart.trans hrun)]
        exact .keeps hlive hplay
    · have hleaks : net.Leaks := by simpa [Network.Leaks] using hudp
      cases hconnected : net.udpConnected with
      | ok => exact absurd hconnected hleaks.2
      | error message =>
        have hrun : (start cipher md5 net drawn).run w = .error (.lan (.osError message)) {
            client := { w.client with
              ecdhPriv := some drawn.keypair.1
              ecdhPubB64 := some drawn.keypair.2 }
            sockets := w.sockets.make } := by
          simp [start, handshake, discoverLocalIp, hfresh, hleaks.1, hconnected, call,
            Except.mapError]
        rw [EStateM.left_of_error hrun]
        exact .leaks w.sockets.next hfresh hleaks (Sockets.not_mem_live (Nat.le_refl _)) rfl hfresh

/-- Open are the sockets of the others, those that were left behind and the one that is held. -/
structure Holds (base leaked : List Nat) (w : LanWorld Priv) : Prop where
  nodup : w.sockets.live.Nodup
  live : w.sockets.live.Perm (base ++ leaked ++ w.client.playSock.toList)

section Holds

variable {base leaked : List Nat} {w w' : LanWorld Priv}

theorem Holds.opens (h : Holds base leaked w) {s : Nat} (hfresh : w.client.playSock = none)
    (hnew : s ∉ w.sockets.live) (hlive : w'.sockets.live = w.sockets.live ++ [s])
    (hplay : w'.client.playSock = some s) : Holds base leaked w' := by
  have hold := h.live
  rw [hfresh, Option.toList_none, List.append_nil] at hold
  constructor
  · rw [hlive]
    exact List.nodup_append.2 ⟨h.nodup, by simp, by
      intro a ha b hb heq
      rw [heq, List.mem_singleton.1 hb] at ha
      exact hnew ha⟩
  · rw [hlive, hplay]
    exact hold.append_right [s]

theorem Holds.leaves (h : Holds base leaked w) {s : Nat} (hfresh : w.client.playSock = none)
    (hnew : s ∉ w.sockets.live) (hlive : w'.sockets.live = w.sockets.live ++ [s])
    (hplay : w'.client.playSock = none) : Holds base (leaked ++ [s]) w' := by
  have hold := h.live
  rw [hfresh, Option.toList_none, List.append_nil] at hold
  constructor
  · rw [hlive]
    exact List.nodup_append.2 ⟨h.nodup, by simp, by
      intro a ha b hb heq
      rw [heq, List.mem_singleton.1 hb] at ha
      exact hnew ha⟩
  · rw [hlive, hplay, Option.toList_none, List.append_nil, ← List.append_assoc]
    exact hold.append_right [s]

theorem Holds.keeps (h : Holds base leaked w) (hlive : w'.sockets.live = w.sockets.live)
    (hplay : w'.client.playSock = w.client.playSock) : Holds base leaked w' := by
  constructor
  · rw [hlive]
    exact h.nodup
  · rw [hlive, hplay]
    exact h.live

theorem Holds.close {s : LanLife Priv} (h : Holds base leaked s.world) :
    Holds base leaked (closeClient s).world := by
  cases hplay : s.world.client.playSock with
  | none =>
    apply h.keeps
    · simp [closeClient, hplay]
    · simp [closeClient, hplay]
  | some sock =>
    have hworld : (closeClient s).world = { s.world with
        sockets := s.world.sockets.close sock
        client := { s.world.client with playSock := none } } := by simp [closeClient, hplay]
    have hold := h.live
    rw [hplay, Option.toList_some] at hold
    have hnodup := hold.nodup_iff.1 h.nodup
    have hothers : sock ∉ base ++ leaked := by
      intro hsock
      exact (List.nodup_append.1 hnodup).2.2 sock hsock sock (List.mem_singleton_self sock) rfl
    rw [hworld]
    constructor
    · exact h.nodup.filter _
    · have hfilter := hold.filter (· ≠ sock)
      have hself : (base ++ leaked).filter (· ≠ sock) = base ++ leaked := by
        rw [List.filter_eq_self]
        intro a ha
        have hne : a ≠ sock := fun heq => hothers (heq ▸ ha)
        simpa using hne
      rw [List.filter_append, hself] at hfilter
      simpa [Sockets.close] using hfilter

end Holds

def lanLog (cipher : ControlCipher) (md5 : Bytes → Digest) (s : LanLife Priv)
    (calls : List (ClientCall Priv)) : List (ClientCall Priv × ClientAnswer) :=
  Mealy.log (performCall cipher md5) s calls

def lanAfter (cipher : ControlCipher) (md5 : Bytes → Digest) (s : LanLife Priv)
    (calls : List (ClientCall Priv)) : LanLife Priv :=
  Mealy.after (performCall cipher md5) s calls

instance (net : Network) : Decidable net.Leaks := inferInstanceAs (Decidable (_ ∧ _))

/-- A start that leaves its datagram socket behind, unless the client is started already. -/
def ClientCall.leaks : ClientCall Priv → Bool
  | .start net _ => net.Leaks
  | .readChunk _ _ | .close _ _ => false

def ClientCall.closes : ClientCall Priv → Bool
  | .close _ _ => true
  | .start _ _ | .readChunk _ _ => false

def Begins (e : ClientCall Priv × ClientAnswer) : Prop :=
  ∃ net drawn, e = (.start net drawn, .started (.ok ()))

private theorem closeClient_playSock (s : LanLife Priv) :
    (closeClient s).world.client.playSock = none := by
  cases hplay : s.world.client.playSock <;> simp [closeClient, hplay]

structure Accounted (base : List Nat) (past : List (ClientCall Priv × ClientAnswer))
    (s : LanLife Priv) : Prop where
  sockets : ∃ leaked, Holds base leaked s.world ∧
    leaked.length ≤ past.countP fun e => e.1.leaks
  closed : s.closed = past.any fun e => e.1.closes
  begun : s.world.client.playSock ≠ none → ∃ e ∈ past, Begins e

theorem Accounted.performCall {base : List Nat} {past : List (ClientCall Priv × ClientAnswer)}
    {s : LanLife Priv} (h : Accounted base past s) (c : ClientCall Priv) :
    Accounted base (past ++ [(c, (performCall cipher md5 c s).1)])
      (performCall cipher md5 c s).2 := by
  obtain ⟨leaked, hholds, hlength⟩ := h.sockets
  have hcount (a : ClientAnswer) : (past ++ [(c, a)]).countP (fun e => e.1.leaks) =
      past.countP (fun e => e.1.leaks) + if c.leaks then 1 else 0 := by
    simp [List.countP_append, List.countP_cons]
  have hmore (a : ClientAnswer) : leaked.length ≤
      (past ++ [(c, a)]).countP (fun e => e.1.leaks) := by
    rw [hcount]
    omega
  have hany (a : ClientAnswer) : (past ++ [(c, a)]).any (fun e => e.1.closes) =
      (s.closed || c.closes) := by simp [h.closed]
  have hbegun {s' : LanLife Priv} (a : ClientAnswer)
      (hplay : s'.world.client.playSock = s.world.client.playSock)
      (hsome : s'.world.client.playSock ≠ none) : ∃ e ∈ past ++ [(c, a)], Begins e := by
    obtain ⟨e, he, hbegins⟩ := h.begun (hplay ▸ hsome)
    exact ⟨e, List.mem_append_left _ he, hbegins⟩
  cases c with
  | readChunk timeoutSet received =>
    exact ⟨⟨leaked, hholds, hmore _⟩, ((hany _).trans (Bool.or_false _)).symm, hbegun _ rfl⟩
  | close shutdown closed =>
    refine ⟨⟨leaked, hholds.close, hmore _⟩, ((hany _).trans (Bool.or_true _)).symm, ?_⟩
    exact fun hsome => absurd (closeClient_playSock s) hsome
  | start net drawn =>
    refine ⟨?_, ((hany _).trans (Bool.or_false _)).symm, ?_⟩
    · cases start_started cipher md5 net drawn s.world with
      | keeps hlive hplay => exact ⟨leaked, hholds.keeps hlive hplay, hmore _⟩
      | opens sock _ hfresh hnew hlive hplay =>
        exact ⟨leaked, hholds.opens hfresh hnew hlive hplay, hmore _⟩
      | leaks sock hfresh hleaks hnew hlive hplay =>
        refine ⟨leaked ++ [sock], hholds.leaves hfresh hnew hlive hplay, ?_⟩
        have hc : (ClientCall.start net drawn).leaks = true := decide_eq_true hleaks
        rw [hcount, hc, List.length_append]
        exact Nat.succ_le_succ hlength
    · cases start_started cipher md5 net drawn s.world with
      | keeps hlive hplay => exact hbegun _ hplay
      | opens sock houtcome =>
        intro _
        refine ⟨_, List.mem_append_right _ (List.mem_singleton_self _), net, drawn, ?_⟩
        rw [Control.performCall, houtcome]
      | leaks sock _ _ _ _ hplay => exact fun hsome => absurd hplay hsome

/-- What the calls leave and give. -/
structure LanLaw (cipher : ControlCipher) (md5 : Bytes → Digest) (s : LanLife Priv)
    (calls : List (ClientCall Priv)) : Prop where
  /-- The client's own sockets are the one it holds and those that starts have left behind. -/
  sockets : ∃ leaked,
    (lanAfter cipher md5 s calls).world.sockets.live.Perm (s.world.sockets.live ++ leaked ++
      (lanAfter cipher md5 s calls).world.client.playSock.toList) ∧
    leaked.length ≤ calls.countP ClientCall.leaks
  /-- A close closes it. -/
  closes : ∀ before shutdown closed, calls = before ++ [.close shutdown closed] →
    (lanAfter cipher md5 s calls).world.client.playSock = none
  /-- Bytes come from a client that has been started and not closed. -/
  yields : ∀ before c bytes after,
    lanLog cipher md5 s calls = before ++ (c, .read (.ok bytes)) :: after → bytes ≠ [] →
      (∃ e ∈ before, Begins e) ∧ ∀ e ∈ before, e.1.closes = false

private theorem accounted_run (cipher : ControlCipher) (md5 : Bytes → Digest) {s : LanLife Priv}
    (hfresh : s.world.client.playSock = none) (hopen : s.closed = false)
    (hnodup : s.world.sockets.live.Nodup) (calls : List (ClientCall Priv)) :
    Accounted s.world.sockets.live (lanLog cipher md5 s calls) (lanAfter cipher md5 s calls) := by
  refine Mealy.invariant (P := Accounted s.world.sockets.live) ?_ ?_ fun _ _ => trivial
  · constructor
    · refine ⟨[], ⟨hnodup, ?_⟩, Nat.zero_le _⟩
      rw [hfresh]
      simp
    · exact hopen
    · exact fun hsome => absurd hfresh hsome
  · intro past s c _ h
    exact h.performCall cipher md5 c

/-- The life of a client of its own, among the sockets of the process. -/
theorem lanClient_accounted (cipher : ControlCipher) (md5 : Bytes → Digest) {s : LanLife Priv}
    (hfresh : s.world.client.playSock = none) (hopen : s.closed = false)
    (hnodup : s.world.sockets.live.Nodup) (calls : List (ClientCall Priv)) :
    LanLaw cipher md5 s calls where
  sockets := by
    obtain ⟨leaked, hholds, hlength⟩ := (accounted_run cipher md5 hfresh hopen hnodup calls).sockets
    refine ⟨leaked, hholds.live, ?_⟩
    have hcalls := congrArg (List.countP ClientCall.leaks)
      (Mealy.log_inputs (performCall cipher md5) s calls)
    rw [List.countP_map] at hcalls
    exact hlength.trans_eq hcalls
  closes before shutdown closed hcalls := by
    rw [hcalls, lanAfter, Mealy.after_append]
    exact closeClient_playSock _
  yields before c bytes after hlog hbytes := by
    obtain ⟨front, call, later, _, hbefore, hanswer⟩ := Mealy.log_split hlog
    obtain ⟨rfl, hread⟩ := Prod.mk.inj hanswer
    have haccounted := accounted_run cipher md5 hfresh hopen hnodup front
    rw [lanLog, ← hbefore] at haccounted
    cases c with
    | start net drawn => cases hread
    | close shutdown closed => cases hread
    | readChunk timeoutSet received =>
      have hoffers : ¬((lanAfter cipher md5 s front).world.client.playSock.isNone ∨
          (lanAfter cipher md5 s front).closed) := by
        intro hsilent
        have hempty : readChunk timeoutSet received (lanAfter cipher md5 s front) = .ok [] :=
          if_pos hsilent
        have hread := (ClientAnswer.read.inj hread).trans hempty
        exact hbytes (Except.ok.inj hread)
      obtain ⟨hheld, hunclosed⟩ := not_or.1 hoffers
      constructor
      · apply haccounted.begun
        simpa using hheld
      · have hnone := haccounted.closed
        intro e he
        by_contra hcloses
        apply hunclosed
        rw [hnone, List.any_eq_true]
        exact ⟨e, he, by simpa using hcloses⟩

def lostDoorbell : List (ClientCall Unit) :=
  [.start unreachable ⟨((), ""), 0, ""⟩, .readChunk (.ok ()) .timeoutError,
    .close (.ok ()) (.ok ())]

theorem lanClient_accounted_lostDoorbell :
    LanLaw tinyCipher (fun _ => tinyDigest) ⟨newClient, false⟩ lostDoorbell :=
  lanClient_accounted tinyCipher (fun _ => tinyDigest) rfl rfl List.nodup_nil lostDoorbell

example : (lanAfter tinyCipher (fun _ => tinyDigest) ⟨newClient, false⟩
    lostDoorbell).world.sockets.live = [0] := by decide +kernel

end EzvizHp7.Control
