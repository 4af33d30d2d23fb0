import LinphoneSdk.Lib.Bytes
import Mathlib.Data.List.Lex
import Mathlib.Logic.Function.Basic
import LinphoneSdk.Lib.OrderedMap

/-!
# RTP bundles

Sessions that share a transport are told apart by the SSRCs of the packets. A bundle keeps the session of each SSRC
that it knows, and the sessions that wait for the SSRC they will receive.
-/

namespace RtpBundle

open scoped TimeIndex OrderedMap

inductive RtpSessionMode where
  | recvOnly
  | sendOnly
  | sendRecv
  deriving DecidableEq, Repr

structure RtpSession where
  mode : RtpSessionMode
  sndSsrc : UInt32
  rcvSsrc : UInt32 := 0
  rcvPt : ℕ := 0
  ssrcSet : Bool := false
  /-- The mid in the bundle, `none` for a session that is in no bundle. -/
  mid : Option Bytes := none

structure Mid where
  mid : Bytes
  sequenceNumber : UInt32

structure BundleSession (S : Type) where
  mid : Mid
  rtpSession : S

structure RtpBundleCxx (S : Type) where
  sessions : S → RtpSession
  mSsrcToSession : OrderedMap UInt32 (BundleSession S)
  mSsrcToMid : UInt32 → Option Bytes
  mWaitingForAssignment : List (Bytes × S)
  mPrimary : Option S

/-- What is read of a packet: the SSRC, the mid (empty when there is none), and the SSRC that an RTCP packet other than
a SDES refers to. Where RTP has its sequence number, RTCP has its length. -/
inductive Packet where
  | rtp (version : UInt8) (ssrc : UInt32) (mid : Bytes) (seqnumber : UInt16) (payloadType : ℕ)
  | sdes (ssrc : UInt32) (mid : Bytes)
  | rtcp (ssrc : UInt32) (referred : Option UInt32) (length : UInt16)

def Packet.ssrc : Packet → UInt32
  | .rtp _ ssrc _ _ _ => ssrc
  | .sdes ssrc _ => ssrc
  | .rtcp ssrc _ _ => ssrc

def Packet.mid : Packet → Bytes
  | .rtp _ _ mid _ _ => mid
  | .sdes _ mid => mid
  | .rtcp _ _ _ => []

def Packet.referred : Packet → Option UInt32
  | .rtcp _ referred _ => referred
  | _ => none

variable {S : Type} [DecidableEq S]

variable (b : RtpBundleCxx S)

def RtpBundleCxx.setSession (s : S) (f : RtpSession → RtpSession) : RtpBundleCxx S :=
  { b with sessions := Function.update b.sessions s (f (b.sessions s)) }

def enterSession (session : S) (mid : Bytes) : RtpBundleCxx S :=
  let sndSsrc := (b.sessions session).sndSsrc
  match (b.sessions session).mode with
  | .sendOnly => { b with mSsrcToSession := b.mSsrcToSession.emplace sndSsrc ⟨⟨mid, 0⟩, session⟩ }
  | .recvOnly => { b with mWaitingForAssignment := TimeIndex.emplace mid session b.mWaitingForAssignment }
  | .sendRecv =>
    { b with
        mSsrcToSession := b.mSsrcToSession.emplace sndSsrc ⟨⟨mid, 0⟩, session⟩
        mWaitingForAssignment := TimeIndex.emplace mid session b.mWaitingForAssignment }

/-- A session that is there already is only reported. -/
def addSession (mid : Bytes) (session : S) : RtpBundleCxx S :=
  let b := enterSession b session mid
  { b with mPrimary := b.mPrimary <|> some session }.setSession session fun s => { s with mid := some mid }

/-! ### Changes of the mode -/

/-- The session is removed from the main map or from the waiting map, and put in the main map. -/
def leaveReception (session : S) : RtpBundleCxx S :=
  let s := b.sessions session
  if s.ssrcSet ∧ s.rcvSsrc ≠ 0 then
    match b.mSsrcToSession.first fun e => e.2.rtpSession = session with
    | some (ssrc, e) =>
      { b with mSsrcToSession := (b.mSsrcToSession.erase ssrc).emplace s.sndSsrc ⟨e.mid, session⟩ }
    | none => { b with mSsrcToSession := b.mSsrcToSession.emplace s.sndSsrc ⟨⟨[], 0⟩, session⟩ }
  else
    match b.mWaitingForAssignment.find? fun e => e.2 = session with
    | some (mid, _) =>
      { b with
          mSsrcToSession := b.mSsrcToSession.emplace s.sndSsrc ⟨⟨mid, 0⟩, session⟩
          mWaitingForAssignment := b.mWaitingForAssignment.eraseP fun e => e.2 = session }
    | none => { b with mSsrcToSession := b.mSsrcToSession.emplace s.sndSsrc ⟨⟨[], 0⟩, session⟩ }

/-- The entry of the send SSRC is removed from the main map, and its session waits. -/
def enterReception (session : S) : RtpBundleCxx S :=
  let s := b.sessions session
  match b.mSsrcToSession.find s.sndSsrc with
  | some e =>
    { b with
        mSsrcToSession := b.mSsrcToSession.erase s.sndSsrc
        mWaitingForAssignment := TimeIndex.emplace e.mid.mid session b.mWaitingForAssignment }
  | none => b

def sessionModeUpdated (session : S) (previousMode : RtpSessionMode) : RtpBundleCxx S :=
  match previousMode, (b.sessions session).mode with
  | .recvOnly, .sendOnly => leaveReception b session
  | .sendRecv, .sendOnly => leaveReception b session
  | .sendOnly, .recvOnly => enterReception b session
  | .sendOnly, .sendRecv => enterReception b session
  | _, _ => b

def setMode (session : S) (mode : RtpSessionMode) : RtpBundleCxx S :=
  let previousMode := (b.sessions session).mode
  let b := b.setSession session fun s => { s with mode }
  if (b.sessions session).mid.isSome then sessionModeUpdated b session previousMode else b

/-! ### Packets -/

def findReferredSession (referredSsrc : UInt32) : Option (UInt32 × BundleSession S) :=
  match b.mSsrcToSession.find referredSsrc with
  | some e => some (referredSsrc, e)
  | none => b.mSsrcToSession.first fun e =>
      (b.sessions e.2.rtpSession).mode = .sendRecv ∧ (b.sessions e.2.rtpSession).sndSsrc = referredSsrc

def updateBundleSession (mid : Bytes) (sequenceNumber : UInt32) (session : BundleSession S) : BundleSession S :=
  if mid ≠ [] ∧ mid ≠ session.mid.mid ∧ sequenceNumber > session.mid.sequenceNumber then
    { session with mid := ⟨mid, sequenceNumber⟩ }
  else session

/-- The number given to `updateBundleSession` for an entry that is known. -/
def Packet.sequenceNumber : Packet → UInt32
  | .rtp _ _ _ seqnumber _ => seqnumber.toUInt32
  | .sdes _ _ => 0
  | .rtcp _ _ _ => 0

/-- Everything is cleared for a SSRC whose mid changed. -/
def forgetMoved : Packet → RtpBundleCxx S
  | .rtp _ ssrc mid _ _ =>
    match b.mSsrcToSession.find ssrc with
    | some e =>
      if mid ≠ [] ∧ e.mid.mid ≠ [] ∧ e.mid.mid ≠ mid then
        { b with
            mSsrcToSession := b.mSsrcToSession.erase ssrc
            mSsrcToMid := Function.update b.mSsrcToMid ssrc none }
      else b
    | none => b
  | _ => b

def assign (ssrc : UInt32) (mid : Bytes) (payloadType : ℕ) : Option (S × RtpBundleCxx S) :=
  let blank := fun e : Bytes × S => decide (e.1 = mid ∧ (b.sessions e.2).rcvPt = payloadType)
  match b.mWaitingForAssignment.find? blank with
  | some (_, session) =>
    let b' : RtpBundleCxx S := { b with
      mSsrcToSession := b.mSsrcToSession.emplace ssrc ⟨⟨mid, 0⟩, session⟩
      mWaitingForAssignment := b.mWaitingForAssignment.eraseP blank }
    some (session, b'.setSession session fun s => { s with ssrcSet := true, rcvSsrc := ssrc })
  | none => none

/-- An existing session that is reused leaves the SSRC that it received. -/
def leaveSsrc (ssrc : UInt32) (session : S) : RtpBundleCxx S :=
  let s := b.sessions session
  if s.ssrcSet ∧ s.rcvSsrc ≠ ssrc then { b with mSsrcToSession := b.mSsrcToSession.erase s.rcvSsrc } else b

def emitNewSsrc (ssrc : UInt32) (mid : Bytes) (isOutgoing : Bool) : Option S → Option S × RtpBundleCxx S
  | none => (none, b)
  | some session =>
    let b :=
      if isOutgoing then b.setSession session fun s => { s with sndSsrc := ssrc }
      else (leaveSsrc b ssrc session).setSession session fun s => { s with ssrcSet := true, rcvSsrc := ssrc }
    let b := { b with mSsrcToSession := b.mSsrcToSession.emplace ssrc ⟨⟨mid, 0⟩, session⟩ }
    (some session, b.setSession session fun s => { s with mid := s.mid <|> some mid })

def resolveMid (m : Packet) : Option Bytes :=
  if m.mid = [] then b.mSsrcToMid m.ssrc else some m.mid

def rememberMid (ssrc : UInt32) (mid : Bytes) : RtpBundleCxx S :=
  { b with mSsrcToMid := Function.update b.mSsrcToMid ssrc (b.mSsrcToMid ssrc <|> some mid) }

def checkMid (m : Packet) (mid : Bytes) (isOutgoing : Bool) (answer : Option S) : Option S × RtpBundleCxx S :=
  match m with
  | .rtp _ ssrc _ _ payloadType =>
    match if isOutgoing then none else assign b ssrc mid payloadType with
    | some (session, b) => (some session, b)
    | none => if mid ≠ [] ∧ b.mPrimary.isSome then emitNewSsrc b ssrc mid isOutgoing answer else (none, b)
  | _ =>
    match if isOutgoing then none else m.referred with
    | some referredSsrc =>
      ((b.mWaitingForAssignment.find? fun e => e.1 = mid ∧ (b.sessions e.2).sndSsrc = referredSsrc).map Prod.snd, b)
    | none => (none, b)

def checkUnknown (m : Packet) (isOutgoing : Bool) (answer : Option S) : Option S × RtpBundleCxx S :=
  match resolveMid b m with
  | none => (none, b)
  | some mid => checkMid (rememberMid b m.ssrc mid) m mid isOutgoing answer

/-- The session of a packet. `answer` is the session that the application gives when it is asked
for one; without a primary session it cannot be asked. -/
def checkForSession (m : Packet) (isOutgoing : Bool) (answer : Option S) : Option S × RtpBundleCxx S :=
  match m with
  | .rtp version _ _ _ _ => if version ≠ 2 then (b.mPrimary, b) else bySsrc b m
  | .sdes _ _ => bySsrc b m
  | .rtcp _ referred length =>
    match referred.bind (findReferredSession b) with
    | some (ssrc, e) =>
      (some e.rtpSession,
        { b with mSsrcToSession := b.mSsrcToSession.modify ssrc (updateBundleSession m.mid length.toUInt32) })
    | none => bySsrc b m
where
  bySsrc (b : RtpBundleCxx S) (m : Packet) : Option S × RtpBundleCxx S :=
    let b := forgetMoved b m
    match b.mSsrcToSession.find m.ssrc with
    | some e =>
      (some e.rtpSession,
        { b with mSsrcToSession := b.mSsrcToSession.modify m.ssrc (updateBundleSession m.mid m.sequenceNumber) })
    | none => checkUnknown b m isOutgoing answer

end RtpBundle
