import LinphoneSdk.Lime.DoubleRatchet

/-!
# Messages to several recipients

`encryptMessage` runs `ratchetEncrypt` on the session of each recipient, inside one transaction;
`decryptMessage` tries the sessions of a sender one after another. The session objects are shared
with the caller: they are named by an address, and keep what a routine that raises did to them.
-/

namespace Lime

open Bytes Exec

variable {A : Curve} {C : Crypto A} {α : Type}

/-! ### Session objects -/

/-- The session objects, by address, and the local storage. -/
structure Memory (C : Crypto A) where
  sessions : ℕ → Session C
  db : Db C

/-- The state seen by a routine of the session at address `i`. -/
def Memory.world (mem : Memory C) (i : ℕ) (fault : Option Call) : World C :=
  ⟨mem.sessions i, mem.db, fault⟩

/-- The memory once a routine of the session at address `i` ended. -/
def Memory.store (mem : Memory C) (i : ℕ) (w : World C) : Memory C :=
  ⟨Function.update mem.sessions i w.session, w.db⟩

/-- Run a routine on the session at address `i`. -/
def onSession (i : ℕ) (fault : Option Call) (m : DRM C α) : EStateM Exception (Memory C) α :=
  fun mem =>
    match m (mem.world i fault) with
    | .ok a w => .ok a (mem.store i w)
    | .error e w => .error e (mem.store i w)

@[simp] lemma wp_onSession {Q : α → Memory C → Prop} {E : Exception → Memory C → Prop}
    {mem : Memory C} (i : ℕ) (fault : Option Call) (m : DRM C α) :
    wp (onSession i fault m) Q E mem ↔ wp m (fun a w => Q a (mem.store i w)) (fun e w => E e (mem.store i w))
        (mem.world i fault) := by
  simp only [wp, onSession]
  cases m (mem.world i fault) <;> rfl

/-! ### Encryption -/

inductive EncryptionPolicy where
  | DRMessage
  | cipherMessage
  | optimizeUploadSize
  | optimizeGlobalBandwidth
  deriving DecidableEq, Repr

/-- Is the payload in the Double Ratchet messages themselves? -/
def payloadDirectEncryption (policy : EncryptionPolicy) (recipients plaintext : ℕ) : Bool :=
  match policy with
  | .DRMessage => true
  | .cipherMessage => false
  | .optimizeGlobalBandwidth =>
    2 * recipients * plaintext ≤ plaintext + settings.DRMessageAuthTagSize +
      (2 * settings.DRrandomSeedSize + plaintext + settings.DRMessageAuthTagSize) * recipients
  | .optimizeUploadSize =>
    recipients * plaintext ≤ plaintext + settings.DRMessageAuthTagSize + settings.DRrandomSeedSize * recipients

structure RecipientInfos where
  deviceId : Bytes
  DRSession : ℕ

/-- What one encryption takes from the outside: random choices, time, and the call that raises. -/
structure Environment (C : Crypto A) where
  rnd : Randomness C
  now : ℤ
  fault : Option Call

/-- The payload sealed under the key derived from a random seed, with its tag. -/
def sealCipherMessage (C : Crypto A) (seed plaintext recipientUserId sourceDeviceId : Bytes) : Bytes :=
  let c := C.AEAD_encrypt (C.hkdfSeed seed) plaintext (sourceDeviceId ++ recipientUserId)
  c.1 ++ c.2.toList

def encryptRecipients (payload AD : Bytes) (direct : Bool) :
    List RecipientInfos → (ℕ → Environment C) → EStateM Exception (Memory C) (List Bytes)
  | [], _ => return []
  | r :: rest, env => do
    let message ← onSession r.DRSession (env 0).fault
      (ratchetEncrypt (env 0).rnd (env 0).now payload (AD ++ r.deviceId) direct)
    let messages ← encryptRecipients payload AD direct rest fun i => env (i + 1)
    return message :: messages

/-- Encrypt a message to several recipients; `seed` is the one given by the callback, which goes with
a cipher message computed by an earlier call. Any exception rolls the transaction back. -/
def encryptMessage (recipients : List RecipientInfos)
    (plaintext recipientUserId sourceDeviceId cipherMessage : Bytes) (policy : EncryptionPolicy)
    (seed : Option Bytes) (newSeed : Buf settings.DRrandomSeedSize)
    (env : ℕ → Environment C) :
    EStateM Exception (Memory C) (Bytes × List Bytes) := do
  let direct := payloadDirectEncryption policy recipients.length plaintext.length
  let randomSeed := seed.getD newSeed.toList
  let cipherMessage := if direct || seed.isSome then cipherMessage
    else sealCipherMessage C randomSeed plaintext recipientUserId sourceDeviceId
  let AD := (if direct then recipientUserId else cipherMessage.drop plaintext.length) ++ sourceDeviceId
  let before := (← get).db
  let messages ← tryCatch
    (encryptRecipients (if direct then plaintext else randomSeed) AD direct recipients env) fun _ => do
      modify fun mem => { mem with db := before }
      throw .bctbx
  return (cipherMessage, messages)

/-! ### Decryption -/

/-- The payload of a cipher message, under the key derived from the random seed. As in `decrypt`, a size that is
negative would make the resize of the output raise. -/
def openCipherMessage (C : Crypto A) (seed cipherMessage AD : Bytes) : EStateM Exception (Memory C) Bytes :=
  if cipherMessage.length < settings.DRMessageAuthTagSize then throw .std
  else
    let size := cipherMessage.length - settings.DRMessageAuthTagSize
    match C.AEAD_decrypt (C.hkdfSeed seed) (cipherMessage.take size) AD (cipherMessage.drop size) with
    | some plaintext => return plaintext
    | none => throw .bctbx

/-- A session that raises a `BctbxException` could not decrypt. -/
def tryRatchetDecrypt (i : ℕ) (fault : Option Call) (now : ℤ) (DRmessage AD : Bytes) (direct : Bool) :
    EStateM Exception (Memory C) (Option Bytes) :=
  tryCatch (onSession i fault (ratchetDecrypt now DRmessage AD direct)) fun e =>
    match e with
    | .bctbx => return none
    | .std => throw .std

/-- Try the sessions one after another. -/
def decryptSessions (now : ℤ) (DRmessage AD localAD cipherMessage : Bytes) (direct : Bool) :
    List ℕ → (ℕ → Option Call) → EStateM Exception (Memory C) (Option (ℕ × Bytes))
  | [], _ => return none
  | i :: rest, fault => do
    match ← tryRatchetDecrypt i (fault 0) now DRmessage AD direct with
    | none => decryptSessions now DRmessage AD localAD cipherMessage direct rest fun n => fault (n + 1)
    | some output =>
      if direct then return some (i, output)
      else return some (i, ← openCipherMessage C output cipherMessage localAD)

/-- The session that decrypts a message, and the plain text. Without a cipher message the payload is in the Double
Ratchet message. -/
def decryptMessage (now : ℤ) (sourceDeviceId recipientDeviceId recipientUserId : Bytes) (DRSessions : List ℕ)
    (DRmessage cipherMessage : Bytes) (fault : ℕ → Option Call) :
    EStateM Exception (Memory C) (Option (ℕ × Bytes)) :=
  let direct := cipherMessage.isEmpty
  let localAD := sourceDeviceId ++ recipientUserId
  if ¬ direct ∧ cipherMessage.length < settings.DRMessageAuthTagSize then throw .bctbx
  else
    let tag := cipherMessage.drop (cipherMessage.length - settings.DRMessageAuthTagSize)
    let AD := (if direct then recipientUserId else tag) ++ sourceDeviceId ++ recipientDeviceId
    decryptSessions now DRmessage AD localAD cipherMessage direct DRSessions fault

end Lime
