import LinphoneSdk.Bzrtp.Parser

/-!
# What the parser reads

The parser reads inside the packet exactly when the packet is long enough for the message it declares,
unless a check made before stops it.
-/

namespace Bzrtp

open Bytes Chunks Exec Reading Cursor

namespace Parsed

/-- The parser read inside the packet, and inside the plain text if there is one. -/
def InBounds (r : Parsed) : Prop := r.input.InBounds ∧ ∀ c, r.plain = some c → c.InBounds

lemma inBounds_ofRun {α : Type} (toData : α → MessageData) (m : Parse α) (c : Cursor) :
    (ofRun toData (m c)).InBounds ↔ wp m (fun _ c => c.InBounds) (fun _ c => c.InBounds) c := by
  rw [wp]
  cases m c <;> simp [ofRun, InBounds]

end Parsed

section bounds

variable (P : CipherPrimitives) (ch : ParserContext) (zrtpPacket : Packet) (input : Block)

def typesAt (b : Block) (offset hc cc ac kc sc : ℕ) : CryptoTypes where
  supportedHash := CryptoTypes.readTypes .hash (b.readWords offset hc)
  supportedCipher := CryptoTypes.readTypes .cipherBlock (b.readWords (offset + 4 * hc) cc)
  supportedAuthTag := CryptoTypes.readTypes .authTag (b.readWords (offset + 4 * (hc + cc)) ac)
  supportedKeyAgreement :=
    CryptoTypes.readTypes .keyAgreement (b.readWords (offset + 4 * (hc + cc + ac)) kc)
  supportedSas := CryptoTypes.readTypes .sas (b.readWords (offset + 4 * (hc + cc + ac + kc)) sc)

lemma wp_parseTypes {hc cc ac kc sc : ℕ} {Q : CryptoTypes → Cursor → Prop}
    {E : ParserError → Cursor → Prop} {c : Cursor} : wp (parseTypes hc cc ac kc sc) Q E c ↔
      Q (typesAt c.block c.position hc cc ac kc sc) (c.advance (4 * (hc + cc + ac + kc + sc))) := by
  simp only [parseTypes, wp_bind, wp_nextWords, wp_pure, block_advance,
    position_advance, advance_advance, typesAt, Nat.mul_add, Nat.add_assoc]

def byteAt (b : Block) (offset : ℕ) : UInt8 := (b.read offset 1).headD 0

def contentCursor (input : Block) : Cursor :=
  .start input (ZRTP_PACKET_HEADER_LENGTH + ZRTP_MESSAGE_HEADER_LENGTH)

lemma block_contentCursor : (contentCursor input).block = input := rfl

lemma position_contentCursor : (contentCursor input).position = 24 := rfl

lemma inBounds_contentCursor : (contentCursor input).InBounds := Nat.zero_le _

/-- The hash of the Hello message is not the one of the signaling. -/
def HelloHashMismatch : Prop :=
  ∃ peerHelloHash, ch.peerHelloHash = some peerHelloHash ∧ sha256 P.toPrimitives (input.read ZRTP_PACKET_HEADER_LENGTH
      (input.bytes.length - ZRTP_PACKET_OVERHEAD)) ≠ peerHelloHash

/-- Number of algorithms in a Hello message. -/
def helloTypesCount : ℕ :=
  typesCount (byteAt input 89) + typesCount (byteAt input 90 >>> 4) + typesCount (byteAt input 90) +
    typesCount (byteAt input 91 >>> 4) + typesCount (byteAt input 91)

/-- A Hello message is read up to its counts of algorithms, then up to its end when its length is the
one they give. -/
def HelloCovered : Prop :=
  (ch.peerHelloHash.isSome → ZRTP_PACKET_OVERHEAD ≤ input.bytes.length) ∧ (HelloHashMismatch P ch input ∨
      92 ≤ input.bytes.length ∧ (zrtpPacket.messageLength.toNat =
            ZRTP_HELLOMESSAGE_FIXED_LENGTH + 4 * helloTypesCount input →
          ZRTP_PACKET_HEADER_LENGTH + zrtpPacket.messageLength.toNat ≤ input.bytes.length))

lemma helloHashLength_of_le {n : ℕ} (h : ZRTP_PACKET_OVERHEAD ≤ n) (hlength : n < 2 ^ 16) :
    helloHashLength n = n - ZRTP_PACKET_OVERHEAD := by
  rw [helloHashLength]
  simp only [ZRTP_PACKET_OVERHEAD, ZRTP_PACKET_HEADER_LENGTH, ZRTP_PACKET_CRC_LENGTH] at *
  omega

lemma lt_helloHashLength {n : ℕ} (h : n < ZRTP_PACKET_OVERHEAD) : n < helloHashLength n := by
  rw [helloHashLength]
  simp only [ZRTP_PACKET_OVERHEAD, ZRTP_PACKET_HEADER_LENGTH, ZRTP_PACKET_CRC_LENGTH] at *
  omega

lemma inBounds_parseHelloContent {c : Cursor} (hblock : c.block = input) (hposition : c.position = 24) :
    wp (parseHelloContent zrtpPacket) (fun _ c => c.InBounds) (fun _ c => c.InBounds) c ↔
      c.InBounds ∧ 92 ≤ input.bytes.length ∧ (zrtpPacket.messageLength.toNat =
            ZRTP_HELLOMESSAGE_FIXED_LENGTH + 4 * helloTypesCount input →
          ZRTP_PACKET_HEADER_LENGTH + zrtpPacket.messageLength.toNat ≤ input.bytes.length) := by
  simp only [parseHelloContent, wp_bind, wp_nextBuf, wp_nextByte, wp_parseTypes, wp_ite, wp_throw,
    wp_pure, block_advance, position_advance, Nat.add_assoc, Nat.reduceAdd,
    inBounds_advance, hblock, hposition, helloTypesCount, byteAt,
    ZRTP_HELLOMESSAGE_FIXED_LENGTH, ZRTP_PACKET_HEADER_LENGTH]
  generalize typesCount ((input.read 89 1).headD 0) + _ = count
  rw [InBounds]
  omega

lemma inBounds_parseHello (hlength : input.bytes.length < 2 ^ 16) :
    wp (parseHello P ch zrtpPacket) (fun _ c => c.InBounds) (fun _ c => c.InBounds)
        (contentCursor input) ↔ HelloCovered P ch zrtpPacket input := by
  simp only [parseHello, checkHelloHash, wp_bind]
  cases hhash : ch.peerHelloHash with
  | none =>
    rw [wp_pure, inBounds_parseHelloContent zrtpPacket input rfl rfl]
    simp [HelloCovered, HelloHashMismatch, hhash, contentCursor]
  | some peerHelloHash =>
    simp only [wp_bind, wp_get, wp_peek, wp_ite, wp_throw, wp_pure]
    rw [inBounds_parseHelloContent zrtpPacket input rfl rfl]
    simp only [HelloCovered, HelloHashMismatch, hhash, inBounds_touch, block_contentCursor]
    by_cases hn : ZRTP_PACKET_OVERHEAD ≤ input.bytes.length
    · have hend : ZRTP_PACKET_HEADER_LENGTH + (input.bytes.length - ZRTP_PACKET_OVERHEAD) ≤
          input.bytes.length := by
        simp only [ZRTP_PACKET_OVERHEAD, ZRTP_PACKET_CRC_LENGTH] at hn ⊢
        omega
      simp [helloHashLength_of_le hn hlength, hn, hend, inBounds_contentCursor]
      tauto
    · have hlt := lt_helloHashLength (not_le.mp hn)
      have hnot : ¬ (helloHashLength input.bytes.length = 0 ∨
          ZRTP_PACKET_HEADER_LENGTH + helloHashLength input.bytes.length ≤ input.bytes.length) := by
        omega
      simp [hn, hnot]

/-! ### Commit -/

def commitKeyAgreement : UInt8 := cryptoAlgoTypeStringToInt (input.read 80 4) .keyAgreement

/-- Size of the part of a Commit message that depends on the key agreement, as it is read. -/
def commitVariableSize (keyAgreementAlgo : UInt8) : ℕ :=
  if keyAgreementAlgo = ZRTP_KEYAGREEMENT_Prsh then 24
  else if keyAgreementAlgo = ZRTP_KEYAGREEMENT_Mult then 16
  else if isKem keyAgreementAlgo then
    32 + (computeKeyAgreementPublicValueLength P.toPrimitives keyAgreementAlgo .commit).toNat
  else 32

/-- A Commit message is read up to its key agreement when it reveals the H2 of the peer, then up to its
end when its length is the one the key agreement gives. -/
def CommitCovered : Prop :=
  56 ≤ input.bytes.length ∧ (checkHello P.toPrimitives ch (input.readBuf 24 32) = .ok () → 84 ≤ input.bytes.length ∧
        (computeCommitMessageVariableLength P.toPrimitives (commitKeyAgreement input) ≠ 0 →
          zrtpPacket.messageLength.toNat = ZRTP_COMMITMESSAGE_FIXED_LENGTH +
            (computeCommitMessageVariableLength P.toPrimitives (commitKeyAgreement input)).toNat →
          ZRTP_PACKET_HEADER_LENGTH + ZRTP_COMMITMESSAGE_FIXED_LENGTH +
            commitVariableSize P (commitKeyAgreement input) ≤ input.bytes.length))

lemma wp_parseCommitVariable (message : CommitMessage) {R : Cursor → Prop}
    {E : ParserError → Cursor → Prop} {c : Cursor} : wp (parseCommitVariable P message) (fun _ c => R c) E c ↔
      R (c.advance (commitVariableSize P message.keyAgreementAlgo)) := by
  simp only [parseCommitVariable, commitVariableSize]
  split_ifs <;> simp_all [advance_advance]

lemma inBounds_parseCommit : wp (parseCommit P ch zrtpPacket) (fun _ c => c.InBounds) (fun _ c => c.InBounds)
        (contentCursor input) ↔ CommitCovered P ch zrtpPacket input := by
  simp only [parseCommit, wp_bind, wp_nextBuf, wp_ofExcept, nextAlgo, wp_map, wp_next, wp_ite, wp_throw, wp_pure]
  simp only [wp_parseCommitVariable, advance_advance, block_advance,
    position_advance, block_contentCursor, position_contentCursor, Nat.reduceAdd, inBounds_advance,
    inBounds_contentCursor, true_and, CommitCovered, commitKeyAgreement, ZRTP_PACKET_HEADER_LENGTH,
    ZRTP_COMMITMESSAGE_FIXED_LENGTH]
  generalize cryptoAlgoTypeStringToInt (input.read 80 4) .keyAgreement = keyAgreementAlgo
  cases checkHello P.toPrimitives ch (input.readBuf 24 32) with
  | error e => simp
  | ok a =>
    by_cases hvariable : computeCommitMessageVariableLength P.toPrimitives keyAgreementAlgo = 0
    · simp [hvariable]
      omega
    · simp [hvariable]
      omega

/-- A DHPart message whose length is the one the key agreement gives is read up to its H1, then up to
its end when this H1 is the one of the peer. -/
def DHPartCovered : Prop :=
  let pvLength := computeKeyAgreementPublicValueLength P.toPrimitives ch.algos.keyAgreementAlgo
    zrtpPacket.messageType
  pvLength ≠ 0 → zrtpPacket.messageLength.toNat = ZRTP_DHPARTMESSAGE_FIXED_LENGTH + pvLength.toNat →
    56 ≤ input.bytes.length ∧ (checkH1 P.toPrimitives ch (input.readBuf 24 32) = .ok () →
        ZRTP_PACKET_HEADER_LENGTH + zrtpPacket.messageLength.toNat ≤ input.bytes.length)

lemma inBounds_parseDHPart : wp (parseDHPart P ch zrtpPacket) (fun _ c => c.InBounds) (fun _ c => c.InBounds)
        (contentCursor input) ↔ DHPartCovered P ch zrtpPacket input := by
  simp only [parseDHPart, DHPartCovered]
  generalize computeKeyAgreementPublicValueLength P.toPrimitives ch.algos.keyAgreementAlgo
    zrtpPacket.messageType = pvLength
  simp only [wp_bind, wp_nextBuf, wp_ofExcept, wp_peek, wp_next, wp_ite, wp_throw, wp_pure]
  simp only [advance_advance, block_advance, position_advance,
    position_touch, block_touch, block_contentCursor, position_contentCursor, Nat.reduceAdd,
    inBounds_advance, inBounds_touch, inBounds_contentCursor, true_and, ZRTP_PACKET_HEADER_LENGTH,
    ZRTP_DHPARTMESSAGE_FIXED_LENGTH]
  by_cases hpv : pvLength = 0
  · simp [hpv]
  by_cases hmessage : zrtpPacket.messageLength.toNat = 84 + pvLength.toNat
  · cases checkH1 P.toPrimitives ch (input.readBuf 24 32) with
    | error e => simp [hpv, hmessage]
    | ok a =>
      cases hrole : ch.role with
      | initiator =>
        simp [hpv, hmessage]
        omega
      | responder =>
        cases checkHvi P.toPrimitives ch (input.read 12 zrtpPacket.messageLength.toNat) with
        | error e => simp [hpv, hmessage]
        | ok b =>
          simp [hpv, hmessage]
          omega
  · simp [hpv, hmessage]

/-! ### Confirm -/

variable (outside : ℕ → UInt8)

def plainBlock (key : Bytes) : Block where
  bytes := confirmPlain P ch key (input.readBuf 32 16)
    (input.read 48 (cipherTextLength zrtpPacket.messageLength).toNat)
  outside := outside

def signatureLength (plain : Block) : UInt16 := word16 (byteAt plain 33 &&& 0x01) (byteAt plain 34)

/-- The plain text is read up to its H0, then up to its signature when this H0 is the one of the peer,
then up to the end of its signature. -/
def PlainCovered (plain : Block) : Prop :=
  32 ≤ plain.bytes.length ∧ (checkH0 P.toPrimitives ch (plain.readBuf 0 32) = .ok () →
      40 + 4 * (signatureLength plain).toNat ≤ plain.bytes.length)

/-- With the keys of the peer, a Confirm message is read up to its end; its length leaves room for a
cipher text. Its plain text is read when the MAC is right. -/
def ConfirmCovered : Prop :=
  ∀ key macKey, confirmKeys ch = some (key, macKey) → 36 ≤ zrtpPacket.messageLength.toNat ∧
      ZRTP_PACKET_HEADER_LENGTH + zrtpPacket.messageLength.toNat ≤ input.bytes.length ∧
      (confirmMAC P ch macKey (input.read 48 (cipherTextLength zrtpPacket.messageLength).toNat) = input.readBuf 24 8 →
        PlainCovered P ch (plainBlock P ch zrtpPacket input outside key))

lemma inBounds_parsePlain (plain : Block) (confirm_mac : Buf 8) (CFBIV : Buf 16) :
    wp (parsePlain P ch confirm_mac CFBIV) (fun _ c => c.InBounds) (fun _ c => c.InBounds)
        (.start plain 0) ↔ PlainCovered P ch plain := by
  simp only [parsePlain, wp_bind, wp_nextBuf, wp_skip, wp_ofExcept, wp_nextByte, wp_next, wp_ite, wp_pure]
  simp only [block_advance, position_advance, block_skip, position_skip,
    block_start, position_start, Nat.zero_add, Nat.reduceAdd, inBounds_advance,
    inBounds_skip, inBounds_start, true_and, PlainCovered, signatureLength, byteAt]
  generalize word16 ((plain.read 33 1).headD 0 &&& 1) ((plain.read 34 1).headD 0) = sig_len
  have hpos : sig_len > 0 ↔ 0 < sig_len.toNat := UInt16.lt_iff_toNat_lt
  rw [hpos]
  cases checkH0 P.toPrimitives ch (plain.readBuf 0 32) with
  | error e => simp
  | ok a =>
    simp
    omega

/-- A length that leaves no room for a cipher text gives it a huge one. -/
lemma cipherTextLength_toNat (messageLength : UInt16) : (cipherTextLength messageLength).toNat =
      if 36 ≤ messageLength.toNat then messageLength.toNat - 36 else messageLength.toNat + 65500 := by
  have hlt := messageLength.toNat_lt
  have h12 : ZRTP_MESSAGE_HEADER_LENGTH.toUInt16.toNat = 12 := rfl
  have h24 : (24 : UInt16).toNat = 24 := rfl
  rw [cipherTextLength, UInt16.toNat_sub, UInt16.toNat_sub]
  split_ifs <;> omega

lemma inBounds_cipherText (hlength : input.bytes.length < 2 ^ 16) :
    (((contentCursor input).advance 8).advance 16 |>.advance
        (cipherTextLength zrtpPacket.messageLength).toNat).InBounds ↔ 36 ≤ zrtpPacket.messageLength.toNat ∧
        ZRTP_PACKET_HEADER_LENGTH + zrtpPacket.messageLength.toNat ≤ input.bytes.length := by
  simp only [inBounds_advance, block_advance, position_advance, block_contentCursor,
    position_contentCursor, inBounds_contentCursor, true_and, Nat.reduceAdd, cipherTextLength_toNat,
    ZRTP_PACKET_HEADER_LENGTH]
  by_cases hroom : 36 ≤ zrtpPacket.messageLength.toNat
  · rw [if_pos hroom]
    omega
  · rw [if_neg hroom]
    omega

lemma inBounds_parseConfirm (hlength : input.bytes.length < 2 ^ 16) :
    (parseConfirm P ch zrtpPacket outside (contentCursor input)).InBounds ↔
      ConfirmCovered P ch zrtpPacket input outside := by
  have hwp : (parseConfirm P ch zrtpPacket outside (contentCursor input)).InBounds ↔
      wp (openConfirm P ch zrtpPacket) (fun r c => c.InBounds ∧
        wp (parsePlain P ch r.1 r.2.1) (fun _ c' => c'.InBounds) (fun _ c' => c'.InBounds)
          (.start ⟨r.2.2, outside⟩ 0)) (fun _ c => c.InBounds) (contentCursor input) := by
    simp only [parseConfirm, wp]
    cases openConfirm P ch zrtpPacket (contentCursor input) with
    | error e c => simp [Parsed.InBounds]
    | ok r c =>
      obtain ⟨confirm_mac, CFBIV, plain⟩ := r
      cases hplain : parsePlain P ch confirm_mac CFBIV (.start ⟨plain, outside⟩ 0) with
      | error e c' => simp [Parsed.InBounds, hplain]
      | ok m c' => simp [Parsed.InBounds, hplain]
  rw [hwp]
  simp only [openConfirm, ConfirmCovered]
  cases hkeys : confirmKeys ch with
  | none => simp [inBounds_contentCursor]
  | some keys =>
    obtain ⟨key, macKey⟩ := keys
    simp only [wp_bind, wp_nextBuf, wp_next, wp_ite, wp_throw, wp_pure, inBounds_parsePlain]
    rw [inBounds_cipherText zrtpPacket input hlength]
    simp only [block_advance, position_advance, block_contentCursor, position_contentCursor,
      Nat.reduceAdd, Option.some_inj, Prod.mk.injEq, plainBlock]
    constructor
    · rintro ⟨hmismatch, hmatch⟩ _ _ ⟨rfl, rfl⟩
      by_cases hmac : confirmMAC P ch macKey
          (input.read 48 (cipherTextLength zrtpPacket.messageLength).toNat) = input.readBuf 24 8
      · obtain ⟨⟨hroom, hend⟩, hplain⟩ := hmatch (not_not.mpr hmac)
        exact ⟨hroom, hend, fun _ => hplain⟩
      · obtain ⟨hroom, hend⟩ := hmismatch hmac
        exact ⟨hroom, hend, fun h => absurd h hmac⟩
    · intro h
      obtain ⟨hroom, hend, hplain⟩ := h key macKey ⟨rfl, rfl⟩
      exact ⟨fun _ => ⟨hroom, hend⟩, fun hmac => ⟨⟨hroom, hend⟩, hplain (not_not.mp hmac)⟩⟩

/-- The packet is long enough for what its message declares, or a check made before stops the parser.
-/
def Covered : Prop :=
  match zrtpPacket.messageType with
  | .hello => HelloCovered P ch zrtpPacket input
  | .commit => CommitCovered P ch zrtpPacket input
  | .DHPart1 | .DHPart2 => DHPartCovered P ch zrtpPacket input
  | .confirm1 | .confirm2 => ConfirmCovered P ch zrtpPacket input outside
  | .goClear => 32 ≤ input.bytes.length
  | .ping => 36 ≤ input.bytes.length
  | _ => True

/-- The parser reads inside the packet, and inside the plain text of a Confirm message, exactly when
the packet covers what it reads. -/
theorem packetParser_inBounds_iff (hlength : input.bytes.length < 2 ^ 16) :
    (packetParser P ch zrtpPacket outside input).InBounds ↔ Covered P ch zrtpPacket input outside := by
  have hcursor : start input (ZRTP_PACKET_HEADER_LENGTH + ZRTP_MESSAGE_HEADER_LENGTH) =
      contentCursor input := rfl
  simp only [packetParser, Covered, hcursor]
  cases zrtpPacket.messageType with
  | hello =>
    rw [Parsed.inBounds_ofRun]
    exact inBounds_parseHello P ch zrtpPacket input hlength
  | commit =>
    rw [Parsed.inBounds_ofRun]
    exact inBounds_parseCommit P ch zrtpPacket input
  | DHPart1 | DHPart2 =>
    rw [Parsed.inBounds_ofRun]
    exact inBounds_parseDHPart P ch zrtpPacket input
  | confirm1 | confirm2 => exact inBounds_parseConfirm P ch zrtpPacket input outside hlength
  | goClear =>
    rw [Parsed.inBounds_ofRun, wp_nextBuf, inBounds_advance]
    simp [inBounds_contentCursor, block_contentCursor, position_contentCursor]
  | ping =>
    rw [Parsed.inBounds_ofRun]
    simp only [wp_bind, wp_nextBuf, wp_pure, inBounds_advance, block_advance,
      position_advance, block_contentCursor, position_contentCursor, inBounds_contentCursor, true_and]
    omega
  | helloACK =>
    rw [Parsed.inBounds_ofRun]
    simp [parseHelloACK, wp_ite, inBounds_contentCursor]
  | conf2ACK | error | errorACK | clearACK | SASRelay | relayACK | pingACK =>
    simp [Parsed.InBounds, inBounds_contentCursor]

end bounds

/-! ### A Hello message without content -/

/-- The primitives of the sample, with ciphers that add the first byte of the key. -/
def CipherPrimitives.sample : CipherPrimitives where
  toPrimitives := .sample
  cipherEncryption _ key _ plain := plain.map (· + key.headD 0)
  cipherDecryption _ key _ cipherText := cipherText.map (· - key.headD 0)

def HelloMessage.blank : HelloMessage where
  toCryptoTypes := ⟨[], [], [], [], []⟩
  version := zeros 4
  clientIdentifier := zeros 16
  H3 := zeros 32
  ZID := zeros 12
  S := false
  M := false
  P := false
  MAC := zeros 8

/-- A channel that received nothing yet. -/
def ParserContext.blank (role : Role) : ParserContext where
  peerHelloHash := none
  role := role
  algos := .unset
  mackeyi := none
  mackeyr := none
  zrtpkeyi := none
  zrtpkeyr := none
  peerHello := none
  peerCommit := none
  peerDHPart := none
  selfHello := ⟨⟨0, 88, .hello, 0⟩, .blank, List.replicate 104 0⟩

def helloHeaderPacket : Bytes :=
  [0x10, 0, 0, 1] ++ be32 ZRTP_MAGIC_COOKIE ++ [0, 0, 0, 0] ++ [0x50, 0x5a, 0, 3] ++
    messageTypeString .hello ++ [47, 126, 154, 96]

/-- The bounds of that packet. -/
theorem packetParser_inBounds_iff_helloHeader :
    (packetParser .sample (.blank .initiator) ⟨1, 12, .hello, 0⟩ (fun _ => 0)
        ⟨helloHeaderPacket, fun _ => 0⟩).InBounds ↔
      Covered .sample (.blank .initiator) ⟨1, 12, .hello, 0⟩ ⟨helloHeaderPacket, fun _ => 0⟩
        fun _ => 0 :=
  packetParser_inBounds_iff .sample (.blank .initiator) ⟨1, 12, .hello, 0⟩
    ⟨helloHeaderPacket, fun _ => 0⟩ (fun _ => 0) (by decide)

/-- The packet is accepted by the check, and the parser reads after its end. -/
theorem not_packetParser_inBounds :
    ¬ ∀ (P : CipherPrimitives) (ch : ParserContext) (malloc : (n : ℕ) → Buf n) (c : ChannelContext)
      (packet : Bytes) (zrtpPacket : Packet) (input : Bytes) (outside : ℕ → UInt8),
      (packetCheck malloc packet c).result = .packet zrtpPacket input →
      (packetParser P ch zrtpPacket outside ⟨input, outside⟩).InBounds := by
  intro hall
  have hcheck : (packetCheck zeros helloHeaderPacket .init).result = .packet ⟨1, 12, .hello, 0⟩ helloHeaderPacket := by
    decide +kernel
  have hinput := (hall .sample (.blank .initiator) zeros .init helloHeaderPacket _ _ (fun _ => 0)
    hcheck).1
  revert hinput
  decide +kernel

end Bzrtp
