import LinphoneSdk.Bzrtp.Restart

/-!
# Keys of the session

The context that the session key is derived with when the session goes clear.
-/

namespace Bzrtp

open Bytes Chunks Exec List

/-! ### Context of the session key -/

section context

variable {P : CipherPrimitives}

def responderZID (ctx : ZrtpContext P) (role : Role) : Buf 12 :=
  match role with
  | .initiator => ctx.peerZID
  | .responder => ctx.selfZID

/-- A segment copied where another one of its length was hides it. -/
lemma patch_patch {α : Type} {l s t : List α} (h : s.length = t.length) : patch (patch l 0 s) 0 t = patch l 0 t := by
  simp [patch, h]

lemma toList_bufAt_patch (context : Buf 24) (ZID : Buf 12) :
    (bufAt (patch context.toList 0 ZID.toList) 0 24).toList = ZID.toList ++ context.toList.drop 12 := by
  have hlength : (ZID.toList ++ context.toList.drop 12).length = 24 := by simp
  rw [toList_bufAt, patch, take_zero, nil_append, drop_zero, Nat.zero_add, ZID.toList_length,
    takeD_eq_take _ hlength.ge, take_of_length_le hlength.le]

/-- The identifier of the initiator is not in the context. -/
lemma toList_sessionContext (ctx : ZrtpContext P) (role : Role) : (sessionContext ctx role).toList =
      (responderZID ctx role).toList ++ ctx.ZRTPSessContext.toList.drop 12 := by
  cases role with
  | initiator =>
    simp only [sessionContext, patch_patch (s := ctx.selfZID.toList) (t := ctx.peerZID.toList) (by simp)]
    exact toList_bufAt_patch ctx.ZRTPSessContext ctx.peerZID
  | responder =>
    simp only [sessionContext, patch_patch (s := ctx.peerZID.toList) (t := ctx.selfZID.toList) (by simp)]
    exact toList_bufAt_patch ctx.ZRTPSessContext ctx.selfZID

/-- The first bytes of the context would be those of the initiator. -/
lemma sessionContext_ne_channelZIDs {ctx : ZrtpContext P} (hZIDs : ctx.selfZID ≠ ctx.peerZID) (role : Role) :
    (sessionContext ctx role).toList ≠ channelZIDs ctx role := by
  intro h
  rw [toList_sessionContext] at h
  cases role with
  | initiator =>
    have hZID : ctx.peerZID.toList = ctx.selfZID.toList := (append_inj h (by simp)).1
    exact hZIDs (List.Vector.eq _ _ hZID.symm)
  | responder =>
    have hZID : ctx.selfZID.toList = ctx.peerZID.toList := (append_inj h (by simp)).1
    exact hZIDs (List.Vector.eq _ _ hZID)

lemma wp_computeS0DHM_sessionContext (w : World P) :
    wp computeS0DHM (fun _ w' => w'.ctx.ZRTPSessContext = sessionContext w.ctx w.ch.role) (fun _ _ => True) w := by
  simp only [computeS0DHM, wp_bind, wp_get]
  refine wp_setKDFContext _ (fun m hash _ _ => ?_) (fun _ => trivial)
  simp only [wp_deref, wp_modifyCh, wp_modifyCtx]
  refine ⟨fun _ _ => ?_, fun _ => trivial⟩
  refine wp_derive _ _ _ _ _ (fun _ => ?_) (fun _ => trivial)
  exact wp_deriveChannelKeys (fun _ _ _ _ => rfl) (fun _ => trivial)

/-- After the keys of an exchange between two identifiers, the context is never `ZIDi || ZIDr`. -/
theorem sessionContext_ne_of_computeS0DHM {w w' : World P} (hZIDs : w.ctx.selfZID ≠ w.ctx.peerZID)
    (hrun : computeS0DHM w = .ok () w') : w'.ctx.ZRTPSessContext.toList ≠ channelZIDs w.ctx w.ch.role := by
  have hcontext := wp_of_ok (wp_computeS0DHM_sessionContext w) hrun
  rw [hcontext]
  exact sessionContext_ne_channelZIDs hZIDs w.ch.role

end context

/-! ### A responder with its DHPart messages -/

def sampleX255DHPart : DHPartMessage where
  H1 := zeros 32
  rs1ID := zeros 8
  rs2ID := zeros 8
  pbxsecretID := zeros 8
  auxsecretID := zeros 8
  pv := replicate 32 5
  MAC := zeros 8

/-- A responder that has both DHPart messages, in a session with another identifier than its own. -/
def sampleExchangeWorld : World .sample where
  ctx := { ZrtpContext.sample sampleSettings with peerZID := bufAt (replicate 12 1) 0 12 }
  ch := { sampleWorld.ch with
    role := .responder
    algos := takeAlgos (.sample ZRTP_KEYAGREEMENT_X255) sampleWorld.ch.algos
    peerCommit := some (sampleCommitPacket ZRTP_KEYAGREEMENT_X255)
    selfDHPart := some ⟨.DHPart1, sampleX255DHPart, [], .whole []⟩
    peerDHPart := some ⟨⟨2, 116, .DHPart2, 0⟩, sampleX255DHPart, replicate 132 0⟩ }
  sent := []

lemma computeS0DHM_sampleExchangeWorld :
    computeS0DHM sampleExchangeWorld = .ok () (final computeS0DHM sampleExchangeWorld) :=
  eq_ok_of_returns (by decide +kernel)

lemma selfZID_ne_peerZID_sampleExchangeWorld :
    sampleExchangeWorld.ctx.selfZID ≠ sampleExchangeWorld.ctx.peerZID := by decide +kernel

theorem sessionContext_ne_of_computeS0DHM_responder :
    (final computeS0DHM sampleExchangeWorld).ctx.ZRTPSessContext.toList ≠
      channelZIDs sampleExchangeWorld.ctx .responder :=
  sessionContext_ne_of_computeS0DHM selfZID_ne_peerZID_sampleExchangeWorld computeS0DHM_sampleExchangeWorld

/-- The identifier of the initiator is missing. -/
theorem not_sessionContext_of_computeS0DHM :
    ¬ ∀ (P : CipherPrimitives) (w w' : World P), w.ctx.selfZID ≠ w.ctx.peerZID →
      computeS0DHM w = .ok () w' → w'.ctx.ZRTPSessContext.toList = channelZIDs w.ctx w.ch.role := by
  intro hall
  have hcontext := hall _ _ _ selfZID_ne_peerZID_sampleExchangeWorld computeS0DHM_sampleExchangeWorld
  have hwp := wp_of_ok (wp_computeS0DHM_sessionContext sampleExchangeWorld) computeS0DHM_sampleExchangeWorld
  rw [hwp] at hcontext
  exact sessionContext_ne_channelZIDs selfZID_ne_peerZID_sampleExchangeWorld .responder hcontext

end Bzrtp
