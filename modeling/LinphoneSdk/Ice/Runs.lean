import LinphoneSdk.Ice.Sessions

/-!
# Runs

A run applies operations to a new session. It does not go on once a list refers to a pair that was freed, since nothing
is said of what the code does then.
-/

namespace Ice

open Bytes Stun

namespace IceCheckList

/-- The pairs that the lists of a check list refer to, apart from the list of its pairs. -/
inductive Refers (cl : IceCheckList) (p : PairId) : Prop where
  | check_list (h : p ∈ cl.check_list)
  | triggered_checks_queue (h : p ∈ cl.triggered_checks_queue)
  | losing_pairs (h : p ∈ cl.losing_pairs)
  | valid (v : ValidId) (hv : v ∈ cl.valid_list) (h : cl.validOf v = p)
  | generated_from (v : ValidId) (hv : v ∈ cl.valid_list) (h : cl.generatedFrom v = p)
  | transaction (transaction : IceTransaction) (ht : transaction ∈ cl.transaction_list) (h : transaction.pair = p)

def Owns (cl : IceCheckList) : Prop := ∀ p, cl.Refers p → p ∈ cl.pairs

lemma owns_iff (cl : IceCheckList) : cl.Owns ↔
    (∀ p ∈ cl.check_list, p ∈ cl.pairs) ∧ (∀ p ∈ cl.triggered_checks_queue, p ∈ cl.pairs) ∧
      (∀ p ∈ cl.losing_pairs, p ∈ cl.pairs) ∧
      (∀ v ∈ cl.valid_list, cl.validOf v ∈ cl.pairs ∧ cl.generatedFrom v ∈ cl.pairs) ∧
      ∀ transaction ∈ cl.transaction_list, transaction.pair ∈ cl.pairs := by
  constructor
  · intro h
    exact ⟨fun p hp => h p (.check_list hp), fun p hp => h p (.triggered_checks_queue hp),
      fun p hp => h p (.losing_pairs hp), fun v hv => ⟨h _ (.valid v hv rfl), h _ (.generated_from v hv rfl)⟩,
      fun transaction ht => h _ (.transaction transaction ht rfl)⟩
  · rintro ⟨hcheck, htriggered, hlosing, hvalid, htransaction⟩ p hp
    cases hp with
    | check_list h => exact hcheck p h
    | triggered_checks_queue h => exact htriggered p h
    | losing_pairs h => exact hlosing p h
    | valid v hv h => exact h ▸ (hvalid v hv).1
    | generated_from v hv h => exact h ▸ (hvalid v hv).2
    | transaction transaction ht h => exact h ▸ htransaction transaction ht

instance (cl : IceCheckList) : Decidable cl.Owns := decidable_of_iff' _ cl.owns_iff

end IceCheckList

/-- The base that a local candidate is added with is a local candidate of its component. -/
def Operation.HasBase (a : Agent) : Operation → Prop
  | .addLocalCandidate i _ _ componentID (some base) =>
    base ∈ (a.cl i).local_candidates ∧ ((a.cl i).candidate base).componentID = componentID
  | _ => True

instance (a : Agent) (op : Operation) : Decidable (op.HasBase a) := by
  cases op with
  | addLocalCandidate i type taddr componentID base =>
    cases base with
    | none => exact inferInstanceAs (Decidable True)
    | some base => exact inferInstanceAs (Decidable (_ ∧ _))
  | _ => exact inferInstanceAs (Decidable True)

/-! ### Runs that are computed -/

def runOf (P : Platform) (a : Agent) : List Operation → Option Agent
  | [] => some a
  | op :: ops =>
    if (∀ i, ∀ cl ∈ a.session.streams i, cl.Owns) ∧ (∀ i ∈ op.index, (a.session.streams i).isSome) ∧ op.HasBase a then
      (a.apply P op).bind fun a => runOf P a ops
    else none

/-- A platform whose clock gives successive seconds, whose random numbers are successive and whose hash functions hash
nothing. An address is a byte. -/
def plainPlatform : Platform where
  digests := ⟨fun _ _ => zeros 20, fun _ => zeros 16⟩
  clock n := ⟨n, 0⟩
  randomTrId n := bufAt [.ofNat n] 0 12
  randomTieBreaker n := .ofNat n
  randomUfrag _ := text "ufrag"
  randomPwd _ := text "pwd"
  arbitraryFoundation n _ := decimal n
  toStunAddress taddr := .v4 (.ofNat taddr.port.toNat) (.ofNat (taddr.ip.val.headD 0).toNat)
  toTransportAddress
    | .v4 port addr => ⟨.ofBytes [addr.toUInt8], port.toNat, AF_INET⟩
    | .v6 port _ => ⟨.ofBytes [], port.toNat, AF_INET6⟩
    | .other _ _ _ => ⟨.ofBytes [], 0, 0⟩

def plainAddress (ip : UInt8) (port : ℤ) : IceTransportAddress := ⟨.ofBytes [ip], port, AF_INET⟩

def checkOperations : List Operation :=
  [.addCheckList 0 true, .addLocalCandidate 0 .host (plainAddress 1 1000) 1 none,
    .addRemoteCandidate 0 .host (plainAddress 2 2000) 1 0 (text "1") false,
    .setRemoteCredentials (text "far") (text "away"), .computeCandidatesFoundations, .startConnectivityChecks,
    .process 0]

end Ice
