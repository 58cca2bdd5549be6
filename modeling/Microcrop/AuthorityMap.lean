import Microcrop.CertificateAgreement
import Microcrop.Keepers

/-!
# The authority behind every change

Which stored values of the four contracts an operation may change, and whose
authorization the change takes: a signature of the invocation, or the
contract that makes the call.  Every contract has its own map, proved for its
own calls; the last part puts the four maps together along every run of
invocations and keepers.
-/

namespace Microcrop

open Transaction

/-- Whose authorization covers the calls that one operation makes to a
contract: the addresses that signed them, or the contracts that make them. -/
structure Authorization where
  signed : Address → Bool
  calling : Address → Bool

namespace Authorization

/-- No call reaches the contract. -/
def absent : Authorization where
  signed _ := false
  calling _ := false

/-- The invocation itself calls the contract. -/
def ofSigners (env : Env) : Authorization where
  signed := env.authorized
  calling _ := false

/-- The contract at `address` makes the call. -/
def ofContract (address : Address) : Authorization where
  signed _ := false
  calling who := who = address

/-- `who` signed the call or makes it. -/
def Covers (authorization : Authorization) (who : Address) : Prop :=
  authorization.signed who = true ∨ authorization.calling who = true

/-- A holder of the role signed the call. -/
def SignedBy (authorization : Authorization) (roles : Roles) (role : Role) :
    Prop :=
  ∃ who, authorization.signed who = true ∧ roles role who = true

/-- A holder of the role signed the call or makes it. -/
def CoveredBy (authorization : Authorization) (roles : Roles) (role : Role) :
    Prop :=
  ∃ who, authorization.Covers who ∧ roles role who = true

theorem ofContract_covers (address : Address) :
    (ofContract address).Covers address :=
  Or.inr (decide_eq_true rfl)

end Authorization

/-! ## PolicyManager -/

namespace PolicyManager

/-- How the entry of a policy may change at the time `now`, and whose
authorization each change takes. -/
inductive PolicyChange (authorization : Authorization) (roles : Roles)
    (now : Nat) : Option Policy → Option Policy → Prop
  | created {policy : Policy} (pending : policy.status = .pending)
      (backend : authorization.SignedBy roles .backend) :
      PolicyChange authorization roles now none (some policy)
  | activated {policy : Policy} {startDate endDate : Nat}
      (pending : policy.status = .pending)
      (backend : authorization.SignedBy roles .backend) :
      PolicyChange authorization roles now (some policy)
        (some { policy with status := .active, startDate, endDate })
  | cancelledPending {policy : Policy} (pending : policy.status = .pending)
      (allowed : authorization.SignedBy roles .backend ∨
        authorization.SignedBy roles .admin) :
      PolicyChange authorization roles now (some policy)
        (some { policy with status := .cancelled })
  | cancelledActive {policy : Policy} (active : policy.status = .active)
      (admin : authorization.SignedBy roles .admin) :
      PolicyChange authorization roles now (some policy)
        (some { policy with status := .cancelled })
  | claimed {policy : Policy} (active : policy.status = .active)
      (oracle : authorization.CoveredBy roles .oracle) :
      PolicyChange authorization roles now (some policy)
        (some { policy with status := .claimed })
  | expired {policy : Policy} (isOpen : policy.IsOpen)
      (ended : policy.endDate < now) :
      PolicyChange authorization roles now (some policy)
        (some { policy with status := .expired })

/-- The authority map of PolicyManager. -/
structure Authority (authorization : Authorization) (now : Nat)
    (before after : State) : Prop where
  administered : after.roles ≠ before.roles ∨
      after.policyNft ≠ before.policyNft →
    authorization.SignedBy before.roles .admin
  policies : ∀ policyId,
    after.policies policyId = before.policies policyId ∨
      PolicyChange authorization before.roles now (before.policies policyId)
        (after.policies policyId)
  claimTimes : after.farmerClaimTimes ≠ before.farmerClaimTimes →
    authorization.CoveredBy before.roles .oracle
  listed : after.policyCounter ≠ before.policyCounter ∨
      after.farmerPolicyCounts ≠ before.farmerPolicyCounts ∨
        after.farmerPolicyAt ≠ before.farmerPolicyAt →
    authorization.SignedBy before.roles .backend
  counted : after.farmerActiveCounts ≠ before.farmerActiveCounts ∨
      after.farmerPendingCounts ≠ before.farmerPendingCounts ∨
        after.pendingCounted ≠ before.pendingCounted ∨
          after.orgOutstandings ≠ before.orgOutstandings →
    ∃ policyId, after.policies policyId ≠ before.policies policyId

/-- Only the claim times change. -/
theorem State.pushClaimTime_frame (state : State) (farmer : Address)
    (now : Nat) :
    state.pushClaimTime farmer now =
      { state with
        farmerClaimTimes :=
          (state.pushClaimTime farmer now).farmerClaimTimes } :=
  rfl

theorem State.Accounted.stored_at_id {state : State}
    (accounted : state.Accounted) {policyId : Nat} {policy : Policy}
    (stored : state.policies policyId = some policy) :
    state.policies policy.id = some policy := by
  have key := (accounted.keyed policyId policy stored).1
  rw [key]
  exact stored

section Authority

variable {authorization : Authorization} {now : Nat} {before after : State}

theorem PolicyChange.ne {roles : Roles} {entry later : Option Policy}
    (change : PolicyChange authorization roles now entry later) :
    later ≠ entry := by
  intro same
  cases change with
  | created pending backend => cases same
  | activated pending backend =>
      have status := congrArg Policy.status (Option.some.inj same)
      rw [pending] at status
      cases status
  | cancelledPending pending allowed =>
      have status := congrArg Policy.status (Option.some.inj same)
      rw [pending] at status
      cases status
  | cancelledActive active admin =>
      have status := congrArg Policy.status (Option.some.inj same)
      rw [active] at status
      cases status
  | claimed active oracle =>
      have status := congrArg Policy.status (Option.some.inj same)
      rw [active] at status
      cases status
  | expired isOpen ended =>
      have status := congrArg Policy.status (Option.some.inj same)
      rcases isOpen with pending | active
      · rw [pending] at status
        cases status
      · rw [active] at status
        cases status

theorem Authority.refl (state : State) :
    Authority authorization now state state where
  administered := by simp
  policies _ := Or.inl rfl
  claimTimes := by simp
  listed := by simp
  counted := by simp

/-- A call that changes the entry of one policy. -/
theorem authority_of_change {policyId : Nat} {later : Policy}
    (change : PolicyChange authorization before.roles now
      (before.policies policyId) (some later))
    (policies : after.policies =
      Function.update before.policies policyId (some later))
    (roles : after.roles = before.roles)
    (policyNft : after.policyNft = before.policyNft)
    (claimTimes : after.farmerClaimTimes ≠ before.farmerClaimTimes →
      authorization.CoveredBy before.roles .oracle)
    (listed : after.policyCounter ≠ before.policyCounter ∨
        after.farmerPolicyCounts ≠ before.farmerPolicyCounts ∨
          after.farmerPolicyAt ≠ before.farmerPolicyAt →
      authorization.SignedBy before.roles .backend) :
    Authority authorization now before after where
  administered changed := by simp [roles, policyNft] at changed
  policies other := by
    rw [policies]
    exact KeyedStore.same_or_changed change other
  claimTimes := claimTimes
  listed := listed
  counted _ := by
    refine ⟨policyId, ?_⟩
    rw [policies, Function.update_self]
    exact change.ne

end Authority

/-- Every call to PolicyManager keeps to its authority map. -/
theorem authority_effect {Ω : Type} {nft : Env → PolicyNftClient Ω}
    {env : Env} {call : Call} {before after : State × Ω}
    (effect : Effect nft env before call after)
    (accounted : before.1.Accounted) :
    Authority (.ofSigners env) env.timestamp before.1 after.1 := by
  cases effect with
  | @administered _ caller signed admin administers =>
      exact
        { administered := fun _ => ⟨caller, signed, admin⟩
          policies := fun _ => Or.inl rfl
          claimTimes := by simp
          listed := by simp
          counted := by simp }
  | @sold caller farmer plotId latE6 lonE6 sumInsured premium durationDays
      coverageType org signed backend valid capacity =>
      have issuer : (Authorization.ofSigners env).SignedBy before.1.roles
          .backend := ⟨caller, signed, backend⟩
      have fresh :
          before.1.policies (before.1.getTotalPolicies + 1) = none := by
        rw [Option.eq_none_iff_forall_ne_some]
        intro policy stored
        have known := (accounted.keyed _ policy stored).2.2
        omega
      have change : PolicyChange (.ofSigners env) before.1.roles
          env.timestamp (before.1.policies (before.1.getTotalPolicies + 1))
          (some (soldPolicy env before.1 farmer plotId latE6 lonE6 sumInsured
            premium durationDays coverageType org)) := by
        rw [fresh]
        exact .created rfl issuer
      exact authority_of_change change rfl rfl rfl
        (fun changed => absurd rfl changed) (fun _ => issuer)
  | @activated caller policyId distributor distributorName region wiredTo
      policy tokenId outside signed backend wired stored pending inTime cap
      ordered minted =>
      have change : PolicyChange (.ofSigners env) before.1.roles
          env.timestamp (before.1.policies policy.id)
          (some { policy with
            status := .active, startDate := env.timestamp
            endDate := env.timestamp +
              (policy.endDate - policy.startDate) }) := by
        rw [accounted.stored_at_id stored]
        exact .activated pending ⟨caller, signed, backend⟩
      dsimp only
      apply authority_of_change change
      all_goals rw [State.activate_frame]
      · simp
      · simp
  | @closedActive _ policyId policy status outside stored active cause
      deactivates =>
      have change : PolicyChange (.ofSigners env) before.1.roles
          env.timestamp (before.1.policies policy.id)
          (some { policy with status }) := by
        rw [accounted.stored_at_id stored]
        cases cause with
        | @claimed caller signed oracle inTime =>
            exact .claimed active ⟨caller, Or.inl signed, oracle⟩
        | @cancelled caller signed admin =>
            exact .cancelledActive active ⟨caller, signed, admin⟩
        | expired ended => exact .expired (Or.inr active) ended
      dsimp only
      apply authority_of_change change
      all_goals rw [State.closeActive_frame]
      · simp
      · simp
  | @closedPending _ policyId policy status stored pending cause =>
      have change : PolicyChange (.ofSigners env) before.1.roles
          env.timestamp (before.1.policies policy.id)
          (some { policy with status }) := by
        rw [accounted.stored_at_id stored]
        cases cause with
        | @cancelled caller signed allowed =>
            rcases allowed with admin | backend
            · exact .cancelledPending pending
                (Or.inr ⟨caller, signed, admin⟩)
            · exact .cancelledPending pending
                (Or.inl ⟨caller, signed, backend⟩)
        | expired ended => exact .expired (Or.inl pending) ended
      dsimp only
      apply authority_of_change change
      all_goals rw [State.closePending_frame]
      · simp
      · simp
  | @claimCounted caller farmer signed oracle cap =>
      dsimp only
      rw [State.pushClaimTime_frame]
      exact
        { administered := by simp
          policies := fun _ => Or.inl rfl
          claimTimes := fun _ => ⟨caller, Or.inl signed, oracle⟩
          listed := by simp
          counted := by simp }
  | alreadyExpired => exact .refl before.1

/-- The two calls of a verified submission keep to the map. -/
theorem authority_claimedManager {before : State} {policyId now : Nat}
    {policy : Policy} {address : Address} (accounted : before.Accounted)
    (stored : before.policies policyId = some policy)
    (active : policy.status = .active)
    (oracle : before.roles .oracle address = true) :
    Authority (.ofContract address) now before
      (Deployment.claimedManager before policy now) := by
  have covered : (Authorization.ofContract address).CoveredBy before.roles
      .oracle :=
    ⟨address, Authorization.ofContract_covers address, oracle⟩
  have change : PolicyChange (.ofContract address) before.roles now
      (before.policies policy.id)
      (some { policy with status := .claimed }) := by
    rw [accounted.stored_at_id stored]
    exact .claimed active covered
  apply authority_of_change change
  all_goals rw [Deployment.claimedManager, State.closeActive_frame,
    State.pushClaimTime_frame]
  · exact fun _ => covered
  · simp

end PolicyManager

/-! ## SettlementAdapter -/

namespace SettlementAdapter

/-- How the entry of an obligation may change, and whose authorization each
change takes. -/
inductive ObligationChange (authorization : Authorization) (ledger : State) :
    Option Obligation → Option Obligation → Prop
  | recorded {obligation : Obligation}
      (bound : ledger.payoutReceiver = some obligation.payoutReceiver)
      (covers : authorization.Covers obligation.payoutReceiver) :
      ObligationChange authorization ledger none (some obligation)
  | marked {obligation later : Obligation}
      (continues : obligation.Continues later)
      (funder : authorization.SignedBy ledger.roles .funder) :
      ObligationChange authorization ledger (some obligation) (some later)

/-- The authority map of a SettlementAdapter. -/
structure Authority (authorization : Authorization) (before after : State) :
    Prop where
  administered : after.roles ≠ before.roles ∨
      after.payoutReceiver ≠ before.payoutReceiver →
    authorization.SignedBy before.roles .admin
  obligations : ∀ id, after.obligations id = before.obligations id ∨
    ObligationChange authorization before (before.obligations id)
      (after.obligations id)
  indexed : after.nextObligationId ≠ before.nextObligationId ∨
      after.obligationOf ≠ before.obligationOf ∨
        after.orgObligationCounts ≠ before.orgObligationCounts ∨
          after.orgObligationAt ≠ before.orgObligationAt →
    ∃ receiver, before.payoutReceiver = some receiver ∧
      authorization.Covers receiver

theorem Authority.refl (authorization : Authorization) (state : State) :
    Authority authorization state state where
  administered := by simp
  obligations _ := Or.inl rfl
  indexed := by simp

section Authority

variable {authorization : Authorization} {ledger : State}

/-- A new obligation of the bound receiver. -/
theorem authority_insert {obligation : Obligation}
    (bound : ledger.payoutReceiver = some obligation.payoutReceiver)
    (covers : authorization.Covers obligation.payoutReceiver)
    (free : ledger.obligations obligation.id = none) :
    Authority authorization ledger (ledger.insertObligation obligation) where
  administered := by
    rintro (changed | changed)
    · exact absurd rfl changed
    · exact absurd rfl changed
  obligations other := by
    have change : ObligationChange authorization ledger
        (ledger.obligations obligation.id) (some obligation) := by
      rw [free]
      exact .recorded bound covers
    exact KeyedStore.same_or_changed change other
  indexed _ := ⟨obligation.payoutReceiver, bound, covers⟩

/-- A mark of a Funder. -/
theorem authority_mark {id : Nat} {obligation later : Obligation}
    (stored : ledger.obligations id = some obligation)
    (continues : obligation.Continues later)
    (funder : authorization.SignedBy ledger.roles .funder) :
    Authority authorization ledger (ledger.saveObligation id later) where
  administered := by
    rintro (changed | changed)
    · exact absurd rfl changed
    · exact absurd rfl changed
  obligations other := by
    have change : ObligationChange authorization ledger
        (ledger.obligations id) (some later) := by
      rw [stored]
      exact .marked continues funder
    exact KeyedStore.same_or_changed change other
  indexed := by
    rintro (changed | changed | changed | changed)
    all_goals exact absurd rfl changed

end Authority

/-- Every call to a SettlementAdapter keeps to its authority map. -/
theorem authority_effect {env : Env} {call : Call} {before after : State}
    (effect : Effect env before call after) (wellFormed : before.WellFormed) :
    Authority (.ofSigners env) before after := by
  cases effect with
  | @bound caller payoutReceiver signed admin other =>
      exact ⟨fun _ => ⟨caller, signed, admin⟩, fun _ => Or.inl rfl, by simp⟩
  | @granted caller who role signed admin =>
      exact ⟨fun _ => ⟨caller, signed, admin⟩, fun _ => Or.inl rfl, by simp⟩
  | @revoked caller who role signed admin =>
      exact ⟨fun _ => ⟨caller, signed, admin⟩, fun _ => Or.inl rfl, by simp⟩
  | @recorded caller policyId org amount digest id configured signed
      positive missing next =>
      have free := obligations_next wellFormed next
      exact authority_insert configured (Or.inl signed) free
  | @funded caller id referenceHash obligation signed reference funder stored
      owed =>
      exact authority_mark stored rfl ⟨caller, signed, funder⟩
  | @settled caller id referenceHash obligation signed reference funder
      stored unsettled =>
      exact authority_mark stored rfl ⟨caller, signed, funder⟩
  | repeated => exact .refl _ before

end SettlementAdapter

/-! ## PayoutReceiver -/

namespace PayoutReceiver

/-- A submission about the policy, signed by a Relayer, with a determination
that the authorized signer signed for this receiver on the stored network. -/
inductive SignedSubmission (crypto : Crypto) (address : Address)
    (signed : Address → Bool) (state : State) (policyId : Nat) : Call → Prop
  | drought {caller : Address} {d : DroughtDetermination}
      {signature : BytesN 64} {recoveryId : U32} {domain : BytesN 32}
      {signer : BytesN 65} (signs : signed caller = true)
      (relayer : state.roles .relayer caller = true)
      (network : state.networkDomain = some domain)
      (authorized : state.authorizedSigner = some signer)
      (recovers : crypto.secp256k1Recover
        (Encoding.droughtDeterminationDigest crypto d address domain)
          signature recoveryId = some signer)
      (about : d.onChainPolicyId.val = policyId) :
      SignedSubmission crypto address signed state policyId
        (.submitDroughtDetermination caller d signature recoveryId)
  | crop {caller : Address} {d : CropDetermination}
      {signature : BytesN 64} {recoveryId : U32} {domain : BytesN 32}
      {signer : BytesN 65} (signs : signed caller = true)
      (relayer : state.roles .relayer caller = true)
      (network : state.networkDomain = some domain)
      (authorized : state.authorizedSigner = some signer)
      (recovers : crypto.secp256k1Recover
        (Encoding.determinationDigest crypto d address domain) signature
          recoveryId = some signer)
      (about : d.onChainPolicyId.val = policyId) :
      SignedSubmission crypto address signed state policyId
        (.submitDetermination caller d signature recoveryId)

/-- The authority map of the PayoutReceiver at `address`; `made` is the call
that reaches it.  Without a call only the host acts, and it only drops
markers. -/
structure Authority (crypto : Crypto) (address : Address)
    (authorization : Authorization) (made : Option Call)
    (before after : State) : Prop where
  administered : after.roles ≠ before.roles ∨
      after.settlementAdapter ≠ before.settlementAdapter ∨
        after.authorizedSigner ≠ before.authorizedSigner ∨
          after.networkDomain ≠ before.networkDomain ∨
            after.paused ≠ before.paused ∨
              after.methodologyEnabled ≠ before.methodologyEnabled →
    authorization.SignedBy before.roles .admin
  manager : after.policyManager = before.policyManager
  paid : ∀ policyId, after.policyPaid policyId ≠ before.policyPaid policyId ∨
      after.reports policyId ≠ before.reports policyId →
    ∃ call ∈ made, SignedSubmission crypto address authorization.signed before
      policyId call
  consumed : ∀ digest, after.consumedDetermination digest ≠
      before.consumedDetermination digest →
    (∃ call ∈ made, ∃ policyId, SignedSubmission crypto address
      authorization.signed before policyId call) ∨
      (made = none ∧ after.consumedDetermination digest = none)

theorem Authority.refl (crypto : Crypto) (address : Address)
    (authorization : Authorization) (made : Option Call) (state : State) :
    Authority crypto address authorization made state state where
  administered := by simp
  manager := rfl
  paid := by simp
  consumed := by simp

/-- A submission that passes all checks is a signed one. -/
theorem signedSubmission_of_checked {crypto : Crypto} {env : Env}
    {state : State} {policy : Policy} {call : Call} {report : DamageReport}
    {digest : BytesN 32}
    (checked : Checked crypto env state policy call report digest) :
    SignedSubmission crypto env.currentContract env.authorized state
      report.policyId call := by
  cases checked with
  | drought checks =>
      obtain ⟨signer, authorized, recovers⟩ := checks.submittable.recovered
      exact .drought checks.submittable.signed checks.submittable.relayer
        checks.domain authorized recovers rfl
  | crop checks =>
      obtain ⟨signer, authorized, recovers⟩ := checks.submittable.recovered
      exact .crop checks.submittable.signed checks.submittable.relayer
        checks.domain authorized recovers rfl

/-- A setting that an Admin changes leaves the records alone. -/
theorem authority_administered {crypto : Crypto} {address : Address}
    {authorization : Authorization} {made : Option Call}
    {before after : State}
    (admin : authorization.SignedBy before.roles .admin)
    (manager : after.policyManager = before.policyManager)
    (paid : after.policyPaid = before.policyPaid)
    (reports : after.reports = before.reports)
    (consumed : after.consumedDetermination = before.consumedDetermination) :
    Authority crypto address authorization made before after where
  administered _ := admin
  manager := manager
  paid policyId changed := by simp [paid, reports] at changed
  consumed digest changed := by simp [consumed] at changed

theorem authority_recordVerified {crypto : Crypto} {address : Address}
    {authorization : Authorization} {state : State} {call : Call}
    {report : DamageReport} {digest : BytesN 32}
    (submission : SignedSubmission crypto address authorization.signed state
      report.policyId call) :
    Authority crypto address authorization (some call) state
      (state.recordVerified report digest) where
  administered := by
    rintro (changed | changed | changed | changed | changed | changed)
    all_goals exact absurd rfl changed
  manager := rfl
  paid policyId changed := by
    by_cases same : policyId = report.policyId
    · rw [same]
      exact ⟨call, rfl, submission⟩
    · rcases changed with changed | changed
      · exact absurd (Function.update_of_ne same ..) changed
      · exact absurd (Function.update_of_ne same ..) changed
  consumed _ _ := Or.inl ⟨call, rfl, report.policyId, submission⟩

theorem authority_expireMarker {crypto : Crypto} {address : Address}
    {authorization : Authorization} (state : State) (digest : BytesN 32) :
    Authority crypto address authorization none state
      (state.expireMarker digest) where
  administered := by
    rintro (changed | changed | changed | changed | changed | changed)
    all_goals exact absurd rfl changed
  manager := rfl
  paid policyId := by
    rintro (changed | changed)
    · exact absurd rfl changed
    · exact absurd rfl changed
  consumed other changed := by
    have dropped : other = digest := by
      by_contra different
      exact changed (Function.update_of_ne different ..)
    rw [dropped]
    exact Or.inr ⟨rfl, Function.update_self ..⟩

end PayoutReceiver

/-! ## PolicyNft -/

namespace PolicyNft

/-- How the entry of a certificate may change, and whose authorization each
change takes. -/
inductive CertificateChange (authorization : Authorization) (nft : State) :
    Option PolicyCertificate → Option PolicyCertificate → Prop
  | minted {certificate : PolicyCertificate}
      (minter : authorization.CoveredBy nft.roles .minter) :
      CertificateChange authorization nft none (some certificate)
  | flagged {certificate : PolicyCertificate} {isActive : Bool}
      {manager : Address} (wired : nft.policyManager = some manager)
      (covers : authorization.Covers manager) :
      CertificateChange authorization nft (some certificate)
        (some { certificate with isActive })

/-- How the owner of a token may change, and whose authorization each change
takes. -/
inductive OwnerChange (authorization : Authorization) (nft : State)
    (tokenId : Nat) : Option Address → Option Address → Prop
  | minted {farmer : Address}
      (minter : authorization.CoveredBy nft.roles .minter) :
      OwnerChange authorization nft tokenId none (some farmer)
  | moved {owner target : Address} {certificate : PolicyCertificate}
      (signs : authorization.signed owner = true)
      (stored : nft.certificates tokenId = some certificate)
      (inactive : certificate.isActive = false) :
      OwnerChange authorization nft tokenId (some owner) (some target)

/-- The authority map of the certificate contract. -/
structure Authority (authorization : Authorization) (before after : State) :
    Prop where
  administered : after.roles ≠ before.roles ∨
      after.policyManager ≠ before.policyManager →
    authorization.SignedBy before.roles .admin
  certificates : ∀ tokenId,
    after.certificates tokenId = before.certificates tokenId ∨
      CertificateChange authorization before (before.certificates tokenId)
        (after.certificates tokenId)
  owners : ∀ tokenId, after.owners tokenId = before.owners tokenId ∨
    OwnerChange authorization before tokenId (before.owners tokenId)
      (after.owners tokenId)
  indexed : after.policyToToken ≠ before.policyToToken ∨
      after.distributorCounts ≠ before.distributorCounts ∨
        after.distributorPolicyAt ≠ before.distributorPolicyAt →
    authorization.CoveredBy before.roles .minter

theorem Authority.refl (authorization : Authorization) (state : State) :
    Authority authorization state state where
  administered := by simp
  certificates _ := Or.inl rfl
  owners _ := Or.inl rfl
  indexed := by simp

/-- Nothing is stored under a token that was never minted. -/
def State.Keyed (state : State) : Prop :=
  ∀ policyId, state.policyToToken policyId = none → state.Blank policyId

theorem keyed_constructor (admin : Address) : (constructor admin).Keyed :=
  fun _ _ => ⟨rfl, rfl, rfl⟩

theorem keyed_effect {env : Env} {call : Call} {before after : State}
    (effect : Effect env before call after) (keyed : before.Keyed) :
    after.Keyed := by
  intro other missing
  cases effect with
  | wired signed admin =>
      exact (keyed other missing).of_sameToken ⟨rfl, rfl, rfl⟩
  | granted signed admin =>
      exact (keyed other missing).of_sameToken ⟨rfl, rfl, rfl⟩
  | revoked signed admin =>
      exact (keyed other missing).of_sameToken ⟨rfl, rfl, rfl⟩
  | @minted caller farmer policyId distributor distributorName sumInsured
      premium startDate endDate coverageType region plotId signed minter
      positive fresh =>
      have different : other ≠ policyId := by
        intro same
        rw [same] at missing
        cases (Function.update_self ..).symm.trans missing
      have same : before.SameToken
          ((before.saveToken policyId policyId
            (newCertificate farmer policyId distributor distributorName
              sumInsured premium startDate endDate coverageType region plotId)
            farmer).appendDistributorPolicy distributor
              (before.distributorCount distributor) policyId) other :=
        sameToken_saveToken before different
      have missingBefore : before.policyToToken other = none :=
        same.token.symm.trans missing
      exact (keyed other missingBefore).of_sameToken same
  | @updated caller policyId tokenId isActive certificate manager signed
      token stored =>
      have blank := keyed other missing
      have different : other ≠ tokenId := by
        intro same
        have none := blank.certificate
        rw [same, stored] at none
        cases none
      exact blank.of_sameToken (sameToken_saveCertificate before different)
  | @moved source target tokenId certificate signed owned stored inactive =>
      have blank := keyed other missing
      have different : other ≠ tokenId := by
        intro same
        have none := blank.owner
        rw [same, owned] at none
        cases none
      exact ⟨blank.certificate, blank.token,
        (Function.update_of_ne different ..).trans blank.owner⟩

/-- Every call to the certificate contract keeps to its authority map.  A
contract that makes the call only mints, or sets a flag. -/
theorem authority_effect {env : Env} {call : Call} {before after : State}
    {authorization : Authorization} (effect : Effect env before call after)
    (keyed : before.Keyed)
    (covers : ∀ who, env.authorized who = true → authorization.Covers who)
    (signs : call.certifies = false → ∀ who, env.authorized who = true →
      authorization.signed who = true) :
    Authority authorization before after := by
  cases effect with
  | @wired caller policyManager signed admin =>
      exact ⟨fun _ => ⟨caller, signs rfl caller signed, admin⟩,
        fun _ => Or.inl rfl, fun _ => Or.inl rfl, by simp⟩
  | @granted caller who role signed admin =>
      exact ⟨fun _ => ⟨caller, signs rfl caller signed, admin⟩,
        fun _ => Or.inl rfl, fun _ => Or.inl rfl, by simp⟩
  | @revoked caller who role signed admin =>
      exact ⟨fun _ => ⟨caller, signs rfl caller signed, admin⟩,
        fun _ => Or.inl rfl, fun _ => Or.inl rfl, by simp⟩
  | @minted caller farmer policyId distributor distributorName sumInsured
      premium startDate endDate coverageType region plotId signed minter
      positive fresh =>
      have covered : authorization.CoveredBy before.roles .minter :=
        ⟨caller, covers caller signed, minter⟩
      have blank := keyed policyId fresh
      have certified : CertificateChange authorization before
          (before.certificates policyId)
          (some (newCertificate farmer policyId distributor distributorName
            sumInsured premium startDate endDate coverageType region
            plotId)) := by
        rw [blank.certificate]
        exact .minted covered
      have owned : OwnerChange authorization before policyId
          (before.owners policyId) (some farmer) := by
        rw [blank.owner]
        exact .minted covered
      exact
        { administered := by
            rintro (changed | changed)
            · exact absurd rfl changed
            · exact absurd rfl changed
          certificates := KeyedStore.same_or_changed certified
          owners := KeyedStore.same_or_changed_at owned
          indexed := fun _ => covered }
  | @updated caller policyId tokenId isActive certificate manager signed
      token stored =>
      have flagged : CertificateChange authorization before
          (before.certificates tokenId)
          (some { certificate with isActive }) := by
        rw [stored]
        exact .flagged manager (covers caller signed)
      exact
        { administered := by
            rintro (changed | changed)
            · exact absurd rfl changed
            · exact absurd rfl changed
          certificates := KeyedStore.same_or_changed flagged
          owners := fun _ => Or.inl rfl
          indexed := by
            rintro (changed | changed | changed)
            all_goals exact absurd rfl changed }
  | @moved source target tokenId certificate signed owned stored inactive =>
      have moved : OwnerChange authorization before tokenId
          (before.owners tokenId) (some target) := by
        rw [owned]
        exact .moved (signs rfl source signed) stored inactive
      exact
        { administered := by
            rintro (changed | changed)
            · exact absurd rfl changed
            · exact absurd rfl changed
          certificates := fun _ => Or.inl rfl
          owners := KeyedStore.same_or_changed_at moved
          indexed := by
            rintro (changed | changed | changed)
            all_goals exact absurd rfl changed }

end PolicyNft

/-! ## The system -/

namespace Operation

/-- The call that reaches the PayoutReceiver at `address`. -/
def receiverCall (address : Address) : Operation → Option PayoutReceiver.Call
  | .invoked invocation =>
      match invocation.call with
      | .receiver other call => if other = address then some call else none
      | _ => none
  | .kept _ _ => none

end Operation

namespace Deployment

variable (deployment : Deployment PolicyNft.State PolicyNft.Call)

/-- PolicyManager is called by an invocation, or by the PayoutReceiver that an
invocation calls. -/
def managerAuthorization : Operation → Authorization
  | .invoked invocation =>
      match invocation.call with
      | .policyManager _ => .ofSigners (deployment.env invocation)
      | .receiver address _ => .ofContract address
      | _ => .absent
  | .kept _ _ => .absent

/-- A PayoutReceiver is called by invocations only. -/
def receiverAuthorization (address : Address) : Operation → Authorization
  | .invoked invocation =>
      match invocation.call with
      | .receiver other _ =>
          if other = address then .ofSigners (deployment.env invocation)
          else .absent
      | _ => .absent
  | .kept _ _ => .absent

/-- A SettlementAdapter is called by an invocation, or by the PayoutReceiver
that an invocation calls. -/
def adapterAuthorization (address : Address) : Operation → Authorization
  | .invoked invocation =>
      match invocation.call with
      | .adapter other _ =>
          if other = address then .ofSigners (deployment.env invocation)
          else .absent
      | .receiver caller _ => .ofContract caller
      | _ => .absent
  | .kept _ _ => .absent

/-- The certificate contract is called by an invocation, or by PolicyManager
while it executes a call. -/
def nftAuthorization : Operation → Authorization
  | .invoked invocation =>
      match invocation.call with
      | .nft _ => .ofSigners (deployment.env invocation)
      | .policyManager _ => .ofContract deployment.policyManager
      | .receiver _ _ => .ofContract deployment.policyManager
      | _ => .absent
  | .kept _ _ => .absent

/-- The authority map of the system. -/
structure Authority (operation : Operation)
    (before after : World PolicyNft.State) : Prop where
  manager : PolicyManager.Authority
    (deployment.managerAuthorization operation) operation.time
      before.policyManager after.policyManager
  receivers : ∀ address, Option.Rel
    (PayoutReceiver.Authority deployment.crypto address
      (deployment.receiverAuthorization address operation)
      (operation.receiverCall address))
    (before.receivers address) (after.receivers address)
  adapters : ∀ address, Option.Rel
    (SettlementAdapter.Authority
      (deployment.adapterAuthorization address operation))
    (before.adapters address) (after.adapters address)
  nft : PolicyNft.Authority (deployment.nftAuthorization operation)
    before.nft after.nft

variable {deployment}

section Unchanged

variable {operation : Operation} {before : World PolicyNft.State}

theorem receivers_same (address : Address) : Option.Rel
    (PayoutReceiver.Authority deployment.crypto address
      (deployment.receiverAuthorization address operation)
      (operation.receiverCall address))
    (before.receivers address) (before.receivers address) :=
  KeyedStore.rel_refl (PayoutReceiver.Authority.refl _ _ _ _) _

theorem adapters_same (address : Address) : Option.Rel
    (SettlementAdapter.Authority
      (deployment.adapterAuthorization address operation))
    (before.adapters address) (before.adapters address) :=
  KeyedStore.rel_refl (SettlementAdapter.Authority.refl _) _

/-- An operation that changes nothing needs nobody. -/
theorem Authority.refl (operation : Operation)
    (world : World PolicyNft.State) :
    deployment.Authority operation world world where
  manager := .refl _
  receivers := receivers_same
  adapters := adapters_same
  nft := .refl _ _

end Unchanged

section Direct

variable {timestamp : U64} {signers : Address → Bool} {address : Address}

theorem receiverAuthorization_self {call : PayoutReceiver.Call} :
    deployment.receiverAuthorization address
        (.invoked ⟨timestamp, signers, .receiver address call⟩) =
      .ofSigners (deployment.env
        ⟨timestamp, signers, .receiver address call⟩) :=
  if_pos rfl

theorem receiverCall_self {call : PayoutReceiver.Call} :
    Operation.receiverCall address
      (.invoked ⟨timestamp, signers, .receiver address call⟩) = some call :=
  if_pos rfl

theorem adapterAuthorization_self {call : SettlementAdapter.Call} :
    deployment.adapterAuthorization address
        (.invoked ⟨timestamp, signers, .adapter address call⟩) =
      .ofSigners (deployment.env
        ⟨timestamp, signers, .adapter address call⟩) :=
  if_pos rfl

end Direct

section Settlement

variable {env : Env} {before : World PolicyNft.State} {address : Address}
  {call : PayoutReceiver.Call} {state : PayoutReceiver.State}
  {policy : Policy} {report : DamageReport} {digest : BytesN 32}
  {adapter : Address} {ledger ledgerAfter : SettlementAdapter.State}
  {obligation : Obligation} {nftAfter : PolicyNft.State}
  (settlement : deployment.Settlement env before address call state policy
    report digest adapter ledger obligation ledgerAfter nftAfter)

include settlement

theorem Settlement.submission :
    PayoutReceiver.SignedSubmission deployment.crypto address env.authorized
      state report.policyId call := by
  have submission :=
    PayoutReceiver.signedSubmission_of_checked settlement.checked
  rw [settlement.here] at submission
  exact submission

/-- The receiver records the obligation in the adapter that is bound to it. -/
theorem Settlement.adapter_authority (sound : deployment.Sound before) :
    SettlementAdapter.Authority (.ofContract address) ledger ledgerAfter := by
  obtain ⟨-, next, -, written⟩ := settlement.records sound
  have configured : ledger.payoutReceiver =
      some obligation.payoutReceiver := by
    obtain ⟨bound, -⟩ :=
      (SettlementAdapter.recordObligation_commits _ _ _ _ _ _ _ _ _).mp
        settlement.handover.recorded
    rw [bound, settlement.handover.receiver]
  have free := SettlementAdapter.obligations_next
    (sound.ledgers adapter ledger settlement.handover.found) next
  have covers : (Authorization.ofContract address).Covers
      obligation.payoutReceiver := by
    rw [settlement.payoutReceiver]
    exact Authorization.ofContract_covers address
  rw [written]
  exact SettlementAdapter.authority_insert configured covers free

end Settlement

section Certificates

variable {nftAddress nftAdmin : Address}
  (real : deployment.certificates =
    PolicyNft.certificates nftAddress nftAdmin)

include real

/-- The calls that PolicyManager makes to the certificate contract. -/
theorem nft_authority_of_managed {env : Env} {call : PolicyManager.Call}
    {before after : PolicyManager.State × PolicyNft.State}
    (here : env.currentContract = deployment.policyManager)
    (effect : PolicyManager.Effect deployment.certificates.client env before
      call after)
    (keyed : before.2.Keyed) :
    PolicyNft.Authority (.ofContract deployment.policyManager) before.2
      after.2 := by
  rw [real] at effect
  rcases PolicyNft.effect_of_managed effect with
    same | ⟨nftCall, certifies, called⟩
  · rw [same]
    exact .refl _ _
  · have covers : ∀ who, (env.invoke nftAddress).authorized who = true →
        (Authorization.ofContract deployment.policyManager).Covers who := by
      intro who authorized
      rw [(Env.invoke_authorized _ _ _).mp authorized, here]
      exact Authorization.ofContract_covers _
    apply PolicyNft.authority_effect called keyed covers
    intro other
    rw [certifies] at other
    cases other

/-- An accepted invocation keeps to the authority map. -/
theorem Step.authority {invocation : Invocation PolicyNft.Call}
    {before after : World PolicyNft.State}
    (step : deployment.Step (deployment.env invocation) before
      invocation.call after)
    (sound : deployment.Sound before) (keyed : before.nft.Keyed) :
    deployment.Authority (.invoked invocation) before after := by
  obtain ⟨timestamp, signers, call⟩ := invocation
  cases step with
  | managed here effect =>
      exact
        { manager := PolicyManager.authority_effect effect sound.accounted
          receivers := receivers_same
          adapters := adapters_same
          nft := nft_authority_of_managed real here effect keyed }
  | @administered address caller call state installed signed admin administers
      roles authorizedSigner networkDomain paused methodologyEnabled =>
      have changed : PayoutReceiver.Authority deployment.crypto address
          (deployment.receiverAuthorization address
            (.invoked ⟨timestamp, signers, .receiver address call⟩))
          (Operation.receiverCall address
            (.invoked ⟨timestamp, signers, .receiver address call⟩)) state
          { state with
            roles, authorizedSigner, networkDomain, paused,
            methodologyEnabled } := by
        rw [receiverAuthorization_self]
        exact PayoutReceiver.authority_administered ⟨caller, signed, admin⟩
          rfl rfl rfl rfl
      exact
        { manager := .refl _
          receivers := KeyedStore.rel_written (fun _ => .refl _ _ _ _) installed changed
          adapters := adapters_same
          nft := .refl _ _ }
  | @swapped address caller adapter state ledger installed signed admin found
      bound =>
      have changed : PayoutReceiver.Authority deployment.crypto address
          (deployment.receiverAuthorization address
            (.invoked ⟨timestamp, signers,
              .receiver address (.setSettlementAdapter caller adapter)⟩))
          (Operation.receiverCall address
            (.invoked ⟨timestamp, signers,
              .receiver address (.setSettlementAdapter caller adapter)⟩))
          state { state with settlementAdapter := some adapter } := by
        rw [receiverAuthorization_self]
        exact PayoutReceiver.authority_administered ⟨caller, signed, admin⟩
          rfl rfl rfl rfl
      exact
        { manager := .refl _
          receivers := KeyedStore.rel_written (fun _ => .refl _ _ _ _) installed changed
          adapters := adapters_same
          nft := .refl _ _ }
  | @settled address adapter call state policy report digest ledger
      ledgerAfter obligation nftAfter settlement =>
      have verified : PayoutReceiver.Authority deployment.crypto address
          (deployment.receiverAuthorization address
            (.invoked ⟨timestamp, signers, .receiver address call⟩))
          (Operation.receiverCall address
            (.invoked ⟨timestamp, signers, .receiver address call⟩)) state
          (state.recordVerified report digest) := by
        rw [receiverAuthorization_self, receiverCall_self]
        exact PayoutReceiver.authority_recordVerified settlement.submission
      exact
        { manager := PolicyManager.authority_claimedManager sound.accounted
            settlement.handover.stored settlement.active settlement.oracle
          receivers := KeyedStore.rel_written (fun _ => .refl _ _ _ _)
            settlement.installed verified
          adapters := KeyedStore.rel_written (fun _ => .refl _)
            settlement.handover.found (settlement.adapter_authority sound)
          nft := nft_authority_of_managed real rfl settlement.marked keyed }
  | @booked address call ledger after found effect =>
      have changed : SettlementAdapter.Authority
          (deployment.adapterAuthorization address
            (.invoked ⟨timestamp, signers, .adapter address call⟩)) ledger
          after := by
        rw [adapterAuthorization_self]
        exact SettlementAdapter.authority_effect effect
          (sound.ledgers address ledger found)
      exact
        { manager := .refl _
          receivers := receivers_same
          adapters := KeyedStore.rel_written (fun _ => .refl _) found changed
          nft := .refl _ _ }
  | @certified call nftAfter commits =>
      rw [real] at commits
      have effect := PolicyNft.exec_effect _ _ commits
      exact
        { manager := .refl _
          receivers := receivers_same
          adapters := adapters_same
          nft := PolicyNft.authority_effect effect keyed
            (fun _ signed => Or.inl signed) (fun _ _ signed => signed) }
  | @markerExpired address preimageHash state installed =>
      exact
        { manager := .refl _
          receivers := KeyedStore.rel_written (fun _ => .refl _ _ _ _) installed
            (PayoutReceiver.authority_expireMarker state preimageHash)
          adapters := adapters_same
          nft := .refl _ _ }

theorem Step.keyed {env : Env} {before after : World PolicyNft.State}
    {call : World.Call PolicyNft.Call}
    (step : deployment.Step env before call after)
    (keyed : before.nft.Keyed) : after.nft.Keyed := by
  rcases step.nft_effect real with
    same | ⟨nftCall, -, effect⟩ | ⟨nftCall, inner, -, -, effect⟩
  · rw [same]
    exact keyed
  · exact PolicyNft.keyed_effect effect keyed
  · exact PolicyNft.keyed_effect effect keyed

/-- One operation keeps the invariant and the authority map. -/
theorem operate_authority {world : World PolicyNft.State}
    (sound : deployment.Sound world) (keyed : world.nft.Keyed)
    (operation : Operation) :
    (deployment.Sound (deployment.operate world operation) ∧
        (deployment.operate world operation).nft.Keyed) ∧
      deployment.Authority operation world
        (deployment.operate world operation) := by
  cases operation with
  | kept timestamp keeper =>
      rw [operate_kept]
      exact ⟨⟨sound, keyed⟩, .refl _ world⟩
  | invoked invocation =>
      have soundAfter := deployment.sound_apply sound invocation
      change (deployment.Sound (deployment.apply world invocation) ∧
          (deployment.apply world invocation).nft.Keyed) ∧
        deployment.Authority _ _ (deployment.apply world invocation)
      rcases deployment.apply_cases world invocation with
        ⟨-, same⟩ | ⟨-, step⟩
      · rw [same]
        exact ⟨⟨sound, keyed⟩, .refl _ world⟩
      · exact ⟨⟨soundAfter, step.keyed real keyed⟩,
          step.authority real sound keyed⟩

/-- In every run of invocations and keepers, a stored value of the four
contracts changes only with the authorization that the maps name. -/
theorem authorityMap (operations : List Operation) :
    ∀ transition ∈ deployment.traceOperations operations,
      deployment.Authority transition.label transition.source
        transition.target := by
  have genesis : deployment.genesis.nft.Keyed := by
    have start : deployment.genesis.nft = PolicyNft.constructor nftAdmin := by
      simp [Deployment.genesis, real, PolicyNft.certificates]
    rw [start]
    exact PolicyNft.keyed_constructor nftAdmin
  apply History.transitions deployment.operate (fun _ => True)
    (fun world => deployment.Sound world ∧ world.nft.Keyed)
    (fun transition => deployment.Authority transition.label
      transition.source transition.target)
  · intro world operation _ invariant
    exact operate_authority real invariant.1 invariant.2 operation
  · exact ⟨deployment.sound_genesis, genesis⟩
  · intro transition member
    trivial

end Certificates

/-- The worked season, and a keeper afterwards. -/
def seasonOperations : List Operation :=
  season.map .invoked ++
    [.kept 1753574460 (.receiverPolicyTtl testnetReceiver 1)]

theorem authorityMap_season :
    (∃ transition ∈ seasonDeployment.traceOperations seasonOperations,
      transition.source.policyManager.statusOf 1 = some .active ∧
        transition.target.policyManager.statusOf 1 = some .claimed) ∧
      ∀ transition ∈ seasonDeployment.traceOperations seasonOperations,
        seasonDeployment.Authority transition.label transition.source
          transition.target :=
  ⟨by decide +kernel, authorityMap rfl seasonOperations⟩

/-- The keeper runs through all four contracts. -/
example : (seasonDeployment.keep
    (.receiverPolicyTtl testnetReceiver 1)).committed
      (seasonDeployment.run season) = true := by
  decide +kernel

end Deployment

end Microcrop
