import Microcrop.PolicyNft
import Microcrop.RegistryReplay

/-!
# The certificates in their events

A reader of the events of PolicyNft holds every certificate up to the data
that only its holder needs, the owner of every token, the index of every
distributor and the stored PolicyManager.
-/

namespace Microcrop

open Transaction

/-- What the events say of a certificate. -/
structure AnnouncedCertificate where
  policyId : Nat
  farmer : Address
  distributor : Address
  sumInsured : Int
  isActive : Bool
  deriving DecidableEq

def PolicyCertificate.announced (certificate : PolicyCertificate) :
    AnnouncedCertificate where
  policyId := certificate.policyId
  farmer := certificate.farmer
  distributor := certificate.distributor
  sumInsured := certificate.sumInsured
  isActive := certificate.isActive

namespace PolicyNft

/-- What a reader of the events knows of PolicyNft. -/
@[ext]
structure Register where
  policyManager : Option Address
  certificates : Nat → Option AnnouncedCertificate
  policyToToken : Nat → Option Nat
  owners : Nat → Option Address
  distributorCount : Address → Nat
  distributorPolicyAt : Address → Nat → Option Nat

/-- What there is to know. -/
def State.register (state : State) : Register where
  policyManager := state.policyManager
  certificates tokenId :=
    (state.certificates tokenId).map PolicyCertificate.announced
  policyToToken := state.policyToToken
  owners := state.owners
  distributorCount := state.distributorCount
  distributorPolicyAt := state.distributorPolicyAt

namespace Register

def mint (known : Register) (tokenId policyId : Nat)
    (farmer distributor : Address) (sumInsured : Int) : Register :=
  { known with
    certificates := Function.update known.certificates tokenId
      (some { policyId, farmer, distributor, sumInsured, isActive := true })
    policyToToken :=
      Function.update known.policyToToken policyId (some tokenId)
    owners := Function.update known.owners tokenId (some farmer)
    distributorPolicyAt := Function.update known.distributorPolicyAt
      distributor
      (Function.update (known.distributorPolicyAt distributor)
        (known.distributorCount distributor) (some tokenId))
    distributorCount := Function.update known.distributorCount distributor
      (known.distributorCount distributor + 1) }

/-- What the reader makes of one event. -/
def absorb (known : Register) : Event → Register
  | .policyManagerUpdated policyManager =>
      { known with policyManager := some policyManager }
  | .policyNftMinted tokenId policyId farmer distributor sumInsured =>
      known.mint tokenId policyId farmer distributor sumInsured
  | .policyStatusUpdated tokenId isActive =>
      { known with
        certificates := Function.update known.certificates tokenId
          ((known.certificates tokenId).map fun certificate =>
            { certificate with isActive }) }
  | .transfer _ target tokenId =>
      { known with
        owners := Function.update known.owners tokenId (some target) }
  | _ => known

/-- The events that the reader does not skip. -/
def heard : Event → Bool
  | .policyManagerUpdated .. => true
  | .policyNftMinted .. => true
  | .policyStatusUpdated .. => true
  | .transfer .. => true
  | _ => false

theorem skips (known : Register) (event : Event)
    (unheard : heard event = false) : known.absorb event = known := by
  cases event <;> first | rfl | cases unheard

end Register

section Register

variable (state : State)

/-- The announced certificates after one was written. -/
theorem register_certificates_written (tokenId : Nat)
    (certificate : PolicyCertificate) :
    (state.saveCertificate tokenId certificate).register.certificates =
      Function.update state.register.certificates tokenId
        (some certificate.announced) := by
  funext other
  change (Function.update state.certificates tokenId (some certificate)
    other).map PolicyCertificate.announced = _
  by_cases same : other = tokenId
  · rw [same, Function.update_self, Function.update_self]
    rfl
  · rw [Function.update_of_ne same, Function.update_of_ne same]
    rfl

theorem register_mint (farmer : Address) (policyId : Nat)
    (distributor : Address) (distributorName : String)
    (sumInsured premium : Int) (startDate endDate : Nat)
    (coverageType : CoverageType) (region : String) (plotId : Nat) :
    ((state.saveToken policyId policyId
        (newCertificate farmer policyId distributor distributorName sumInsured
          premium startDate endDate coverageType region plotId)
        farmer).appendDistributorPolicy distributor
          (state.distributorCount distributor) policyId).register =
      state.register.mint policyId policyId farmer distributor
        sumInsured := by
  apply Register.ext
  · rfl
  · exact register_certificates_written state policyId
      (newCertificate farmer policyId distributor distributorName sumInsured
        premium startDate endDate coverageType region plotId)
  · rfl
  · rfl
  · exact KeyedStore.getD_written state.distributorCounts distributor
      (state.distributorCount distributor + 1) 0
  · rfl

variable {state}

theorem register_saveCertificate {tokenId : Nat}
    {certificate : PolicyCertificate}
    (stored : state.certificates tokenId = some certificate)
    (isActive : Bool) :
    (state.saveCertificate tokenId { certificate with isActive }).register =
      state.register.absorb (.policyStatusUpdated tokenId isActive) := by
  have known : state.register.certificates tokenId =
      some certificate.announced := congrArg (Option.map _) stored
  apply Register.ext
  · rfl
  · rw [register_certificates_written]
    simp only [Register.absorb, known]
    rfl
  all_goals rfl

end Register

section Emits

variable {env : Env} {before after : State} {events : List Event}

theorem mintPolicy_announces (env : Env) (caller farmer : Address)
    (policyId : Nat) (distributor : Address) (distributorName : String)
    (sumInsured premium : Int) (startDate endDate : Nat)
    (coverageType : CoverageType) (region : String) (plotId : Nat) :
    (mintPolicy env caller farmer policyId distributor distributorName
      sumInsured premium startDate endDate coverageType region
      plotId).Announces Register.heard fun tokenId =>
        [.policyNftMinted tokenId policyId farmer distributor sumInsured] := by
  apply (requireRole_idle _ _ _).silent.andThen fun _ =>
    (panicIf_silent _ _).andThen fun _ =>
    (read_silent _).andThen fun _ =>
    (panicIf_silent _ _).andThen fun _ =>
    (modify_silent _).andThen fun _ =>
    (read_silent _).andThen fun _ =>
    (addUnsigned_idle _ _ _).silent.andThen fun _ =>
    (modify_silent _).andThen fun _ => Announces.returning ?_
  exact publish_announces rfl

theorem updatePolicyStatus_heard {caller : Address} {policyId : Nat}
    {isActive : Bool} {result : Unit}
    (emits : (updatePolicyStatus env caller policyId isActive).Emits before
      result after events) :
    ∃ tokenId, before.policyToToken policyId = some tokenId ∧
      events = [.policyStatusUpdated tokenId isActive] := by
  simp only [updatePolicyStatus, requireAuth, bind_emits, read_emits,
    panicIf_emits, unwrapOr_emits, modify_emits, publish_emits] at emits
  grind

theorem transfer_announces (env : Env) (source target : Address)
    (tokenId : Nat) :
    (transfer env source target tokenId).Announces Register.heard
      fun _ => [.transfer source target tokenId] :=
  (requireAuth_idle _ _).silent.andThen fun _ =>
    (read_silent _).andThen fun _ =>
    (unwrapOr_silent _ _).andThen fun _ =>
    (panicIf_silent _ _).andThen fun _ =>
    (read_silent _).andThen fun _ =>
    (unwrapOr_silent _ _).andThen fun _ =>
    (panicIf_silent _ _).andThen fun _ =>
    (modify_silent _).andThen fun _ => publish_announces rfl

end Emits

/-! ## The register follows every call -/

/-- The reader needs no invariant of PolicyNft. -/
def FollowsRegister {α : Type} (program : Contract State α) : Prop :=
  program.Follows (fun _ => True) Register.absorb State.register

theorem mintPolicy_follows (env : Env) (caller farmer : Address)
    (policyId : Nat) (distributor : Address) (distributorName : String)
    (sumInsured premium : Int) (startDate endDate : Nat)
    (coverageType : CoverageType) (region : String) (plotId : Nat) :
    FollowsRegister (mintPolicy env caller farmer policyId distributor
      distributorName sumInsured premium startDate endDate coverageType region
      plotId) := by
  apply (mintPolicy_announces _ _ _ _ _ _ _ _ _ _ _ _ _).follows
    Register.skips
  intro before tokenId after _ commits
  obtain ⟨-, -, -, -, -, rfl, rfl⟩ :=
    (mintPolicy_commits _ _ _ _ _ _ _ _ _ _ _ _ _ _ _ _).mp commits
  exact ⟨trivial, (register_mint before farmer tokenId distributor
    distributorName sumInsured premium startDate endDate coverageType region
    plotId).symm⟩

theorem updatePolicyStatus_follows (env : Env) (caller : Address)
    (policyId : Nat) (isActive : Bool) :
    FollowsRegister (updatePolicyStatus env caller policyId isActive) := by
  intro before result after events _ emits
  obtain ⟨tokenId, token, rfl⟩ := updatePolicyStatus_heard emits
  obtain ⟨-, -, same, certificate, tokenSame, stored, rfl⟩ :=
    (updatePolicyStatus_commits _ _ _ _ _ _ _).mp emits.commits
  rw [token] at tokenSame
  cases tokenSame
  exact ⟨trivial, (register_saveCertificate stored isActive).symm⟩

theorem transfer_follows (env : Env) (source target : Address)
    (tokenId : Nat) :
    FollowsRegister (transfer env source target tokenId) := by
  apply (transfer_announces _ _ _ _).follows Register.skips
  intro before result after _ commits
  obtain ⟨-, -, certificate, -, -, rfl⟩ :=
    (transfer_commits _ _ _ _ _ _ _).mp commits
  exact ⟨trivial, rfl⟩

theorem setPolicyManager_follows (env : Env)
    (caller policyManager : Address) :
    FollowsRegister (setPolicyManager env caller policyManager) := by
  have announces : (setPolicyManager env caller policyManager).Announces
      Register.heard fun _ => [.policyManagerUpdated policyManager] :=
    (requireRole_idle _ _ _).silent.andThen fun _ =>
      (modify_silent _).andThen fun _ => publish_announces rfl
  apply announces.follows Register.skips
  intro before result after _ commits
  simp only [setPolicyManager, bind_commits, requireRole_commits,
    modify_commits, publish_commits, exists_const, and_assoc,
    exists_and_left, exists_eq_left] at commits
  obtain ⟨-, -, rfl⟩ := commits
  exact ⟨trivial, rfl⟩

/-- Roles are not announced, and not part of the register. -/
theorem roles_follow (env : Env) (caller who : Address) (role : Role) :
    FollowsRegister (grantRole env caller role who) ∧
      FollowsRegister (revokeRole env caller role who) := by
  constructor
  · have silent : (grantRole env caller role who).Silent Register.heard :=
      (requireRole_idle _ _ _).silent.bind fun _ => modify_silent _
    apply silent.announces.follows Register.skips
    intro before result after _ commits
    simp only [grantRole, bind_commits, requireRole_commits,
      grantRole_commits, roleStorage_setRoles, exists_const, and_assoc,
      exists_and_left, exists_eq_left] at commits
    obtain ⟨-, -, rfl⟩ := commits
    exact ⟨trivial, rfl⟩
  · have silent : (revokeRole env caller role who).Silent Register.heard :=
      (requireRole_idle _ _ _).silent.bind fun _ => modify_silent _
    apply silent.announces.follows Register.skips
    intro before result after _ commits
    simp only [revokeRole, bind_commits, requireRole_commits,
      revokeRole_commits, roleStorage_setRoles, exists_const, and_assoc,
      exists_and_left, exists_eq_left] at commits
    obtain ⟨-, -, rfl⟩ := commits
    exact ⟨trivial, rfl⟩

theorem pure_follows {α : Type} (value : α) :
    FollowsRegister (pure value) :=
  (pure_idle value).follows

theorem exec_follows (env : Env) (call : Call) :
    FollowsRegister (exec env call) := by
  cases call with
  | setPolicyManager caller policyManager =>
      exact setPolicyManager_follows env caller policyManager
  | grantRole caller role who => exact (roles_follow env caller who role).1
  | revokeRole caller role who => exact (roles_follow env caller who role).2
  | mintPolicy caller farmer policyId distributor distributorName sumInsured
      premium startDate endDate coverageType region plotId =>
      exact (mintPolicy_follows _ _ _ _ _ _ _ _ _ _ _ _ _).bind
        fun _ => pure_follows ()
  | updatePolicyStatus caller policyId isActive =>
      exact updatePolicyStatus_follows env caller policyId isActive
  | transfer source target tokenId =>
      exact transfer_follows env source target tokenId

/-! ## Readers of other contracts -/

/-- No event is one of both contracts. -/
theorem Register.unheard_by_registry (event : Event)
    (heard : Register.heard event = true) :
    PolicyManager.Registry.heard event = false := by
  cases event <;> first | rfl | cases heard

section Unheard

variable {heard : Event → Bool}
  (foreign : ∀ event, Register.heard event = true → heard event = false)

include foreign

theorem mintPolicy_silent (env : Env) (caller farmer : Address)
    (policyId : Nat) (distributor : Address) (distributorName : String)
    (sumInsured premium : Int) (startDate endDate : Nat)
    (coverageType : CoverageType) (region : String) (plotId : Nat) :
    (mintPolicy env caller farmer policyId distributor distributorName
      sumInsured premium startDate endDate coverageType region
      plotId).Silent heard :=
  (requireRole_idle _ _ _).silent.bind fun _ =>
    (panicIf_silent _ _).bind fun _ =>
    (read_silent _).bind fun _ =>
    (panicIf_silent _ _).bind fun _ =>
    (modify_silent _).bind fun _ =>
    (read_silent _).bind fun _ =>
    (addUnsigned_idle _ _ _).silent.bind fun _ =>
    (modify_silent _).bind fun _ =>
    (publish_silent (foreign _ rfl)).bind fun _ => pure_silent _

theorem updatePolicyStatus_silent (env : Env) (caller : Address)
    (policyId : Nat) (isActive : Bool) :
    (updatePolicyStatus env caller policyId isActive).Silent heard :=
  (read_silent _).bind fun _ =>
    (panicIf_silent _ _).bind fun _ =>
    (requireAuth_idle _ _).silent.bind fun _ =>
    (read_silent _).bind fun _ =>
    (unwrapOr_silent _ _).bind fun _ =>
    (read_silent _).bind fun _ =>
    (unwrapOr_silent _ _).bind fun _ =>
    (modify_silent _).bind fun _ => publish_silent (foreign _ rfl)

/-- PolicyNft publishes its own events only. -/
theorem exec_silent (env : Env) (call : Call) :
    (exec env call).Silent heard := by
  cases call with
  | setPolicyManager caller policyManager =>
      exact (requireRole_idle _ _ _).silent.bind fun _ =>
        (modify_silent _).bind fun _ => publish_silent (foreign _ rfl)
  | grantRole caller role who =>
      exact (requireRole_idle _ _ _).silent.bind fun _ => modify_silent _
  | revokeRole caller role who =>
      exact (requireRole_idle _ _ _).silent.bind fun _ => modify_silent _
  | mintPolicy caller farmer policyId distributor distributorName sumInsured
      premium startDate endDate coverageType region plotId =>
      exact (mintPolicy_silent foreign _ _ _ _ _ _ _ _ _ _ _ _ _).bind
        fun _ => pure_silent _
  | updatePolicyStatus caller policyId isActive =>
      exact updatePolicyStatus_silent foreign env caller policyId isActive
  | transfer source target tokenId =>
      exact (requireAuth_idle _ _).silent.bind fun _ =>
        (read_silent _).bind fun _ =>
        (unwrapOr_silent _ _).bind fun _ =>
        (panicIf_silent _ _).bind fun _ =>
        (read_silent _).bind fun _ =>
        (unwrapOr_silent _ _).bind fun _ =>
        (panicIf_silent _ _).bind fun _ =>
        (modify_silent _).bind fun _ => publish_silent (foreign _ rfl)

theorem clientAt_silent (address : Address) :
    PolicyManager.SilentNft heard (clientAt address) := by
  constructor
  · intro env policyId
    unfold clientAt
    split
    · exact read_silent _
    · exact fail_silent _
  · intro env caller policyId isActive
    unfold clientAt
    split
    · exact updatePolicyStatus_silent foreign env caller policyId isActive
    · exact fail_silent _
  · intro env caller farmer policyId distributor distributorName sumInsured
      premium startDate endDate coverageType region plotId
    unfold clientAt
    split
    · exact mintPolicy_silent foreign env caller farmer policyId distributor
        distributorName sumInsured premium startDate endDate coverageType
        region plotId
    · exact fail_silent _

end Unheard

/-- The calls of a client that a reader of the register follows. -/
structure FollowedClient (client : PolicyNftClient State) : Prop where
  policyNftExists : ∀ policyId,
    FollowsRegister (client.policyNftExists policyId)
  updatePolicyStatus : ∀ caller policyId isActive,
    FollowsRegister (client.updatePolicyStatus caller policyId isActive)
  mintPolicy : ∀ caller farmer policyId distributor distributorName
    sumInsured premium startDate endDate coverageType region plotId,
    FollowsRegister (client.mintPolicy caller farmer policyId distributor
      distributorName sumInsured premium startDate endDate coverageType region
      plotId)

theorem clientAt_followed (address : Address) (env : Env) :
    FollowedClient (clientAt address env) := by
  unfold clientAt
  split
  · constructor
    · intro policyId
      exact (read_idle _).follows
    · intro caller policyId isActive
      exact updatePolicyStatus_follows env caller policyId isActive
    · intro caller farmer policyId distributor distributorName sumInsured
        premium startDate endDate coverageType region plotId
      exact mintPolicy_follows env caller farmer policyId distributor
        distributorName sumInsured premium startDate endDate coverageType
        region plotId
  · constructor
    · intro policyId
      exact (fail_idle _).follows
    · intro caller policyId isActive
      exact (fail_idle _).follows
    · intro caller farmer policyId distributor distributorName sumInsured
        premium startDate endDate coverageType region plotId
      exact (fail_idle _).follows

end PolicyNft

/-! ## The register follows PolicyManager -/

namespace PolicyManager

open PolicyNft (Register FollowedClient)

/-- The reader's judgment for code of PolicyManager. -/
def FollowsRegister {α : Type}
    (program : Contract (State × PolicyNft.State) α) : Prop :=
  program.Follows (fun _ => True) Register.absorb
    fun both => both.2.register

theorem internal_followsRegister {α : Type} {program : Contract State α}
    (silent : program.Silent Register.heard) :
    FollowsRegister (internal program) :=
  silent.follows_zoom Register.skips fun _ _ _ => ⟨trivial, rfl⟩

theorem external_followsRegister {α : Type}
    {program : Contract PolicyNft.State α}
    (follows : PolicyNft.FollowsRegister program) :
    FollowsRegister (external program) := by
  apply follows.zoom
  · rintro whole component ⟨⟩ -
    exact ⟨trivial, rfl⟩
  · rintro whole component changed - - -
    exact ⟨trivial, rfl⟩

theorem publish_followsRegister {event : Event}
    (unheard : Register.heard event = false) :
    FollowsRegister (publish event) :=
  publish_follows Register.skips unheard

/-- A write to PolicyManager's own storage. -/
theorem modify_followsRegister (update : State → State) :
    FollowsRegister (internal (modify update)) :=
  internal_followsRegister (modify_silent update)

section Calls

variable {nft : Env → PolicyNftClient PolicyNft.State}
  (followed : ∀ env, FollowedClient (nft env)) (env : Env)

include followed

theorem deactivatePolicyNft_followsRegister (policyId : Nat) :
    FollowsRegister (deactivatePolicyNft nft env policyId) := by
  have skipped : FollowsRegister
      (publish (.policyNftUpdateSkipped policyId)) :=
    publish_followsRegister rfl
  apply (read_idle _).internal.follows.bind
  rintro (_ | address)
  · exact skipped
  · have client := followed (env.invoke address)
    apply (external_followsRegister (client.policyNftExists policyId)).bind
    intro minted
    split
    · apply (external_followsRegister
        (client.updatePolicyStatus _ _ _)).attempt.bind
      rintro (error | _)
      · exact skipped
      · exact (pure_idle _).follows
    · exact skipped

theorem releaseSlot_followsRegister (policyId : Nat) (policy : Policy) :
    FollowsRegister (releaseSlot nft env policyId policy) := by
  unfold releaseSlot
  split
  · exact (modify_followsRegister _).bind fun _ =>
      deactivatePolicyNft_followsRegister followed env policyId
  · exact modify_followsRegister _

theorem activatePolicy_followsRegister (caller : Address) (policyId : Nat)
    (distributor : Address) (distributorName region : String) :
    FollowsRegister (activatePolicy nft env caller policyId distributor
      distributorName region) :=
  (requireRole_idle _ _ _).internal.follows.bind fun _ =>
    (read_idle _).internal.follows.bind fun _ =>
    (unwrapOr_idle _ _).follows.bind fun _ =>
    (loadPolicy_idle _).internal.follows.bind fun _ =>
    (panicIf_idle _ _).follows.bind fun _ =>
    (panicIf_idle _ _).follows.bind fun _ =>
    (read_idle _).internal.follows.bind fun _ =>
    (panicIf_idle _ _).follows.bind fun _ =>
    (subUnsigned_idle _ _).follows.bind fun _ =>
    (addUnsigned_idle _ _ _).follows.bind fun _ =>
    (modify_followsRegister _).bind fun _ =>
    (addUnsigned_idle _ _ _).follows.bind fun _ =>
    (modify_followsRegister _).bind fun _ =>
    (modify_followsRegister _).bind fun _ =>
    (external_followsRegister ((followed _).mintPolicy _ _ _ _ _ _ _ _ _ _
      _ _)).bind fun _ => publish_followsRegister rfl

theorem markAsClaimed_followsRegister (caller : Address) (policyId : Nat) :
    FollowsRegister (markAsClaimed nft env caller policyId) :=
  (requireRole_idle _ _ _).internal.follows.bind fun _ =>
    (loadPolicy_idle _).internal.follows.bind fun _ =>
    (panicIf_idle _ _).follows.bind fun _ =>
    (panicIf_idle _ _).follows.bind fun _ =>
    (modify_followsRegister _).bind fun _ =>
    (modify_followsRegister _).bind fun _ =>
    (modify_followsRegister _).bind fun _ =>
    (deactivatePolicyNft_followsRegister followed env policyId).bind
      fun _ => publish_followsRegister rfl

theorem cancelPolicy_followsRegister (caller : Address) (policyId : Nat) :
    FollowsRegister (cancelPolicy nft env caller policyId) :=
  (requireAuth_idle _ _).internal.follows.bind fun _ =>
    (hasRole_idle _ _).internal.follows.bind fun _ =>
    (hasRole_idle _ _).internal.follows.bind fun _ =>
    (panicIf_idle _ _).follows.bind fun _ =>
    (loadPolicy_idle _).internal.follows.bind fun _ =>
    (panicIf_idle _ _).follows.bind fun _ =>
    (panicIf_idle _ _).follows.bind fun _ =>
    (modify_followsRegister _).bind fun _ =>
    (releaseSlot_followsRegister followed env policyId _).bind fun _ =>
    (modify_followsRegister _).bind fun _ => publish_followsRegister rfl

theorem expirePolicy_followsRegister (policyId : Nat) :
    FollowsRegister (expirePolicy nft env policyId) := by
  apply (loadPolicy_idle _).internal.follows.bind
  intro policy
  split
  · exact (pure_idle _).follows
  · exact (panicIf_idle _ _).follows.bind fun _ =>
      (panicIf_idle _ _).follows.bind fun _ =>
      (releaseSlot_followsRegister followed env policyId _).bind fun _ =>
      (modify_followsRegister _).bind fun _ =>
      (modify_followsRegister _).bind fun _ => publish_followsRegister rfl

/-- PolicyManager changes no certificate but by calling PolicyNft. -/
theorem exec_followsRegister (call : Call) :
    FollowsRegister (exec nft env call) := by
  cases call with
  | setPolicyNft caller policyNft =>
      exact internal_followsRegister
        ((requireRole_idle _ _ _).silent.bind fun _ =>
          (modify_silent _).bind fun _ => publish_silent rfl)
  | grantRole caller role who =>
      exact internal_followsRegister
        ((requireRole_idle _ _ _).silent.bind fun _ => modify_silent _)
  | revokeRole caller role who =>
      exact internal_followsRegister
        ((requireRole_idle _ _ _).silent.bind fun _ => modify_silent _)
  | createPolicy caller farmer plotId latE6 lonE6 sumInsured premium
      durationDays coverageType org =>
      have sells : (createPolicy env caller farmer plotId latE6 lonE6
          sumInsured premium durationDays coverageType org).Silent
            Register.heard :=
        (requireRole_idle _ _ _).silent.bind fun _ =>
          (validateCover_idle _ _ _ _ _ _).silent.bind fun _ =>
          (read_silent _).bind fun _ =>
          (read_silent _).bind fun _ =>
          (addUnsigned_idle _ _ _).silent.bind fun _ =>
          (read_silent _).bind fun _ =>
          (addUnsigned_idle _ _ _).silent.bind fun _ =>
          (panicIf_silent _ _).bind fun _ =>
          (read_silent _).bind fun _ =>
          (addUnsigned_idle _ _ _).silent.bind fun _ =>
          (modify_silent _).bind fun _ =>
          (addUnsigned_idle _ _ _).silent.bind fun _ =>
          (modify_silent _).bind fun _ =>
          (read_silent _).bind fun _ =>
          (addUnsigned_idle _ _ _).silent.bind fun _ =>
          (modify_silent _).bind fun _ =>
          (read_silent _).bind fun _ =>
          (addI128_idle _ _).silent.bind fun _ =>
          (modify_silent _).bind fun _ =>
          (read_silent _).bind fun _ =>
          (addUnsigned_idle _ _ _).silent.bind fun _ =>
          (modify_silent _).bind fun _ =>
          (modify_silent _).bind fun _ =>
          (publish_silent rfl).bind fun _ => pure_silent _
      exact (internal_followsRegister sells).bind
        fun _ => (pure_idle _).follows
  | activatePolicy caller policyId distributor distributorName region =>
      exact activatePolicy_followsRegister followed env caller policyId
        distributor distributorName region
  | markAsClaimed caller policyId =>
      exact markAsClaimed_followsRegister followed env caller policyId
  | incrementClaimCount caller farmer =>
      exact internal_followsRegister
        ((requireRole_idle _ _ _).silent.bind fun _ =>
          (read_silent _).bind fun _ =>
          (panicIf_silent _ _).bind fun _ =>
          (modify_silent _).bind fun _ => publish_silent rfl)
  | cancelPolicy caller policyId =>
      exact cancelPolicy_followsRegister followed env caller policyId
  | expirePolicy policyId =>
      exact expirePolicy_followsRegister followed env policyId

end Calls

end PolicyManager

end Microcrop
