import Microcrop.DeploymentSteps
import Microcrop.SystemInvariant

/-!
# Who holds which role along a run

The roles of PolicyManager and of the certificate contract change by the
administrator's grants and revocations only, so a bound on the grants that
the calls of a run make bounds the holders in all its states.
-/

namespace Microcrop

open Transaction

namespace PolicyManager

/-- A grant of the role goes to an allowed address. -/
def Call.grantsWithin (role : Role) (allowed : Address → Bool) : Call → Bool
  | .grantRole _ other who => other ≠ role || allowed who
  | _ => true

/-- Every call sets the roles as its arguments say. -/
theorem Effect.roles_eq {Ω : Type} {nft : Env → PolicyNftClient Ω}
    {env : Env} {call : Call} {before after : State × Ω}
    (effect : Effect nft env before call after) :
    after.1.roles = call.rolesAfter before.1.roles := by
  cases effect with
  | administered => rfl
  | sold => rfl
  | activated => exact State.activate_roles ..
  | closedActive stored active cause =>
      rw [State.closeActive_roles]
      cases cause <;> rfl
  | closedPending stored pending cause =>
      rw [State.closePending_roles]
      cases cause <;> rfl
  | claimCounted => rfl
  | alreadyExpired => rfl

theorem Call.heldBy_rolesAfter {call : Call} {role : Role}
    {allowed : Address → Bool}
    (within : call.grantsWithin role allowed = true) {roles : Roles}
    (held : roles.HeldBy role allowed) :
    (call.rolesAfter roles).HeldBy role allowed := by
  cases call with
  | grantRole caller other who =>
      refine held.grant fun same => ?_
      simpa [Call.grantsWithin, same] using within
  | revokeRole caller other who => exact held.revoke other who
  | _ => exact held

end PolicyManager

namespace PolicyNft

/-- A grant of the role goes to an allowed address. -/
def Call.grantsWithin (role : Role) (allowed : Address → Bool) : Call → Bool
  | .grantRole _ other who => other ≠ role || allowed who
  | _ => true

theorem heldBy_effect {env : Env} {call : Call} {before after : State}
    (effect : Effect env before call after) {role : Role}
    {allowed : Address → Bool}
    (within : call.grantsWithin role allowed = true)
    (held : before.roles.HeldBy role allowed) :
    after.roles.HeldBy role allowed := by
  cases effect with
  | wired => exact held
  | granted =>
      refine held.grant fun same => ?_
      simpa [Call.grantsWithin, same] using within
  | revoked => exact held.revoke _ _
  | minted => exact held
  | updated => exact held
  | moved => exact held

/-- The calls that PolicyManager makes. -/
def Call.certifies : Call → Bool
  | .mintPolicy .. => true
  | .updatePolicyStatus .. => true
  | _ => false

theorem Call.grantsWithin_of_certifies {call : Call}
    (certifies : call.certifies = true) (role : Role)
    (allowed : Address → Bool) : call.grantsWithin role allowed = true := by
  cases call <;> first | rfl | cases certifies

/-- A call to PolicyManager leaves the certificate contract alone or makes
one call to it. -/
theorem effect_of_managed {address : Address} {env : Env}
    {call : PolicyManager.Call} {before after : PolicyManager.State × State}
    (effect : PolicyManager.Effect (clientAt address) env before call
      after) :
    after.2 = before.2 ∨ ∃ nftCall, nftCall.certifies = true ∧
      Effect (env.invoke address) before.2 nftCall after.2 := by
  cases effect with
  | administered => exact Or.inl rfl
  | sold => exact Or.inl rfl
  | @activated _ policyId _ _ _ wiredTo _ _ _ _ _ _ _ _ _ _ _ minted =>
      unfold clientAt at minted
      split at minted
      · rename_i here
        rw [Env.invoke_currentContract] at here
        subst here
        obtain ⟨signed, minter, positive, fresh, -, -, rfl⟩ :=
          (mintPolicy_commits _ _ _ _ _ _ _ _ _ _ _ _ _ _ _ _).mp minted
        exact Or.inr ⟨_, rfl, .minted signed minter positive fresh⟩
      · exact absurd minted (fail_commits _ _ _ _)
  | @closedActive _ policyId policy status outside stored active cause
      deactivates =>
      cases wired : before.1.policyNft with
      | none =>
          rw [wired] at deactivates
          exact Or.inl deactivates
      | some wiredTo =>
          rw [wired] at deactivates
          obtain ⟨minted, middle, queried, rest⟩ := deactivates
          unfold clientAt at queried
          split at queried
          · rename_i here
            rw [Env.invoke_currentContract] at here
            subst here
            obtain ⟨-, rfl⟩ := (read_commits _ _ _ _).mp queried
            simp only [clientAt, Env.invoke_currentContract,
              if_true] at rest
            split at rest
            · rcases rest with updated | ⟨error, -, -, same⟩
              · obtain ⟨manager, signed, tokenId, certificate, token, known,
                  changed⟩ :=
                  (updatePolicyStatus_commits _ _ _ _ _ _ _).mp updated
                refine Or.inr ⟨.updatePolicyStatus env.currentContract
                  policyId false, rfl, ?_⟩
                change Effect _ _ _ outside
                rw [changed]
                exact .updated manager signed token known
              · exact Or.inl same
            · exact Or.inl rest
          · exact absurd queried (fail_commits _ _ _ _)
  | closedPending => exact Or.inl rfl
  | claimCounted => exact Or.inl rfl
  | alreadyExpired => exact Or.inl rfl

end PolicyNft

namespace World

/-- A grant of the role on PolicyManager goes to an allowed address. -/
def Call.grantsWithin {κ : Type} (role : Role) (allowed : Address → Bool) :
    World.Call κ → Bool
  | .policyManager call => call.grantsWithin role allowed
  | _ => true

/-- A grant of the role on the certificate contract goes to an allowed
address. -/
def Call.nftGrantsWithin (role : Role) (allowed : Address → Bool) :
    World.Call PolicyNft.Call → Bool
  | .nft call => call.grantsWithin role allowed
  | _ => true

end World

namespace Deployment

variable {Ω κ : Type} {deployment : Deployment Ω κ} {env : Env}
  {before after : World Ω} {call : World.Call κ} {role : Role}
  {allowed : Address → Bool}

theorem Step.heldBy (step : deployment.Step env before call after)
    (within : call.grantsWithin role allowed = true)
    (held : before.policyManager.roles.HeldBy role allowed) :
    after.policyManager.roles.HeldBy role allowed := by
  cases step with
  | managed here effect =>
      rw [effect.roles_eq]
      exact PolicyManager.Call.heldBy_rolesAfter within held
  | administered => exact held
  | swapped => exact held
  | settled settlement =>
      change (claimedManager _ _ _).roles.HeldBy role allowed
      rw [settlement.counted.roles_eq]
      change (PolicyManager.State.closeActive _ _ _).roles.HeldBy _ _
      rw [PolicyManager.State.closeActive_roles]
      exact held
  | booked => exact held
  | certified => exact held
  | markerExpired => exact held

/-- A role of PolicyManager stays with the allowed addresses along every run
whose grants go to them only. -/
theorem heldBy_trace (deployment : Deployment Ω κ)
    (invocations : List (Invocation κ))
    (start : (PolicyManager.constructor deployment.admin).roles.HeldBy role
      allowed)
    (within : ∀ invocation ∈ invocations,
      invocation.call.grantsWithin role allowed = true) :
    ∀ transition ∈ deployment.trace invocations,
      transition.source.policyManager.roles.HeldBy role allowed := by
  refine History.transitions deployment.apply
    (fun transition =>
      transition.label.call.grantsWithin role allowed = true)
    (fun world => world.policyManager.roles.HeldBy role allowed)
    (fun transition =>
      transition.source.policyManager.roles.HeldBy role allowed)
    ?_ invocations start ?_
  · intro world invocation within held
    refine ⟨?_, held⟩
    rcases deployment.apply_cases world invocation with
      ⟨-, same⟩ | ⟨-, step⟩
    · rw [same]
      exact held
    · exact step.heldBy within held
  · intro transition member
    exact within _ (History.label_mem_of_mem_trace _ member)

/-- The constructor grants no role but Admin and Upgrader. -/
theorem constructor_heldBy (admin : Address)
    (other : role ≠ .admin ∧ role ≠ .upgrader) :
    (PolicyManager.constructor admin).roles.HeldBy role allowed := by
  intro who holds
  simp [PolicyManager.constructor, other] at holds

section Certificates

variable {deployment : Deployment PolicyNft.State PolicyNft.Call}
  {nftAddress nftAdmin : Address}
  (real : deployment.certificates =
    PolicyNft.certificates nftAddress nftAdmin)

include real

/-- A step leaves the certificate contract alone, or it is a call to it, or
PolicyManager makes one. -/
theorem Step.nft_effect {env : Env} {before after : World PolicyNft.State}
    {call : World.Call PolicyNft.Call}
    (step : deployment.Step env before call after) :
    after.nft = before.nft ∨
      (∃ nftCall, call = .nft nftCall ∧
        PolicyNft.Effect env before.nft nftCall after.nft) ∨
      ∃ nftCall inner, nftCall.certifies = true ∧
        (∀ address, inner.authorized address = true ↔
          address = deployment.policyManager) ∧
          PolicyNft.Effect inner before.nft nftCall after.nft := by
  have client : deployment.certificates.client =
      PolicyNft.clientAt nftAddress := by
    rw [real]
    rfl
  cases step with
  | @managed managerCall changed here effect =>
      rw [client] at effect
      rcases PolicyNft.effect_of_managed effect with
        same | ⟨nftCall, certifies, called⟩
      · exact Or.inl same
      · refine Or.inr (Or.inr ⟨nftCall, _, certifies, ?_, called⟩)
        intro address
        rw [Env.invoke_authorized, here]
  | administered => exact Or.inl rfl
  | swapped => exact Or.inl rfl
  | settled settlement =>
      have marked := settlement.marked
      rw [client] at marked
      rcases PolicyNft.effect_of_managed marked with
        same | ⟨nftCall, certifies, called⟩
      · exact Or.inl same
      · exact Or.inr (Or.inr ⟨nftCall, _, certifies,
          fun address => Env.invoke_authorized _ _ address, called⟩)
  | booked => exact Or.inl rfl
  | certified commits =>
      rw [real] at commits
      exact Or.inr (Or.inl ⟨_, rfl, PolicyNft.exec_effect _ _ commits⟩)
  | markerExpired => exact Or.inl rfl

/-- A role of the certificate contract stays with the allowed addresses along
every run whose grants go to them only. -/
theorem nft_heldBy_trace (invocations : List (Invocation PolicyNft.Call))
    {role : Role} {allowed : Address → Bool} (other : role ≠ .admin)
    (within : ∀ invocation ∈ invocations,
      invocation.call.nftGrantsWithin role allowed = true) :
    ∀ transition ∈ deployment.trace invocations,
      transition.source.nft.roles.HeldBy role allowed := by
  refine History.transitions deployment.apply
    (fun transition =>
      transition.label.call.nftGrantsWithin role allowed = true)
    (fun world => world.nft.roles.HeldBy role allowed)
    (fun transition => transition.source.nft.roles.HeldBy role allowed)
    ?_ invocations ?_ ?_
  · intro world invocation within held
    refine ⟨?_, held⟩
    rcases deployment.apply_cases world invocation with
      ⟨-, same⟩ | ⟨-, step⟩
    · rw [same]
      exact held
    · rcases step.nft_effect real with
        same | ⟨nftCall, called, effect⟩ | ⟨nftCall, inner, certifies, -,
          effect⟩
      · rw [same]
        exact held
      · change invocation.call.nftGrantsWithin role allowed = true at within
        rw [called] at within
        exact PolicyNft.heldBy_effect effect within held
      · exact PolicyNft.heldBy_effect effect
          (PolicyNft.Call.grantsWithin_of_certifies certifies role allowed)
          held
  · intro who holds
    simp [genesis, real, PolicyNft.certificates, PolicyNft.constructor,
      other] at holds
  · intro transition member
    exact within _ (History.label_mem_of_mem_trace _ member)

end Certificates

end Deployment

end Microcrop
