import Microcrop.Authority
import Microcrop.ClaimRefusals

/-!
# Certificate and policy agree

PolicyManager mints a certificate when it activates a policy and clears its
flag when it closes it, by a call whose refusal it swallows.  While the two
contracts stay wired to each other no such refusal occurs: a policy has a
certificate exactly if it was ever activated, and the certificate states the
stored cover.
-/

namespace Microcrop

open Transaction

/-- The certificate states the cover, and whether it is in force. -/
structure PolicyCertificate.Describes (certificate : PolicyCertificate)
    (policy : Policy) : Prop where
  policyId : certificate.policyId = policy.id
  farmer : certificate.farmer = policy.farmer
  sumInsured : certificate.sumInsured = policy.sumInsured
  premium : certificate.premium = policy.premium
  startDate : certificate.startDate = policy.startDate
  endDate : certificate.endDate = policy.endDate
  coverageType : certificate.coverageType = policy.coverageType
  plotId : certificate.plotId = policy.plotId
  isActive : certificate.isActive = true ↔ policy.status = .active

namespace PolicyNft

/-! ## The token of one policy -/

/-- Nothing is stored under the policy's token. -/
structure State.Blank (state : State) (policyId : Nat) : Prop where
  certificate : state.certificates policyId = none
  token : state.policyToToken policyId = none
  owner : state.owners policyId = none

/-- The policy's token carries its certificate and, while the policy is
ACTIVE, belongs to its farmer. -/
structure State.Certifies (state : State) (policyId : Nat) (policy : Policy) :
    Prop where
  certificate : ∃ certificate,
    state.certificates policyId = some certificate ∧
      certificate.Describes policy
  token : state.policyToToken policyId = some policyId
  owner : ∃ owner, state.owners policyId = some owner ∧
    (policy.status = .active → owner = policy.farmer)

/-- Two states store the same under the policy's token. -/
structure State.SameToken (before after : State) (policyId : Nat) : Prop where
  certificate : after.certificates policyId = before.certificates policyId
  token : after.policyToToken policyId = before.policyToToken policyId
  owner : after.owners policyId = before.owners policyId

section Token

variable {before after : State} {policyId : Nat}

theorem State.SameToken.refl (state : State) (policyId : Nat) :
    state.SameToken state policyId :=
  ⟨rfl, rfl, rfl⟩

theorem State.Blank.of_sameToken (blank : before.Blank policyId)
    (same : before.SameToken after policyId) : after.Blank policyId :=
  ⟨same.certificate.trans blank.certificate, same.token.trans blank.token,
    same.owner.trans blank.owner⟩

theorem State.Certifies.of_sameToken {policy : Policy}
    (certifies : before.Certifies policyId policy)
    (same : before.SameToken after policyId) :
    after.Certifies policyId policy := by
  obtain ⟨certificate, stored, describes⟩ := certifies.certificate
  obtain ⟨owner, owned, bound⟩ := certifies.owner
  exact ⟨⟨certificate, same.certificate.trans stored, describes⟩,
    same.token.trans certifies.token, owner, same.owner.trans owned, bound⟩

theorem sameToken_saveToken (state : State) {certificate : PolicyCertificate}
    {farmer distributor : Address} {index other : Nat}
    (different : other ≠ policyId) :
    state.SameToken ((state.saveToken policyId policyId certificate
      farmer).appendDistributorPolicy distributor index policyId) other := by
  constructor
  · exact Function.update_of_ne different ..
  · exact Function.update_of_ne different ..
  · exact Function.update_of_ne different ..

theorem sameToken_saveCertificate (state : State)
    {certificate : PolicyCertificate} {other : Nat}
    (different : other ≠ policyId) :
    state.SameToken (state.saveCertificate policyId certificate) other :=
  ⟨Function.update_of_ne different .., rfl, rfl⟩

/-- The token that an activation mints. -/
theorem certifies_saveToken (state : State) {policy : Policy}
    (key : policy.id = policyId) (active : policy.status = .active)
    (distributor : Address) (distributorName region : String) :
    ((state.saveToken policyId policyId
      (newCertificate policy.farmer policyId distributor distributorName
        policy.sumInsured policy.premium policy.startDate policy.endDate
        policy.coverageType region policy.plotId)
      policy.farmer).appendDistributorPolicy distributor
        (state.distributorCount distributor) policyId).Certifies policyId
          policy := by
  refine ⟨⟨_, Function.update_self .., ?_⟩, Function.update_self ..,
    policy.farmer, Function.update_self .., fun _ => rfl⟩
  exact
    { policyId := key.symm
      farmer := rfl
      sumInsured := rfl
      premium := rfl
      startDate := rfl
      endDate := rfl
      coverageType := rfl
      plotId := rfl
      isActive := iff_of_true rfl active }

/-- The token of a policy that was closed. -/
theorem certifies_deactivated {state : State} {policy : Policy}
    {certificate : PolicyCertificate}
    (certifies : state.Certifies policyId policy)
    (stored : state.certificates policyId = some certificate)
    {status : PolicyStatus} (closed : status ≠ .active) :
    (state.saveCertificate policyId
      { certificate with isActive := false }).Certifies policyId
        { policy with status } := by
  obtain ⟨same, storedSame, describes⟩ := certifies.certificate
  obtain ⟨owner, owned, -⟩ := certifies.owner
  rw [stored] at storedSame
  cases storedSame
  refine ⟨⟨_, Function.update_self .., ?_⟩, certifies.token, owner, owned,
    fun active => absurd active closed⟩
  exact
    { policyId := describes.policyId
      farmer := describes.farmer
      sumInsured := describes.sumInsured
      premium := describes.premium
      startDate := describes.startDate
      endDate := describes.endDate
      coverageType := describes.coverageType
      plotId := describes.plotId
      isActive := iff_of_false Bool.false_ne_true closed }

end Token

/-- Called by its stored policy manager, the certificate contract clears the
flag of a minted token. -/
theorem deactivates_certified {address : Address} {env : Env}
    {policyId : Nat} {before after : State}
    {certificate : PolicyCertificate}
    (manager : before.policyManager = some env.currentContract)
    (token : before.policyToToken policyId = some policyId)
    (stored : before.certificates policyId = some certificate)
    (deactivates : PolicyManager.Deactivates (clientAt address) env
      (some address) policyId before after) :
    after = before.saveCertificate policyId
      { certificate with isActive := false } := by
  obtain ⟨minted, middle, queried, rest⟩ := deactivates
  have commits : (updatePolicyStatus (env.invoke address)
      env.currentContract policyId false).Commits before ()
        (before.saveCertificate policyId
          { certificate with isActive := false }) :=
    (updatePolicyStatus_commits _ _ _ _ _ _ _).mpr
      ⟨manager, (env.invoke_authorized _ _).mpr rfl, policyId, certificate,
        token, stored, rfl⟩
  simp only [clientAt, Env.invoke_currentContract, if_true,
    read_commits] at queried rest
  obtain ⟨rfl, rfl⟩ := queried
  rw [State.policyNftExists, token, Option.isSome_some, if_pos rfl] at rest
  rcases rest with updated | ⟨error, refused, -⟩
  · exact (updated.unique commits).2
  · exact absurd refused (commits.not_fails error)

end PolicyNft

/-! ## Agreement of two states -/

/-- Policy and token under one id; `activated` says whether the policy was
ever activated. -/
structure AgreesAt (manager : PolicyManager.State) (nft : PolicyNft.State)
    (policyId : Nat) (activated : Prop) : Prop where
  certified : activated → ∃ policy,
    manager.policies policyId = some policy ∧ policy.status ≠ .pending ∧
      nft.Certifies policyId policy
  blank : ¬ activated → nft.Blank policyId
  active : ∀ policy, manager.policies policyId = some policy →
    policy.status = .active → activated

section At

variable {manager managerAfter : PolicyManager.State}
  {nft nftAfter : PolicyNft.State} {policyId : Nat} {policy : Policy}
  {activated activatedAfter : Prop}

theorem AgreesAt.congr (agrees : AgreesAt manager nft policyId activated)
    (policies : managerAfter.policies policyId = manager.policies policyId)
    (token : nft.SameToken nftAfter policyId)
    (same : activatedAfter ↔ activated) :
    AgreesAt managerAfter nftAfter policyId activatedAfter where
  certified holds := by
    obtain ⟨policy, stored, started, certifies⟩ :=
      agrees.certified (same.mp holds)
    exact ⟨policy, policies.trans stored, started,
      certifies.of_sameToken token⟩
  blank never := by
    have neverBefore : ¬ activated := fun holds => never (same.mpr holds)
    exact (agrees.blank neverBefore).of_sameToken token
  active policy stored active := by
    rw [policies] at stored
    exact same.mpr (agrees.active policy stored active)

/-- An activated policy with its certificate. -/
theorem AgreesAt.of_certified (holds : activated)
    (stored : manager.policies policyId = some policy)
    (started : policy.status ≠ .pending)
    (certifies : nft.Certifies policyId policy) :
    AgreesAt manager nft policyId activated where
  certified _ := ⟨policy, stored, started, certifies⟩
  blank never := absurd holds never
  active _ _ _ := holds

/-- A policy that was never activated and is not ACTIVE. -/
theorem AgreesAt.of_blank (never : ¬ activated) (blank : nft.Blank policyId)
    (stored : manager.policies policyId = some policy)
    (inactive : policy.status ≠ .active) :
    AgreesAt manager nft policyId activated where
  certified holds := absurd holds never
  blank _ := blank
  active other storedOther active := by
    rw [stored] at storedOther
    cases storedOther
    exact absurd active inactive

/-- A policy that is still PENDING was never activated. -/
theorem AgreesAt.never_of_pending
    (agrees : AgreesAt manager nft policyId activated)
    (stored : manager.policies policyId = some policy)
    (pending : policy.status = .pending) : ¬ activated := by
  intro holds
  obtain ⟨known, storedKnown, started, -⟩ := agrees.certified holds
  rw [stored] at storedKnown
  cases storedKnown
  exact started pending

end At

/-- The two contracts agree on every policy, and those that minted a token
are wired. -/
structure Agrees (activated : Nat → Prop) (manager : PolicyManager.State)
    (nft : PolicyNft.State) : Prop where
  at_id : ∀ policyId, AgreesAt manager nft policyId (activated policyId)
  wired : ∀ policyId, activated policyId →
    manager.policyNft.isSome = true ∧ nft.policyManager.isSome = true

section Everywhere

variable {manager managerAfter : PolicyManager.State}
  {nft nftAfter : PolicyNft.State} {activated activatedAfter : Nat → Prop}

/-- Nothing that the agreement is about changes. -/
theorem Agrees.congr (agrees : Agrees activated manager nft)
    (policies : managerAfter.policies = manager.policies)
    (tokens : ∀ policyId, nft.SameToken nftAfter policyId)
    (same : ∀ policyId, activatedAfter policyId ↔ activated policyId)
    (managerWired : manager.policyNft.isSome = true →
      managerAfter.policyNft.isSome = true)
    (nftWired : nft.policyManager.isSome = true →
      nftAfter.policyManager.isSome = true) :
    Agrees activatedAfter managerAfter nftAfter where
  at_id policyId := (agrees.at_id policyId).congr (congrFun policies policyId)
    (tokens policyId) (same policyId)
  wired policyId holds := by
    obtain ⟨fromManager, fromNft⟩ :=
      agrees.wired policyId ((same policyId).mp holds)
    exact ⟨managerWired fromManager, nftWired fromNft⟩

/-- One policy and its token change. -/
theorem Agrees.of_changed {policyId : Nat} {entry : Option Policy}
    (agrees : Agrees activated manager nft)
    (policies : managerAfter.policies =
      Function.update manager.policies policyId entry)
    (tokens : ∀ other, other ≠ policyId → nft.SameToken nftAfter other)
    (same : ∀ other, other ≠ policyId →
      (activatedAfter other ↔ activated other))
    (changed : AgreesAt managerAfter nftAfter policyId
      (activatedAfter policyId))
    (wired : ∀ other, activatedAfter other →
      managerAfter.policyNft.isSome = true ∧
        nftAfter.policyManager.isSome = true) :
    Agrees activatedAfter managerAfter nftAfter where
  at_id other := by
    by_cases here : other = policyId
    · rw [here]
      exact changed
    · have kept : managerAfter.policies other = manager.policies other := by
        rw [policies]
        exact Function.update_of_ne here ..
      exact (agrees.at_id other).congr kept (tokens other here)
        (same other here)
  wired := wired

end Everywhere

section Calls

variable {manager : PolicyManager.State} {nft : PolicyNft.State}
  {activated activatedAfter : Nat → Prop} {policy : Policy}
  {status : PolicyStatus} (agrees : Agrees activated manager nft)

include agrees

theorem Agrees.addPolicy (accounted : manager.Accounted)
    (next : policy.id = manager.getTotalPolicies + 1)
    (inactive : policy.status ≠ .active)
    (same : ∀ policyId, activatedAfter policyId ↔ activated policyId) :
    Agrees activatedAfter (manager.addPolicy policy) nft := by
  -- the new id is beyond every stored policy
  have never : ¬ activated policy.id := by
    intro holds
    obtain ⟨known, stored, -⟩ := (agrees.at_id policy.id).certified holds
    have range := (accounted.keyed policy.id known stored).2.2
    omega
  have policies := PolicyManager.State.addPolicy_policies manager policy
  have storedAfter :=
    (congrFun policies policy.id).trans (Function.update_self ..)
  have sold := AgreesAt.of_blank
    (fun holds => never ((same policy.id).mp holds))
    ((agrees.at_id policy.id).blank never) storedAfter inactive
  exact agrees.of_changed policies (fun _ _ => .refl _ _)
    (fun other _ => same other) sold
    (fun other holds => agrees.wired other ((same other).mp holds))

/-- The policy becomes ACTIVE and its certificate is minted. -/
theorem Agrees.activate (active : policy.status = .active)
    (holds : activatedAfter policy.id)
    (same : ∀ other, other ≠ policy.id →
      (activatedAfter other ↔ activated other))
    (managerWired : manager.policyNft.isSome = true)
    (nftWired : nft.policyManager.isSome = true) (distributor : Address)
    (distributorName region : String) :
    Agrees activatedAfter (manager.activate policy.id policy)
      ((nft.saveToken policy.id policy.id
        (PolicyNft.newCertificate policy.farmer policy.id distributor
          distributorName policy.sumInsured policy.premium policy.startDate
          policy.endDate policy.coverageType region policy.plotId)
        policy.farmer).appendDistributorPolicy distributor
          (nft.distributorCount distributor) policy.id) := by
  have certifies := @PolicyNft.certifies_saveToken policy.id nft policy rfl
    active distributor distributorName region
  have started : policy.status ≠ .pending := by
    rw [active]
    exact PolicyStatus.noConfusion
  have policies :=
    PolicyManager.State.activate_policies manager policy.id policy
  have storedAfter :=
    (congrFun policies policy.id).trans (Function.update_self ..)
  have changed :=
    AgreesAt.of_certified holds storedAfter started certifies
  apply agrees.of_changed policies
    (fun _ => PolicyNft.sameToken_saveToken _) same changed
  intro other _
  rw [PolicyManager.State.activate_frame]
  exact ⟨managerWired, nftWired⟩

/-- An ACTIVE policy closes and its certificate is switched off. -/
theorem Agrees.closeActive {certificate : PolicyCertificate}
    (holds : activated policy.id)
    (certifies : nft.Certifies policy.id policy)
    (certified : nft.certificates policy.id = some certificate)
    (left : status ≠ .pending) (closed : status ≠ .active)
    (same : ∀ policyId, activatedAfter policyId ↔ activated policyId) :
    Agrees activatedAfter (manager.closeActive policy status)
      (nft.saveCertificate policy.id
        { certificate with isActive := false }) := by
  have policies :=
    PolicyManager.State.closeActive_policies manager policy status
  have storedAfter :=
    (congrFun policies policy.id).trans (Function.update_self ..)
  have changed := AgreesAt.of_certified ((same policy.id).mpr holds)
    storedAfter left
    (PolicyNft.certifies_deactivated certifies certified closed)
  apply agrees.of_changed policies
    (fun _ => PolicyNft.sameToken_saveCertificate _)
    (fun other _ => same other) changed
  intro other _
  rw [PolicyManager.State.closeActive_frame]
  exact agrees.wired policy.id holds

/-- A PENDING policy closes; it never had a certificate. -/
theorem Agrees.closePending
    (stored : manager.policies policy.id = some policy)
    (pending : policy.status = .pending) (closed : status ≠ .active)
    (same : ∀ policyId, activatedAfter policyId ↔ activated policyId) :
    Agrees activatedAfter (manager.closePending policy.id policy status)
      nft := by
  have never : ¬ activated policy.id :=
    (agrees.at_id policy.id).never_of_pending stored pending
  have policies := PolicyManager.State.closePending_policies manager
    policy.id policy status
  have storedAfter :=
    (congrFun policies policy.id).trans (Function.update_self ..)
  have changed := AgreesAt.of_blank
    (fun holds => never ((same policy.id).mp holds))
    ((agrees.at_id policy.id).blank never) storedAfter closed
  apply agrees.of_changed policies (fun _ _ => .refl _ _)
    (fun other _ => same other) changed
  intro other holds
  rw [PolicyManager.State.closePending_frame]
  exact agrees.wired other ((same other).mp holds)

end Calls

namespace PolicyManager

/-- The policy that the call activates. -/
def Call.activation : Call → Option Nat
  | .activatePolicy _ policyId _ _ _ => some policyId
  | _ => none

theorem Call.activation_of_administers {call : Call}
    (administers : call.administers = true) : call.activation = none := by
  cases call <;> first | rfl | cases administers

theorem ClosesActive.activation {env : Env} {state : State}
    {policyId : Nat} {policy : Policy} {call : Call} {status : PolicyStatus}
    (cause : ClosesActive env state policyId policy call status) :
    call.activation = none := by
  cases cause <;> rfl

theorem ClosesPending.activation {env : Env} {state : State}
    {policyId : Nat} {policy : Policy} {call : Call} {status : PolicyStatus}
    (cause : ClosesPending env state policyId policy call status) :
    call.activation = none := by
  cases cause <;> rfl

end PolicyManager

/-- What a contract stores as its sibling is the sibling. -/
def IsSibling (stored : Option Address) (sibling : Address) : Prop :=
  stored = none ∨ stored = some sibling

theorem IsSibling.eq_of_isSome {stored : Option Address} {sibling : Address}
    (isSibling : IsSibling stored sibling) (isSome : stored.isSome = true) :
    stored = some sibling := by
  rcases isSibling with none | some
  · rw [none] at isSome
    cases isSome
  · exact some

instance (stored : Option Address) (sibling : Address) :
    Decidable (IsSibling stored sibling) :=
  inferInstanceAs (Decidable (_ ∨ _))

section Managed

variable {address : Address} {env : Env} {call : PolicyManager.Call}
  {before after : PolicyManager.State × PolicyNft.State}
  {activated : Nat → Prop}

/-- A call to PolicyManager keeps the agreement, with the policy that it
activates. -/
theorem Agrees.managed
    (effect : PolicyManager.Effect (PolicyNft.clientAt address) env before
      call after)
    (accounted : before.1.Accounted)
    (reached : IsSibling before.1.policyNft address)
    (bound : IsSibling before.2.policyManager env.currentContract)
    (ready : call.activation.isSome = true →
      before.2.policyManager = some env.currentContract)
    (agrees : Agrees activated before.1 before.2) :
    Agrees (fun policyId =>
      activated policyId ∨ call.activation = some policyId) after.1
        after.2 := by
  have quiet : call.activation = none →
      ∀ policyId, (activated policyId ∨ call.activation = some policyId) ↔
        activated policyId := by
    intro never policyId
    simp [never]
  cases effect with
  | @administered _ caller signed admin administers =>
      have same := quiet
        (PolicyManager.Call.activation_of_administers administers)
      have managerWired : before.1.policyNft.isSome = true →
          (call.policyNftAfter before.1.policyNft).isSome = true := by
        intro wired
        cases call <;> first | exact wired | rfl
      exact agrees.congr rfl (fun _ => .refl _ _) same managerWired id
  | sold signed backend valid capacity =>
      exact agrees.addPolicy accounted rfl PolicyStatus.noConfusion
        (quiet rfl)
  | @activated caller policyId distributor distributorName region wiredTo
      policy tokenId outside signed backend wired stored pending inTime cap
      ordered minted =>
      obtain rfl : policy.id = policyId :=
        (accounted.keyed policyId policy stored).1
      have managerWired : before.1.policyNft.isSome = true := by
        rw [wired]
        rfl
      have here : wiredTo = address := Option.some.inj
        (wired.symm.trans (reached.eq_of_isSome managerWired))
      subst here
      have nftWired : before.2.policyManager.isSome = true := by
        rw [ready rfl]
        rfl
      simp only [PolicyNft.clientAt, Env.invoke_currentContract,
        if_true] at minted
      obtain ⟨-, -, -, -, -, -, rfl⟩ :=
        (PolicyNft.mintPolicy_commits _ _ _ _ _ _ _ _ _ _ _ _ _ _ _
          _).mp minted
      have same : ∀ other, other ≠ policy.id →
          ((activated other ∨ some policy.id = some other) ↔
            activated other) := by
        intro other different
        simp [Ne.symm different]
      exact @Agrees.activate before.1 before.2 activated _
        { policy with
          status := .active, startDate := env.timestamp
          endDate := env.timestamp + (policy.endDate - policy.startDate) }
        agrees rfl (Or.inr rfl) same managerWired nftWired distributor
        distributorName region
  | @closedActive _ policyId policy status outside stored active cause
      deactivates =>
      obtain rfl : policy.id = policyId :=
        (accounted.keyed policyId policy stored).1
      have holds := (agrees.at_id policy.id).active policy stored active
      obtain ⟨managerWired, nftWired⟩ := agrees.wired policy.id holds
      obtain ⟨known, storedKnown, -, certifies⟩ :=
        (agrees.at_id policy.id).certified holds
      rw [stored] at storedKnown
      cases storedKnown
      obtain ⟨certificate, certified, -⟩ := certifies.certificate
      rw [reached.eq_of_isSome managerWired] at deactivates
      obtain rfl := PolicyNft.deactivates_certified
        (bound.eq_of_isSome nftWired) certifies.token certified deactivates
      exact agrees.closeActive holds certifies certified cause.not_pending
        cause.not_active (quiet cause.activation)
  | @closedPending _ policyId policy status stored pending cause =>
      obtain rfl : policy.id = policyId :=
        (accounted.keyed policyId policy stored).1
      exact agrees.closePending stored pending cause.not_active
        (quiet cause.activation)
  | claimCounted signed oracle cap =>
      exact agrees.congr rfl (fun _ => .refl _ _) (quiet rfl) id id
  | alreadyExpired stored expired =>
      exact agrees.congr rfl (fun _ => .refl _ _) (quiet rfl) id id

end Managed

/-- A call that the policy manager does not sign keeps the agreement. -/
theorem Agrees.certified {env : Env} {call : PolicyNft.Call}
    {manager : PolicyManager.State} {before after : PolicyNft.State}
    {sibling : Address} {activated : Nat → Prop}
    (effect : PolicyNft.Effect env before call after)
    (minters : before.roles.HeldBy .minter fun who => who = sibling)
    (bound : IsSibling before.policyManager sibling)
    (stranger : env.authorized sibling = false)
    (agrees : Agrees activated manager before) :
    Agrees activated manager after := by
  cases effect with
  | wired signed admin =>
      exact agrees.congr rfl (fun _ => ⟨rfl, rfl, rfl⟩) (fun _ => Iff.rfl) id
        fun _ => rfl
  | granted signed admin =>
      exact agrees.congr rfl (fun _ => ⟨rfl, rfl, rfl⟩) (fun _ => Iff.rfl) id
        id
  | revoked signed admin =>
      exact agrees.congr rfl (fun _ => ⟨rfl, rfl, rfl⟩) (fun _ => Iff.rfl) id
        id
  | minted signed minter positive fresh =>
      rw [of_decide_eq_true (minters _ minter), stranger] at signed
      cases signed
  | updated manager signed token stored =>
      have nftWired : before.policyManager.isSome = true := by
        rw [manager]
        rfl
      rw [bound.eq_of_isSome nftWired] at manager
      rw [← Option.some.inj manager, stranger] at signed
      cases signed
  | @moved source target tokenId certificate signed owned stored inactive =>
      have holds : activated tokenId := by
        by_contra never
        have blank := (agrees.at_id tokenId).blank never
        rw [blank.owner] at owned
        cases owned
      obtain ⟨policy, storedPolicy, started, certifies⟩ :=
        (agrees.at_id tokenId).certified holds
      obtain ⟨known, storedKnown, describes⟩ := certifies.certificate
      rw [stored] at storedKnown
      cases storedKnown
      -- only the certificate of a closed policy moves
      have closed : policy.status ≠ .active := by
        intro active
        rw [describes.isActive.mpr active] at inactive
        cases inactive
      have certifiesAfter :
          (before.setOwner tokenId target).Certifies tokenId policy :=
        ⟨certifies.certificate, certifies.token, target,
          Function.update_self .., fun active => absurd active closed⟩
      have moved := AgreesAt.of_certified holds storedPolicy started
        certifiesAfter
      exact agrees.of_changed (Function.update_eq_self tokenId _).symm
        (fun other different =>
          ⟨rfl, rfl, Function.update_of_ne different ..⟩)
        (fun _ _ => Iff.rfl) moved agrees.wired

/-! ## Activations -/

/-- Minting is refused as a repetition only if the token exists. -/
theorem PolicyNft.mintPolicy_avoids (address : Address) (env : Env)
    (caller farmer : Address) (policyId : Nat) (distributor : Address)
    (distributorName : String) (sumInsured premium : Int)
    (startDate endDate : Nat) (coverageType : CoverageType)
    (region : String) (plotId : Nat) {before : PolicyNft.State}
    (fresh : before.policyToToken policyId = none) :
    ((PolicyNft.clientAt address env).mintPolicy caller farmer policyId
      distributor distributorName sumInsured premium startDate endDate
      coverageType region plotId).Avoids before
        fun error => error = .nft .policyAlreadyMinted := by
  unfold clientAt
  split
  · simp only [mintPolicy, bind_avoids, requireRole_avoids,
      requireRole_commits, panicIf_avoids, panicIf_commits, read_avoids,
      read_commits, modify_avoids, addUnsigned_avoids, publish_avoids,
      pure_avoids, implies_true, true_and, and_true, reduceCtorEq,
      not_false_eq_true, Error.nft.injEq]
    rintro _ _ ⟨-, -, rfl⟩ _ _ ⟨-, rfl⟩ minted _ ⟨rfl, rfl⟩ present
    simp [fresh] at present
  · simp [PolicyNftClient.missing]

/-- An activation is not refused as a repetition while no PENDING policy has a
token. -/
theorem PolicyManager.activatePolicy_mints (address : Address) (env : Env)
    (caller : Address) (policyId : Nat) (distributor : Address)
    (distributorName region : String)
    {before : PolicyManager.State × PolicyNft.State}
    (fresh : ∀ policy, before.1.policies policyId = some policy →
      policy.status = .pending →
        before.2.policyToToken policyId = none) :
    (PolicyManager.activatePolicy (PolicyNft.clientAt address) env caller
      policyId distributor distributorName region).Avoids before
        fun error => error = .nft .policyAlreadyMinted := by
  simp only [activatePolicy, bind_avoids, internal_avoids, internal_commits,
    requireRole_avoids, requireRole_commits, loadPolicy_avoids,
    loadPolicy_commits, read_avoids, read_commits, unwrapOr_avoids,
    unwrapOr_commits, panicIf_avoids, panicIf_commits, subUnsigned_avoids,
    subUnsigned_commits, addUnsigned_avoids, addUnsigned_commits,
    modify_avoids, modify_commits, external_avoids, publish_avoids,
    implies_true, true_and, and_true, reduceCtorEq, not_false_eq_true,
    not_not]
  rintro _ _ ⟨_, ⟨-, -, rfl⟩, rfl⟩ _ _ ⟨_, ⟨-, rfl⟩, rfl⟩ wired _ ⟨-, rfl⟩
    policy _ ⟨_, ⟨stored, rfl⟩, rfl⟩ _ _ ⟨pending, rfl⟩ _ _ ⟨-, rfl⟩ _ _
    ⟨_, ⟨rfl, rfl⟩, rfl⟩ _ _ ⟨-, rfl⟩ _ _ ⟨-, rfl, rfl⟩ _ _ ⟨-, rfl, rfl⟩
    _ _ ⟨_, rfl, rfl⟩ _ _ ⟨-, rfl, rfl⟩ _ _ ⟨_, rfl, rfl⟩ _ _ ⟨_, rfl, rfl⟩
  exact PolicyNft.mintPolicy_avoids _ _ _ _ _ _ _ _ _ _ _ _ _ _
    (fresh policy stored pending)

namespace World

/-- The policy that the call activates. -/
def Call.activation {κ : Type} : World.Call κ → Option Nat
  | .policyManager call => call.activation
  | _ => none

end World

namespace Deployment

variable {κ : Type}

/-- The transition is an accepted activation of the policy. -/
def Activates {Ω : Type} (deployment : Deployment Ω κ) (policyId : Nat)
    (transition : Transition (World Ω) (Invocation κ)) : Prop :=
  transition.label.call.activation = some policyId ∧
    deployment.accepts transition.source transition.label = true

/-- The run activated the policy at some moment. -/
def EverActivated {Ω : Type} (deployment : Deployment Ω κ)
    (invocations : List (Invocation κ)) (policyId : Nat) : Prop :=
  ∃ transition ∈ deployment.trace invocations,
    deployment.Activates policyId transition

/-- PolicyManager is the only Minter and the two contracts store no sibling
but each other; before an activation the certificate contract stores
PolicyManager. -/
structure WiredAlone (deployment : Deployment PolicyNft.State κ)
    (transition : Transition (World PolicyNft.State) (Invocation κ)) :
    Prop where
  minters : transition.source.nft.roles.HeldBy .minter
    fun who => who = deployment.policyManager
  manager : IsSibling transition.source.nft.policyManager
    deployment.policyManager
  certificates : IsSibling transition.source.policyManager.policyNft
    deployment.certificates.address
  ready : transition.label.call.activation.isSome = true →
    transition.source.nft.policyManager = some deployment.policyManager

/-- What certificate and policy have to do with each other after a run. -/
structure CertificateFaithful
    (deployment : Deployment PolicyNft.State PolicyNft.Call)
    (invocations : List (Invocation PolicyNft.Call)) (policyId : Nat) :
    Prop where
  certified : deployment.EverActivated invocations policyId → ∃ policy,
    (deployment.run invocations).policyManager.policies policyId =
        some policy ∧
      (deployment.run invocations).nft.Certifies policyId policy
  blank : ¬ deployment.EverActivated invocations policyId →
    (deployment.run invocations).nft.Blank policyId
  active : (deployment.run invocations).policyManager.statusOf policyId =
    some .active → deployment.EverActivated invocations policyId
  mints : ∀ (invocation : Invocation PolicyNft.Call) caller distributor
    distributorName region, invocation.call = .policyManager
      (.activatePolicy caller policyId distributor distributorName region) →
    ¬ (deployment.exec invocation).Fails (deployment.run invocations)
      (.nft .policyAlreadyMinted)

variable {deployment : Deployment PolicyNft.State PolicyNft.Call}
  {nftAddress nftAdmin : Address}
  (real : deployment.certificates =
    PolicyNft.certificates nftAddress nftAdmin)

include real

theorem Step.certificates_agree {env : Env} {before after : World PolicyNft.State}
    {call : World.Call PolicyNft.Call}
    (step : deployment.Step env before call after)
    (sound : deployment.Sound before)
    (stranger : env.authorized deployment.policyManager = false)
    (minters : before.nft.roles.HeldBy .minter
      fun who => who = deployment.policyManager)
    (bound : IsSibling before.nft.policyManager deployment.policyManager)
    (reached : IsSibling before.policyManager.policyNft nftAddress)
    (ready : call.activation.isSome = true →
      before.nft.policyManager = some deployment.policyManager)
    {activated : Nat → Prop}
    (agrees : Agrees activated before.policyManager before.nft) :
    Agrees (fun policyId =>
      activated policyId ∨ call.activation = some policyId)
        after.policyManager after.nft := by
  have client : deployment.certificates.client =
      PolicyNft.clientAt nftAddress := by
    rw [real]
    rfl
  have quiet : call.activation = none →
      ∀ {manager nft}, Agrees activated manager nft →
        Agrees (fun policyId =>
          activated policyId ∨ call.activation = some policyId) manager
            nft := by
    intro never manager nft agreesAfter
    simpa [never] using agreesAfter
  cases step with
  | managed here effect =>
      rw [client] at effect
      rw [← here] at bound ready
      exact agrees.managed effect sound.accounted reached bound ready
  | administered => exact quiet rfl agrees
  | swapped => exact quiet rfl agrees
  | settled settlement =>
      have marked := settlement.marked
      have counted := settlement.counted
      rw [client] at marked counted
      have closed := agrees.managed marked sound.accounted reached bound
        (fun never => by cases never)
      refine quiet rfl ?_
      simp only [PolicyManager.Call.activation, reduceCtorEq,
        or_false] at closed
      exact ⟨fun policyId => (closed.at_id policyId).congr rfl (.refl _ _)
        Iff.rfl, closed.wired⟩
  | booked => exact quiet rfl agrees
  | certified commits =>
      rw [real] at commits
      have effect := PolicyNft.exec_effect _ _ commits
      exact quiet rfl
        (agrees.certified effect minters bound stranger)
  | markerExpired => exact quiet rfl agrees

theorem certificates_agree_run (invocations : List (Invocation PolicyNft.Call))
    (wired : ∀ transition ∈ deployment.trace invocations,
      deployment.WiredAlone transition) :
    Agrees (deployment.EverActivated invocations)
      (deployment.run invocations).policyManager
      (deployment.run invocations).nft := by
  have invariant := History.trace_invariant deployment.apply
    deployment.WiredAlone
    (fun past world => deployment.Sound world ∧
      Agrees (fun policyId =>
        ∃ transition ∈ past, deployment.Activates policyId transition)
          world.policyManager world.nft)
    ?_ invocations [] ⟨deployment.sound_genesis, ?_⟩ wired
  · exact invariant.2
  · rintro past world invocation guard ⟨sound, agrees⟩
    refine ⟨deployment.sound_apply sound invocation, ?_⟩
    have extended : ∀ policyId,
        (∃ transition ∈ past ++ [History.taken deployment.apply world
          invocation], deployment.Activates policyId transition) ↔
          (∃ transition ∈ past, deployment.Activates policyId transition) ∨
            deployment.Activates policyId
              (History.taken deployment.apply world invocation) := by
      intro policyId
      simp [or_and_right, exists_or]
    have current : ∀ policyId, deployment.Activates policyId
        (History.taken deployment.apply world invocation) ↔
          invocation.call.activation = some policyId ∧
            deployment.accepts world invocation = true :=
      fun _ => Iff.rfl
    simp only [extended, current]
    rcases deployment.apply_cases world invocation with
      ⟨refused, same⟩ | ⟨accepted, step⟩
    · rw [same]
      simpa [refused] using agrees
    · have stranger : (deployment.env invocation).authorized
          deployment.policyManager = false := by
        simp [env, isContract]
      have reached := guard.certificates
      rw [real] at reached
      simpa [accepted] using step.certificates_agree real sound stranger
        guard.minters guard.manager reached guard.ready agrees
  · refine ⟨fun policyId => ⟨?_, fun _ => ?_, ?_⟩, ?_⟩
    · rintro ⟨transition, member, -⟩
      cases member
    · simp only [genesis, real]
      exact ⟨rfl, rfl, rfl⟩
    · intro policy stored
      cases stored
    · rintro policyId ⟨transition, member, -⟩
      cases member

/-- While the two contracts are wired to each other alone, every policy of
every reachable state has its certificate exactly if it was ever activated;
the certificate states the cover, is in force exactly while the policy is
ACTIVE and then belongs to the farmer.  No activation finds its certificate
already there. -/
theorem certificateFaithful (invocations : List (Invocation PolicyNft.Call))
    (wired : ∀ transition ∈ deployment.trace invocations,
      deployment.WiredAlone transition) (policyId : Nat) :
    deployment.CertificateFaithful invocations policyId := by
  have agrees := (certificates_agree_run real invocations wired).at_id policyId
  refine
    { certified := ?_
      blank := agrees.blank
      active := ?_
      mints := ?_ }
  · intro activated
    obtain ⟨policy, stored, -, certifies⟩ := agrees.certified activated
    exact ⟨policy, stored, certifies⟩
  · intro active
    obtain ⟨policy, stored, isActive⟩ :=
      PolicyManager.State.statusOf_eq_some.mp active
    exact agrees.active policy stored isActive
  · intro invocation caller distributor distributorName region called refused
    unfold exec at refused
    rw [called] at refused
    have failed := (onManager_fails _ _ _).mp
      ((onNeighbors_fails _ _ _).mp refused)
    rw [real] at failed
    apply PolicyManager.activatePolicy_mints nftAddress _ caller policyId
      distributor distributorName region ?_ _ failed rfl
    intro policy stored pending
    exact (agrees.blank (agrees.never_of_pending stored pending)).token

omit real in
/-- The worked season wires the two contracts before it activates its
policy. -/
theorem wiredAlone_season : ∀ transition ∈ seasonDeployment.trace season,
    seasonDeployment.WiredAlone transition := by
  intro transition member
  have siblings : ∀ transition ∈ seasonDeployment.trace season,
      IsSibling transition.source.nft.policyManager
          seasonDeployment.policyManager ∧
        IsSibling transition.source.policyManager.policyNft
          seasonDeployment.certificates.address ∧
        (transition.label.call.activation.isSome = true →
          transition.source.nft.policyManager =
            some seasonDeployment.policyManager) := by
    decide +kernel
  obtain ⟨manager, certificates, ready⟩ := siblings transition member
  exact ⟨nft_heldBy_trace rfl season (by decide) (by decide +kernel)
    transition member, manager, certificates, ready⟩

omit real in
theorem certificateFaithful_season :
    seasonDeployment.CertificateFaithful season 1 :=
  certificateFaithful rfl season wiredAlone_season 1

end Deployment

end Microcrop
