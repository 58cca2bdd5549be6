import Microcrop.ObligationOrigin
import Microcrop.Settings

/-!
# Stopping the payouts of a receiver

A submission passes only if every one of the receiver's settings lets it
through.  Since the settings run on their own, a stopped receiver records no
further obligation in any adapter until the administrators' calls alone let
submissions pass again.
-/

namespace Microcrop

open PolicyManager (seasonAddress)

namespace Deployment

variable (deployment : Deployment PolicyNft.State PolicyNft.Call)

/-- The settings with which a submission to the receiver may pass. -/
structure Opened (settings : SystemSettings) (receiver : Address)
    (own : PayoutReceiver.Settings) : Prop where
  installed : settings.receivers receiver = some own
  unpaused : own.paused.getD false = false
  enabled : ∃ kind, (own.methodologyEnabled kind).getD false = true
  signer : own.authorizedSigner.isSome = true
  domain : own.networkDomain.isSome = true
  relayer : ∃ relayer, own.roles .relayer relayer = true ∧
    deployment.isContract relayer = false
  managed : own.policyManager = some deployment.policyManager
  oracle : settings.policyManager.roles .oracle receiver = true
  bound : own.settlementAdapter.bind settings.boundTo = some receiver

/-- No submission to the receiver can pass. -/
def Stopped (settings : SystemSettings) (receiver : Address) : Prop :=
  ∀ own, ¬ deployment.Opened settings receiver own

/-- The administrators' calls among the invocations leave the receiver
stopped, taken on their own. -/
def StaysStopped (settings : SystemSettings) (receiver : Address)
    (invocations : List (Invocation PolicyNft.Call)) : Prop :=
  ∀ early, early <+: invocations.filter (·.call.administers) →
    deployment.Stopped (History.run deployment.configure settings early)
      receiver

variable {deployment} {nftAddress nftAdmin : Address}
  (real : deployment.certificates =
    PolicyNft.certificates nftAddress nftAdmin)

/-- Pausing stops. -/
theorem stopped_of_paused {settings : SystemSettings} {receiver : Address}
    (paused : (settings.receivers receiver).bind
      PayoutReceiver.Settings.paused = some true) :
    deployment.Stopped settings receiver := by
  intro own opened
  have unpaused := opened.unpaused
  rw [opened.installed, Option.bind_some] at paused
  rw [paused] at unpaused
  cases unpaused

/-- A verified submission found its receiver opened. -/
theorem Settlement.opened {env : Env} {before : World PolicyNft.State}
    {receiver : Address} {call : PayoutReceiver.Call}
    {state : PayoutReceiver.State} {policy : Policy} {report : DamageReport}
    {digest : BytesN 32} {adapter : Address}
    {ledger ledgerAfter : SettlementAdapter.State} {obligation : Obligation}
    {nftAfter : PolicyNft.State}
    (settlement : deployment.Settlement env before receiver call state
      policy report digest adapter ledger obligation ledgerAfter nftAfter)
    (strangers : ∀ address, env.authorized address = true →
      deployment.isContract address = false) :
    deployment.Opened before.settings receiver state.settings := by
  have installed : before.settings.receivers receiver =
      some state.settings :=
    Option.map_eq_some_iff.mpr ⟨state, settlement.installed, rfl⟩
  have domain : state.networkDomain.isSome = true := by
    cases settlement.checked with
    | drought checks => exact Option.isSome_of_mem checks.domain
    | crop checks => exact Option.isSome_of_mem checks.domain
  have bound : state.settlementAdapter.bind before.settings.boundTo =
      some receiver := by
    obtain ⟨bound, -⟩ :=
      (SettlementAdapter.recordObligation_commits _ _ _ _ _ _ _ _ _).mp
        settlement.handover.recorded
    rw [settlement.handover.bound, World.boundTo_settings,
      ← settlement.here, ← bound]
    simp [PayoutReceiver.boundTo, settlement.handover.found]
  obtain ⟨caller, kind, signature, recoveryId, submittable⟩ :=
    settlement.checked.submittable
  obtain ⟨signer, authorized, -⟩ := submittable.recovered
  exact
    { installed
      unpaused := submittable.unpaused
      enabled := ⟨kind, submittable.enabled⟩
      signer := Option.isSome_of_mem authorized
      domain
      relayer := ⟨caller, submittable.relayer,
        strangers caller submittable.signed⟩
      managed := settlement.handover.managed
      oracle := settlement.oracle
      bound }

/-- While the receiver is stopped, an invocation records no obligation of
it. -/
theorem apply_stopped {receiver : Address}
    (isReceiver : deployment.IsReceiver receiver)
    {world : World PolicyNft.State} (sound : deployment.Sound world)
    (stopped : deployment.Stopped world.settings receiver)
    (invocation : Invocation PolicyNft.Call) {adapter : Address} {id : Nat}
    {obligation : Obligation}
    (holds : (deployment.apply world invocation).Holds adapter id obligation)
    (names : obligation.payoutReceiver = receiver) :
    ∃ earlier, world.Holds adapter id earlier ∧
      earlier.Continues obligation := by
  rcases deployment.apply_cases world invocation with ⟨-, same⟩ | ⟨-, step⟩
  · rw [same] at holds
    exact ⟨obligation, holds, rfl⟩
  · rw [← names] at isReceiver
    rcases step.receiver_origin sound
      (deployment.not_isReceiver_of_authorized invocation) holds
      isReceiver with earlier | ⟨-, recorded⟩
    · exact earlier
    · generalize deployment.apply world invocation = after at recorded
      generalize invocation.call = call at recorded
      cases recorded with
      | intro settlement =>
          rw [← names, settlement.payoutReceiver] at stopped
          refine absurd (settlement.opened fun address signed => ?_)
            (stopped _)
          simp only [env, Bool.and_eq_true, Bool.not_eq_true'] at signed
          exact signed.2

theorem StaysStopped.here {settings : SystemSettings} {receiver : Address}
    {invocations : List (Invocation PolicyNft.Call)}
    (stopped : deployment.StaysStopped settings receiver invocations) :
    deployment.Stopped settings receiver :=
  stopped [] List.nil_prefix

theorem StaysStopped.tail {settings : SystemSettings} {receiver : Address}
    {invocation : Invocation PolicyNft.Call}
    {later : List (Invocation PolicyNft.Call)}
    (stopped : deployment.StaysStopped settings receiver
      (invocation :: later)) :
    deployment.StaysStopped (deployment.configure settings invocation)
      receiver later := by
  intro early within
  cases administers : invocation.call.administers with
  | true =>
      refine stopped (invocation :: early) ?_
      simpa [administers] using within
  | false =>
      rw [configure, settings.after_of_business _ administers]
      refine stopped early ?_
      simpa [administers] using within

include real

/-- From a state in which the receiver is stopped, no run records a new
obligation of it, whoever calls, until the administrators' calls on their own
let submissions pass again. -/
theorem payoutsStop {receiver : Address}
    (isReceiver : deployment.IsReceiver receiver)
    {invocations later : List (Invocation PolicyNft.Call)}
    (stopped : deployment.StaysStopped (deployment.run invocations).settings
      receiver later)
    {adapter : Address} {id : Nat} {obligation : Obligation}
    (holds : (deployment.run (invocations ++ later)).Holds adapter id
      obligation)
    (names : obligation.payoutReceiver = receiver) :
    ∃ earlier, (deployment.run invocations).Holds adapter id earlier ∧
      earlier.Continues obligation := by
  induction later generalizing invocations with
  | nil =>
      rw [List.append_nil] at holds
      exact ⟨obligation, holds, rfl⟩
  | cons invocation later ih =>
      have next : deployment.run (invocations ++ [invocation]) =
          deployment.apply (deployment.run invocations) invocation :=
        History.run_append ..
      have tail : deployment.StaysStopped
          (deployment.run (invocations ++ [invocation])).settings receiver
          later := by
        rw [next, apply_settings real]
        exact stopped.tail
      obtain ⟨middle, holdsMiddle, continues⟩ :=
        ih tail (by rwa [List.append_assoc])
      rw [next] at holdsMiddle
      obtain ⟨earlier, holdsEarlier, continuesMiddle⟩ :=
        apply_stopped isReceiver (deployment.sound_run invocations)
          stopped.here invocation holdsMiddle
          (continues.payoutReceiver_eq.symm.trans names)
      exact ⟨earlier, holdsEarlier, continuesMiddle.trans continues⟩

omit real

/-- The administrator pauses the receiver after the season. -/
def seasonPause : Invocation PolicyNft.Call :=
  signedBy (seasonAddress 1) 1753574500
    (.receiver testnetReceiver (.pause (seasonAddress 1)))

theorem payoutsStop_season :
    (∃ earlier,
      (seasonDeployment.run (season ++ [seasonPause])).Holds
        (seasonContract 2) 1 earlier ∧
      earlier.Continues seasonObligation) :=
  payoutsStop
    (show seasonDeployment.certificates = PolicyNft.certificates
      (seasonContract 3) (seasonAddress 1) from rfl)
    (show (seasonDeployment.receivers testnetReceiver).isSome = true by
      decide +kernel)
    (show seasonDeployment.StaysStopped _ _ [seasonClaim] by
      intro early within
      rw [List.prefix_nil.mp within]
      exact stopped_of_paused (by decide +kernel))
    (World.holds_iff.mpr (by decide +kernel)) rfl

end Deployment

end Microcrop
