import Microcrop.MarkerExpiry

/-!
# Signatures are spent once

What a determination's signer signed pays once: at one receiver, on one
network, for one policy, whichever signature is presented, however often the
ledger drops markers and whatever administrators change in between.
-/

namespace Microcrop

open Transaction PayoutReceiver
open PolicyManager (seasonAddress)

namespace PayoutReceiver

theorem Call.determination_of_administers {call : Call}
    (administers : call.administers = true) : call.determination = none := by
  cases call <;> first | rfl | cases administers

/-- A checked submission reports on the policy of its determination. -/
theorem Checked.about {crypto : Crypto} {env : Env} {state : State}
    {policy : Policy} {call : Call} {report : DamageReport}
    {digest : BytesN 32} {determination : Determination}
    (checked : Checked crypto env state policy call report digest)
    (submits : call.determination = some determination) :
    determination.policyId = report.policyId := by
  cases checked with
  | drought | crop =>
      cases submits
      rfl

end PayoutReceiver

namespace Deployment

variable {Ω κ : Type} (deployment : Deployment Ω κ)

/-- The digest that an invocation spends if it is accepted. -/
def spends (world : World Ω) (invocation : Invocation κ) :
    Option (BytesN 32) :=
  if deployment.accepts world invocation then
    (message world invocation).map (Message.digest deployment.crypto)
  else none

/-- The digests that a run spends, in order. -/
def spentDigests (invocations : List (Invocation κ)) : List (BytesN 32) :=
  Replay.log deployment.apply
    (fun world invocation => (deployment.spends world invocation).toList)
    deployment.genesis invocations

/-- The digest of a message that was sent about a policy which is CLAIMED. -/
def Used (sent : Set Message) (world : World Ω) (digest : BytesN 32) : Prop :=
  ∃ message ∈ sent, message.digest deployment.crypto = digest ∧
    world.policyManager.statusOf message.determination.policyId =
      some .claimed

variable {deployment}

/-- A verified submission spends the digest of its message on an ACTIVE
policy, which it claims. -/
theorem Step.spends {env : Env} {before after : World Ω}
    {invocation : Invocation κ} (sound : deployment.Sound before)
    (step : deployment.Step env before invocation.call after)
    {sent : Message} (sends : message before invocation = some sent) :
    before.policyManager.statusOf sent.determination.policyId =
        some .active ∧
      after.policyManager.statusOf sent.determination.policyId =
        some .claimed := by
  obtain ⟨timestamp, signers, call⟩ := invocation
  unfold message at sends
  cases call with
  | policyManager | adapter | nft | expireMarker => cases sends
  | receiver address call =>
      obtain ⟨determination, submits, named⟩ :=
        Option.bind_eq_some_iff.mp sends
      obtain ⟨domain, -, rfl⟩ := Option.map_eq_some_iff.mp named
      cases step with
      | administered installed signed admin administers =>
          rw [Call.determination_of_administers administers] at submits
          cases submits
      | swapped => cases submits
      | settled settlement =>
          rw [settlement.checked.about submits]
          exact ⟨settlement.statusOf, settlement.claimed sound⟩

/-- What an invocation spends is used up by it, and was not before. -/
theorem used_of_spends {sent : Set Message}
    (collisionFree : Message.CollisionFree deployment.crypto sent)
    {world : World Ω} (sound : deployment.Sound world)
    {invocation : Invocation κ} {digest : BytesN 32}
    (known : ∀ sends ∈ message world invocation, sends ∈ sent)
    (spent : deployment.spends world invocation = some digest) :
    ¬ deployment.Used sent world digest ∧
      deployment.Used sent (deployment.apply world invocation) digest := by
  unfold Deployment.spends at spent
  split at spent <;> rename_i accepted
  · obtain ⟨sends, named, rfl⟩ := Option.map_eq_some_iff.mp spent
    have member := known sends named
    rcases deployment.apply_cases world invocation with
      ⟨refused, -⟩ | ⟨-, step⟩
    · rw [accepted] at refused
      cases refused
    · obtain ⟨active, claimed⟩ := step.spends sound named
      refine ⟨?_, sends, member, rfl, claimed⟩
      rintro ⟨other, otherMember, same, otherClaimed⟩
      rw [policyId_eq collisionFree member otherMember same, active]
        at otherClaimed
      cases otherClaimed
  · cases spent

theorem used_apply {sent : Set Message} {world : World Ω}
    (sound : deployment.Sound world) (invocation : Invocation κ)
    {digest : BytesN 32} (used : deployment.Used sent world digest) :
    deployment.Used sent (deployment.apply world invocation) digest := by
  obtain ⟨sends, member, same, claimed⟩ := used
  refine ⟨sends, member, same, ?_⟩
  rcases deployment.apply_cases world invocation with ⟨-, same⟩ | ⟨-, step⟩
  · rw [same]
    exact claimed
  · exact step.claimed_stays sound claimed

/-- In every run, whoever submits and whatever is configured in between, no
digest is spent twice: a signature over a determination pays at most once,
at one receiver, even if the ledger drops the markers of what was consumed. -/
theorem signaturesSpentOnce (deployment : Deployment Ω κ)
    (invocations : List (Invocation κ))
    (collisionFree : Message.CollisionFree deployment.crypto
      {message | message ∈ deployment.messages invocations}) :
    (deployment.spentDigests invocations).Nodup := by
  have guarded : ∀ transition ∈
      History.trace deployment.apply deployment.genesis invocations,
      ∀ sends ∈ message transition.source transition.label,
        sends ∈ {message | message ∈ deployment.messages invocations} :=
    fun _ member _ named =>
      Replay.mem_log member (Option.mem_toList.mpr named)
  exact (Replay.log_nodup
    (fun _ invocation sound => deployment.sound_apply sound invocation)
    (fun _ invocation _ sound used => used_apply sound invocation used)
    (fun _ _ _ known sound spent =>
      used_of_spends collisionFree sound known spent)
    invocations deployment.sound_genesis guarded).1

/-- The claim of the season pays once, although it is submitted again after
the ledger dropped its marker. -/
theorem signaturesSpentOnce_season :
    seasonDeployment.spentDigests forgetfulSeason = [v1Digest] ∧
      (seasonDeployment.spentDigests forgetfulSeason).Nodup := by
  refine ⟨by decide +kernel,
    signaturesSpentOnce seasonDeployment forgetfulSeason ?_⟩
  exact Message.collisionFree_of_list (by decide +kernel)

end Deployment

end Microcrop
