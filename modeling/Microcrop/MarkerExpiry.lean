import Microcrop.ConsumedMarkers

/-!
# Expiring markers

The ledger may drop the marker of a consumed determination at any time and
any number of times.  Where the digests of the submissions do not collide,
nobody can tell: every call is answered as in the run in which no marker is
ever dropped, and the contracts end in the same states up to the markers.
-/

namespace Microcrop

open Transaction PayoutReceiver
open PolicyManager (seasonAddress)

/-- The determination that a call submits. -/
def PayoutReceiver.Call.determination :
    PayoutReceiver.Call → Option Determination
  | .submitDetermination _ d _ _ => some (.crop d)
  | .submitDroughtDetermination _ d _ _ => some (.drought d)
  | _ => none

/-- The policy that a determination is about. -/
def Determination.policyId : Determination → Nat
  | .crop d => d.onChainPolicyId
  | .drought d => d.onChainPolicyId

/-- A list of messages can be checked for collisions. -/
theorem Message.collisionFree_of_list {crypto : Crypto}
    {messages : List Message}
    (distinct : ∀ message ∈ messages, ∀ other ∈ messages,
      ∀ first ∈ message.hashed crypto, ∀ second ∈ other.hashed crypto,
        crypto.keccak256 first = crypto.keccak256 second → first = second) :
    Message.CollisionFree crypto {message | message ∈ messages} := by
  rintro first ⟨message, member, hashed⟩ second ⟨other, otherMember,
    otherHashed⟩ same
  exact distinct message member other otherMember first hashed second
    otherHashed same

/-- The ledger drops a marker. -/
def World.Call.expires {κ : Type} : World.Call κ → Bool
  | .expireMarker _ _ => true
  | _ => false

namespace Deployment

variable {Ω κ : Type}

/-- What a submission has its digest taken of, where the receiver knows its
network. -/
def message (world : World Ω) (invocation : Invocation κ) : Option Message :=
  match invocation.call with
  | .receiver address call =>
      call.determination.bind fun determination =>
        ((world.receivers address).bind State.networkDomain).map fun domain =>
          ⟨determination, address, domain⟩
  | _ => none

variable (deployment : Deployment Ω κ)

/-- The messages of all submissions of a run. -/
def messages (invocations : List (Invocation κ)) : List Message :=
  Replay.log deployment.apply
    (fun world invocation => (message world invocation).toList)
    deployment.genesis invocations

/-- What the calls of a run show: the error of a refused call, the events of
an accepted one. -/
def responses (invocations : List (Invocation κ)) :
    List (Except Error (Unit × List Event)) :=
  Replay.log deployment.apply
    (fun world invocation =>
      if invocation.call.expires then []
      else [(deployment.exec invocation).response world])
    deployment.genesis invocations

/-- The invocations without the drops of markers. -/
def calls (invocations : List (Invocation κ)) : List (Invocation κ) :=
  invocations.filter fun invocation => !invocation.call.expires

/-- The digest of a message for this receiver, and the policy that the
message is about. -/
def Spent (sent : Set Message) (address : Address) (digest : BytesN 32)
    (policyId : Nat) : Prop :=
  ∃ message ∈ sent, message.contract = address ∧
    message.digest deployment.crypto = digest ∧
      message.determination.policyId = policyId

variable {deployment}

/-- Without collisions, a digest is about one policy. -/
theorem policyId_eq {sent : Set Message}
    (collisionFree : Message.CollisionFree deployment.crypto sent)
    {message other : Message} (member : message ∈ sent)
    (otherMember : other ∈ sent)
    (same : other.digest deployment.crypto =
      message.digest deployment.crypto) :
    other.determination.policyId = message.determination.policyId := by
  obtain ⟨determination, contract, domain⟩ := other
  obtain ⟨known, here, network⟩ := message
  cases known with
  | crop d =>
      cases determination with
      | crop other =>
          obtain ⟨rfl, -, -⟩ :=
            Message.crop_eq collisionFree otherMember member same
          rfl
      | drought other =>
          exact absurd same.symm
            (Message.crop_ne_drought collisionFree member otherMember)
  | drought d =>
      cases determination with
      | crop other =>
          exact absurd same
            (Message.crop_ne_drought collisionFree otherMember member)
      | drought other =>
          obtain ⟨rfl, -, -⟩ :=
            Message.drought_eq collisionFree otherMember member same
          rfl

/-- Without collisions, a digest is spent on one policy. -/
theorem identifies_of_mem {sent : Set Message}
    (collisionFree : Message.CollisionFree deployment.crypto sent)
    {message : Message} (member : message ∈ sent) :
    Identifies (deployment.Spent sent message.contract)
      (message.digest deployment.crypto) message.determination.policyId := by
  refine ⟨⟨message, member, rfl, rfl, rfl⟩, ?_⟩
  rintro policyId ⟨other, otherMember, -, same, rfl⟩
  exact policyId_eq collisionFree member otherMember same

end Deployment

/-- The worlds differ in the markers of their receivers only. -/
structure World.Alike {Ω : Type} (Spent : Address → BytesN 32 → Nat → Prop)
    (first second : World Ω) : Prop where
  neighbors : first.toNeighbors = second.toNeighbors
  receivers : ∀ address, Option.Rel (Twins (Spent address))
    (first.receivers address) (second.receivers address)

namespace Deployment

variable {Ω κ : Type} {Spent : Address → BytesN 32 → Nat → Prop}

/-! ## One call -/

theorem onNeighbors_alike (program : Contract (Neighbors Ω) Unit) :
    Lockstep (World.Alike Spent) (onNeighbors program) (onNeighbors program)
      fun _ => World.Alike Spent := by
  apply Lockstep.zoom
  intro first second alike
  refine Or.inr ⟨first.toNeighbors, second.toNeighbors, rfl, rfl, ?_⟩
  apply (refl_lockstep program).weaken
  · rintro _ _ ⟨rfl, rfl⟩
    exact alike.neighbors
  · rintro _ after _ rfl
    exact ⟨rfl, alike.receivers⟩

/-- The receiver at one address is replaced by twins. -/
theorem twins_update {first second : Address → Option PayoutReceiver.State}
    (alike : ∀ address, Option.Rel (Twins (Spent address)) (first address)
      (second address))
    {address : Address} {state other : PayoutReceiver.State}
    (twins : Twins (Spent address) state other) (elsewhere : Address) :
    Option.Rel (Twins (Spent elsewhere))
      (Function.update first address (some state) elsewhere)
      (Function.update second address (some other) elsewhere) := by
  by_cases here : elsewhere = address
  · rw [here, Function.update_self, Function.update_self]
    exact .some twins
  · rw [Function.update_of_ne here, Function.update_of_ne here]
    exact alike elsewhere

theorem onReceiver_alike (address : Address) (world : World Ω)
    {program : Contract (PayoutReceiver.State × Neighbors Ω) Unit}
    (runs : ∀ state, world.receivers address = some state →
      Lockstep (Beside (TwinsOn (Spent address) state.networkDomain)) program
        program fun _ => Beside (Twins (Spent address))) :
    Lockstep (fun first second =>
        World.Alike Spent first second ∧ second = world)
      (onReceiver address program) (onReceiver address program)
      fun _ => World.Alike Spent := by
  apply Lockstep.zoom
  rintro first second ⟨alike, same⟩
  have related := alike.receivers address
  rw [← same] at runs
  cases here : first.receivers address with
  | none =>
      rw [here] at related
      cases there : second.receivers address with
      | none =>
          refine Or.inl ⟨.host .missingContract, ?_, ?_⟩
          · rw [(findContract_eq_error _ _ _).mpr ⟨here, rfl⟩]
          · rw [(findContract_eq_error _ _ _).mpr ⟨there, rfl⟩]
      | some other => rw [there] at related; cases related
  | some state =>
      rw [here] at related
      cases there : second.receivers address with
      | none => rw [there] at related; cases related
      | some other =>
          rw [there] at related
          obtain ⟨twins⟩ := related
          refine Or.inr ⟨(state, first.toNeighbors),
            (other, second.toNeighbors), ?_, ?_, ?_⟩
          · rw [(findContract_eq_ok _ _ _).mpr here]
          · rw [(findContract_eq_ok _ _ _).mpr there]
          apply (runs other there).weaken
          · rintro _ _ ⟨rfl, rfl⟩
            refine ⟨⟨twins, ?_⟩, alike.neighbors⟩
            rw [twins.same]
          · intro value after afterOther beside
            exact ⟨beside.2, twins_update alike.receivers beside.1⟩

variable {deployment : Deployment Ω κ} {sent : Set Message}

/-- A call that is not a drop shows the same in worlds that are alike. -/
theorem exec_alike
    (collisionFree : Message.CollisionFree deployment.crypto sent)
    (invocation : Invocation κ) (kept : invocation.call.expires = false)
    (world : World Ω)
    (known : ∀ message ∈ Deployment.message world invocation,
      message ∈ sent) :
    Lockstep (fun first second =>
        World.Alike (deployment.Spent sent) first second ∧ second = world)
      (deployment.exec invocation) (deployment.exec invocation)
      fun _ => World.Alike (deployment.Spent sent) := by
  have forget : ∀ first second : World Ω,
      World.Alike (deployment.Spent sent) first second ∧ second = world →
        World.Alike (deployment.Spent sent) first second :=
    fun _ _ => And.left
  obtain ⟨timestamp, signers, call⟩ := invocation
  cases call with
  | policyManager call =>
      exact (onNeighbors_alike _).weaken forget fun _ _ _ => id
  | adapter address call =>
      exact (onNeighbors_alike _).weaken forget fun _ _ _ => id
  | nft call =>
      exact (onNeighbors_alike _).weaken forget fun _ _ _ => id
  | expireMarker address preimageHash => cases kept
  | receiver address call =>
      apply onReceiver_alike
      intro state found
      -- The message of the submission is among those sent.
      have identified : ∀ determination domain,
          call.determination = some determination →
          state.networkDomain = some domain →
            (⟨determination, address, domain⟩ : Message) ∈ sent := by
        intro determination domain submits network
        apply known
        simp [message, submits, found, network]
      apply exec_twins
      · rintro caller d signature recoveryId domain rfl network
        exact identifies_of_mem collisionFree
          (identified (.crop d) domain rfl network)
      · rintro caller d signature recoveryId domain rfl network
        exact identifies_of_mem collisionFree
          (identified (.drought d) domain rfl network)

/-- Dropping a marker on one side leaves the worlds alike. -/
theorem expire_alike {first second : World Ω}
    (alike : World.Alike Spent first second) (invocation : Invocation κ)
    (expires : invocation.call.expires = true) :
    World.Alike Spent (deployment.apply first invocation) second := by
  rcases deployment.apply_cases first invocation with
    ⟨-, same⟩ | ⟨-, step⟩
  · rw [same]
    exact alike
  · obtain ⟨timestamp, signers, call⟩ := invocation
    cases call with
    | policyManager | receiver | adapter | nft => cases expires
    | expireMarker address preimageHash =>
        generalize deployment.apply first _ = after at step ⊢
        cases step with
        | markerExpired installed =>
            refine ⟨alike.neighbors, ?_⟩
            have related := alike.receivers address
            rw [installed] at related
            cases there : second.receivers address with
            | none => rw [there] at related; cases related
            | some other =>
                rw [there] at related
                obtain ⟨twins⟩ := related
                have replaced := twins_update alike.receivers
                  (twins.expireMarker preimageHash)
                rwa [← there, Function.update_eq_self] at replaced

/-! ## Runs -/

theorem alike_genesis (deployment : Deployment Ω κ) :
    World.Alike Spent deployment.genesis deployment.genesis where
  neighbors := rfl
  receivers := by
    intro address
    cases found : deployment.genesis.receivers address with
    | none => exact .none
    | some state =>
        obtain ⟨setup, -, rfl⟩ := Option.map_eq_some_iff.mp found
        refine .some ⟨rfl, ?_⟩
        rintro digest (marked | marked) <;> cases marked

theorem networkDomain_eq {first second : World Ω}
    (alike : World.Alike Spent first second) (address : Address) :
    (first.receivers address).bind State.networkDomain =
      (second.receivers address).bind State.networkDomain := by
  have related := alike.receivers address
  generalize first.receivers address = state at related ⊢
  generalize second.receivers address = other at related ⊢
  cases related with
  | none => rfl
  | @some state other twins =>
      rw [twins.same]
      rfl

/-- Worlds that are alike name the same messages. -/
theorem message_eq {first second : World Ω}
    (alike : World.Alike Spent first second) (invocation : Invocation κ) :
    message first invocation = message second invocation := by
  unfold message
  split
  · rw [networkDomain_eq alike]
  · rfl

/-- Where the digests of the submissions do not collide, dropping markers
changes nothing that anybody sees: every call is answered as in the run in
which no marker is ever dropped, which submits the same messages and ends in
the same states up to the markers, and a digest that either run has marked is
that of a paid policy. -/
theorem markersRedundant (deployment : Deployment Ω κ)
    (invocations : List (Invocation κ))
    (collisionFree : Message.CollisionFree deployment.crypto
      {message | message ∈ deployment.messages (calls invocations)}) :
    deployment.responses invocations =
        deployment.responses (calls invocations) ∧
      deployment.messages invocations =
        deployment.messages (calls invocations) ∧
      World.Alike
        (deployment.Spent
          {message | message ∈ deployment.messages (calls invocations)})
        (deployment.run invocations)
        (deployment.run (calls invocations)) := by
  generalize sentEq : {message |
    message ∈ deployment.messages (calls invocations)} = sent at *
  have follows : ∀ first second (invocation : Invocation κ),
      World.Alike (deployment.Spent sent) first second →
      (∀ message ∈ Deployment.message second invocation, message ∈ sent) →
      (!invocation.call.expires) = true →
        (deployment.exec invocation).response first =
            (deployment.exec invocation).response second ∧
          World.Alike (deployment.Spent sent)
            (deployment.apply first invocation)
            (deployment.apply second invocation) :=
    fun first second invocation alike known kept =>
      (exec_alike collisionFree invocation (by simpa using kept) second
        known).observed (fun _ _ => And.left) (fun _ _ _ => id)
        ⟨alike, rfl⟩
  have stutters : ∀ first second (invocation : Invocation κ),
      World.Alike (deployment.Spent sent) first second →
      (!invocation.call.expires) = false →
        World.Alike (deployment.Spent sent)
          (deployment.apply first invocation) second :=
    fun first second invocation alike dropped =>
      expire_alike alike invocation (by simpa using dropped)
  have guarded : ∀ transition ∈
      History.trace deployment.apply deployment.genesis (calls invocations),
      ∀ message ∈ Deployment.message transition.source transition.label,
        message ∈ sent := by
    intro transition member message named
    rw [← sentEq]
    exact Replay.mem_log member (Option.mem_toList.mpr named)
  have continues := fun first second invocation alike known kept =>
    (follows first second invocation alike known kept).2
  have start : World.Alike (deployment.Spent sent) deployment.genesis
      deployment.genesis := alike_genesis deployment
  refine ⟨?_, ?_, Replay.run_filter continues stutters invocations start
    guarded⟩
  · apply Replay.log_filter continues stutters _ _ invocations start guarded
    · intro first second invocation alike known kept
      rw [(follows first second invocation alike known kept).1]
    · intro world invocation dropped
      rw [if_pos (by simpa using dropped)]
  · apply Replay.log_filter continues stutters _ _ invocations start guarded
    · intro first second invocation alike known kept
      rw [message_eq alike]
    · intro world invocation dropped
      obtain ⟨timestamp, signers, call⟩ := invocation
      cases call with
      | policyManager | receiver | adapter | nft => cases dropped
      | expireMarker => rfl

/-- The season with the marker of its claim dropped twice and the claim
submitted again. -/
def forgetfulSeason : List (Invocation PolicyNft.Call) :=
  season ++ [signedBy (seasonAddress 6) 1753660860
      (.expireMarker testnetReceiver v1Digest),
    seasonClaim,
    signedBy (seasonAddress 6) 1753660861
      (.expireMarker testnetReceiver v1Digest)]

theorem markersRedundant_season :
    seasonDeployment.responses forgetfulSeason =
      seasonDeployment.responses (season ++ [seasonClaim]) := by
  have kept : calls forgetfulSeason = season ++ [seasonClaim] := rfl
  rw [← kept]
  refine (markersRedundant seasonDeployment forgetfulSeason ?_).1
  exact Message.collisionFree_of_list (by decide +kernel)

end Deployment

end Microcrop
