import Microcrop.Authority
import Microcrop.SettlementOnce

/-!
# The settings of the contracts

Roles, wiring, signers, pause flags and methodology switches are settings:
only administrators' calls write them, and whether such a call is accepted
depends on the settings alone.  The settings of the whole system are therefore
a machine of their own, which sales, claims and payouts never influence.
-/

namespace Transaction

variable {ε τ σ ρ : Type}

/-- A program that is accepted exactly under a condition, and then leads to
one state. -/
theorem advance_eq_ite {program : Transaction ε τ σ Unit}
    {before target : σ} {condition : Prop} [Decidable condition]
    (commits : ∀ after, program.Commits before () after ↔
      condition ∧ after = target) :
    program.advance before = if condition then target else before := by
  split <;> rename_i holds
  · exact ((commits target).mpr ⟨holds, rfl⟩).advance_eq
  · rcases advance_cases program before with ⟨-, same⟩ | ⟨-, _, accepted⟩
    · exact same
    · exact absurd ((commits _).mp accepted).1 holds

/-- A program on a component advances the component. -/
theorem zoom_advance {view : ρ → Except ε σ} {put : σ → ρ → ρ}
    (program : Transaction ε τ σ Unit) {whole : ρ} (component : σ)
    (found : view whole = .ok component)
    (restores : put component whole = whole) :
    (zoom view put program).advance whole =
      put (program.advance component) whole := by
  rcases commits_or_fails program component with
    ⟨value, after, commits⟩ | ⟨error, fails⟩
  · have outer := (zoom_commits view put program whole _ value).mpr
      ⟨component, after, found, commits, rfl⟩
    rw [outer.advance_eq, commits.advance_eq]
  · have outer : (zoom view put program).Fails whole error :=
      (zoom_fails view put program whole error).mpr
        (Or.inr ⟨component, found, fails⟩)
    rw [outer.advance_eq, fails.advance_eq, restores]

theorem internal_advance (program : Transaction ε τ σ Unit) (whole : σ × ρ) :
    (internal program).advance whole =
      (program.advance whole.1, whole.2) :=
  zoom_advance program _ rfl rfl

end Transaction

namespace Microcrop

open Transaction
open PolicyManager (seasonAddress)

/-- The caller signed and holds Admin. -/
def MayConfigure (env : Env) (roles : Roles) (caller : Address) : Prop :=
  env.authorized caller = true ∧ roles .admin caller = true

instance (env : Env) (roles : Roles) (caller : Address) :
    Decidable (MayConfigure env roles caller) :=
  inferInstanceAs (Decidable (_ ∧ _))

section Administration

variable {σ υ : Type} [RoleStorage σ] (env : Env) (caller : Address)
  (before : σ) (view : σ → υ)

/-- An administrator's write is made exactly if the caller may configure. -/
theorem administration_view (update : σ → σ) :
    view ((do requireRole env caller .admin; modify update :
      Contract σ Unit).advance before) =
        if MayConfigure env (RoleStorage.roles before) caller then
          view (update before)
        else view before := by
  have advances : (do requireRole env caller .admin; modify update :
      Contract σ Unit).advance before =
        if MayConfigure env (RoleStorage.roles before) caller then
          update before
        else before :=
    advance_eq_ite fun after => by simp [MayConfigure, and_assoc]
  rw [advances]
  exact apply_ite view _ _ _

/-- The same where the write is announced. -/
theorem announced_view (update : σ → σ) (event : Event) :
    view ((do requireRole env caller .admin; modify update; publish event :
      Contract σ Unit).advance before) =
        if MayConfigure env (RoleStorage.roles before) caller then
          view (update before)
        else view before := by
  have advances :
      (do requireRole env caller .admin; modify update; publish event :
        Contract σ Unit).advance before =
        if MayConfigure env (RoleStorage.roles before) caller then
          update before
        else before :=
    advance_eq_ite fun after => by simp [MayConfigure, and_assoc]
  rw [advances]
  exact apply_ite view _ _ _

end Administration

namespace PolicyManager

/-- What administrators set in PolicyManager. -/
structure Settings where
  roles : Roles
  policyNft : Option Address

def State.settings (state : State) : Settings where
  roles := state.roles
  policyNft := state.policyNft

/-- The settings after a call. -/
def Settings.after (env : Env) (settings : Settings) : Call → Settings
  | .setPolicyNft caller policyNft =>
      if MayConfigure env settings.roles caller then
        { settings with policyNft := some policyNft }
      else settings
  | .grantRole caller role who =>
      if MayConfigure env settings.roles caller then
        { settings with roles := settings.roles.grant role who }
      else settings
  | .revokeRole caller role who =>
      if MayConfigure env settings.roles caller then
        { settings with roles := settings.roles.revoke role who }
      else settings
  | _ => settings

theorem Effect.settings_eq {Ω : Type} {nft : Env → PolicyNftClient Ω}
    {env : Env} {call : Call} {before after : State × Ω}
    (effect : Effect nft env before call after)
    (other : call.administers = false) :
    after.1.settings = before.1.settings := by
  cases effect with
  | administered signed admin administers =>
      rw [other] at administers
      cases administers
  | sold => rfl
  | activated =>
      rw [State.activate_frame]
      rfl
  | closedActive =>
      rw [State.closeActive_frame]
      rfl
  | closedPending =>
      rw [State.closePending_frame]
      rfl
  | claimCounted => rfl
  | alreadyExpired => rfl

section Exec

variable {Ω : Type} (nft : Env → PolicyNftClient Ω) (env : Env)
  (before : State × Ω)

theorem exec_settings_of_business (call : Call)
    (other : call.administers = false) :
    ((exec nft env call).advance before).1.settings =
      before.1.settings := by
  rcases advance_cases (exec nft env call) before with
    ⟨-, same⟩ | ⟨-, _, commits⟩
  · rw [same]
  · exact (exec_effect nft env call commits).settings_eq other

/-- A call takes the settings to the settings after it, whether it is accepted
or refused. -/
theorem exec_settings (call : Call) :
    ((exec nft env call).advance before).1.settings =
      before.1.settings.after env call := by
  cases call with
  | setPolicyNft caller policyNft =>
      rw [exec, internal_advance]
      exact announced_view env caller before.1 State.settings _ _
  | grantRole caller role who =>
      rw [exec, internal_advance]
      exact administration_view env caller before.1 State.settings _
  | revokeRole caller role who =>
      rw [exec, internal_advance]
      exact administration_view env caller before.1 State.settings _
  | _ => exact exec_settings_of_business nft env before _ rfl

end Exec

end PolicyManager

namespace SettlementAdapter

/-- What administrators set in a SettlementAdapter. -/
structure Settings where
  roles : Roles
  payoutReceiver : Option Address

def State.settings (state : State) : Settings where
  roles := state.roles
  payoutReceiver := state.payoutReceiver

/-- The calls that set something. -/
def Call.administers : Call → Bool
  | .setPayoutReceiver .. => true
  | .grantRole .. => true
  | .revokeRole .. => true
  | _ => false

/-- The settings after a call. -/
def Settings.after (env : Env) (settings : Settings) : Call → Settings
  | .setPayoutReceiver caller payoutReceiver =>
      if MayConfigure env settings.roles caller ∧
          payoutReceiver ≠ env.currentContract then
        { settings with payoutReceiver := some payoutReceiver }
      else settings
  | .grantRole caller role who =>
      if MayConfigure env settings.roles caller then
        { settings with roles := settings.roles.grant role who }
      else settings
  | .revokeRole caller role who =>
      if MayConfigure env settings.roles caller then
        { settings with roles := settings.roles.revoke role who }
      else settings
  | _ => settings

theorem exec_settings_of_business (env : Env) (before : State) (call : Call)
    (other : call.administers = false) :
    ((exec env call).advance before).settings = before.settings := by
  rcases advance_cases (exec env call) before with
    ⟨-, same⟩ | ⟨-, _, commits⟩
  · rw [same]
  · generalize (exec env call).advance before = after at commits ⊢
    cases exec_effect env call commits with
    | bound | granted | revoked => cases other
    | recorded | funded | settled | repeated => rfl

/-- A call takes the settings to the settings after it, whether it is accepted
or refused. -/
theorem exec_settings (env : Env) (before : State) (call : Call) :
    ((exec env call).advance before).settings =
      before.settings.after env call := by
  cases call with
  | setPayoutReceiver caller payoutReceiver =>
      have advances :
          (setPayoutReceiver env caller payoutReceiver).advance before =
            if MayConfigure env before.roles caller ∧
                payoutReceiver ≠ env.currentContract then
              { before with payoutReceiver := some payoutReceiver }
            else before :=
        advance_eq_ite fun after => by
          simp [setPayoutReceiver, MayConfigure, and_assoc]
      rw [exec, advances, apply_ite State.settings]
      rfl
  | grantRole caller role who =>
      exact announced_view env caller before State.settings _ _
  | revokeRole caller role who =>
      exact announced_view env caller before State.settings _ _
  | _ => exact exec_settings_of_business env before _ rfl

end SettlementAdapter

namespace PolicyNft

/-- What administrators set in PolicyNft. -/
structure Settings where
  roles : Roles
  policyManager : Option Address

def State.settings (state : State) : Settings where
  roles := state.roles
  policyManager := state.policyManager

/-- The calls that set something. -/
def Call.administers : Call → Bool
  | .setPolicyManager .. => true
  | .grantRole .. => true
  | .revokeRole .. => true
  | _ => false

/-- The settings after a call. -/
def Settings.after (env : Env) (settings : Settings) : Call → Settings
  | .setPolicyManager caller policyManager =>
      if MayConfigure env settings.roles caller then
        { settings with policyManager := some policyManager }
      else settings
  | .grantRole caller role who =>
      if MayConfigure env settings.roles caller then
        { settings with roles := settings.roles.grant role who }
      else settings
  | .revokeRole caller role who =>
      if MayConfigure env settings.roles caller then
        { settings with roles := settings.roles.revoke role who }
      else settings
  | _ => settings

theorem Effect.settings_eq {env : Env} {call : Call} {before after : State}
    (effect : Effect env before call after)
    (other : call.administers = false) :
    after.settings = before.settings := by
  cases effect with
  | wired | granted | revoked => cases other
  | minted | updated | moved => rfl

/-- A call takes the settings to the settings after it, whether it is accepted
or refused. -/
theorem exec_settings (env : Env) (before : State) (call : Call) :
    ((exec env call).advance before).settings =
      before.settings.after env call := by
  have business : call.administers = false →
      ((exec env call).advance before).settings = before.settings := by
    intro other
    rcases advance_cases (exec env call) before with
      ⟨-, same⟩ | ⟨-, _, commits⟩
    · rw [same]
    · exact (exec_effect env call commits).settings_eq other
  cases call with
  | setPolicyManager caller policyManager =>
      exact announced_view env caller before State.settings _ _
  | grantRole caller role who =>
      exact administration_view env caller before State.settings _
  | revokeRole caller role who =>
      exact administration_view env caller before State.settings _
  | _ => exact business rfl

/-- The calls that PolicyManager makes set nothing. -/
theorem Call.not_administers_of_certifies {call : Call}
    (certifies : call.certifies = true) : call.administers = false := by
  cases call <;> first | rfl | cases certifies

theorem managed_settings (address : Address) (env : Env)
    (call : PolicyManager.Call) (before : PolicyManager.State × State) :
    ((PolicyManager.exec (clientAt address) env call).advance
      before).2.settings = before.2.settings := by
  rcases advance_cases (PolicyManager.exec (clientAt address) env call)
    before with ⟨-, same⟩ | ⟨-, _, commits⟩
  · rw [same]
  · rcases effect_of_managed (PolicyManager.exec_effect _ _ call commits) with
      same | ⟨nftCall, certifies, effect⟩
    · rw [same]
    · exact effect.settings_eq (Call.not_administers_of_certifies certifies)

end PolicyNft

namespace PayoutReceiver

/-- What administrators set in a PayoutReceiver. -/
structure Settings where
  roles : Roles
  settlementAdapter : Option Address
  policyManager : Option Address
  authorizedSigner : Option (BytesN 65)
  networkDomain : Option (BytesN 32)
  paused : Option Bool
  methodologyEnabled : MethodologyKind → Option Bool

def State.settings (state : State) : Settings where
  roles := state.roles
  settlementAdapter := state.settlementAdapter
  policyManager := state.policyManager
  authorizedSigner := state.authorizedSigner
  networkDomain := state.networkDomain
  paused := state.paused
  methodologyEnabled := state.methodologyEnabled

/-- The settings after a call, where the adapters name these receivers. -/
def Settings.after (env : Env) (bound : Address → Option Address)
    (settings : Settings) : Call → Settings
  | .setAuthorizedSigner caller pubkey =>
      if MayConfigure env settings.roles caller then
        { settings with authorizedSigner := some pubkey }
      else settings
  | .setNetworkDomain caller domain =>
      if MayConfigure env settings.roles caller then
        { settings with networkDomain := some domain }
      else settings
  | .setSettlementAdapter caller adapter =>
      if MayConfigure env settings.roles caller ∧
          adapter ≠ env.currentContract ∧
            bound adapter = some env.currentContract ∧
              settings.settlementAdapter.isSome = true then
        { settings with settlementAdapter := some adapter }
      else settings
  | .grantRole caller role who =>
      if MayConfigure env settings.roles caller then
        { settings with roles := settings.roles.grant role who }
      else settings
  | .revokeRole caller role who =>
      if MayConfigure env settings.roles caller then
        { settings with roles := settings.roles.revoke role who }
      else settings
  | .pause caller =>
      if MayConfigure env settings.roles caller then
        { settings with paused := some true }
      else settings
  | .unpause caller =>
      if MayConfigure env settings.roles caller then
        { settings with paused := some false }
      else settings
  | .setMethodologyEnabled caller kind enabled =>
      if MayConfigure env settings.roles caller then
        { settings with
          methodologyEnabled :=
            Function.update settings.methodologyEnabled kind (some enabled) }
      else settings
  | _ => settings

/-- The receivers that the adapters name. -/
def boundTo {Ω : Type} (neighbors : Neighbors Ω) (adapter : Address) :
    Option Address :=
  (neighbors.adapters adapter).bind SettlementAdapter.State.payoutReceiver

section Exec

open Deployment (adapterClient)

variable {Ω : Type} (crypto : Crypto)
  (pm : Env → PolicyManagerClient (Neighbors Ω)) (env : Env)
  (before : State × Neighbors Ω)

theorem exec_settings_of_business (call : Call)
    (submits : call.administers = false)
    (other : ∀ caller adapter, call ≠ .setSettlementAdapter caller adapter) :
    ((exec crypto pm adapterClient env call).advance before).1.settings =
      before.1.settings := by
  rcases advance_cases (exec crypto pm adapterClient env call) before with
    ⟨-, same⟩ | ⟨-, _, commits⟩
  · rw [same]
  · generalize (exec crypto pm adapterClient env call).advance before =
      after at commits ⊢
    cases exec_effect crypto pm adapterClient env call commits with
    | administered signed admin administers =>
        rw [submits] at administers
        cases administers
    | swapped => exact absurd rfl (other _ _)
    | submitted => rfl

theorem exec_settings (call : Call) :
    ((exec crypto pm adapterClient env call).advance before).1.settings =
      before.1.settings.after env (boundTo before.2) call := by
  cases call with
  | setAuthorizedSigner caller pubkey =>
      rw [exec, internal_advance]
      exact announced_view env caller before.1 State.settings _ _
  | setNetworkDomain caller domain =>
      rw [exec, internal_advance]
      exact administration_view env caller before.1 State.settings _
  | setSettlementAdapter caller adapter =>
      have advances :
          (setSettlementAdapter adapterClient env caller adapter).advance
              before =
            if MayConfigure env before.1.roles caller ∧
                adapter ≠ env.currentContract ∧
                  boundTo before.2 adapter = some env.currentContract ∧
                    before.1.settlementAdapter.isSome = true then
              ({ before.1 with settlementAdapter := some adapter }, before.2)
            else before := by
        apply advance_eq_ite
        rintro ⟨state, neighbors⟩
        rw [setSettlementAdapter_commits, Deployment.payoutReceiver_commits]
        simp only [MayConfigure, boundTo, Option.bind_eq_some_iff,
          Env.invoke_currentContract, Prod.mk.injEq]
        constructor
        · rintro ⟨signed, admin, other, ⟨ledger, found, names, rfl⟩, stored,
            rfl⟩
          exact ⟨⟨⟨signed, admin⟩, other, ⟨ledger, found, names.symm⟩,
            stored⟩, rfl, rfl⟩
        · rintro ⟨⟨⟨signed, admin⟩, other, ⟨ledger, found, names⟩, stored⟩,
            rfl, rfl⟩
          exact ⟨signed, admin, other, ⟨ledger, found, names.symm, rfl⟩,
            stored, rfl⟩
      rw [exec, advances,
        apply_ite fun both : State × Neighbors Ω => both.1.settings]
      rfl
  | grantRole caller role who =>
      rw [exec, internal_advance]
      exact administration_view env caller before.1 State.settings _
  | revokeRole caller role who =>
      rw [exec, internal_advance]
      exact administration_view env caller before.1 State.settings _
  | pause caller =>
      rw [exec, internal_advance]
      exact administration_view env caller before.1 State.settings _
  | unpause caller =>
      rw [exec, internal_advance]
      exact administration_view env caller before.1 State.settings _
  | setMethodologyEnabled caller kind enabled =>
      rw [exec, internal_advance]
      exact announced_view env caller before.1 State.settings _ _
  | submitDetermination caller d signature recoveryId =>
      exact exec_settings_of_business crypto pm env before _ rfl (by simp)
  | submitDroughtDetermination caller d signature recoveryId =>
      exact exec_settings_of_business crypto pm env before _ rfl (by simp)

end Exec

end PayoutReceiver

/-! ## The system -/

/-- What administrators set in the contracts of a deployment. -/
@[ext]
structure SystemSettings where
  policyManager : PolicyManager.Settings
  receivers : Address → Option PayoutReceiver.Settings
  adapters : Address → Option SettlementAdapter.Settings
  nft : PolicyNft.Settings

def World.settings (world : World PolicyNft.State) : SystemSettings where
  policyManager := world.policyManager.settings
  receivers := Option.map PayoutReceiver.State.settings ∘ world.receivers
  adapters := Option.map SettlementAdapter.State.settings ∘ world.adapters
  nft := world.nft.settings

/-- The receivers that the adapters name. -/
def SystemSettings.boundTo (settings : SystemSettings) (adapter : Address) :
    Option Address :=
  (settings.adapters adapter).bind SettlementAdapter.Settings.payoutReceiver

theorem World.boundTo_settings (world : World PolicyNft.State) :
    world.settings.boundTo = PayoutReceiver.boundTo world.toNeighbors := by
  funext adapter
  exact Option.bind_map ..

/-- The settings after a call in an environment. -/
def SystemSettings.after (env : Env) (settings : SystemSettings) :
    World.Call PolicyNft.Call → SystemSettings
  | .policyManager call =>
      { settings with
        policyManager := settings.policyManager.after env call }
  | .receiver address call =>
      { settings with
        receivers := Function.update settings.receivers address
          ((settings.receivers address).map fun own =>
            own.after env settings.boundTo call) }
  | .adapter address call =>
      { settings with
        adapters := Function.update settings.adapters address
          ((settings.adapters address).map fun own => own.after env call) }
  | .nft call => { settings with nft := settings.nft.after env call }
  | .expireMarker _ _ => settings

/-- The call sets something in the contract that it calls. -/
def World.Call.administers : World.Call PolicyNft.Call → Bool
  | .policyManager call => call.administers
  | .receiver _ (.setSettlementAdapter ..) => true
  | .receiver _ call => call.administers
  | .adapter _ call => call.administers
  | .nft call => call.administers
  | .expireMarker _ _ => false

theorem SystemSettings.after_of_business (env : Env)
    (settings : SystemSettings) {call : World.Call PolicyNft.Call}
    (business : call.administers = false) :
    settings.after env call = settings := by
  cases call with
  | policyManager call =>
      cases call <;> first | rfl | cases business
  | receiver address call =>
      have same : (settings.receivers address).map (fun own =>
          own.after env settings.boundTo call) =
            settings.receivers address := by
        generalize settings.receivers address = own
        cases call <;> first | (cases own <;> rfl) | cases business
      change { settings with
        receivers := Function.update settings.receivers address _ } = settings
      rw [same, Function.update_eq_self]
  | adapter address call =>
      have same : (settings.adapters address).map (fun own =>
          own.after env call) = settings.adapters address := by
        generalize settings.adapters address = own
        cases call <;> first | (cases own <;> rfl) | cases business
      change { settings with
        adapters := Function.update settings.adapters address _ } = settings
      rw [same, Function.update_eq_self]
  | nft call =>
      cases call <;> first | rfl | cases business
  | expireMarker address preimageHash => rfl

namespace Deployment

variable {deployment : Deployment PolicyNft.State PolicyNft.Call}
  {nftAddress nftAdmin : Address}
  (real : deployment.certificates =
    PolicyNft.certificates nftAddress nftAdmin)

/-- Writing one contract writes its settings. -/
theorem settings_update {σ υ : Type} (view : σ → υ)
    (contracts : Address → Option σ) (address : Address) (state : σ) :
    Option.map view ∘ Function.update contracts address (some state) =
      Function.update (Option.map view ∘ contracts) address
        (some (view state)) :=
  Function.comp_update ..

section Reach

variable {Ω : Type}

theorem onNeighbors_advance (program : Contract (Neighbors Ω) Unit)
    (world : World Ω) :
    (onNeighbors program).advance world =
      { world with toNeighbors := program.advance world.toNeighbors } :=
  zoom_advance program _ rfl rfl

theorem onManager_advance (program : Contract (PolicyManager.State × Ω) Unit)
    (neighbors : Neighbors Ω) :
    (onManager program).advance neighbors =
      { neighbors with
        policyManager :=
          (program.advance (neighbors.policyManager, neighbors.nft)).1
        nft := (program.advance (neighbors.policyManager, neighbors.nft)).2 } :=
  zoom_advance program _ rfl rfl

theorem onNft_advance (program : Contract Ω Unit)
    (neighbors : Neighbors Ω) :
    (onNft program).advance neighbors =
      { neighbors with nft := program.advance neighbors.nft } :=
  zoom_advance program _ rfl rfl

theorem onAdapter_advance {address : Address}
    {ledger : SettlementAdapter.State} {neighbors : Neighbors Ω}
    (program : Contract SettlementAdapter.State Unit)
    (found : neighbors.adapters address = some ledger) :
    (onAdapter address program).advance neighbors =
      { neighbors with
        adapters := Function.update neighbors.adapters address
          (some (program.advance ledger)) } := by
  refine zoom_advance program _ ((findContract_eq_ok _ _ _).mpr found) ?_
  rw [← found, Function.update_eq_self]

theorem onReceiver_advance {address : Address} {state : PayoutReceiver.State}
    {world : World Ω}
    (program : Contract (PayoutReceiver.State × Neighbors Ω) Unit)
    (installed : world.receivers address = some state) :
    (onReceiver address program).advance world =
      { toNeighbors := (program.advance (state, world.toNeighbors)).2
        receivers := Function.update world.receivers address
          (some (program.advance (state, world.toNeighbors)).1) } := by
  refine zoom_advance program (state, world.toNeighbors) ?_ ?_
  · rw [(findContract_eq_ok _ _ _).mpr installed]
  · rw [← installed, Function.update_eq_self]

end Reach

section Apply

variable {Ω κ : Type} {deployment : Deployment Ω κ} {world : World Ω}
  {invocation : Invocation κ}

theorem apply_managed {call : PolicyManager.Call}
    (called : invocation.call = .policyManager call) :
    deployment.apply world invocation =
      { world with
        policyManager := ((PolicyManager.exec deployment.certificates.client
          (deployment.env invocation) call).advance
            (world.policyManager, world.nft)).1
        nft := ((PolicyManager.exec deployment.certificates.client
          (deployment.env invocation) call).advance
            (world.policyManager, world.nft)).2 } := by
  unfold apply exec
  rw [called, onNeighbors_advance, onManager_advance]

theorem apply_booked {address : Address} {call : SettlementAdapter.Call}
    (called : invocation.call = .adapter address call)
    {ledger : SettlementAdapter.State}
    (found : world.adapters address = some ledger) :
    deployment.apply world invocation =
      { world with
        adapters := Function.update world.adapters address
          (some ((SettlementAdapter.exec (deployment.env invocation)
            call).advance ledger)) } := by
  unfold apply exec
  rw [called, onNeighbors_advance, onAdapter_advance _ found]

theorem apply_nft {call : κ} (called : invocation.call = .nft call) :
    deployment.apply world invocation =
      { world with
        nft := (deployment.certificates.exec (deployment.env invocation)
          call).advance world.nft } := by
  unfold apply exec
  rw [called, onNeighbors_advance, onNft_advance]

theorem apply_received {address : Address} {call : PayoutReceiver.Call}
    (called : invocation.call = .receiver address call)
    {state : PayoutReceiver.State}
    (installed : world.receivers address = some state) :
    deployment.apply world invocation =
      { toNeighbors := ((PayoutReceiver.exec deployment.crypto
          deployment.managerClient adapterClient (deployment.env invocation)
          call).advance (state, world.toNeighbors)).2
        receivers := Function.update world.receivers address
          (some ((PayoutReceiver.exec deployment.crypto
            deployment.managerClient adapterClient (deployment.env invocation)
            call).advance (state, world.toNeighbors)).1) } := by
  unfold apply exec
  rw [called, onReceiver_advance _ installed]

/-- A call to an address without a contract changes nothing. -/
theorem apply_missing {address : Address}
    (missing : (∃ call, invocation.call = .receiver address call ∧
        world.receivers address = none) ∨
      ∃ call, invocation.call = .adapter address call ∧
        world.adapters address = none) :
    deployment.apply world invocation = world := by
  rcases deployment.apply_cases world invocation with ⟨-, same⟩ | ⟨-, step⟩
  · exact same
  · generalize deployment.apply world invocation = after at step ⊢
    generalize calledEq : invocation.call = call at step missing
    rcases missing with ⟨receiverCall, rfl, missing⟩ |
      ⟨adapterCall, rfl, missing⟩
    · cases step with
      | administered installed | swapped installed =>
          rw [missing] at installed
          cases installed
      | settled settlement =>
          have installed := settlement.installed
          rw [missing] at installed
          cases installed
    · cases step with
      | booked found =>
          rw [missing] at found
          cases found

end Apply

include real

/-- What the receivers call sets nothing. -/
theorem Step.neighbors_settings {env : Env}
    {before after : World PolicyNft.State} {address : Address}
    {call : PayoutReceiver.Call}
    (step : deployment.Step env before (.receiver address call) after) :
    after.policyManager.settings = before.policyManager.settings ∧
      Option.map SettlementAdapter.State.settings ∘ after.adapters =
        Option.map SettlementAdapter.State.settings ∘ before.adapters ∧
      after.nft.settings = before.nft.settings := by
  have nft : after.nft.settings = before.nft.settings := by
    rcases step.nft_effect real with
      same | ⟨nftCall, called, -⟩ | ⟨nftCall, inner, certifies, -, effect⟩
    · rw [same]
    · cases called
    · exact effect.settings_eq
        (PolicyNft.Call.not_administers_of_certifies certifies)
  refine ⟨?_, ?_, nft⟩
  · cases step with
    | administered | swapped => rfl
    | settled settlement =>
        have marked := settlement.marked.settings_eq rfl
        have counted := settlement.counted.settings_eq rfl
        exact counted.trans marked
  · cases step with
    | administered | swapped => rfl
    | @settled _ adapter _ _ _ _ _ ledger ledgerAfter _ _ settlement =>
        have same : ledgerAfter.settings = ledger.settings := by
          obtain ⟨-, -, -, ⟨_, -, -, -, -, -, rfl⟩ | ⟨-, _, -, -, -, -, rfl⟩⟩ :=
            (SettlementAdapter.recordObligation_commits _ _ _ _ _ _ _ _ _).mp
              settlement.handover.recorded
          · rfl
          · rfl
        refine (settings_update ..).trans
          (Function.update_eq_self_iff.mpr ?_)
        rw [same, Function.comp_apply, settlement.handover.found]
        rfl

/-- A call to a receiver sets nothing in the other contracts. -/
theorem received_neighbors_settings (world : World PolicyNft.State)
    {invocation : Invocation PolicyNft.Call} {address : Address}
    {call : PayoutReceiver.Call}
    (called : invocation.call = .receiver address call) :
    (deployment.apply world invocation).policyManager.settings =
        world.policyManager.settings ∧
      Option.map SettlementAdapter.State.settings ∘
          (deployment.apply world invocation).adapters =
        Option.map SettlementAdapter.State.settings ∘ world.adapters ∧
      (deployment.apply world invocation).nft.settings =
        world.nft.settings := by
  rcases deployment.apply_cases world invocation with ⟨-, same⟩ | ⟨-, step⟩
  · rw [same]
    exact ⟨rfl, rfl, rfl⟩
  · rw [called] at step
    exact step.neighbors_settings real

/-- An invocation takes the settings to the settings after its call, whether
it is accepted or refused. -/
theorem apply_settings (world : World PolicyNft.State)
    (invocation : Invocation PolicyNft.Call) :
    (deployment.apply world invocation).settings =
      world.settings.after (deployment.env invocation) invocation.call := by
  generalize envEq : deployment.env invocation = env
  cases called : invocation.call with
  | policyManager call =>
      rw [apply_managed called, envEq]
      have manager := PolicyManager.exec_settings
        deployment.certificates.client env (world.policyManager, world.nft)
        call
      have nft := PolicyNft.managed_settings nftAddress env call
        (world.policyManager, world.nft)
      rw [real] at manager ⊢
      exact SystemSettings.ext manager rfl rfl nft
  | receiver address call =>
      cases installed : world.receivers address with
      | none =>
          rw [apply_missing (Or.inl ⟨call, called, installed⟩)]
          refine SystemSettings.ext rfl (Eq.symm ?_) rfl rfl
          refine Function.update_eq_self_iff.mpr ?_
          simp [World.settings, installed]
      | some state =>
          obtain ⟨manager, adapters, nft⟩ :=
            received_neighbors_settings real world called
          have receivers : Option.map PayoutReceiver.State.settings ∘
              (deployment.apply world invocation).receivers =
                (world.settings.after env
                  (.receiver address call)).receivers := by
            rw [apply_received called installed, settings_update,
              PayoutReceiver.exec_settings, envEq]
            simp [World.settings, SystemSettings.after, installed,
              ← world.boundTo_settings]
          exact SystemSettings.ext manager receivers adapters nft
  | adapter address call =>
      cases found : world.adapters address with
      | none =>
          rw [apply_missing (Or.inr ⟨call, called, found⟩)]
          refine SystemSettings.ext rfl rfl (Eq.symm ?_) rfl
          refine Function.update_eq_self_iff.mpr ?_
          simp [World.settings, found]
      | some ledger =>
          rw [apply_booked called found, envEq]
          refine SystemSettings.ext rfl rfl ?_ rfl
          refine (settings_update ..).trans ?_
          rw [SettlementAdapter.exec_settings]
          simp [World.settings, SystemSettings.after, found]
  | nft call =>
      rw [apply_nft called, envEq, real]
      exact SystemSettings.ext rfl rfl rfl
        (PolicyNft.exec_settings env world.nft call)
  | expireMarker address preimageHash =>
      rcases deployment.apply_cases world invocation with
        ⟨-, same⟩ | ⟨-, step⟩
      · rw [same]
        rfl
      · generalize deployment.apply world invocation = after at step ⊢
        rw [called] at step
        cases step with
        | @markerExpired _ _ state installed =>
            refine SystemSettings.ext rfl ?_ rfl rfl
            refine (settings_update ..).trans ?_
            refine Function.update_eq_self_iff.mpr ?_
            rw [Function.comp_apply, installed]
            rfl

omit real

/-- The settings that an invocation leaves. -/
def configure (deployment : Deployment PolicyNft.State PolicyNft.Call)
    (settings : SystemSettings) (invocation : Invocation PolicyNft.Call) :
    SystemSettings :=
  settings.after (deployment.env invocation) invocation.call

include real

theorem run_settings (invocations : List (Invocation PolicyNft.Call)) :
    (deployment.run invocations).settings =
      History.run deployment.configure deployment.genesis.settings
        invocations :=
  History.run_view deployment.apply World.settings deployment.configure
    (apply_settings real) invocations deployment.genesis

/-- Two runs with the same administrators' calls end with the same settings,
whatever else was called in them, and these are the settings that the
administrators' calls lead to on their own, without any other state. -/
theorem settingsAutonomous {invocations others :
    List (Invocation PolicyNft.Call)}
    (same : invocations.filter (·.call.administers) =
      others.filter (·.call.administers)) :
    (deployment.run invocations).settings =
        (deployment.run others).settings ∧
      (deployment.run invocations).settings =
        History.run deployment.configure deployment.genesis.settings
          (others.filter (·.call.administers)) := by
  have administered (all : List (Invocation PolicyNft.Call)) :
      (deployment.run all).settings =
        History.run deployment.configure deployment.genesis.settings
          (all.filter (·.call.administers)) := by
    rw [run_settings real, History.run_filter_idle]
    intro settings invocation business
    exact settings.after_of_business _ business
  rw [administered invocations, administered others, same]
  exact ⟨rfl, rfl⟩

omit real in
/-- The season leaves the settings of its first ten invocations. -/
theorem settingsAutonomous_season :
    (seasonDeployment.run season).settings =
        (seasonDeployment.run seasonSetup).settings ∧
      (seasonDeployment.run season).settings =
        History.run seasonDeployment.configure
          seasonDeployment.genesis.settings
          (seasonSetup.filter (·.call.administers)) :=
  settingsAutonomous
    (show seasonDeployment.certificates = PolicyNft.certificates
      (seasonContract 3) (seasonAddress 1) from rfl) rfl

end Deployment

end Microcrop
