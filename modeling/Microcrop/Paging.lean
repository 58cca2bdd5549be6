import Microcrop.ObligationIndex
import Microcrop.PagedIndex
import Microcrop.PolicyManagerEffects
import Microcrop.PolicyNft

/-!
# Paged views

The policies of a farmer, the tokens of a distributor and the obligations of
an organisation are read in pages of at most fifty.  After every run of the
three contracts, a reader who pages through a list sees everything that was
created for its owner, once and in order.
-/

namespace Microcrop

open Transaction

/-! ## The views -/

/-- `MAX_PAGE_SIZE`, the same in the three contracts. -/
def maxPageSize : Nat := 50

/-- `u32::saturating_add`. -/
def saturatingAddU32 (first second : Nat) : Nat :=
  min (first + second) (2 ^ 32 - 1)

/-- `start.saturating_add(limit.min(MAX_PAGE_SIZE)).min(count)`. -/
def pageEnd (start limit count : Nat) : Nat :=
  min (saturatingAddU32 start (min limit maxPageSize)) count

theorem pageEnd_sub_le (start limit count : Nat) :
    pageEnd start limit count - start ≤ count - start := by
  unfold pageEnd
  omega

section Loops

variable {σ : Type} (itemAt : σ → Nat → Option Nat)

/-- The rest of the loop `while i < end` from `i` on: a missing item traps. -/
def pushItems (missing : Error) :
    (remaining i : Nat) → (out : List Nat) → Contract σ (List Nat)
  | 0, _, out => pure out
  | remaining + 1, i, out => do
      let stored ← read fun state => itemAt state i
      let id ← unwrapOr stored missing
      pushItems missing remaining (i + 1) (out ++ [id])

/-- The rest of the loop `for i in start..end` from `i` on: a missing item is
skipped. -/
def pushPresentItems :
    (remaining i : Nat) → (out : List Nat) → Contract σ (List Nat)
  | 0, _, out => pure out
  | remaining + 1, i, out => do
      let stored ← read fun state => itemAt state i
      match stored with
      | some id => pushPresentItems remaining (i + 1) (out ++ [id])
      | none => pushPresentItems remaining (i + 1) out

variable (state : σ) {items : List Nat}
  (listed : ∀ index, itemAt state index = items[index]?)

include listed

theorem pushItems_commits (missing : Error) {remaining i : Nat}
    {out : List Nat} (inside : remaining ≤ items.length - i) :
    (pushItems itemAt missing remaining i out).Commits state
      (out ++ (items.drop i).take remaining) state := by
  induction remaining generalizing i out with
  | zero => simp [pushItems]
  | succ remaining ih =>
      have below : i < items.length := by omega
      have stored : itemAt state i = some items[i] := by
        rw [listed, List.getElem?_eq_getElem below]
      have rest := @ih (i + 1) (out ++ [items[i]]) (by omega)
      rw [List.append_assoc] at rest
      rw [List.drop_eq_getElem_cons below, List.take_succ_cons]
      simp only [pushItems, bind_commits, read_commits, unwrapOr_commits]
      exact ⟨_, _, ⟨rfl, rfl⟩, _, _, ⟨stored, rfl⟩, rest⟩

theorem pushPresentItems_commits {remaining i : Nat} {out : List Nat}
    (inside : remaining ≤ items.length - i) :
    (pushPresentItems itemAt remaining i out).Commits state
      (out ++ (items.drop i).take remaining) state := by
  induction remaining generalizing i out with
  | zero => simp [pushPresentItems]
  | succ remaining ih =>
      have below : i < items.length := by omega
      have stored : itemAt state i = some items[i] := by
        rw [listed, List.getElem?_eq_getElem below]
      have rest := @ih (i + 1) (out ++ [items[i]]) (by omega)
      rw [List.append_assoc] at rest
      rw [List.drop_eq_getElem_cons below, List.take_succ_cons]
      simp only [pushPresentItems, bind_commits, read_commits]
      refine ⟨_, _, ⟨rfl, rfl⟩, ?_⟩
      rw [stored]
      exact rest

end Loops

namespace PolicyManager

/-- `get_farmer_policies`. -/
def getFarmerPolicies (farmer : Address) (start limit : Nat) :
    Contract State (List Nat) := do
  let count ← read fun state => state.farmerPolicyCount farmer
  pushItems (fun state => state.farmerPolicyAt farmer)
    (.policy .policyDoesNotExist) (pageEnd start limit count - start) start []

variable {state : State} {farmer : Address} {ids : List Nat}

/-- A page holds the listed ids from its start to its end. -/
theorem getFarmerPolicies_answer
    (lists : PagedIndex.Lists (state.farmerPolicyAt farmer)
      (state.farmerPolicyCount farmer) ids) (start limit : Nat) :
    (getFarmerPolicies farmer start limit).answer state =
      .ok ((ids.drop start).take
        (pageEnd start limit ids.length - start)) := by
  have commits : (getFarmerPolicies farmer start limit).Commits state
      ([] ++ (ids.drop start).take (pageEnd start limit ids.length - start))
      state := by
    simp only [getFarmerPolicies, bind_commits, read_commits]
    rw [lists.count_eq]
    exact ⟨_, _, ⟨rfl, rfl⟩, pushItems_commits _ state lists.place_eq _
      (pageEnd_sub_le start limit _)⟩
  exact commits.answer_eq

end PolicyManager

namespace PolicyNft

/-- `get_distributor_policies`. -/
def getDistributorPolicies (distributor : Address) (start limit : Nat) :
    Contract State (List Nat) := do
  let count ← read fun state => state.distributorCount distributor
  pushItems (fun state => state.distributorPolicyAt distributor)
    (.nft .tokenNotFound) (pageEnd start limit count - start) start []

variable {state : State} {distributor : Address} {ids : List Nat}

theorem getDistributorPolicies_answer
    (lists : PagedIndex.Lists (state.distributorPolicyAt distributor)
      (state.distributorCount distributor) ids) (start limit : Nat) :
    (getDistributorPolicies distributor start limit).answer state =
      .ok ((ids.drop start).take
        (pageEnd start limit ids.length - start)) := by
  have commits : (getDistributorPolicies distributor start limit).Commits
      state
      ([] ++ (ids.drop start).take (pageEnd start limit ids.length - start))
      state := by
    simp only [getDistributorPolicies, bind_commits, read_commits]
    rw [lists.count_eq]
    exact ⟨_, _, ⟨rfl, rfl⟩, pushItems_commits _ state lists.place_eq _
      (pageEnd_sub_le start limit _)⟩
  exact commits.answer_eq

end PolicyNft

namespace SettlementAdapter

/-- `get_org_obligations`. -/
def getOrgObligations (org : Address) (start limit : Nat) :
    Contract State (List Nat) := do
  let count ← read fun state => state.orgObligationCount org
  if count ≤ start then
    pure []
  else
    pushPresentItems (fun state => state.orgObligationAt org)
      (pageEnd start limit count - start) start []

variable {state : State} {org : Address} {ids : List Nat}

theorem getOrgObligations_answer
    (lists : PagedIndex.Lists (state.orgObligationAt org)
      (state.orgObligationCount org) ids) (start limit : Nat) :
    (getOrgObligations org start limit).answer state =
      .ok ((ids.drop start).take
        (pageEnd start limit ids.length - start)) := by
  have commits : (getOrgObligations org start limit).Commits state
      ([] ++ (ids.drop start).take (pageEnd start limit ids.length - start))
      state := by
    simp only [getOrgObligations, bind_commits, read_commits]
    rw [lists.count_eq]
    refine ⟨_, _, ⟨rfl, rfl⟩, ?_⟩
    split
    · rename_i past
      rw [List.drop_eq_nil_of_le past, List.take_nil, List.append_nil,
        pure_commits]
      exact ⟨rfl, rfl⟩
    · exact pushPresentItems_commits _ state lists.place_eq
        (pageEnd_sub_le start limit _)
  exact commits.answer_eq

end SettlementAdapter

/-! ## What a reader sees -/

/-- A paged view shows the ids: their number is the count, none is repeated,
reading page after page from zero on ends without an error and gives them in
order, and every page that starts at the end or behind it is empty. -/
structure ShowsInPages (view : (start limit : Nat) → Except Error (List Nat))
    (count : Nat) (ids : List Nat) : Prop where
  count_eq : count = ids.length
  count_lt : count < 2 ^ 32
  nodup : ids.Nodup
  complete : ∀ limit, 0 < limit →
    ∃ pages, PagedIndex.readPages (fun start => view start limit)
        (ids.length + 1) 0 = some (.ok pages) ∧
      pages.flatten = ids
  past : ∀ start limit, count ≤ start → view start limit = .ok []

section Views

variable {view : (start limit : Nat) → Except Error (List Nat)}
  {items : List Nat}

/-- A view whose pages are the pieces up to `pageEnd` serves the list. -/
theorem serves_of_pages (small : items.length < 2 ^ 32)
    (pages : ∀ start limit, view start limit = .ok
      ((items.drop start).take (pageEnd start limit items.length - start)))
    {limit : Nat} (positive : 0 < limit) :
    PagedIndex.Serves (fun start => view start limit) items := by
  intro start
  refine ⟨_, pages start limit, List.take_prefix _ _, ?_⟩
  intro inside empty
  have length := congrArg List.length empty
  have pageSize : maxPageSize = 50 := rfl
  rw [List.length_take, List.length_drop, List.length_nil, pageEnd,
    saturatingAddU32, pageSize] at length
  omega

theorem showsInPages {γ : Type} {known : Nat → Prop}
    {place : γ → Nat → Option Nat} {counts : γ → Nat} {ids : γ → List Nat}
    (maintains : PagedIndex.Maintains known (2 ^ 32) place counts ids)
    (owner : γ)
    (pages : ∀ start limit, view start limit = .ok
      (((ids owner).drop start).take
        (pageEnd start limit (ids owner).length - start))) :
    ShowsInPages view (counts owner) (ids owner) := by
  have count_eq := (maintains.lists owner).count_eq
  have below := maintains.below owner
  rw [count_eq] at below
  have serves := fun (limit : Nat) (positive : 0 < limit) =>
    serves_of_pages below pages positive
  exact
    { count_eq := count_eq
      count_lt := maintains.below owner
      nodup := maintains.nodup owner
      complete := by
        intro limit positive
        exact (serves limit positive).readPages_eq (Nat.zero_le _)
          (by omega)
      past := by
        intro start limit past
        rw [count_eq] at past
        rw [pages, List.drop_eq_nil_of_le past, List.take_nil] }

end Views

/-! ## PolicyManager -/

namespace PolicyManager

/-- The farmers' index. -/
def farmerIndex : PagedIndex.Index State Address Nat where
  place state := state.farmerPolicyAt
  count state := state.farmerPolicyCount
  known state policyId := policyId ≤ state.getTotalPolicies

/-- The policy that a call created for the farmer: what `create_policy`
returned. -/
def created {Ω : Type} (farmer : Address)
    (transition : Transition State (Input Ω)) : Option Nat :=
  match transition.label.call with
  | .createPolicy caller other plotId latE6 lonE6 sumInsured premium
      durationDays coverageType org =>
      if farmer = other then
        ((createPolicy transition.label.env caller other plotId latE6 lonE6
          sumInsured premium durationDays coverageType org).answer
            transition.source).toOption
      else none
  | _ => none

/-- All policies that the calls created for the farmer, oldest first. -/
def createdIn {Ω : Type} (admin : Address) (inputs : List (Input Ω))
    (farmer : Address) : List Nat :=
  (History.trace apply (constructor admin) inputs).filterMap (created farmer)

open State

/-- Whether a call creates a policy. -/
def Call.creates : Call → Bool
  | .createPolicy .. => true
  | _ => false

/-- Only `create_policy` touches the index. -/
theorem farmerIndex_kept {Ω : Type} {nft : Env → PolicyNftClient Ω}
    {env : Env} {call : Call} {before after : State × Ω}
    (effect : Effect nft env before call after)
    (other : call.creates = false) :
    after.1.farmerPolicyAt = before.1.farmerPolicyAt ∧
      after.1.farmerPolicyCount = before.1.farmerPolicyCount ∧
        after.1.getTotalPolicies = before.1.getTotalPolicies := by
  cases effect with
  | administered => exact ⟨rfl, rfl, rfl⟩
  | sold => cases other
  | activated =>
      rw [activate_frame]
      exact ⟨rfl, rfl, rfl⟩
  | closedActive =>
      rw [closeActive_frame]
      exact ⟨rfl, rfl, rfl⟩
  | closedPending =>
      rw [closePending_frame]
      exact ⟨rfl, rfl, rfl⟩
  | claimCounted => exact ⟨rfl, rfl, rfl⟩
  | alreadyExpired => exact ⟨rfl, rfl, rfl⟩

theorem farmerIndex_createPolicy {Ω : Type} (state : State)
    (nft : Env → PolicyNftClient Ω) (outside : Ω) (env : Env)
    (caller farmer : Address) (plotId : Nat)
    (latE6 lonE6 sumInsured premium : Int) (durationDays : Nat)
    (coverageType : CoverageType) (org : Address) :
    let input : Input Ω := ⟨env, nft, outside, .createPolicy caller farmer
      plotId latE6 lonE6 sumInsured premium durationDays coverageType org⟩
    farmerIndex.Step (2 ^ 32) state (apply state input) fun owner =>
      created owner (History.taken apply state input) := by
  intro input
  rcases commits_or_fails (createPolicy env caller farmer plotId latE6 lonE6
    sumInsured premium durationDays coverageType org) state with
    ⟨policyId, after, commits⟩ | ⟨error, fails⟩
  · have executed : (exec nft env input.call).Commits (state, outside) ()
        (after, outside) := by
      simp only [exec, bind_commits, internal_commits, pure_commits, input]
      exact ⟨policyId, _, ⟨after, commits, rfl⟩, trivial, rfl⟩
    have advanced : apply state input = after :=
      congrArg Prod.fst executed.advance_eq
    have answered := commits.answer_eq
    obtain ⟨-, -, -, capacity, rfl, rfl⟩ :=
      (createPolicy_commits env caller farmer plotId latE6 lonE6 sumInsured
        premium durationDays coverageType org state after policyId).mp
          commits
    rw [advanced]
    refine .appended farmer (state.getTotalPolicies + 1) rfl ?_ ?_ ?_ ?_
      capacity.index_lt ?_
    · exact KeyedStore.getD_written state.farmerPolicyCounts farmer _ 0
    · intro policyId known
      exact Nat.le_succ_of_le known
    · exact Nat.not_succ_le_self _
    · exact Nat.le_refl _
    · intro owner
      simp only [created, History.taken, input, answered]
      rfl
  · have failed : (exec nft env input.call).Fails (state, outside) error := by
      simp only [exec, bind_fails, internal_fails, input]
      exact Or.inl fails
    have refused : apply state input = state :=
      congrArg Prod.fst failed.advance_eq
    have answered := fails.answer_eq
    rw [refused]
    apply PagedIndex.Index.Step.kept rfl rfl fun _ known => known
    intro owner
    simp only [created, History.taken, input, answered]
    exact ite_self none

theorem farmerIndex_step {Ω : Type} (state : State) (input : Input Ω) :
    farmerIndex.Step (2 ^ 32) state (apply state input) fun owner =>
      created owner (History.taken apply state input) := by
  obtain ⟨env, nft, outside, call⟩ := input
  by_cases creates : call.creates = true
  · cases call with
    | createPolicy caller farmer plotId latE6 lonE6 sumInsured premium
        durationDays coverageType org =>
        exact farmerIndex_createPolicy state nft outside env caller farmer
          plotId latE6 lonE6 sumInsured premium durationDays coverageType org
    | _ => cases creates
  · rw [Bool.not_eq_true] at creates
    have nothing : ∀ owner, created owner
        (History.taken apply state ⟨env, nft, outside, call⟩) = none := by
      intro owner
      cases call <;> first | rfl | cases creates
    rcases apply_cases state ⟨env, nft, outside, call⟩ with
      ⟨-, same⟩ | ⟨-, after, effect, same⟩
    · rw [same]
      exact .kept rfl rfl (fun _ known => known) nothing
    · obtain ⟨places, counts, total⟩ := farmerIndex_kept effect creates
      rw [same]
      apply PagedIndex.Index.Step.kept places counts _ nothing
      intro policyId known
      exact known.trans_eq total.symm

/-- After every run, the index lists the created policies. -/
theorem farmerIndex_run {Ω : Type} (admin : Address)
    (inputs : List (Input Ω)) :
    farmerIndex.Holds (2 ^ 32)
      (History.run apply (constructor admin) inputs)
      (createdIn admin inputs) := by
  have empty : farmerIndex.Holds (2 ^ 32) (constructor admin) fun _ => [] :=
    PagedIndex.maintains_empty _ (Nat.two_pow_pos 32)
  exact PagedIndex.Index.holds_run farmerIndex_step empty inputs

end PolicyManager

/-! ## PolicyNft -/

namespace PolicyNft

/-- The distributors' index. -/
def distributorIndex : PagedIndex.Index State Address Nat where
  place state := state.distributorPolicyAt
  count state := state.distributorCount
  known state tokenId := state.policyToToken tokenId ≠ none

/-- The token that a call minted for the distributor: what `mint_policy`
returned. -/
def minted (distributor : Address) (transition : Transition State Input) :
    Option Nat :=
  match transition.label.call with
  | .mintPolicy caller farmer policyId other distributorName sumInsured
      premium startDate endDate coverageType region plotId =>
      if distributor = other then
        ((mintPolicy transition.label.env caller farmer policyId other
          distributorName sumInsured premium startDate endDate coverageType
          region plotId).answer transition.source).toOption
      else none
  | _ => none

/-- All tokens that the calls minted for the distributor, oldest first. -/
def mintedIn (admin : Address) (inputs : List Input)
    (distributor : Address) : List Nat :=
  (History.trace apply (constructor admin) inputs).filterMap
    (minted distributor)

/-- Whether a call mints a token. -/
def Call.mints : Call → Bool
  | .mintPolicy .. => true
  | _ => false

/-- Only `mint_policy` touches the index. -/
theorem distributorIndex_kept {env : Env} {call : Call}
    {before after : State} (effect : Effect env before call after)
    (other : call.mints = false) :
    after.distributorPolicyAt = before.distributorPolicyAt ∧
      after.distributorCount = before.distributorCount ∧
        after.policyToToken = before.policyToToken := by
  cases effect with
  | wired => exact ⟨rfl, rfl, rfl⟩
  | granted => exact ⟨rfl, rfl, rfl⟩
  | revoked => exact ⟨rfl, rfl, rfl⟩
  | minted => cases other
  | updated => exact ⟨rfl, rfl, rfl⟩
  | moved => exact ⟨rfl, rfl, rfl⟩

theorem distributorIndex_mintPolicy (state : State) (env : Env)
    (caller farmer : Address) (policyId : Nat) (distributor : Address)
    (distributorName : String) (sumInsured premium : Int)
    (startDate endDate : Nat) (coverageType : CoverageType)
    (region : String) (plotId : Nat) :
    let input : Input := ⟨env, .mintPolicy caller farmer policyId distributor
      distributorName sumInsured premium startDate endDate coverageType region
      plotId⟩
    distributorIndex.Step (2 ^ 32) state (apply state input) fun owner =>
      minted owner (History.taken apply state input) := by
  intro input
  rcases commits_or_fails (mintPolicy env caller farmer policyId distributor
    distributorName sumInsured premium startDate endDate coverageType region
    plotId) state with ⟨tokenId, after, commits⟩ | ⟨error, fails⟩
  · have executed : (exec env input.call).Commits state () after := by
      simp only [exec, bind_commits, pure_commits, input]
      exact ⟨tokenId, after, commits, trivial, rfl⟩
    have advanced : apply state input = after := executed.advance_eq
    have answered := commits.answer_eq
    obtain ⟨-, -, -, fresh, room, rfl, rfl⟩ :=
      (mintPolicy_commits env caller farmer policyId distributor
        distributorName sumInsured premium startDate endDate coverageType
        region plotId state after tokenId).mp commits
    rw [advanced]
    refine .appended distributor tokenId rfl ?_ ?_ ?_ ?_ room ?_
    · exact KeyedStore.getD_written state.distributorCounts distributor _ 0
    · intro other known
      by_cases same : other = tokenId
      · simp [distributorIndex, same]
      · exact (Function.update_of_ne same _ _).trans_ne known
    · exact not_not_intro fresh
    · simp [distributorIndex]
    · intro owner
      simp only [minted, History.taken, input, answered]
      rfl
  · have failed : (exec env input.call).Fails state error := by
      simp only [exec, bind_fails, input]
      exact Or.inl fails
    have refused : apply state input = state := failed.advance_eq
    have answered := fails.answer_eq
    rw [refused]
    apply PagedIndex.Index.Step.kept rfl rfl fun _ known => known
    intro owner
    simp only [minted, History.taken, input, answered]
    exact ite_self none

theorem distributorIndex_step (state : State) (input : Input) :
    distributorIndex.Step (2 ^ 32) state (apply state input) fun owner =>
      minted owner (History.taken apply state input) := by
  obtain ⟨env, call⟩ := input
  by_cases mints : call.mints = true
  · cases call with
    | mintPolicy caller farmer policyId distributor distributorName sumInsured
        premium startDate endDate coverageType region plotId =>
        exact distributorIndex_mintPolicy state env caller farmer policyId
          distributor distributorName sumInsured premium startDate endDate
          coverageType region plotId
    | _ => cases mints
  · rw [Bool.not_eq_true] at mints
    have nothing : ∀ owner,
        minted owner (History.taken apply state ⟨env, call⟩) = none := by
      intro owner
      cases call <;> first | rfl | cases mints
    rcases apply_cases state ⟨env, call⟩ with ⟨-, same⟩ | ⟨-, commits⟩
    · rw [same]
      exact .kept rfl rfl (fun _ known => known) nothing
    · obtain ⟨places, counts, tokens⟩ :=
        distributorIndex_kept (exec_effect env call commits) mints
      apply PagedIndex.Index.Step.kept places counts _ nothing
      intro tokenId known
      exact ne_of_eq_of_ne (congrFun tokens tokenId) known

/-- After every run, the index lists the minted tokens. -/
theorem distributorIndex_run (admin : Address) (inputs : List Input) :
    distributorIndex.Holds (2 ^ 32)
      (History.run apply (constructor admin) inputs)
      (mintedIn admin inputs) := by
  have empty : distributorIndex.Holds (2 ^ 32) (constructor admin)
      fun _ => [] :=
    PagedIndex.maintains_empty _ (Nat.two_pow_pos 32)
  exact PagedIndex.Index.holds_run distributorIndex_step empty inputs

end PolicyNft

/-! ## SettlementAdapter -/

namespace SettlementAdapter

/-- The organisations' index. -/
def orgIndex : PagedIndex.Index State Address Nat where
  place state := state.orgObligationAt
  count state := state.orgObligationCount
  known state id := id < state.nextObligationId.getD 0

/-- The obligation that a call recorded for the organisation: the id of what
`record_obligation` returned, if it found none for the policy. -/
def recordedFor (org : Address) (transition : Transition State Input) :
    Option Nat :=
  match transition.label.call with
  | .recordObligation caller policyId other amount determinationDigest =>
      if org = other ∧
          transition.source.obligationOf caller policyId = none then
        ((recordObligation transition.label.env caller policyId other amount
          determinationDigest).answer transition.source).toOption.map
            Obligation.id
      else none
  | _ => none

/-- All obligations that the calls recorded for the organisation, oldest
first. -/
def recordedIn (admin : Address) (inputs : List Input) (org : Address) :
    List Nat :=
  (trace admin inputs).filterMap (recordedFor org)

/-- Only `record_obligation` touches the index. -/
theorem orgIndex_kept {env : Env} {call : Call} {before after : State}
    (effect : Effect env before call after)
    (other : call.recorded = none) :
    after.orgObligationAt = before.orgObligationAt ∧
      after.orgObligationCount = before.orgObligationCount ∧
        after.nextObligationId = before.nextObligationId := by
  cases effect with
  | bound => exact ⟨rfl, rfl, rfl⟩
  | granted => exact ⟨rfl, rfl, rfl⟩
  | revoked => exact ⟨rfl, rfl, rfl⟩
  | recorded => cases other
  | funded => exact ⟨rfl, rfl, rfl⟩
  | settled => exact ⟨rfl, rfl, rfl⟩
  | repeated => exact ⟨rfl, rfl, rfl⟩

theorem orgIndex_recordObligation (state : State) (env : Env)
    (caller : Address) (policyId : Nat) (org : Address) (amount : Int)
    (determinationDigest : BytesN 32) :
    let input : Input := ⟨env, .recordObligation caller policyId org amount
      determinationDigest⟩
    orgIndex.Step (2 ^ 32) state (apply state input) fun owner =>
      recordedFor owner (History.taken apply state input) := by
  intro input
  rcases commits_or_fails (recordObligation env caller policyId org amount
    determinationDigest) state with
    ⟨obligation, after, commits⟩ | ⟨error, fails⟩
  · have executed : (exec env input.call).Commits state () after := by
      simp only [exec, bind_commits, pure_commits, input]
      exact ⟨obligation, after, commits, trivial, rfl⟩
    have advanced : apply state input = after := executed.advance_eq
    have answered := commits.answer_eq
    obtain ⟨-, -, -, ⟨id, existing, -, -, -, -, rfl⟩ |
      ⟨missing, id, next, -, room, rfl, rfl⟩⟩ :=
      (recordObligation_commits env caller policyId org amount
        determinationDigest state after obligation).mp commits
    · rw [advanced]
      apply PagedIndex.Index.Step.kept rfl rfl fun _ known => known
      intro owner
      simp [recordedFor, History.taken, input, existing]
    · rw [advanced]
      refine .appended org id rfl ?_ ?_ ?_ ?_ room ?_
      · exact KeyedStore.getD_written state.orgObligationCounts org _ 0
      · intro other known
        simp only [orgIndex, next, Option.getD_some] at known
        exact Nat.lt_succ_of_lt known
      · simp [orgIndex, next]
      · exact Nat.lt_succ_self id
      · intro owner
        simp only [recordedFor, History.taken, input, answered, missing,
          and_true]
        rfl
  · have failed : (exec env input.call).Fails state error := by
      simp only [exec, bind_fails, input]
      exact Or.inl fails
    have refused : apply state input = state := failed.advance_eq
    have answered := fails.answer_eq
    rw [refused]
    apply PagedIndex.Index.Step.kept rfl rfl fun _ known => known
    intro owner
    simp only [recordedFor, History.taken, input, answered]
    exact ite_self none

theorem orgIndex_step (state : State) (input : Input) :
    orgIndex.Step (2 ^ 32) state (apply state input) fun owner =>
      recordedFor owner (History.taken apply state input) := by
  obtain ⟨env, call⟩ := input
  by_cases records : call.recorded = none
  · have nothing : ∀ owner,
        recordedFor owner (History.taken apply state ⟨env, call⟩) =
          none := by
      intro owner
      cases call <;> first | rfl | cases records
    rcases apply_cases state ⟨env, call⟩ with ⟨-, same⟩ | ⟨-, commits⟩
    · rw [same]
      exact .kept rfl rfl (fun _ known => known) nothing
    · obtain ⟨places, counts, next⟩ :=
        orgIndex_kept (exec_effect env call commits) records
      apply PagedIndex.Index.Step.kept places counts _ nothing
      intro id known
      simp only [orgIndex] at known ⊢
      rw [next]
      exact known
  · cases call with
    | recordObligation caller policyId org amount determinationDigest =>
        exact orgIndex_recordObligation state env caller policyId org amount
          determinationDigest
    | _ => exact absurd rfl records

/-- After every run, the index lists the recorded obligations. -/
theorem orgIndex_run (admin : Address) (inputs : List Input) :
    orgIndex.Holds (2 ^ 32) (run admin inputs) (recordedIn admin inputs) := by
  have empty : orgIndex.Holds (2 ^ 32) (constructor admin) fun _ => [] :=
    PagedIndex.maintains_empty _ (Nat.two_pow_pos 32)
  exact PagedIndex.Index.holds_run orgIndex_step empty inputs

end SettlementAdapter

/-! ## Every run -/

/-- After every run of each contract, whoever makes its calls, paging through
the list of any farmer, distributor or organisation shows exactly what was
created for it. -/
theorem pagingExact {Ω : Type} (admin : Address) :
    (∀ (inputs : List (PolicyManager.Input Ω)) (farmer : Address),
      let state := History.run PolicyManager.apply
        (PolicyManager.constructor admin) inputs
      ShowsInPages
        (fun start limit =>
          (PolicyManager.getFarmerPolicies farmer start limit).answer state)
        (state.farmerPolicyCount farmer)
        (PolicyManager.createdIn admin inputs farmer)) ∧
    (∀ (inputs : List PolicyNft.Input) (distributor : Address),
      let state := History.run PolicyNft.apply (PolicyNft.constructor admin)
        inputs
      ShowsInPages
        (fun start limit =>
          (PolicyNft.getDistributorPolicies distributor start limit).answer
            state)
        (state.distributorCount distributor)
        (PolicyNft.mintedIn admin inputs distributor)) ∧
    ∀ (inputs : List SettlementAdapter.Input) (org : Address),
      let state := SettlementAdapter.run admin inputs
      ShowsInPages
        (fun start limit =>
          (SettlementAdapter.getOrgObligations org start limit).answer state)
        (state.orgObligationCount org)
        (SettlementAdapter.recordedIn admin inputs org) := by
  refine ⟨?_, ?_, ?_⟩
  · intro inputs farmer state
    have maintains := PolicyManager.farmerIndex_run admin inputs
    exact showsInPages maintains farmer
      (PolicyManager.getFarmerPolicies_answer (maintains.lists farmer))
  · intro inputs distributor state
    have maintains := PolicyNft.distributorIndex_run admin inputs
    exact showsInPages maintains distributor
      (PolicyNft.getDistributorPolicies_answer (maintains.lists distributor))
  · intro inputs org state
    have maintains := SettlementAdapter.orgIndex_run admin inputs
    exact showsInPages maintains org
      (SettlementAdapter.getOrgObligations_answer (maintains.lists org))

end Microcrop
