import Microcrop.ObligationLedger

/-!
# The lifecycle of an obligation

An obligation is Owed, then Funded, then Settled; funding may be left out.
Both marks are attestations of a Funder: each is written once, in one step,
and never changes afterwards.
-/

namespace Microcrop

/-- An attestation as an obligation stores it: who made it, when, and for
which payment record. -/
structure Attestation where
  attester : Option Address
  time : Nat
  reference : Option (BytesN 32)
  deriving DecidableEq

namespace Attestation

/-- No field is set. -/
def unset : Attestation :=
  ⟨none, 0, none⟩

/-- All fields are set. -/
def made (who : Address) (time : Nat) (reference : BytesN 32) : Attestation :=
  ⟨some who, time, some reference⟩

/-- The attestation was made, with a reference that is not zero. -/
def IsMade (attestation : Attestation) : Prop :=
  ∃ who time reference, reference ≠ .repeat 32 0 ∧
    attestation = made who time reference

theorem made_ne_unset {who : Address} {time : Nat} {reference : BytesN 32} :
    made who time reference ≠ unset := by
  intro same
  cases same

theorem IsMade.ne_unset {attestation : Attestation}
    (isMade : attestation.IsMade) : attestation ≠ unset := by
  obtain ⟨who, time, reference, -, rfl⟩ := isMade
  exact made_ne_unset

theorem isMade_made {who : Address} {time : Nat} {reference : BytesN 32}
    (nonzero : reference ≠ .repeat 32 0) :
    (made who time reference).IsMade :=
  ⟨who, time, reference, nonzero, rfl⟩

end Attestation

namespace Obligation

def funding (obligation : Obligation) : Attestation where
  attester := obligation.fundedBy
  time := obligation.fundedAt
  reference := obligation.fundingReference

def settlement (obligation : Obligation) : Attestation where
  attester := obligation.settledBy
  time := obligation.settledAt
  reference := obligation.settlementReference

end Obligation

/-- The place of a status in the lifecycle. -/
def ObligationStatus.rank : ObligationStatus → Nat
  | .owed => 0
  | .funded => 1
  | .settled => 2

/-- Which attestations a status admits. -/
def ObligationStatus.Carries (funding settlement : Attestation) :
    ObligationStatus → Prop
  | .owed => funding = .unset ∧ settlement = .unset
  | .funded => funding.IsMade ∧ settlement = .unset
  | .settled => (funding = .unset ∨ funding.IsMade) ∧ settlement.IsMade

namespace Obligation

/-- The marks of an obligation belong to its status and are made in order. -/
structure WellMarked (obligation : Obligation) : Prop where
  carries :
    obligation.status.Carries obligation.funding obligation.settlement
  recorded_funded : obligation.funding.IsMade →
    obligation.recordedAt ≤ obligation.fundedAt
  recorded_settled : obligation.settlement.IsMade →
    obligation.recordedAt ≤ obligation.settledAt
  funded_settled : obligation.funding.IsMade → obligation.settlement.IsMade →
    obligation.fundedAt ≤ obligation.settledAt

/-- Everything about the obligation happened by the time. -/
structure KnownAt (clock : Nat) (obligation : Obligation) : Prop where
  recorded : obligation.recordedAt ≤ clock
  funded : obligation.fundedAt ≤ clock
  settled : obligation.settledAt ≤ clock

theorem KnownAt.mono {obligation : Obligation} {clock later : Nat}
    (known : obligation.KnownAt clock) (clockLe : clock ≤ later) :
    obligation.KnownAt later :=
  ⟨known.recorded.trans clockLe, known.funded.trans clockLe,
    known.settled.trans clockLe⟩

/-- How an obligation may change: its identity and its written marks stay, its
status does not go back, and a Settled obligation is final. -/
structure Evolves (obligation later : Obligation) : Prop where
  continues : obligation.Continues later
  status : obligation.status.rank ≤ later.status.rank
  funding : obligation.funding ≠ .unset → later.funding = obligation.funding
  settlement : obligation.settlement ≠ .unset →
    later.settlement = obligation.settlement
  final : obligation.status = .settled → later = obligation

theorem Evolves.refl (obligation : Obligation) :
    obligation.Evolves obligation :=
  ⟨.refl obligation, Nat.le_refl _, fun _ => rfl, fun _ => rfl, fun _ => rfl⟩

theorem Evolves.trans {obligation middle later : Obligation}
    (first : obligation.Evolves middle) (second : middle.Evolves later) :
    obligation.Evolves later := by
  refine ⟨first.continues.trans second.continues,
    first.status.trans second.status, ?_, ?_, ?_⟩
  · intro set
    have kept := first.funding set
    rw [second.funding (by rwa [kept]), kept]
  · intro set
    have kept := first.settlement set
    rw [second.settlement (by rwa [kept]), kept]
  · intro settled
    have same := first.final settled
    rw [second.final (by rwa [same]), same]

/-- The attestations of an Owed obligation. -/
theorem WellMarked.unset_of_owed {obligation : Obligation}
    (marked : obligation.WellMarked) (owed : obligation.status = .owed) :
    obligation.funding = .unset ∧ obligation.settlement = .unset := by
  have carries := marked.carries
  rw [owed] at carries
  exact carries

/-- An obligation that is not Settled has no settlement. -/
theorem WellMarked.unset_of_unsettled {obligation : Obligation}
    (marked : obligation.WellMarked)
    (unsettled : obligation.status ≠ .settled) :
    (obligation.funding = .unset ∨ obligation.funding.IsMade) ∧
      obligation.settlement = .unset := by
  have carries := marked.carries
  cases status : obligation.status with
  | owed =>
      rw [status] at carries
      exact ⟨Or.inl carries.1, carries.2⟩
  | funded =>
      rw [status] at carries
      exact ⟨Or.inr carries.1, carries.2⟩
  | settled => exact absurd status unsettled

end Obligation

namespace SettlementAdapter

open Transaction

/-! ## The two marks -/

/-- The two marks that a Funder makes. -/
inductive Mark
  | funding
  | settlement
  deriving DecidableEq

namespace Mark

/-- The call that makes the mark. -/
def call : Mark → Address → Nat → BytesN 32 → Call
  | .funding => .markFunded
  | .settlement => .markSettled

/-- The mark as it is stored. -/
def of : Mark → Obligation → Attestation
  | .funding => Obligation.funding
  | .settlement => Obligation.settlement

/-- The obligation with the mark. -/
def write (env : Env) (caller : Address) (referenceHash : BytesN 32) :
    Mark → Obligation → Obligation
  | .funding => fundedObligation env caller referenceHash
  | .settlement => settledObligation env caller referenceHash

/-- The statuses in which the mark can be made. -/
def Admits (status : ObligationStatus) : Mark → Prop
  | .funding => status = .owed
  | .settlement => status ≠ .settled

variable {env : Env} {caller : Address} {referenceHash : BytesN 32}
  {obligation : Obligation} {mark : Mark}

theorem of_write : mark.of (mark.write env caller referenceHash obligation) =
    .made caller env.timestamp referenceHash := by
  cases mark <;> rfl

theorem of_write_of_ne {other : Mark} (different : other ≠ mark) :
    other.of (mark.write env caller referenceHash obligation) =
      other.of obligation := by
  cases mark with
  | funding =>
      cases other with
      | funding => exact absurd rfl different
      | settlement => rfl
  | settlement =>
      cases other with
      | funding => rfl
      | settlement => exact absurd rfl different

variable (marked : obligation.WellMarked) (admits : mark.Admits obligation.status)

include marked admits

theorem of_unset : mark.of obligation = .unset := by
  cases mark with
  | funding => exact (marked.unset_of_owed admits).1
  | settlement => exact (marked.unset_of_unsettled admits).2

theorem evolves_write :
    obligation.Evolves (mark.write env caller referenceHash obligation) := by
  cases mark with
  | funding =>
      have unset := marked.unset_of_owed admits
      have owed : obligation.status = .owed := admits
      have notSettled : obligation.status ≠ .settled := by
        rw [owed]
        exact ObligationStatus.noConfusion
      have lowest : obligation.status.rank ≤ 1 := by
        rw [owed]
        exact Nat.zero_le 1
      exact ⟨rfl, lowest, fun set => absurd unset.1 set, fun _ => rfl,
        fun settled => absurd settled notSettled⟩
  | settlement =>
      have unset := (marked.unset_of_unsettled admits).2
      have highest : obligation.status.rank ≤ 2 := by
        cases obligation.status <;> decide
      exact ⟨rfl, highest, fun _ => rfl, fun set => absurd unset set,
        fun settled => absurd settled admits⟩

theorem wellMarked_write (nonzero : referenceHash ≠ .repeat 32 0)
    (known : obligation.KnownAt env.timestamp) :
    (mark.write env caller referenceHash obligation).WellMarked := by
  cases mark with
  | funding =>
      have unset := (marked.unset_of_owed admits).2
      exact ⟨⟨Attestation.isMade_made nonzero, unset⟩, fun _ => known.recorded,
        fun isMade => absurd unset isMade.ne_unset,
        fun _ isMade => absurd unset isMade.ne_unset⟩
  | settlement =>
      have carries := (marked.unset_of_unsettled admits).1
      exact ⟨⟨carries, Attestation.isMade_made nonzero⟩, marked.recorded_funded,
        fun _ => known.recorded, fun _ _ => known.funded⟩

end Mark

theorem Mark.knownAt_write {env : Env} {caller : Address}
    {referenceHash : BytesN 32} {obligation : Obligation} (mark : Mark)
    (known : obligation.KnownAt env.timestamp) :
    (mark.write env caller referenceHash obligation).KnownAt
      env.timestamp := by
  cases mark with
  | funding => exact ⟨known.recorded, Nat.le_refl _, known.settled⟩
  | settlement => exact ⟨known.recorded, known.funded, Nat.le_refl _⟩

/-! ## One call -/

section Effects

variable {env : Env} {before after : State} {call : Call}

/-- Where a stored obligation comes from. -/
inductive Arises (env : Env) (before : State) (call : Call) (id : Nat)
    (later : Obligation) : Prop
  | kept (stored : before.obligations id = some later)
  | recorded (free : before.obligations id = none)
      (status : later.status = .owed) (funding : later.funding = .unset)
      (settlement : later.settlement = .unset)
      (recordedAt : later.recordedAt = env.timestamp)
  | marked {mark : Mark} {caller : Address} {referenceHash : BytesN 32}
      {obligation : Obligation}
      (called : call = mark.call caller id referenceHash)
      (signed : env.authorized caller = true)
      (nonzero : referenceHash ≠ .repeat 32 0)
      (funder : before.roles .funder caller = true)
      (stored : before.obligations id = some obligation)
      (admits : mark.Admits obligation.status)
      (written : later = mark.write env caller referenceHash obligation)

theorem arises_effect (effect : Effect env before call after)
    (wellFormed : before.WellFormed) {id : Nat} {later : Obligation}
    (stored : after.obligations id = some later) :
    Arises env before call id later := by
  have saved : ∀ {mark : Mark} {caller : Address} {obligationId : Nat}
      {referenceHash : BytesN 32} {obligation : Obligation},
      env.authorized caller = true → referenceHash ≠ .repeat 32 0 →
      before.roles .funder caller = true →
      before.obligations obligationId = some obligation →
      mark.Admits obligation.status →
      call = mark.call caller obligationId referenceHash →
      Function.update before.obligations obligationId
        (some (mark.write env caller referenceHash obligation)) id =
          some later → Arises env before call id later := by
    intro mark caller obligationId referenceHash obligation signed nonzero
      funder storedOld admits called storedLater
    rcases KeyedStore.new_or_stored storedLater with
      ⟨rfl, written⟩ | storedBefore
    · exact .marked called signed nonzero funder storedOld admits written
    · exact .kept storedBefore
  cases effect with
  | bound signed admin other => exact .kept stored
  | granted signed admin => exact .kept stored
  | revoked signed admin => exact .kept stored
  | @recorded caller policyId org amount digest next configured signed
      positive missing counter =>
      rw [State.insertObligation_obligations] at stored
      change Function.update before.obligations next _ id = _ at stored
      rcases KeyedStore.new_or_stored stored with ⟨rfl, rfl⟩ | storedBefore
      · exact .recorded (obligations_next wellFormed counter) rfl rfl rfl rfl
      · exact .kept storedBefore
  | funded signed reference funder storedOld owed =>
      have admits : Mark.Admits _ .funding := owed
      exact saved signed reference funder storedOld admits rfl stored
  | settled signed reference funder storedOld unsettled =>
      have admits : Mark.Admits _ .settlement := unsettled
      exact saved signed reference funder storedOld admits rfl stored
  | repeated => exact .kept stored

/-- A stored obligation is kept or marked. -/
theorem kept_or_marked (effect : Effect env before call after)
    (wellFormed : before.WellFormed) {id : Nat} {obligation : Obligation}
    (stored : before.obligations id = some obligation) :
    after.obligations id = some obligation ∨
      ∃ (mark : Mark) (caller : Address) (referenceHash : BytesN 32),
        mark.Admits obligation.status ∧
          after.obligations id =
            some (mark.write env caller referenceHash obligation) := by
  obtain ⟨later, storedLater, -⟩ :=
    continues_effect effect wellFormed stored
  cases arises_effect effect wellFormed storedLater with
  | kept storedSame =>
      rw [stored] at storedSame
      cases storedSame
      exact Or.inl storedLater
  | recorded free status funding settlement recordedAt =>
      rw [stored] at free
      cases free
  | marked called signed nonzero funder storedOld admits written =>
      rw [stored] at storedOld
      cases storedOld
      rw [written] at storedLater
      exact Or.inr ⟨_, _, _, admits, storedLater⟩

/-- A stored obligation evolves with every call. -/
theorem evolves_effect (effect : Effect env before call after)
    (wellFormed : before.WellFormed) {id : Nat} {obligation : Obligation}
    (stored : before.obligations id = some obligation)
    (marked : obligation.WellMarked) :
    ∃ later, after.obligations id = some later ∧
      obligation.Evolves later := by
  rcases kept_or_marked effect wellFormed stored with
    kept | ⟨mark, caller, referenceHash, admits, written⟩
  · exact ⟨obligation, kept, .refl obligation⟩
  · exact ⟨_, written, Mark.evolves_write marked admits⟩

/-- A new obligation carries no marks. -/
theorem wellMarked_of_recorded {later : Obligation}
    (status : later.status = .owed) (funding : later.funding = .unset)
    (settlement : later.settlement = .unset) : later.WellMarked where
  carries := by
    rw [status]
    exact ⟨funding, settlement⟩
  recorded_funded isMade := absurd funding isMade.ne_unset
  recorded_settled isMade := absurd settlement isMade.ne_unset
  funded_settled isMade := absurd funding isMade.ne_unset

theorem knownAt_of_recorded {later : Obligation} {now : Nat}
    (funding : later.funding = .unset) (settlement : later.settlement = .unset)
    (recordedAt : later.recordedAt = now) : later.KnownAt now := by
  have fundedAt := congrArg Attestation.time funding
  have settledAt := congrArg Attestation.time settlement
  constructor
  · exact recordedAt.le
  · exact fundedAt.trans_le (Nat.zero_le now)
  · exact settledAt.trans_le (Nat.zero_le now)

/-- Every call leaves well marked obligations behind. -/
theorem wellMarked_effect (effect : Effect env before call after)
    (wellFormed : before.WellFormed)
    (marked : ∀ id obligation, before.obligations id = some obligation →
      obligation.WellMarked ∧ obligation.KnownAt env.timestamp)
    {id : Nat} {later : Obligation}
    (stored : after.obligations id = some later) :
    later.WellMarked ∧ later.KnownAt env.timestamp := by
  cases arises_effect effect wellFormed stored with
  | kept storedBefore => exact marked id later storedBefore
  | recorded free status funding settlement recordedAt =>
      exact ⟨wellMarked_of_recorded status funding settlement,
        knownAt_of_recorded funding settlement recordedAt⟩
  | marked called signed nonzero funder storedOld admits written =>
      obtain ⟨wellMarked, known⟩ := marked id _ storedOld
      rw [written]
      exact ⟨Mark.wellMarked_write wellMarked admits nonzero known,
        Mark.knownAt_write _ known⟩

/-- A mark was there before the call, or the call of a Funder makes it. -/
theorem made_effect (effect : Effect env before call after)
    (wellFormed : before.WellFormed)
    (marked : ∀ id obligation, before.obligations id = some obligation →
      obligation.WellMarked ∧ obligation.KnownAt env.timestamp)
    {mark : Mark} {id time : Nat} {later : Obligation} {who : Address}
    {reference : BytesN 32} (stored : after.obligations id = some later)
    (made : mark.of later = .made who time reference) :
    (∃ obligation, before.obligations id = some obligation ∧
      mark.of obligation = .made who time reference) ∨
      (call = mark.call who id reference ∧ time = env.timestamp ∧
        env.authorized who = true ∧ before.roles .funder who = true ∧
          ∃ obligation, before.obligations id = some obligation ∧
            mark.of obligation = .unset) := by
  cases arises_effect effect wellFormed stored with
  | kept storedBefore => exact Or.inl ⟨later, storedBefore, made⟩
  | recorded free status funding settlement recordedAt =>
      cases mark with
      | funding =>
          have unset := made.symm.trans funding
          exact absurd unset Attestation.made_ne_unset
      | settlement =>
          have unset := made.symm.trans settlement
          exact absurd unset Attestation.made_ne_unset
  | @marked written caller referenceHash obligation called signed nonzero
      funder storedOld admits equality =>
      by_cases same : mark = written
      · subst same
        have wellMarked := (marked id obligation storedOld).1
        rw [equality, Mark.of_write] at made
        cases made
        exact Or.inr ⟨called, rfl, signed, funder, obligation, storedOld,
          Mark.of_unset wellMarked admits⟩
      · rw [equality, Mark.of_write_of_ne same] at made
        exact Or.inl ⟨obligation, storedOld, made⟩

end Effects

/-! ## Every run -/

/-- The transition makes the mark on the obligation stored under `id`: a
Funder signed the call, and the mark was unset before. -/
structure Attests (mark : Mark) (id : Nat) (who : Address) (time : Nat)
    (reference : BytesN 32) (transition : Transition State Input) : Prop where
  called : transition.label.call = mark.call who id reference
  at_time : transition.label.time = time
  signed : transition.label.env.authorized who = true
  funder : transition.source.roles .funder who = true
  before : ∃ obligation, transition.source.obligations id = some obligation ∧
    mark.of obligation = .unset
  after : ∃ obligation, transition.target.obligations id = some obligation ∧
    mark.of obligation = .made who time reference

/-- What is known of every stored obligation after the transitions `past`, at
ledger time `clock`. -/
structure Marked (past : List (Transition State Input)) (clock : Nat)
    (ledger : State) : Prop where
  wellFormed : ledger.WellFormed
  marked : ∀ id obligation, ledger.obligations id = some obligation →
    obligation.WellMarked ∧ obligation.KnownAt clock
  attested : ∀ mark id obligation who time reference,
    ledger.obligations id = some obligation →
      Mark.of mark obligation = .made who time reference →
        ∃ transition ∈ past, Attests mark id who time reference transition

theorem marked_constructor (admin : Address) :
    Marked [] 0 (constructor admin) where
  wellFormed := wellFormed_constructor admin
  marked id obligation stored := by cases stored
  attested mark id obligation who time reference stored := by cases stored

theorem Marked.mono {past : List (Transition State Input)} {clock later : Nat}
    {ledger : State} (marked : Marked past clock ledger)
    (clockLe : clock ≤ later) : Marked past later ledger where
  wellFormed := marked.wellFormed
  marked id obligation stored := by
    obtain ⟨wellMarked, known⟩ := marked.marked id obligation stored
    exact ⟨wellMarked, known.mono clockLe⟩
  attested := marked.attested

/-- A mark stays attested when the run goes on. -/
theorem Marked.attested_append {past : List (Transition State Input)}
    {clock : Nat} {ledger : State} (marked : Marked past clock ledger)
    (more : List (Transition State Input)) {mark : Mark} {id time : Nat}
    {obligation : Obligation} {who : Address} {reference : BytesN 32}
    (stored : ledger.obligations id = some obligation)
    (made : mark.of obligation = .made who time reference) :
    ∃ transition ∈ past ++ more,
      Attests mark id who time reference transition := by
  obtain ⟨transition, member, attests⟩ :=
    marked.attested mark id obligation who time reference stored made
  exact ⟨transition, List.mem_append_left more member, attests⟩

theorem Marked.step {past : List (Transition State Input)} {ledger : State}
    (input : Input) (marked : Marked past input.time ledger) :
    Marked (past ++ [History.taken apply ledger input]) input.time
      (apply ledger input) := by
  rcases apply_cases ledger input with ⟨-, same⟩ | ⟨-, commits⟩
  · rw [same]
    exact
      { wellFormed := marked.wellFormed
        marked := marked.marked
        attested := fun _ _ _ _ _ _ stored made =>
          marked.attested_append _ stored made }
  · have effect := exec_effect input.env input.call commits
    have attested : ∀ mark id later who time reference,
        (apply ledger input).obligations id = some later →
          Mark.of mark later = .made who time reference →
            ∃ transition ∈ past ++ [History.taken apply ledger input],
              Attests mark id who time reference transition := by
      intro mark id later who time reference stored made
      rcases made_effect effect marked.wellFormed marked.marked stored made
        with ⟨obligation, storedBefore, madeBefore⟩ |
          ⟨called, now, signed, funder, unset⟩
      · exact marked.attested_append _ storedBefore madeBefore
      · have last : History.taken apply ledger input ∈
            past ++ [History.taken apply ledger input] :=
          List.mem_append_right past (List.mem_singleton.mpr rfl)
        exact ⟨_, last, called, now.symm, signed, funder, unset, later,
          stored, made⟩
    exact
      { wellFormed := wellFormed_effect effect marked.wellFormed
        marked := fun _ _ stored =>
          wellMarked_effect effect marked.wellFormed marked.marked stored
        attested := attested }

theorem marked_run (admin : Address) (inputs : List Input)
    (chronological : History.Chronological Input.time inputs) {now : Nat}
    (past : ∀ input ∈ inputs, input.time ≤ now) :
    Marked (trace admin inputs) now (run admin inputs) :=
  History.chronological_trace_invariant apply (fun _ => True) Marked
    (fun _ _ _ _ clockLe marked => marked.mono clockLe)
    (fun _ _ input _ marked => marked.step input) inputs []
    (marked_constructor admin) chronological (fun _ _ => Nat.zero_le _) past
    (Nat.zero_le _) (fun _ _ => trivial)

/-- Obligations evolve along a run that continues another one. -/
theorem evolves_run {past : List (Transition State Input)} {clock : Nat}
    {ledger : State} (marked : Marked past clock ledger)
    (inputs : List Input)
    (chronological : History.Chronological Input.time inputs)
    (later : ∀ input ∈ inputs, clock ≤ input.time) {id : Nat}
    {obligation : Obligation}
    (stored : ledger.obligations id = some obligation) :
    ∃ changed,
      (History.run apply ledger inputs).obligations id = some changed ∧
        obligation.Evolves changed := by
  refine History.chronological_relation apply (fun _ => True)
    (fun clock ledger => ∃ past, Marked past clock ledger)
    (fun first second => ∀ id obligation,
      first.obligations id = some obligation →
        ∃ changed, second.obligations id = some changed ∧
          obligation.Evolves changed)
    ?_ ?_ ?_ ?_ inputs ⟨past, marked⟩ chronological later
    (fun _ _ => trivial) id obligation stored
  · intro ledger id obligation stored
    exact ⟨obligation, stored, .refl obligation⟩
  · intro first second third before after id obligation stored
    obtain ⟨middle, storedMiddle, evolves⟩ := before id obligation stored
    obtain ⟨changed, storedChanged, further⟩ := after id middle storedMiddle
    exact ⟨changed, storedChanged, evolves.trans further⟩
  · rintro clock now ledger clockLe ⟨past, marked⟩
    exact ⟨past, marked.mono clockLe⟩
  · rintro ledger input - ⟨past, marked⟩
    refine ⟨⟨_, marked.step input⟩, ?_⟩
    intro id obligation stored
    rcases apply_cases ledger input with ⟨-, same⟩ | ⟨-, commits⟩
    · rw [same]
      exact ⟨obligation, stored, .refl obligation⟩
    · exact evolves_effect (exec_effect input.env input.call commits)
        marked.wellFormed stored (marked.marked id obligation stored).1

/-- The history of the obligations of an adapter: how each one changes along
the run, what its marks look like at the end, and which step of the run made
them. -/
structure Lifecycle (admin : Address) (inputs : List Input) : Prop where
  evolves : ∀ earlier later, inputs = earlier ++ later →
    ∀ id obligation, (run admin earlier).obligations id = some obligation →
      ∃ changed, (run admin inputs).obligations id = some changed ∧
        obligation.Evolves changed
  marked : ∀ id obligation,
    (run admin inputs).obligations id = some obligation →
      obligation.WellMarked
  attested : ∀ mark id obligation who time reference,
    (run admin inputs).obligations id = some obligation →
      Mark.of mark obligation = .made who time reference →
        ∃ transition ∈ trace admin inputs,
          Attests mark id who time reference transition

/-- Along every run in which ledger time does not decrease, obligations keep
their identity and their marks, move forward only, and carry the marks of
Funders in order. -/
theorem obligationLifecycle (admin : Address) (inputs : List Input)
    (chronological : History.Chronological Input.time inputs) :
    Lifecycle admin inputs := by
  have final := marked_run admin inputs chronological
    (fun input _ => input.env.timestamp_lt.le)
  refine
    { evolves := ?_
      marked := fun id obligation stored =>
        (final.marked id obligation stored).1
      attested := final.attested }
  rintro earlier later rfl id obligation stored
  obtain ⟨first, second, between⟩ := List.pairwise_append.mp chronological
  cases later with
  | nil =>
      rw [List.append_nil]
      exact ⟨obligation, stored, .refl obligation⟩
  | cons next rest =>
      have middle := marked_run admin earlier first
        (fun input member => between input member next (by simp))
      have evolves := evolves_run middle (next :: rest) second ?_ stored
      · unfold run
        rw [History.run_append]
        exact evolves
      · intro input member
        rcases List.mem_cons.mp member with rfl | inRest
        · exact Nat.le_refl _
        · exact (List.pairwise_cons.mp second).1 input inRest

/-! ## A worked ledger -/

/-- An account or contract of the worked ledger. -/
def ledgerAddress (byte : UInt8) : Address :=
  .account (.repeat 32 byte)

/-- A call that one address authorized. -/
def signedInput (signer : Address) (timestamp : Nat) (call : Call)
    (timestamp_lt : timestamp < 2 ^ 64 := by decide) : Input where
  env :=
    { timestamp, timestamp_lt
      currentContract := .contract (.repeat 32 9)
      authorized := fun address => address = signer }
  call := call

/-- An obligation is recorded, funded and settled. -/
def ledgerInputs : List Input :=
  [signedInput (ledgerAddress 1) 100
      (.setPayoutReceiver (ledgerAddress 1) (ledgerAddress 2)),
    signedInput (ledgerAddress 1) 100
      (.grantRole (ledgerAddress 1) .funder (ledgerAddress 3)),
    signedInput (ledgerAddress 2) 200
      (.recordObligation (ledgerAddress 2) 7 (ledgerAddress 4) 5000
        (.repeat 32 5)),
    signedInput (ledgerAddress 3) 300
      (.markFunded (ledgerAddress 3) 1 (.repeat 32 6)),
    signedInput (ledgerAddress 3) 400
      (.markSettled (ledgerAddress 3) 1 (.repeat 32 8))]

theorem obligationLifecycle_ledger :
    ((run (ledgerAddress 1) ledgerInputs).obligations 1).map
        Obligation.status = some .settled ∧
      Lifecycle (ledgerAddress 1) ledgerInputs :=
  ⟨by decide +kernel,
    obligationLifecycle (ledgerAddress 1) ledgerInputs (by decide)⟩

end SettlementAdapter

end Microcrop
