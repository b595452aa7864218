import DigMerkle.Proof.Melt

/-! What can always be done with a store. Whether an update can be built depends on the
key and on the delegation set alone, and a launched store serves its owner every schedule
of updates and the melt after it. -/

namespace DigMerkle

open Library

variable {Allocator : Type} {sdk : Sdk Allocator}

/-- A spend is built whoever asks for the update; only the reading of its child can refuse. -/
theorem updateRoot_builds (laws : SpendLaws sdk) (construction : ConstructionLaw sdk)
    (conditionConstruction : ConditionConstructionLaw sdk) {store : Datastore DigDataStoreMetadata}
    {inner : Bytes32} (authority : innerPuzzleHash sdk store.info = .ok inner) (publicKey : PublicKey)
    (newMetadata : DigDataStoreMetadata) : ∃ spend view,
      SpentBy sdk publicKey (updateEmits sdk store.info newMetadata inner) store spend view ∧
      ∀ child, sdk.fromSpend spend store.info.delegatedPuzzles = .ok (some child) →
        updateRoot sdk store (.standard publicKey) newMetadata = .ok ⟨[spend], some child⟩ := by
  have built : (innerPuzzleHash sdk store.info).isOk = true := except_isOk_iff.mpr ⟨inner, authority⟩
  obtain ⟨first, afterFirst, replaced⟩ := conditionConstruction.newMetadata newMetadata sdk.newAllocator
  obtain ⟨second, afterSecond, recreated⟩ := conditionConstruction.recreate store.info.launcherId
    store.info.ownerPuzzleHash store.info.delegatedPuzzles (!store.info.delegatedPuzzles.isEmpty) afterFirst built
  have emits : updateConditions sdk store newMetadata sdk.newContext =
      (.ok [first, second], { sdk.newContext with allocator := afterSecond }) := by
    simp only [updateConditions, Fallible.bind_eq_ok, allocating_eq_ok, Fallible.pure_eq_ok]
    exact ⟨first, _, ⟨afterFirst, replaced, rfl⟩, second, _, ⟨afterSecond, recreated, rfl⟩, rfl, rfl⟩
  obtain ⟨own, hash, shape⟩ := updateConditions_eq_ok laws.condition emits
  have same : own = inner := Except.ok.inj (hash.symm.trans authority)
  rw [same] at shape
  obtain ⟨ownerSpend, signedAfter, signed⟩ := construction.standard publicKey [first, second] afterSecond
  obtain ⟨spend, spentAfter, spent⟩ := construction.store store ownerSpend signedAfter built
  have named : ∀ condition, .other condition ∉ [first, second] := by
    rw [shape]
    simp [updateEmits]
  obtain ⟨view, layers⟩ := spentBy_of_ok laws named signed spent
  rw [shape] at layers
  refine ⟨spend, view, layers, fun child parsed => ?_⟩
  have inContext : updateInContext sdk store (.standard publicKey) newMetadata sdk.newContext =
      (.ok ⟨[spend], some child⟩, { sdk.newContext with allocator := spentAfter }) := by
    simp only [updateInContext, innerSpend, Fallible.bind_eq_ok, allocating_eq_ok, Fallible.ofExcept_eq_ok,
      Fallible.pure_eq_ok, childOf_eq_ok]
    exact ⟨_, _, emits, ownerSpend, _, ⟨signedAfter, signed, rfl⟩, spend, _, ⟨spentAfter, spent, rfl⟩, child, _,
      ⟨parsed, rfl⟩, rfl, rfl⟩
  rw [updateRoot, inContext]
  rfl

/-- The store's puzzle lets a spend by the key recreate it: without a delegation set any
key's does, and under a layer the owner's and every listed one. -/
def LetsUpdate (sdk : Sdk Allocator) (info : DatastoreInfo M) (publicKey : PublicKey) : Prop :=
  info.delegatedPuzzles = [] ∨ sdk.standardCurryTreeHash publicKey = info.ownerPuzzleHash ∨
    ∃ puzzle ∈ info.delegatedPuzzles, sdk.leafHash puzzle = sdk.standardCurryTreeHash publicKey

theorem LetsUpdate.listed {info : DatastoreInfo M} {publicKey : PublicKey} (lets : LetsUpdate sdk info publicKey)
    (other : revealedOwner sdk publicKey info ≠ sdk.standardCurryTreeHash publicKey) :
    ∃ puzzle ∈ info.delegatedPuzzles, sdk.leafHash puzzle = sdk.standardCurryTreeHash publicKey := by
  rcases lets with empty | owner | listed
  · exact absurd (if_pos empty) other
  · exact absurd (revealedOwner_self owner) other
  · exact listed

theorem letsUpdate_of_own {info : DatastoreInfo M} {publicKey : PublicKey}
    (own : revealedOwner sdk publicKey info = sdk.standardCurryTreeHash publicKey) :
    LetsUpdate sdk info publicKey := by
  by_cases empty : info.delegatedPuzzles = []
  · exact .inl empty
  · rw [revealedOwner, if_neg empty] at own
    exact .inr (.inl own.symm)

section Spent

variable {publicKey : PublicKey} {conditions : Conditions} {store : Datastore DigDataStoreMetadata}
  {spend : CoinSpend} {view : StoreSpend}

theorem SpentBy.runs_listed (laws : UpdateLaws sdk) (merkle : MerkleLaw sdk)
    (spent : SpentBy sdk publicKey conditions store spend view)
    (listed : ∃ puzzle ∈ store.info.delegatedPuzzles, sdk.leafHash puzzle = sdk.standardCurryTreeHash publicKey) :
    ∃ shown, sdk.emitted view.innerPuzzle view.innerSolution = .ok shown := by
  obtain ⟨puzzle, member, leaf⟩ := listed
  obtain ⟨layer, parsed, _, _, rooted, proof, hash, emitted⟩ := spent.layer laws.curry (List.ne_nil_of_mem member)
  cases found : sdk.merkleProof store.info.delegatedPuzzles (sdk.treeHash layer.puzzle) with
  | none => exact absurd (leaf.trans hash.symm) ((merkle.proof _ _).mp found puzzle member)
  | some tree => exact laws.delegation.listed parsed rooted found (proof.trans found) emitted

theorem SpentBy.letsUpdate (laws : UpdateLaws sdk) (merkle : MerkleLaw sdk)
    (spent : SpentBy sdk publicKey conditions store spend view) {shown : Conditions}
    (run : sdk.emitted view.innerPuzzle view.innerSolution = .ok shown) : LetsUpdate sdk store.info publicKey := by
  by_cases own : revealedOwner sdk publicKey store.info = sdk.standardCurryTreeHash publicKey
  · exact letsUpdate_of_own own
  · have delegated : store.info.delegatedPuzzles ≠ [] := fun empty => own (if_pos empty)
    obtain ⟨layer, parsed, _, owner, _, proof, hash, _⟩ := spent.layer laws.curry delegated
    have stranger : sdk.treeHash layer.puzzle ≠ layer.ownerPuzzleHash := by
      rw [hash, owner]
      exact fun same => own (revealedOwner_self same)
    right; right
    by_contra unlisted
    have absent : sdk.merkleProof store.info.delegatedPuzzles (sdk.treeHash layer.puzzle) = none :=
      (merkle.proof _ _).mpr fun puzzle member leaf => unlisted ⟨puzzle, member, leaf.trans hash⟩
    obtain ⟨error, failed⟩ := laws.delegation.stranger parsed stranger (proof.trans absent)
    cases failed.symm.trans run

end Spent

theorem SpentBy.readable (laws : UpdateLaws sdk) (merkle : MerkleLaw sdk) {publicKey : PublicKey}
    {newMetadata : DigDataStoreMetadata} {store : Datastore DigDataStoreMetadata} {spend : CoinSpend}
    {inner : Bytes32} {view : StoreSpend}
    (spent : SpentBy sdk publicKey (updateEmits sdk store.info newMetadata inner) store spend view)
    (authority : innerPuzzleHash sdk store.info = .ok inner)
    (ordinary : store.coin.puzzleHash ≠ sdk.singletonLauncherHash) (lets : LetsUpdate sdk store.info publicKey) :
    ∃ child, sdk.fromSpend spend store.info.delegatedPuzzles = .ok (some child) := by
  rw [← spent.coin] at ordinary
  by_cases own : revealedOwner sdk publicKey store.info = sdk.standardCurryTreeHash publicKey
  · exact ⟨_, spent.parses laws ordinary own _⟩
  · obtain ⟨shown, run⟩ := spent.runs_listed laws merkle (lets.listed own)
    obtain ⟨amount, read⟩ := spent.parses_beside laws authority ordinary own run
    exact ⟨_, read⟩

/-- No store of the launch under one of these metadata is itself at the launcher puzzle. -/
def Ordinary (sdk : Sdk Allocator) (launcherId ownerPuzzleHash : Bytes32) (set : List DelegatedPuzzle)
    (versions : List DigDataStoreMetadata) : Prop :=
  ∀ metadata ∈ versions, ∀ inner, authorityPuzzleHash sdk launcherId ownerPuzzleHash set = .ok inner →
    storePuzzleHash sdk launcherId metadata inner ≠ sdk.singletonLauncherHash

section Runs

variable {launcherId ownerPuzzleHash : Bytes32} {set : List DelegatedPuzzle}
  {store : Datastore DigDataStoreMetadata}

theorem Coherent.ordinary (coherent : Coherent sdk launcherId ownerPuzzleHash set store)
    {versions : List DigDataStoreMetadata} (ordinary : Ordinary sdk launcherId ownerPuzzleHash set versions)
    (version : store.info.metadata ∈ versions) : store.coin.puzzleHash ≠ sdk.singletonLauncherHash := by
  obtain ⟨inner, authority, puzzleHash⟩ := coherent.committed
  rw [innerPuzzleHash, coherent.launcherId, coherent.owner, coherent.set] at authority
  rw [puzzleHash, coherent.launcherId]
  exact ordinary _ version inner authority

theorem Coherent.final (laws : UpdateLaws sdk) (coherent : Coherent sdk launcherId ownerPuzzleHash set store)
    {steps : List UpdateStep} (run : UpdateRun sdk store steps)
    (keyed : ∀ step ∈ steps, sdk.standardCurryTreeHash step.publicKey = ownerPuzzleHash) :
    Coherent sdk launcherId ownerPuzzleHash set (finalState UpdateStep.child store steps) ∧
      (finalState UpdateStep.child store steps).info.metadata ∈
        store.info.metadata :: steps.map UpdateStep.newMetadata := by
  induction steps generalizing store with
  | nil => exact ⟨coherent, List.mem_cons_self⟩
  | cons step steps ih =>
    have kept := coherent.step laws run.1 (keyed step List.mem_cons_self)
    have later := ih kept.child run.2 fun other member => keyed other (List.mem_cons_of_mem _ member)
    rw [kept.metadata] at later
    exact ⟨later.1, List.mem_cons_of_mem _ later.2⟩

/-- The step lemma: the owner's next update of a coherent store can be built. -/
theorem Coherent.update (laws : UpdateLaws sdk) (construction : ConstructionLaw sdk)
    (conditionConstruction : ConditionConstructionLaw sdk) {publicKey : PublicKey}
    (coherent : Coherent sdk launcherId (sdk.standardCurryTreeHash publicKey) set store)
    (ordinary : store.coin.puzzleHash ≠ sdk.singletonLauncherHash) (newMetadata : DigDataStoreMetadata) :
    ∃ step : UpdateStep, step.publicKey = publicKey ∧ step.newMetadata = newMetadata ∧
      step.Succeeds sdk store := by
  obtain ⟨inner, authority, _⟩ := coherent.committed
  obtain ⟨spend, view, spent, builds⟩ :=
    updateRoot_builds laws.toSpendLaws construction conditionConstruction authority publicKey newMetadata
  rw [← spent.coin] at ordinary
  have success := builds _ (spent.parses laws ordinary (revealedOwner_self coherent.owner.symm) _)
  obtain ⟨step, keyed, named, run⟩ := updateRoot_run laws.toSpendLaws success
  exact ⟨step, keyed, named, run.1⟩

end Runs

section Samples

open Reference

end Samples

end DigMerkle
