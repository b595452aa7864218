import DigMerkle.Proof.Launch
import DigMerkle.Proof.Update

/-! A store from its launch through any number of updates by its owner's key. -/

namespace DigMerkle

open Library

variable {Allocator : Type} {sdk : Sdk Allocator}

/-- One update by a key and what it returned. -/
structure UpdateStep where
  publicKey : PublicKey
  newMetadata : DigDataStoreMetadata
  coinSpends : List CoinSpend
  child : Datastore DigDataStoreMetadata

/-- The step is what updating `store` returns. -/
def UpdateStep.Succeeds (sdk : Sdk Allocator) (store : Datastore DigDataStoreMetadata) (step : UpdateStep) : Prop :=
  updateRoot sdk store (.standard step.publicKey) step.newMetadata = .ok ⟨step.coinSpends, some step.child⟩

/-- Successful updates, each applied to the child of the one before. -/
def UpdateRun (sdk : Sdk Allocator) : Datastore DigDataStoreMetadata → List UpdateStep → Prop :=
  EachStep UpdateStep.child (UpdateStep.Succeeds sdk)

theorem UpdateStep.Succeeds.updated (laws : SpendLaws sdk) {store : Datastore DigDataStoreMetadata}
    {step : UpdateStep} (success : step.Succeeds sdk store) :
    ∃ spend inner view, step.coinSpends = [spend] ∧
      Updated sdk step.publicKey step.newMetadata store spend step.child inner view := by
  obtain ⟨spend, child, inner, view, same, updated⟩ := updateRoot_eq_ok laws success
  obtain ⟨spends, sameChild⟩ := MerkleCoinSpend.mk.inj same
  cases sameChild
  exact ⟨spend, inner, view, spends, updated⟩

theorem updateRoot_run (laws : SpendLaws sdk) {store : Datastore DigDataStoreMetadata} {publicKey : PublicKey}
    {newMetadata : DigDataStoreMetadata} {built : MerkleCoinSpend}
    (success : updateRoot sdk store (.standard publicKey) newMetadata = .ok built) :
    ∃ step, step.publicKey = publicKey ∧ step.newMetadata = newMetadata ∧ UpdateRun sdk store [step] := by
  obtain ⟨spend, child, _, _, rfl, _⟩ := updateRoot_eq_ok laws success
  exact ⟨⟨publicKey, newMetadata, [spend], child⟩, rfl, rfl, success, trivial⟩

/-- The coin is the singleton over the state layer over the authority that the
record names. -/
def CommitsTo (sdk : Sdk Allocator) (store : Datastore DigDataStoreMetadata) : Prop :=
  ∃ inner, innerPuzzleHash sdk store.info = .ok inner ∧
    store.coin.puzzleHash = storePuzzleHash sdk store.info.launcherId store.info.metadata inner

instance (sdk : Sdk Allocator) : DecidablePred (CommitsTo sdk) := fun store =>
  match authority : innerPuzzleHash sdk store.info with
  | .ok inner =>
    decidable_of_iff
      (store.coin.puzzleHash = storePuzzleHash sdk store.info.launcherId store.info.metadata inner)
      (by simp [CommitsTo, authority])
  | .error _ => .isFalse (by simp [CommitsTo, authority])

theorem revealedOwner_eq {publicKey : PublicKey} {info : DatastoreInfo M}
    (key : sdk.standardCurryTreeHash publicKey = info.ownerPuzzleHash) :
    revealedOwner sdk publicKey info = info.ownerPuzzleHash := by
  rw [revealedOwner, key, ite_self]

theorem revealedOwner_self {publicKey : PublicKey} {info : DatastoreInfo M}
    (key : sdk.standardCurryTreeHash publicKey = info.ownerPuzzleHash) :
    revealedOwner sdk publicKey info = sdk.standardCurryTreeHash publicKey :=
  (revealedOwner_eq key).trans key.symm

theorem SpentBy.reveals (curry : CurryLaw sdk) {publicKey : PublicKey} {conditions : Conditions}
    {store : Datastore DigDataStoreMetadata} {spend : CoinSpend} {view : StoreSpend}
    (spent : SpentBy sdk publicKey conditions store spend view) (committed : CommitsTo sdk store)
    (owner : revealedOwner sdk publicKey store.info = store.info.ownerPuzzleHash) :
    ∃ puzzle, Reveals sdk spend puzzle := by
  obtain ⟨inner, authority, puzzleHash⟩ := committed
  obtain ⟨puzzle, reveal, hash⟩ := spent.reveal_hash curry
  exact ⟨puzzle, reveal, by rw [hash, spent.coin, puzzleHash, spent.inner_eq curry owner authority]⟩

/-- The record keeps the launch's identity, and its coin is odd and commits to it. -/
structure Coherent (sdk : Sdk Allocator) (launcherId ownerPuzzleHash : Bytes32) (set : List DelegatedPuzzle)
    (store : Datastore DigDataStoreMetadata) : Prop where
  launcherId : store.info.launcherId = launcherId
  owner : store.info.ownerPuzzleHash = ownerPuzzleHash
  set : store.info.delegatedPuzzles = set
  odd : store.coin.amount % 2 = 1
  committed : CommitsTo sdk store

/-- What an update of a coherent store leaves behind. -/
structure CoherentStep (sdk : Sdk Allocator) (launcherId ownerPuzzleHash : Bytes32)
    (set : List DelegatedPuzzle) (store : Datastore DigDataStoreMetadata) (step : UpdateStep) : Prop where
  child : Coherent sdk launcherId ownerPuzzleHash set step.child
  metadata : step.child.info.metadata = step.newMetadata
  parent : step.child.coin.parentCoinInfo = sdk.coinId store.coin
  revealed : ∃ spend, step.coinSpends = [spend] ∧ spend.coin = store.coin ∧ ∃ puzzle, Reveals sdk spend puzzle

/-- The step lemma: an update by the owner's key keeps a store coherent. -/
theorem Coherent.step (laws : UpdateLaws sdk) {launcherId ownerPuzzleHash : Bytes32}
    {set : List DelegatedPuzzle} {store : Datastore DigDataStoreMetadata} {step : UpdateStep}
    (coherent : Coherent sdk launcherId ownerPuzzleHash set store) (success : step.Succeeds sdk store)
    (key : sdk.standardCurryTreeHash step.publicKey = ownerPuzzleHash) :
    CoherentStep sdk launcherId ownerPuzzleHash set store step := by
  obtain ⟨spend, inner, view, spends, updated⟩ := success.updated laws.toSpendLaws
  have recorded : sdk.standardCurryTreeHash step.publicKey = store.info.ownerPuzzleHash :=
    key.trans coherent.owner.symm
  have child := updated.child_eq laws (revealedOwner_self recorded)
  have owner := revealedOwner_eq recorded
  have kept : Coherent sdk launcherId ownerPuzzleHash set step.child := by
    rw [child]
    refine ⟨coherent.launcherId, owner.trans coherent.owner, coherent.set, laws.condition.amount_odd, inner, ?_, rfl⟩
    have authority := updated.authority
    rwa [innerPuzzleHash, ← owner] at authority
  refine ⟨kept, by rw [child]; rfl, by rw [child]; rfl, ?_⟩
  exact ⟨spend, spends, updated.coin, updated.toSpentBy.reveals laws.curry coherent.committed owner⟩

/-- The run lemma: every step of a run by the owner's key starts from and leads to
a coherent store. -/
theorem Coherent.run (laws : UpdateLaws sdk) {launcherId ownerPuzzleHash : Bytes32}
    {set : List DelegatedPuzzle} {store : Datastore DigDataStoreMetadata} {steps : List UpdateStep}
    (coherent : Coherent sdk launcherId ownerPuzzleHash set store) (run : UpdateRun sdk store steps)
    (keyed : ∀ step ∈ steps, sdk.standardCurryTreeHash step.publicKey = ownerPuzzleHash) :
    EachStep UpdateStep.child (CoherentStep sdk launcherId ownerPuzzleHash set) store steps :=
  .carry (Coherent sdk launcherId ownerPuzzleHash set) (fun _ _ coherent ⟨success, key⟩ =>
    have kept := coherent.step laws success key
    ⟨kept.child, kept⟩) coherent (run.and (eachStep_iff_forall.mpr keyed))

/-- The store a launch mints is coherent. -/
theorem Launched.coherent (mint : MintLaw sdk) {kind : StoreKind} {launcher : Launcher}
    {metadata : DigDataStoreMetadata} {ownerPuzzleHash : Bytes32} {set : List DelegatedPuzzle}
    {ctx after : SpendContext Allocator} {launch : DatastoreLaunch}
    (launched : Launched sdk kind launcher metadata ownerPuzzleHash set ctx launch after) :
    Coherent sdk (sdk.coinId launcher.coin) ownerPuzzleHash set launch.datastore ∧
      launch.datastore.info.metadata = metadata ∧
      launch.datastore.coin.parentCoinInfo = sdk.coinId launcher.coin := by
  obtain ⟨conditions, staged, minted, _⟩ := launched.minted
  obtain ⟨inner, authority, store, _⟩ := mint.store minted
  have record : launch.datastore = _ := store
  rw [record]
  refine ⟨⟨rfl, rfl, rfl, ?_, inner, authority, rfl⟩, rfl, rfl⟩
  have odd : launcher.singletonAmount % 2 ≠ 0 := launched.odd
  have parity : launcher.singletonAmount % 2 = 0 ∨ launcher.singletonAmount % 2 = 1 := by grind
  exact parity.resolve_left odd

section Samples

open Reference

def delegates : List DelegatedPuzzle := [.writer (hash32 6), .oracle (hash32 7) 1000]

def updatedMetadata : DigDataStoreMetadata := .rootHashOnly (hash32 91)

end Samples

end DigMerkle
