import DigMerkle.Library.Run
import DigMerkle.Reference.Laws

/-! What a successful update builds, and the child that is read back from it. -/

namespace DigMerkle

open Library

variable {Allocator : Type} {sdk : Sdk Allocator}

/-- The layers of a store's spend around a standard puzzle that emits `conditions`. -/
structure SpentBy (sdk : Sdk Allocator) (publicKey : PublicKey) (conditions : Conditions)
    (store : Datastore DigDataStoreMetadata) (spend : CoinSpend) (view : StoreSpend) : Prop where
  coin : spend.coin = store.coin
  shape : IsStoreSpend sdk spend view
  launcherId : view.launcherId = store.info.launcherId
  metadata : view.metadata = store.info.metadata.toClvm
  updater : view.metadataUpdaterPuzzleHash = sdk.dlMetadataUpdaterPuzzleHash
  signed : ∃ inner : Spend, InnerLayers sdk store.info inner view ∧
    inner.puzzle = sdk.standardPuzzle publicKey ∧
    sdk.emitted inner.puzzle inner.solution = .ok (.aggSigMe publicKey :: conditions)

theorem spentBy_of_ok (laws : SpendLaws sdk) {publicKey : PublicKey} {conditions : Conditions}
    {store : Datastore DigDataStoreMetadata} {inner : Spend} {spend : CoinSpend}
    {before middle allocator after : Allocator} (named : ∀ condition, .other condition ∉ conditions)
    (signed : sdk.standardSpendWithConditions publicKey conditions before = (.ok inner, middle))
    (built : sdk.datastoreSpend store inner allocator = (.ok spend, after)) :
    ∃ view, SpentBy sdk publicKey conditions store spend view := by
  obtain ⟨coin, view, shape, launcherId, metadata, updater, layers⟩ := laws.storeSpend.spent built
  exact ⟨view, coin, shape, launcherId, metadata, updater, inner, layers, laws.standard.reveals signed,
    laws.standard.emits signed named⟩

/-- The owner that a spend by a key reveals: with a delegation set the recorded
owner, and without one the key itself. -/
def revealedOwner (sdk : Sdk Allocator) (publicKey : PublicKey) (info : DatastoreInfo M) : Bytes32 :=
  if info.delegatedPuzzles = [] then sdk.standardCurryTreeHash publicKey else info.ownerPuzzleHash

theorem SpentBy.inner_hash (curry : CurryLaw sdk) {publicKey : PublicKey} {conditions : Conditions}
    {store : Datastore DigDataStoreMetadata} {spend : CoinSpend} {view : StoreSpend}
    (spent : SpentBy sdk publicKey conditions store spend view) :
    authorityPuzzleHash sdk store.info.launcherId (revealedOwner sdk publicKey store.info)
      store.info.delegatedPuzzles = .ok (sdk.treeHash view.innerPuzzle) := by
  obtain ⟨inner, ⟨bare, layered⟩, standard, _⟩ := spent.signed
  by_cases empty : store.info.delegatedPuzzles = []
  · have revealed := (bare empty).1
    simp [authorityPuzzleHash, revealedOwner, empty, revealed, standard, curry.standard]
  · obtain ⟨root, rooted, parsed⟩ := layered empty
    have hash := curry.delegation parsed
    simp [authorityPuzzleHash, revealedOwner, empty, rooted, hash, bind, Except.bind, pure, Except.pure]

theorem SpentBy.inner_eq (curry : CurryLaw sdk) {publicKey : PublicKey} {conditions : Conditions}
    {store : Datastore DigDataStoreMetadata} {spend : CoinSpend} {view : StoreSpend} {inner : Bytes32}
    (spent : SpentBy sdk publicKey conditions store spend view)
    (owner : revealedOwner sdk publicKey store.info = store.info.ownerPuzzleHash)
    (authority : innerPuzzleHash sdk store.info = .ok inner) : sdk.treeHash view.innerPuzzle = inner := by
  have revealed := spent.inner_hash curry
  rw [owner] at revealed
  exact Except.ok.inj (revealed.symm.trans authority)

theorem SpentBy.reveal_hash (curry : CurryLaw sdk) {publicKey : PublicKey} {conditions : Conditions}
    {store : Datastore DigDataStoreMetadata} {spend : CoinSpend} {view : StoreSpend}
    (spent : SpentBy sdk publicKey conditions store spend view) :
    ∃ puzzle, sdk.programToClvm spend.puzzleReveal = .ok puzzle ∧ sdk.treeHash puzzle =
      storePuzzleHash sdk store.info.launcherId store.info.metadata (sdk.treeHash view.innerPuzzle) := by
  obtain ⟨puzzle, reveal, solution, _, parsed⟩ := spent.shape
  refine ⟨puzzle, reveal, ?_⟩
  rw [curry.store parsed, StoreSpend.stateLayerHash, spent.launcherId, spent.metadata, spent.updater,
    storePuzzleHash, layeredPuzzleHash]

theorem SpentBy.not_launcher (fromSpend : FromSpendLaw sdk) {publicKey : PublicKey} {conditions : Conditions}
    {store child : Datastore DigDataStoreMetadata} {spend : CoinSpend} {view : StoreSpend}
    {set : List DelegatedPuzzle} (spent : SpentBy sdk publicKey conditions store spend view)
    (parsed : sdk.fromSpend spend set = .ok (some child)) :
    spend.coin.puzzleHash ≠ sdk.singletonLauncherHash := by
  intro launcher
  obtain ⟨error, failed⟩ := fromSpend.misplaced set launcher spent.shape
  rw [failed] at parsed
  cases parsed

theorem SpentBy.runs (fromSpend : FromSpendLaw sdk) {publicKey : PublicKey} {conditions : Conditions}
    {store child : Datastore DigDataStoreMetadata} {spend : CoinSpend} {view : StoreSpend}
    {set : List DelegatedPuzzle} (spent : SpentBy sdk publicKey conditions store spend view)
    (parsed : sdk.fromSpend spend set = .ok (some child)) :
    ∃ emitted, sdk.emitted view.innerPuzzle view.innerSolution = .ok emitted := by
  cases run : sdk.emitted view.innerPuzzle view.innerSolution with
  | ok emitted => exact ⟨emitted, rfl⟩
  | error error =>
    obtain ⟨_, failed⟩ := fromSpend.stuck set (spent.not_launcher fromSpend parsed) spent.shape run
    rw [failed] at parsed
    cases parsed

/-- A key whose puzzle stands where the spend reveals the owner has its conditions emitted
as they are, whether or not the set lists it. -/
theorem SpentBy.emits (curry : CurryLaw sdk) (delegation : DelegationLaw sdk) {publicKey : PublicKey}
    {conditions : Conditions} {store : Datastore DigDataStoreMetadata} {spend : CoinSpend} {view : StoreSpend}
    (spent : SpentBy sdk publicKey conditions store spend view)
    (own : revealedOwner sdk publicKey store.info = sdk.standardCurryTreeHash publicKey) :
    sdk.emitted view.innerPuzzle view.innerSolution = .ok (.aggSigMe publicKey :: conditions) := by
  obtain ⟨inner, ⟨bare, layered⟩, standard, emitted⟩ := spent.signed
  by_cases empty : store.info.delegatedPuzzles = []
  · obtain ⟨puzzle, solution⟩ := bare empty
    rw [puzzle, solution, emitted]
  · obtain ⟨root, _, layer⟩ := layered empty
    rw [revealedOwner, if_neg empty] at own
    have owner : sdk.treeHash inner.puzzle = store.info.ownerPuzzleHash := by
      rw [standard, curry.standard, own]
    exact (delegation.owner layer owner _).mpr emitted

theorem SpentBy.layer (curry : CurryLaw sdk) {publicKey : PublicKey} {conditions : Conditions}
    {store : Datastore DigDataStoreMetadata} {spend : CoinSpend} {view : StoreSpend}
    (spent : SpentBy sdk publicKey conditions store spend view)
    (delegated : store.info.delegatedPuzzles ≠ []) : ∃ layer,
      sdk.delegationSpend view.innerPuzzle view.innerSolution = some layer ∧
      layer.launcherId = store.info.launcherId ∧ layer.ownerPuzzleHash = store.info.ownerPuzzleHash ∧
      sdk.merkleRoot store.info.delegatedPuzzles = .ok layer.merkleRoot ∧
      layer.merkleProof = sdk.merkleProof store.info.delegatedPuzzles (sdk.treeHash layer.puzzle) ∧
      sdk.treeHash layer.puzzle = sdk.standardCurryTreeHash publicKey ∧
      sdk.emitted layer.puzzle layer.solution = .ok (.aggSigMe publicKey :: conditions) := by
  obtain ⟨inner, ⟨_, layered⟩, standard, emitted⟩ := spent.signed
  obtain ⟨root, rooted, layer⟩ := layered delegated
  exact ⟨_, layer, rfl, rfl, rooted, rfl, by rw [standard, curry.standard], emitted⟩

/-- The recreation that a layer emits of itself beside a listed puzzle's conditions. -/
def layerRecreation (sdk : Sdk Allocator) (info : DatastoreInfo M) (view : StoreSpend) (amount : UInt64) :
    CreateCoin :=
  ⟨sdk.treeHash view.innerPuzzle, amount, memosOf [info.launcherId.bytes]⟩

/-- Any other key's conditions come out beside the layer's own recreation, if at all. -/
theorem SpentBy.emits_beside (curry : CurryLaw sdk) (delegation : DelegationLaw sdk) {publicKey : PublicKey}
    {conditions shown : Conditions} {store : Datastore DigDataStoreMetadata} {spend : CoinSpend} {view : StoreSpend}
    (spent : SpentBy sdk publicKey conditions store spend view)
    (other : revealedOwner sdk publicKey store.info ≠ sdk.standardCurryTreeHash publicKey)
    (run : sdk.emitted view.innerPuzzle view.innerSolution = .ok shown) :
    store.info.delegatedPuzzles ≠ [] ∧ ∃ amount, amount % 2 = 1 ∧
      shown.Perm (.createCoin (layerRecreation sdk store.info view amount) :: .aggSigMe publicKey :: conditions) := by
  have delegated : store.info.delegatedPuzzles ≠ [] := fun empty => other (if_pos empty)
  obtain ⟨layer, parsed, launcherId, owner, _, _, hash, emitted⟩ := spent.layer curry delegated
  have different : sdk.treeHash layer.puzzle ≠ layer.ownerPuzzleHash := by
    rw [revealedOwner, if_neg delegated] at other
    rw [hash, owner]
    exact other.symm
  obtain ⟨inner, amount, inside, odd, beside⟩ := delegation.delegate parsed different run
  cases emitted.symm.trans inside
  rw [launcherId] at beside
  exact ⟨delegated, amount, odd, beside⟩

/-- The recreation of a store over an inner puzzle hash. -/
def recreation (sdk : Sdk Allocator) (info : DatastoreInfo M) (inner : Bytes32) : CreateCoin :=
  ⟨inner, sdk.recreationAmount, memosOf (info.launcherId.bytes ::
    if info.delegatedPuzzles = [] then [] else sdk.recreationMemos info.ownerPuzzleHash info.delegatedPuzzles)⟩

def updateEmits (sdk : Sdk Allocator) (info : DatastoreInfo M) (newMetadata : DigDataStoreMetadata)
    (inner : Bytes32) : Conditions :=
  [.newMetadata newMetadata.toClvm, .createCoin (recreation sdk info inner)]

theorem updateConditions_eq_ok (condition : ConditionLaw sdk) {store : Datastore DigDataStoreMetadata}
    {newMetadata : DigDataStoreMetadata} {ctx after : SpendContext Allocator} {conditions : Conditions}
    (success : updateConditions sdk store newMetadata ctx = (.ok conditions, after)) :
    ∃ inner, innerPuzzleHash sdk store.info = .ok inner ∧
      conditions = updateEmits sdk store.info newMetadata inner := by
  simp only [updateConditions, Fallible.bind_eq_ok, allocating_eq_ok, Fallible.pure_eq_ok] at success
  obtain ⟨first, _, ⟨_, replaced, _⟩, second, _, ⟨_, recreated, _⟩, rfl, _⟩ := success
  obtain ⟨inner, hash, rfl⟩ := condition.recreate recreated
  rw [condition.newMetadata replaced]
  refine ⟨inner, hash, ?_⟩
  by_cases empty : store.info.delegatedPuzzles = [] <;> simp [updateEmits, recreation, empty]

/-- What a successful update of a store by a key built. -/
structure Updated (sdk : Sdk Allocator) (publicKey : PublicKey) (newMetadata : DigDataStoreMetadata)
    (store : Datastore DigDataStoreMetadata) (spend : CoinSpend) (child : Datastore DigDataStoreMetadata)
    (inner : Bytes32) (view : StoreSpend) : Prop
    extends SpentBy sdk publicKey (updateEmits sdk store.info newMetadata inner) store spend view where
  authority : innerPuzzleHash sdk store.info = .ok inner
  parsed : sdk.fromSpend spend store.info.delegatedPuzzles = .ok (some child)

theorem updateRoot_eq_ok (laws : SpendLaws sdk) {store : Datastore DigDataStoreMetadata}
    {publicKey : PublicKey} {newMetadata : DigDataStoreMetadata} {built : MerkleCoinSpend}
    (success : updateRoot sdk store (.standard publicKey) newMetadata = .ok built) :
    ∃ spend child inner view, built = ⟨[spend], some child⟩ ∧
      Updated sdk publicKey newMetadata store spend child inner view := by
  obtain ⟨after, inContext⟩ : ∃ after, updateInContext sdk store (.standard publicKey) newMetadata
      sdk.newContext = (.ok built, after) := Fallible.exists_after success
  simp only [updateInContext, innerSpend, Fallible.bind_eq_ok, allocating_eq_ok, Fallible.ofExcept_eq_ok,
    Fallible.pure_eq_ok, childOf_eq_ok] at inContext
  obtain ⟨conditions, _, first, ownerSpend, _, ⟨_, signed, rfl⟩, spend, _, ⟨_, spent, _⟩, child, _,
    ⟨parsed, _⟩, rfl, _⟩ := inContext
  obtain ⟨inner, hash, rfl⟩ := updateConditions_eq_ok laws.condition first
  obtain ⟨view, layers⟩ := spentBy_of_ok laws (by simp [updateEmits]) signed spent
  exact ⟨spend, child, inner, view, rfl, layers, hash, parsed⟩

theorem melt_eq_ok (laws : SpendLaws sdk) {store : Datastore DigDataStoreMetadata} {publicKey : PublicKey}
    {built : MerkleCoinSpend} (success : melt sdk store (.standard publicKey) = .ok built) :
    ∃ spend view, built = ⟨[spend], none⟩ ∧ SpentBy sdk publicKey [.meltSingleton] store spend view ∧
      sdk.standardCurryTreeHash publicKey = store.info.ownerPuzzleHash := by
  obtain ⟨_, gate, melted⟩ := except_bind_eq_ok.mp success
  obtain ⟨after, inContext⟩ : ∃ after, meltInContext sdk store (.standard publicKey) sdk.newContext =
      (.ok built, after) := Fallible.exists_after melted
  simp only [meltInContext, innerSpend, Fallible.bind_eq_ok, allocating_eq_ok, Fallible.pure_eq_ok] at inContext
  obtain ⟨ownerSpend, _, ⟨_, signed, rfl⟩, spend, _, ⟨_, spent, _⟩, rfl, _⟩ := inContext
  obtain ⟨view, layers⟩ := spentBy_of_ok laws (by simp) signed spent
  exact ⟨spend, view, rfl, layers, gateOwnerControlsStore_eq_ok.mp gate⟩

section Recreated

variable {publicKey : PublicKey} {newMetadata : DigDataStoreMetadata}
  {store child : Datastore DigDataStoreMetadata} {spend : CoinSpend} {inner : Bytes32} {view : StoreSpend}
  {shown : Conditions}

theorem oddCreateCoins_updateEmits (condition : ConditionLaw sdk) (publicKey : PublicKey)
    (info : DatastoreInfo DigDataStoreMetadata) (newMetadata : DigDataStoreMetadata) (inner : Bytes32) :
    oddCreateCoins (.aggSigMe publicKey :: updateEmits sdk info newMetadata inner) = [recreation sdk info inner] := by
  have odd : (recreation sdk info inner).amount % 2 = 1 := condition.amount_odd
  simp [oddCreateCoins, updateEmits, List.filterMap_cons, Condition.created?, odd]

theorem newMetadataNodes_updateEmits (publicKey : PublicKey) (info : DatastoreInfo DigDataStoreMetadata)
    (newMetadata : DigDataStoreMetadata) (inner : Bytes32) :
    newMetadataNodes (.aggSigMe publicKey :: updateEmits sdk info newMetadata inner) = [newMetadata.toClvm] := by
  simp [newMetadataNodes, updateEmits, List.filterMap_cons, Condition.newMetadata?]

theorem oddCreateCoins_cons {created : CreateCoin} {conditions : Conditions} (odd : created.amount % 2 = 1) :
    oddCreateCoins (.createCoin created :: conditions) = created :: oddCreateCoins conditions := by
  simp [oddCreateCoins, Condition.created?, odd]

theorem oddCreateCoins_perm {conditions other : Conditions} (same : conditions.Perm other) :
    (oddCreateCoins conditions).Perm (oddCreateCoins other) :=
  (same.filterMap Condition.created?).filter _

section Beside

variable {amount : UInt64} (beside : shown.Perm (.createCoin (layerRecreation sdk store.info view amount) ::
  .aggSigMe publicKey :: updateEmits sdk store.info newMetadata inner))

include beside

theorem newMetadataNodes_beside : newMetadataNodes shown = [newMetadata.toClvm] := by
  have nodes := beside.filterMap Condition.newMetadata?
  rw [List.filterMap_cons] at nodes
  exact List.perm_singleton.mp (nodes.trans (.of_eq (newMetadataNodes_updateEmits _ _ _ _)))

theorem oddCreateCoins_beside (condition : ConditionLaw sdk) (odd : amount % 2 = 1) : (oddCreateCoins shown).Perm
    [layerRecreation sdk store.info view amount, recreation sdk store.info inner] := by
  have coins := oddCreateCoins_perm beside
  rwa [oddCreateCoins_cons odd, oddCreateCoins_updateEmits condition] at coins

end Beside

/-- The memos of the recreation that an update asks for. -/
def updateMemos (sdk : Sdk Allocator) (info : DatastoreInfo M) : List (List UInt8) :=
  info.launcherId.bytes ::
    if info.delegatedPuzzles = [] then [] else sdk.recreationMemos info.ownerPuzzleHash info.delegatedPuzzles

theorem SpentBy.recreation (laws : UpdateLaws sdk)
    (spent : SpentBy sdk publicKey (updateEmits sdk store.info newMetadata inner) store spend view)
    (ordinary : spend.coin.puzzleHash ≠ sdk.singletonLauncherHash)
    (own : revealedOwner sdk publicKey store.info = sdk.standardCurryTreeHash publicKey) :
    Recreation sdk spend view (.aggSigMe publicKey :: updateEmits sdk store.info newMetadata inner)
      (recreation sdk store.info inner) (updateMemos sdk store.info) where
  singleton := ordinary
  shape := spent.shape
  emitted := spent.emits laws.curry laws.delegation own
  odd := oddCreateCoins_updateEmits laws.condition _ _ _ _
  once := by rw [newMetadataNodes_updateEmits, List.length_singleton]
  listed := memoList_memosOf _

theorem SpentBy.childMetadata {conditions : Conditions} (spent : SpentBy sdk publicKey conditions store spend view)
    (replaced : newMetadataNodes shown = [newMetadata.toClvm]) : childMetadata sdk view shown = .ok newMetadata := by
  simp [DigMerkle.childMetadata, readMetadata, spent.metadata, DigDataStoreMetadata.fromClvm_toClvm, replaced,
    Except.mapError, bind, Except.bind]

/-- The record an update leaves: the recreated coin under the replaced metadata, and the
revealed owner. -/
def successor (sdk : Sdk Allocator) (publicKey : PublicKey) (newMetadata : DigDataStoreMetadata)
    (store : Datastore DigDataStoreMetadata) (inner : Bytes32) (view : StoreSpend) (amount : UInt64) :
    Datastore DigDataStoreMetadata :=
  ⟨⟨sdk.coinId store.coin, storePuzzleHash sdk store.info.launcherId newMetadata inner, amount⟩,
    lineageOf sdk store.coin view,
    ⟨store.info.launcherId, newMetadata, revealedOwner sdk publicKey store.info, store.info.delegatedPuzzles⟩⟩

theorem SpentBy.childCoin {conditions : Conditions} (spent : SpentBy sdk publicKey conditions store spend view)
    (created : CreateCoin) : childCoin sdk spend.coin view newMetadata created =
      (successor sdk publicKey newMetadata store created.puzzleHash view created.amount).coin := by
  rw [DigMerkle.childCoin, spent.coin, spent.launcherId, spent.updater]
  rfl

theorem SpentBy.recreatedStore (laws : UpdateLaws sdk) {conditions : Conditions}
    (spent : SpentBy sdk publicKey conditions store spend view)
    (replaced : newMetadataNodes shown = [newMetadata.toClvm]) (set : List DelegatedPuzzle) :
    recreatedStore sdk spend.coin view shown (DigMerkle.recreation sdk store.info inner)
      (updateMemos sdk store.info) set =
      .ok (successor sdk publicKey newMetadata store inner view sdk.recreationAmount) := by
  obtain ⟨spentInner, ⟨bare, layered⟩, standard, _⟩ := spent.signed
  rw [DigMerkle.recreatedStore, spent.childMetadata replaced]
  by_cases empty : store.info.delegatedPuzzles = []
  · have undelegated : sdk.delegationSpend view.innerPuzzle view.innerSolution = none := by
      rw [(bare empty).1, standard, laws.standard.undelegated]
    have hash : sdk.treeHash view.innerPuzzle = sdk.standardCurryTreeHash publicKey := by
      rw [(bare empty).1, standard, laws.curry.standard]
    simp only [updateMemos, empty, ↓reduceIte, carriedAuthority, undelegated, hash, spent.childCoin, bind,
      Except.bind, pure, Except.pure]
    simp [successor, revealedOwner, empty, spent.coin, spent.launcherId, DigMerkle.recreation]
  · have several := List.length_pos_iff.mpr (laws.memo.nonempty store.info.ownerPuzzleHash _ empty)
    have long : 2 ≤ (updateMemos sdk store.info).length := by
      rw [updateMemos, if_neg empty, List.length_cons]
      omega
    simp only [bind, Except.bind, if_pos long]
    rw [buildDatastore, spent.launcherId, updateMemos, if_neg empty, laws.memo.hinted _ _ _ _ _ empty,
      spent.childCoin, spent.coin]
    simp [successor, revealedOwner, empty, DigMerkle.recreation, bind, Except.bind, pure, Except.pure]

theorem SpentBy.recreatedStore_layer (laws : UpdateLaws sdk)
    (spent : SpentBy sdk publicKey (updateEmits sdk store.info newMetadata inner) store spend view)
    (delegated : store.info.delegatedPuzzles ≠ []) (authority : sdk.treeHash view.innerPuzzle = inner)
    (replaced : newMetadataNodes shown = [newMetadata.toClvm]) (amount : UInt64) :
    DigMerkle.recreatedStore sdk spend.coin view shown (layerRecreation sdk store.info view amount)
      [store.info.launcherId.bytes] store.info.delegatedPuzzles =
      .ok (successor sdk publicKey newMetadata store inner view amount) := by
  obtain ⟨layer, parsed, _, owner, _, _, _, emitted⟩ := spent.layer laws.curry delegated
  have kept : carriedAuthority sdk view store.info.delegatedPuzzles =
      .ok (store.info.ownerPuzzleHash, store.info.delegatedPuzzles) := by
    simp [carriedAuthority, parsed, emitted, layerAuthority, oddCreateCoins_updateEmits laws.condition,
      DigMerkle.recreation, authority, owner, bind, Except.bind, pure, Except.pure]
  have coin : DigMerkle.childCoin sdk spend.coin view newMetadata (layerRecreation sdk store.info view amount) =
      (successor sdk publicKey newMetadata store inner view amount).coin := by
    rw [spent.childCoin, layerRecreation, authority]
  have few : ¬ 2 ≤ [store.info.launcherId.bytes].length := by simp
  rw [DigMerkle.recreatedStore, spent.childMetadata replaced]
  simp only [kept, coin, if_neg few, bind, Except.bind, pure, Except.pure]
  simp [successor, revealedOwner, delegated, spent.coin, spent.launcherId]

/-- However an owner's update is read, it leaves one record. -/
theorem SpentBy.parses (laws : UpdateLaws sdk)
    (spent : SpentBy sdk publicKey (updateEmits sdk store.info newMetadata inner) store spend view)
    (ordinary : spend.coin.puzzleHash ≠ sdk.singletonLauncherHash)
    (own : revealedOwner sdk publicKey store.info = sdk.standardCurryTreeHash publicKey)
    (set : List DelegatedPuzzle) : sdk.fromSpend spend set =
      .ok (some (successor sdk publicKey newMetadata store inner view sdk.recreationAmount)) := by
  apply (laws.fromSpend.recreated (spent.recreation laws ordinary own)).mpr
  exact spent.recreatedStore laws (newMetadataNodes_updateEmits _ _ _ _) set

/-- An update by a listed key emits two recreations of the layer, which are read as one record
but for the amount. -/
theorem SpentBy.parses_beside (laws : UpdateLaws sdk)
    (spent : SpentBy sdk publicKey (updateEmits sdk store.info newMetadata inner) store spend view)
    (authority : innerPuzzleHash sdk store.info = .ok inner)
    (ordinary : spend.coin.puzzleHash ≠ sdk.singletonLauncherHash)
    (other : revealedOwner sdk publicKey store.info ≠ sdk.standardCurryTreeHash publicKey)
    (run : sdk.emitted view.innerPuzzle view.innerSolution = .ok shown) :
    ∃ amount, sdk.fromSpend spend store.info.delegatedPuzzles =
      .ok (some (successor sdk publicKey newMetadata store inner view amount)) := by
  obtain ⟨delegated, amount, odd, beside⟩ := spent.emits_beside laws.curry laws.delegation other run
  have hash : sdk.treeHash view.innerPuzzle = inner :=
    spent.inner_eq laws.curry (if_neg delegated) authority
  have replaced := newMetadataNodes_beside beside
  have coins := oddCreateCoins_beside beside laws.condition odd
  -- Whichever of the two is taken, it has memos and is read as the successor.
  have either : ∀ created ∈ oddCreateCoins shown, ∃ memos taken, memoList created.memos = some memos ∧
      DigMerkle.recreatedStore sdk spend.coin view shown created memos store.info.delegatedPuzzles =
        .ok (successor sdk publicKey newMetadata store inner view taken) := by
    intro created member
    have known : created = layerRecreation sdk store.info view amount ∨
        created = DigMerkle.recreation sdk store.info inner := by simpa using coins.mem_iff.mp member
    rcases known with rfl | rfl
    · exact ⟨_, amount, memoList_memosOf _, spent.recreatedStore_layer laws delegated hash replaced amount⟩
    · exact ⟨_, sdk.recreationAmount, memoList_memosOf _, spent.recreatedStore laws replaced _⟩
  have some_odd : oddCreateCoins shown ≠ [] := by
    intro none
    rw [none] at coins
    cases coins.nil_eq
  obtain ⟨created, member, memos, named, read⟩ := laws.fromSpend.child store.info.delegatedPuzzles ordinary spent.shape
    run some_odd (by rw [replaced, List.length_singleton]) fun created member =>
      (either created member).imp fun _ found => found.choose_spec.1
  obtain ⟨_, taken, listed, built⟩ := either created member
  cases listed.symm.trans named
  exact ⟨taken, (read _).mpr built⟩

theorem Updated.ordinary (fromSpend : FromSpendLaw sdk)
    (updated : Updated sdk publicKey newMetadata store spend child inner view) :
    spend.coin.puzzleHash ≠ sdk.singletonLauncherHash :=
  updated.toSpentBy.not_launcher fromSpend updated.parsed

theorem Updated.recreates (laws : UpdateLaws sdk)
    (updated : Updated sdk publicKey newMetadata store spend child inner view)
    (own : revealedOwner sdk publicKey store.info = sdk.standardCurryTreeHash publicKey) :
    Recreation sdk spend view (.aggSigMe publicKey :: updateEmits sdk store.info newMetadata inner)
      (DigMerkle.recreation sdk store.info inner) (updateMemos sdk store.info) :=
  updated.toSpentBy.recreation laws (updated.ordinary laws.fromSpend) own

theorem Updated.fromSpend (laws : UpdateLaws sdk)
    (updated : Updated sdk publicKey newMetadata store spend child inner view)
    (own : revealedOwner sdk publicKey store.info = sdk.standardCurryTreeHash publicKey)
    (set : List DelegatedPuzzle) : sdk.fromSpend spend set =
      .ok (some (successor sdk publicKey newMetadata store inner view sdk.recreationAmount)) :=
  updated.toSpentBy.parses laws (updated.ordinary laws.fromSpend) own set

theorem Updated.child_eq (laws : UpdateLaws sdk)
    (updated : Updated sdk publicKey newMetadata store spend child inner view)
    (own : revealedOwner sdk publicKey store.info = sdk.standardCurryTreeHash publicKey) :
    child = successor sdk publicKey newMetadata store inner view sdk.recreationAmount := by
  have same := updated.parsed.symm.trans (updated.fromSpend laws own store.info.delegatedPuzzles)
  exact Option.some.inj (Except.ok.inj same)

/-- Whoever's key it was, the child is the successor but for the amount. -/
theorem Updated.child_succeeds (laws : UpdateLaws sdk)
    (updated : Updated sdk publicKey newMetadata store spend child inner view) :
    ∃ amount, child = successor sdk publicKey newMetadata store inner view amount := by
  by_cases own : revealedOwner sdk publicKey store.info = sdk.standardCurryTreeHash publicKey
  · exact ⟨_, updated.child_eq laws own⟩
  · obtain ⟨shown, run⟩ := updated.toSpentBy.runs laws.fromSpend updated.parsed
    obtain ⟨amount, read⟩ := updated.toSpentBy.parses_beside laws updated.authority
      (updated.ordinary laws.fromSpend) own run
    exact ⟨amount, Option.some.inj (Except.ok.inj (updated.parsed.symm.trans read))⟩

end Recreated

end DigMerkle
