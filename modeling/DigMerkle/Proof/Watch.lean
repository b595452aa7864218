import DigMerkle.Proof.Melt
import DigMerkle.Proof.Successor

/-! A watcher follows the coins of a store by hydrating each spend as it appears. Whoever
made the spends, the stores it reads are one singleton, each the child of the one before. -/

namespace DigMerkle

open Library

variable {Allocator : Type} {sdk : Sdk Allocator}

/-- A spend seen on chain and the store hydrated from it. -/
structure WatchStep where
  spend : CoinSpend
  child : Datastore DigDataStoreMetadata

/-- The spend is of the last store's coin and recreates a store, on whatever authority. -/
structure WatchStep.Follows (sdk : Sdk Allocator) (store : Datastore DigDataStoreMetadata) (step : WatchStep) :
    Prop where
  coin : step.spend.coin = store.coin
  recreates : ∃ view conditions created memos, Recreation sdk step.spend view conditions created memos
  hydrated : hydrate sdk step.spend = .ok step.child

/-- The child of a watched spend has the launcher id of the watch, and it names its parent
twice: by its coin, and by the coin that its proof stands for. -/
structure WatchStep.Descends (sdk : Sdk Allocator) (launcherId : Bytes32) (store : Datastore DigDataStoreMetadata)
    (step : WatchStep) : Prop where
  identity : step.child.info.launcherId = launcherId
  parent : step.child.coin.parentCoinInfo = sdk.coinId store.coin
  proof : ∃ proof, step.child.proof = .lineage proof ∧ proof.parentCoin sdk launcherId = store.coin

/-- Whatever its memos say of the authority, a recreated store is read with the spend's
launcher id, as the child of the spent coin. -/
theorem recreatedStore_shape {coin : Coin} {view : StoreSpend} {conditions : Conditions} {created : CreateCoin}
    {memos : List (List UInt8)} {set : List DelegatedPuzzle} {store : Datastore DigDataStoreMetadata}
    (read : recreatedStore sdk coin view conditions created memos set = .ok store) :
    store.info.launcherId = view.launcherId ∧ store.coin = childCoin sdk coin view store.info.metadata created ∧
      store.proof = lineageOf sdk coin view := by
  obtain ⟨metadata, _, built⟩ := except_bind_eq_ok.mp read
  split at built
  · obtain ⟨authority, _, rest⟩ := except_bind_eq_ok.mp built
    cases rest
    exact ⟨rfl, rfl, rfl⟩
  · obtain ⟨authority, _, rest⟩ := except_bind_eq_ok.mp built
    cases rest
    exact ⟨rfl, rfl, rfl⟩

theorem Recreation.child_shape (fromSpend : FromSpendLaw sdk) {spend : CoinSpend} {view : StoreSpend}
    {conditions : Conditions} {created : CreateCoin} {memos : List (List UInt8)}
    {store : Datastore DigDataStoreMetadata} (recreation : Recreation sdk spend view conditions created memos)
    (hydrated : hydrate sdk spend = .ok store) :
    store.info.launcherId = view.launcherId ∧
      store.coin = childCoin sdk spend.coin view store.info.metadata created ∧
      store.proof = lineageOf sdk spend.coin view := by
  obtain ⟨_, parsed⟩ := hydrate_eq_ok.mp hydrated
  exact recreatedStore_shape ((fromSpend.recreated recreation).mp parsed)

theorem IsStoreSpend.singleton_hash (curry : CurryLaw sdk) {spend : CoinSpend} {view : StoreSpend} {puzzle : Clvm}
    (shape : IsStoreSpend sdk spend view) (reveals : Reveals sdk spend puzzle) :
    spend.coin.puzzleHash = sdk.singletonCurryTreeHash view.launcherId (view.stateLayerHash sdk) := by
  obtain ⟨shown, decoded, solution, _, layers⟩ := shape
  have same : shown = puzzle := Except.ok.inj (decoded.symm.trans reveals.1)
  rw [← reveals.2, ← same, curry.store layers]

/-- The singleton layers that a watched spend shows: its coin's, and its child's. -/
def WatchStep.layers (sdk : Sdk Allocator) (step : WatchStep) : Set (Bytes32 × Bytes32) :=
  {layer | ∃ view conditions created memos, Recreation sdk step.spend view conditions created memos ∧
    (layer = (view.launcherId, view.stateLayerHash sdk) ∨
      layer = (view.launcherId, sdk.nftStateLayerTreeHash (sdk.treeHash step.child.info.metadata.toClvm)
        view.metadataUpdaterPuzzleHash created.puzzleHash))}

theorem WatchStep.layers_eq {step : WatchStep} {view : StoreSpend} {conditions : Conditions} {created : CreateCoin}
    {memos : List (List UInt8)} (recreation : Recreation sdk step.spend view conditions created memos) :
    step.layers sdk = {(view.launcherId, view.stateLayerHash sdk),
      (view.launcherId, sdk.nftStateLayerTreeHash (sdk.treeHash step.child.info.metadata.toClvm)
        view.metadataUpdaterPuzzleHash created.puzzleHash)} := by
  ext layer
  constructor
  · intro shows
    obtain ⟨view', conditions', created', memos', recreation', shown⟩ := shows
    have sameView := recreation.shape.unique recreation'.shape
    subst sameView
    have sameConditions := Except.ok.inj (recreation.emitted.symm.trans recreation'.emitted)
    subst sameConditions
    have sameCreated := List.singleton_injective (recreation.odd.symm.trans recreation'.odd)
    subst sameCreated
    exact shown
  · intro shown
    exact ⟨view, conditions, created, memos, recreation, shown⟩

/-- Every layer that a watch compares, from the layer of its first coin on. -/
def watchedLayers (sdk : Sdk Allocator) (first : Bytes32 × Bytes32) (steps : List WatchStep) :
    Set (Bytes32 × Bytes32) :=
  {layer | layer = first ∨ ∃ step ∈ steps, layer ∈ step.layers sdk}

/-- The watch's invariant: the coin is under a known layer of the launcher id. -/
def Under (sdk : Sdk Allocator) (launcherId : Bytes32) (known : Set (Bytes32 × Bytes32))
    (store : Datastore DigDataStoreMetadata) : Prop :=
  ∃ layer ∈ known, layer.1 = launcherId ∧ store.coin.puzzleHash = sdk.singletonCurryTreeHash layer.1 layer.2

/-- The step lemma: a genuine spend of a coin under the launcher id leads to its child
under the same id. -/
theorem WatchStep.Follows.step (curry : CurryLaw sdk) (fromSpend : FromSpendLaw sdk) {launcherId : Bytes32}
    {known : Set (Bytes32 × Bytes32)} {store : Datastore DigDataStoreMetadata} {step : WatchStep}
    (collisionFree : Set.InjOn (fun layer => sdk.singletonCurryTreeHash layer.1 layer.2) known)
    (shows : step.layers sdk ⊆ known) (under : Under sdk launcherId known store) (follows : step.Follows sdk store) :
    Under sdk launcherId known step.child ∧ step.Descends sdk launcherId store := by
  obtain ⟨layer, member, identity, puzzleHash⟩ := under
  obtain ⟨view, conditions, created, memos, recreation⟩ := follows.recreates
  obtain ⟨⟨puzzle, reveals⟩, _⟩ := hydrate_eq_ok.mp follows.hydrated
  obtain ⟨launcher, coin, proof⟩ := recreation.child_shape fromSpend follows.hydrated
  have shown := recreation.shape.singleton_hash curry reveals
  rw [follows.coin] at shown coin proof
  have sameLayer : layer = (view.launcherId, view.stateLayerHash sdk) := collisionFree member
    (shows ⟨view, conditions, created, memos, recreation, .inl rfl⟩) (puzzleHash.symm.trans shown)
  have same : view.launcherId = launcherId := by rw [← identity, sameLayer]
  constructor
  · refine ⟨_, shows ⟨view, conditions, created, memos, recreation, .inr rfl⟩, same, ?_⟩
    rw [coin]
    rfl
  · refine ⟨launcher.trans same, by rw [coin]; rfl, _, proof, ?_⟩
    rw [LineageProof.parentCoin, ← same, ← shown]

/-- Over every sequence of genuine spends of a singleton's coins, by its owner, its delegates
or anybody else, every store that is hydrated has the first one's launcher id, is the child
of the one before, and proves exactly that coin as its parent. -/
theorem watched_stores_descend (curry : CurryLaw sdk) (fromSpend : FromSpendLaw sdk)
    {store : Datastore DigDataStoreMetadata} {steps : List WatchStep} {stateLayerHash : Bytes32}
    (singleton : store.coin.puzzleHash = sdk.singletonCurryTreeHash store.info.launcherId stateLayerHash)
    (collisionFree : Set.InjOn (fun layer => sdk.singletonCurryTreeHash layer.1 layer.2)
      (watchedLayers sdk (store.info.launcherId, stateLayerHash) steps))
    (watched : EachStep WatchStep.child (WatchStep.Follows sdk) store steps) :
    EachStep WatchStep.child (WatchStep.Descends sdk store.info.launcherId) store steps := by
  have shown : EachStep WatchStep.child
      (fun _ step => step.layers sdk ⊆ watchedLayers sdk (store.info.launcherId, stateLayerHash) steps) store steps :=
    eachStep_iff_forall.mpr fun step member layer shows => .inr ⟨step, member, shows⟩
  apply (watched.and shown).carry (Under sdk store.info.launcherId
    (watchedLayers sdk (store.info.launcherId, stateLayerHash) steps))
  · intro store step under follows
    exact follows.1.step curry fromSpend collisionFree follows.2 under
  · exact ⟨(store.info.launcherId, stateLayerHash), .inl rfl, rfl, singleton⟩

section Samples

open Reference

/-- The sample store with an admin, once the admin has replaced its metadata. -/
def administered : Datastore DigDataStoreMetadata :=
  ⟨⟨coinId adminStore.coin, storePuzzleHash wallet (hash32 3) updatedMetadata adminLayerHash, 1⟩, adminStore.proof,
    ⟨hash32 3, updatedMetadata, ownerHash, adminSet⟩⟩

theorem admin_recreates : Recreation wallet (datastoreSpend adminStore ⟨adminPuzzle, .atom []⟩)
    (spentView adminStore ⟨adminPuzzle, .atom []⟩) adminConditions (unhinted adminLayerHash) [(hash32 3).bytes] :=
  ⟨by decide +kernel, datastoreSpend_shape _ _, by decide +kernel, by decide +kernel, by decide +kernel,
    memoList_memosOf _⟩

theorem transfer_recreates : Recreation wallet (datastoreSpend administered transferInner)
    (spentView administered transferInner) transferConditions (unhinted (hash32 8)) [(hash32 3).bytes] :=
  ⟨by decide +kernel, datastoreSpend_shape _ _, by decide +kernel, by decide +kernel, by decide +kernel,
    memoList_memosOf _⟩

/-- The state layers of the sample store, of its administered child and of its transferred one. -/
def sampleLayers : List (Bytes32 × Bytes32) :=
  [Reference.metadata, updatedMetadata].map (fun metadata => (hash32 3,
      nftStateLayerTreeHash (treeHash metadata.toClvm) updaterHash adminLayerHash)) ++
    [(hash32 3, nftStateLayerTreeHash (treeHash updatedMetadata.toClvm) updaterHash (hash32 8))]

theorem admin_and_owner_watched : ∃ first second,
    hydrate wallet (datastoreSpend adminStore ⟨adminPuzzle, .atom []⟩) = .ok first ∧
    hydrate wallet (datastoreSpend administered transferInner) = .ok second ∧
    first.info.launcherId = hash32 3 ∧ second.info.launcherId = hash32 3 ∧
    second.coin.parentCoinInfo = coinId first.coin := by
  have accepted : (hydrate wallet (datastoreSpend adminStore ⟨adminPuzzle, .atom []⟩)).isOk = true ∧
      (hydrate wallet (datastoreSpend administered transferInner)).isOk = true := by decide +kernel
  have administers : (hydrate wallet (datastoreSpend adminStore ⟨adminPuzzle, .atom []⟩)).toOption.map
      (fun store => (store.coin, store.info.metadata)) = some (administered.coin, updatedMetadata) := by decide +kernel
  have transfers : (hydrate wallet (datastoreSpend administered transferInner)).toOption.map
      (fun store => store.info.metadata) = some updatedMetadata := by decide +kernel
  obtain ⟨first, hydrated⟩ := except_isOk_iff.mp accepted.1
  obtain ⟨second, hydrated'⟩ := except_isOk_iff.mp accepted.2
  rw [hydrated] at administers
  rw [hydrated'] at transfers
  obtain ⟨coin, metadata⟩ := Prod.mk.inj (Option.some.inj administers)
  have metadata' : second.info.metadata = updatedMetadata := Option.some.inj transfers
  let steps : List WatchStep := [⟨datastoreSpend adminStore ⟨adminPuzzle, .atom []⟩, first⟩,
    ⟨datastoreSpend administered transferInner, second⟩]
  have watched : EachStep WatchStep.child (WatchStep.Follows wallet) adminStore steps :=
    ⟨⟨rfl, ⟨_, _, _, _, admin_recreates⟩, hydrated⟩, ⟨coin.symm, ⟨_, _, _, _, transfer_recreates⟩, hydrated'⟩, trivial⟩
  have distinct : (sampleLayers.map fun layer => wallet.singletonCurryTreeHash layer.1 layer.2).Nodup := by
    decide +kernel
  have collisionFree : Set.InjOn (fun layer => wallet.singletonCurryTreeHash layer.1 layer.2)
      (watchedLayers wallet (adminStore.info.launcherId,
        nftStateLayerTreeHash (treeHash Reference.metadata.toClvm) updaterHash adminLayerHash) steps) := by
    apply injOn_of_nodup distinct
    intro layer member
    rcases member with rfl | ⟨step, listed, shows⟩
    · decide +kernel
    · rcases List.mem_cons.mp listed with rfl | later
      · rw [WatchStep.layers_eq admin_recreates, metadata] at shows
        rcases shows with rfl | rfl <;> decide +kernel
      · cases List.mem_singleton.mp later
        rw [WatchStep.layers_eq transfer_recreates, metadata'] at shows
        rcases shows with rfl | rfl <;> decide +kernel
  obtain ⟨descends, descends', _⟩ := watched_stores_descend curryLaw fromSpendLaw rfl collisionFree watched
  exact ⟨first, second, hydrated, hydrated', descends.identity, descends'.identity, descends'.parent⟩

end Samples

end DigMerkle
