import DigMerkle.Proof.Authority
import DigMerkle.Proof.MetadataHash

/-! How far a spent coin determines the store hydrated from its spend. The reveal is
bound to the coin, so everything that identifies the store is, but a launcher's reveal
says nothing about its solution, from which an eve store is read. -/

namespace DigMerkle

open Library

variable {Allocator : Type} {sdk : Sdk Allocator}

/-- The layers that a launcher's solution lists: its metadata or legacy root, encoded again,
and the inner puzzle hash of the authority that its inner puzzle hash and memos name. -/
def listedLayers (sdk : Sdk Allocator) (launcherId : Bytes32) (opened : LauncherSolution) :
    Except DriverError (Clvm × Bytes32) := do
  let metadata ← opened.record.mapError sdk.fromClvmDriverError
  let authority ← sdk.memoAuthority launcherId metadata opened.innerPuzzleHash (opened.childMemos sdk launcherId)
  let inner ← authorityPuzzleHash sdk launcherId authority.1 authority.2
  return (metadata.toClvm, inner)

theorem listedLayers_bare (memo : MemoLaw sdk) {launcherId : Bytes32} {opened : LauncherSolution}
    {metadata : DigDataStoreMetadata} (decoded : DigDataStoreMetadata.fromClvm opened.metadata = .ok metadata)
    (memoless : opened.memos = []) :
    listedLayers sdk launcherId opened = .ok (metadata.toClvm, opened.innerPuzzleHash) := by
  obtain ⟨record, memos⟩ := LauncherSolution.current decoded sdk launcherId
  rw [memoless] at memos
  rw [listedLayers, record, memos]
  simp [memo.bare, authorityPuzzleHash, Except.mapError, bind, Except.bind, pure, Except.pure]

/-- The solution lists a record, and an authority that the SDK can name. -/
def Readable (sdk : Sdk Allocator) (launcherId : Bytes32) (opened : LauncherSolution) : Prop :=
  ∃ metadata, opened.record = .ok metadata ∧ ∃ authority,
    sdk.memoAuthority launcherId metadata opened.innerPuzzleHash (opened.childMemos sdk launcherId) = .ok authority

theorem readable_iff {coin : Coin} {opened : LauncherSolution} :
    Readable sdk (sdk.coinId coin) opened ↔ ∃ store, launchedStore sdk coin opened = .ok store := by
  constructor
  · intro readable
    obtain ⟨metadata, record, authority, named⟩ := readable
    exact ⟨_, launchedStore_eq_ok.mpr ⟨metadata, authority.1, authority.2, record, named, rfl⟩⟩
  · intro read
    obtain ⟨store, read⟩ := read
    obtain ⟨metadata, owner, set, record, named, _⟩ := launchedStore_eq_ok.mp read
    exact ⟨metadata, record, (owner, set), named⟩

/-- A store read from a launcher commits to the listed layers and to no others. -/
theorem launchedStore_commits_iff {coin : Coin} {opened : LauncherSolution} {store : Datastore DigDataStoreMetadata}
    (read : launchedStore sdk coin opened = .ok store) :
    CommitsTo sdk store ↔ ∃ layers, listedLayers sdk (sdk.coinId coin) opened = .ok layers ∧
      opened.singletonPuzzleHash = layeredPuzzleHash sdk (sdk.coinId coin) layers.1 layers.2 := by
  obtain ⟨metadata, owner, set, record, named, rfl⟩ := launchedStore_eq_ok.mp read
  have listed : listedLayers sdk (sdk.coinId coin) opened =
      (authorityPuzzleHash sdk (sdk.coinId coin) owner set).map fun inner => (metadata.toClvm, inner) := by
    rw [listedLayers, record]
    simp only [Except.mapError, bind, Except.bind, named]
    cases authorityPuzzleHash sdk (sdk.coinId coin) owner set <;> rfl
  rw [listed]
  constructor
  · intro committed
    obtain ⟨inner, authority, hash⟩ := committed
    exact ⟨_, except_map_eq_ok.mpr ⟨inner, authority, rfl⟩, hash⟩
  · intro lists
    obtain ⟨layers, found, hash⟩ := lists
    obtain ⟨inner, authority, rfl⟩ := except_map_eq_ok.mp found
    exact ⟨inner, authority, hash⟩

section Launchers

variable {spend : CoinSpend} {solution : Clvm} {opened : LauncherSolution} {store : Datastore DigDataStoreMetadata}

theorem hydrate_launcher_eq_ok (fromSpend : FromSpendLaw sdk)
    (launcher : spend.coin.puzzleHash = sdk.singletonLauncherHash)
    (solved : sdk.programToClvm spend.solution = .ok solution) (opens : sdk.launcherSolution solution = some opened) :
    hydrate sdk spend = .ok store ↔
      (∃ puzzle, Reveals sdk spend puzzle) ∧ launchedStore sdk spend.coin opened = .ok store := by
  rw [hydrate_eq_ok, fromSpend.launched launcher solved opens]

/-- What is hydrated from a launcher is committed to exactly when a bound and readable spend
lists layers of the created coin. -/
theorem hydrated_launcher_committed_iff (fromSpend : FromSpendLaw sdk)
    (launcher : spend.coin.puzzleHash = sdk.singletonLauncherHash)
    (solved : sdk.programToClvm spend.solution = .ok solution) (opens : sdk.launcherSolution solution = some opened) :
    (∀ store, hydrate sdk spend = .ok store → CommitsTo sdk store) ↔
      ((∃ puzzle, Reveals sdk spend puzzle) → Readable sdk (sdk.coinId spend.coin) opened →
        ∃ layers, listedLayers sdk (sdk.coinId spend.coin) opened = .ok layers ∧
          opened.singletonPuzzleHash = layeredPuzzleHash sdk (sdk.coinId spend.coin) layers.1 layers.2) := by
  simp only [hydrate_launcher_eq_ok fromSpend launcher solved opens, readable_iff]
  constructor
  · intro commits reveals read
    obtain ⟨store, read⟩ := read
    exact (launchedStore_commits_iff read).mp (commits store ⟨reveals, read⟩)
  · intro lists store hydrated
    exact (launchedStore_commits_iff hydrated.2).mpr (lists hydrated.1 ⟨store, hydrated.2⟩)

end Launchers

/-- For every spend of a launcher coin, in either layout of its solution: over a metadata node
and an inner puzzle hash, hydration yields nothing but a store its coin commits to exactly
when the fields of a readable solution list just these; over no such layers, exactly when
nothing can be read; and a solution that does not open is refused. -/
theorem hydrated_eve_committed_iff (fromSpend : FromSpendLaw sdk) (reads : LauncherReadLaw sdk) {spend : CoinSpend}
    (launcher : spend.coin.puzzleHash = sdk.singletonLauncherHash) :
    (∀ solution opened, sdk.programToClvm spend.solution = .ok solution →
      sdk.launcherSolution solution = some opened →
      (∀ node inner, opened.singletonPuzzleHash = layeredPuzzleHash sdk (sdk.coinId spend.coin) node inner →
        Set.InjOn (fun layers => layeredPuzzleHash sdk (sdk.coinId spend.coin) layers.1 layers.2)
          {layers | layers = (node, inner) ∨ listedLayers sdk (sdk.coinId spend.coin) opened = .ok layers} →
        ((∀ store, hydrate sdk spend = .ok store → CommitsTo sdk store) ↔
          ((∃ puzzle, Reveals sdk spend puzzle) → Readable sdk (sdk.coinId spend.coin) opened →
            listedLayers sdk (sdk.coinId spend.coin) opened = .ok (node, inner)))) ∧
      ((∀ node inner, opened.singletonPuzzleHash ≠ layeredPuzzleHash sdk (sdk.coinId spend.coin) node inner) →
        ((∀ store, hydrate sdk spend = .ok store → CommitsTo sdk store) ↔
          ((∃ puzzle, Reveals sdk spend puzzle) → ¬ Readable sdk (sdk.coinId spend.coin) opened)))) ∧
    ((∀ solution opened, sdk.programToClvm spend.solution = .ok solution →
      sdk.launcherSolution solution ≠ some opened) → ∀ store, hydrate sdk spend ≠ .ok store) := by
  constructor
  · intro solution opened solved opens
    have committed := hydrated_launcher_committed_iff fromSpend launcher solved opens
    constructor
    · intro node inner created collisionFree
      rw [committed]
      constructor
      · intro lists reveals readable
        obtain ⟨layers, listed, hash⟩ := lists reveals readable
        have same : layers = (node, inner) := collisionFree (.inr listed) (.inl rfl) (hash.symm.trans created)
        rw [listed, same]
      · intro lists reveals readable
        exact ⟨(node, inner), lists reveals readable, created⟩
    · intro unlayered
      rw [committed]
      constructor
      · intro lists reveals readable
        obtain ⟨layers, _, hash⟩ := lists reveals readable
        exact unlayered _ _ hash
      · intro unreadable reveals readable
        exact absurd readable (unreadable reveals)
  · intro unopened store hydrated
    obtain ⟨error, failed⟩ := reads.unopened [] launcher unopened
    cases failed.symm.trans (hydrate_eq_ok.mp hydrated).2

section Samples

open Reference

/-- The launcher of a store over the sample root, whose solution lists another root. -/
def misleadingSolution : LauncherSolution :=
  { eveSolution updatedMetadata.toClvm with
    singletonPuzzleHash := (eveSolution Reference.metadata.toClvm).singletonPuzzleHash }

def misleadingSpend : CoinSpend :=
  ⟨eveLauncherCoin, serialize launcherPuzzle, serialize (encodeLauncherSolution misleadingSolution)⟩

/-- A launcher's solution in the legacy layout, which lists the bare root. -/
def legacySolution (singletonPuzzleHash : Bytes32) : LauncherSolution :=
  ⟨singletonPuzzleHash, 1, Reference.metadata.rootHash.toClvm, ownerHash, []⟩

def legacySpend (singletonPuzzleHash : Bytes32) : CoinSpend :=
  ⟨eveLauncherCoin, serialize launcherPuzzle, serialize (encodeLauncherSolution (legacySolution singletonPuzzleHash))⟩

/-- The coin of an undelegated store over the sample root. -/
def eveHash : Bytes32 := layeredPuzzleHash wallet (coinId eveLauncherCoin) Reference.metadata.toClvm ownerHash

theorem honest_eve_committed : (∃ store,
      hydrate wallet (eveSpend Reference.metadata.toClvm) = .ok store ∧ CommitsTo wallet store) ∧
    ∃ store, hydrate wallet (legacySpend eveHash) = .ok store ∧ CommitsTo wallet store := by
  have accepted : (hydrate wallet (eveSpend Reference.metadata.toClvm)).isOk = true ∧
      (hydrate wallet (legacySpend eveHash)).isOk = true := by decide +kernel
  have lists : ∀ opened, listedLayers wallet (coinId eveLauncherCoin) opened =
      .ok (Reference.metadata.toClvm, ownerHash) → Set.InjOn
        (fun layers => layeredPuzzleHash wallet (coinId eveLauncherCoin) layers.1 layers.2)
        {layers | layers = (Reference.metadata.toClvm, ownerHash) ∨
          listedLayers wallet (coinId eveLauncherCoin) opened = .ok layers} := by
    intro opened listed
    rw [listed]
    rintro _ (rfl | first) _ (rfl | second) _
    · rfl
    · exact Except.ok.inj second
    · exact (Except.ok.inj first).symm
    · exact (Except.ok.inj first).symm.trans (Except.ok.inj second)
  obtain ⟨store, hydrated⟩ := except_isOk_iff.mp accepted.1
  obtain ⟨legacy, hydrated'⟩ := except_isOk_iff.mp accepted.2
  refine ⟨⟨store, hydrated, ?_⟩, legacy, hydrated', ?_⟩
  · have listed : listedLayers wallet (coinId eveLauncherCoin) (eveSolution Reference.metadata.toClvm) =
        .ok (Reference.metadata.toClvm, ownerHash) :=
      listedLayers_bare memoLaw (DigDataStoreMetadata.fromClvm_toClvm Reference.metadata) rfl
    have launcher : (eveSpend Reference.metadata.toClvm).coin.puzzleHash = wallet.singletonLauncherHash := rfl
    have solved : wallet.programToClvm (eveSpend Reference.metadata.toClvm).solution =
        .ok (encodeLauncherSolution (eveSolution Reference.metadata.toClvm)) := by
      rw [wallet_programToClvm]
      exact deserialize_serialize _
    have named := (hydrated_eve_committed_iff fromSpendLaw launcherReadLaw launcher).1 _ _ solved
      (launcherSolution_encode _)
    exact (named.1 _ _ rfl (lists _ listed)).mpr (fun _ _ => listed) store hydrated
  · have listed : listedLayers wallet (coinId eveLauncherCoin) (legacySolution eveHash) =
        .ok (Reference.metadata.toClvm, ownerHash) := by decide +kernel
    have launcher : (legacySpend eveHash).coin.puzzleHash = wallet.singletonLauncherHash := rfl
    have solved : wallet.programToClvm (legacySpend eveHash).solution =
        .ok (encodeLauncherSolution (legacySolution eveHash)) := by
      rw [wallet_programToClvm]
      exact deserialize_serialize _
    have named := (hydrated_eve_committed_iff fromSpendLaw launcherReadLaw launcher).1 _ _ solved
      (launcherSolution_encode _)
    exact (named.1 _ _ rfl (lists _ listed)).mpr (fun _ _ => listed) legacy hydrated'

/-- A launcher that lists a root, or a legacy root, which the created coin does not commit to
is not refused. -/
theorem misleading_eve_accepted : (misleadingSpend.coin.puzzleHash = wallet.singletonLauncherHash ∧
      ∃ store, hydrate wallet misleadingSpend = .ok store ∧ ¬ CommitsTo wallet store) ∧
    (legacySpend (hash32 68)).coin.puzzleHash = wallet.singletonLauncherHash ∧
      ∃ store, hydrate wallet (legacySpend (hash32 68)) = .ok store ∧ ¬ CommitsTo wallet store := by
  have differs : (hydrate wallet misleadingSpend).toOption.map (fun store => decide (CommitsTo wallet store)) =
      some false := by decide +kernel
  have unlayered : (hydrate wallet (legacySpend (hash32 68))).toOption.map
      (fun store => decide (CommitsTo wallet store)) = some false := by decide +kernel
  exact ⟨⟨rfl, except_toOption_decide.mp differs⟩, rfl, except_toOption_decide.mp unlayered⟩

end Samples

/-- The puzzles that either reveal decodes to. -/
def revealedPuzzles (sdk : Sdk Allocator) (reveal reveal' : Program) : Set Clvm :=
  {puzzle | sdk.programToClvm reveal = .ok puzzle ∨ sdk.programToClvm reveal' = .ok puzzle}

/-- A coin fixes the puzzle that a bound reveal decodes to. -/
theorem Reveals.unique {coin : Coin} {reveal reveal' solution solution' : Program} {puzzle puzzle' : Clvm}
    (collisionFree : Set.InjOn sdk.treeHash (revealedPuzzles sdk reveal reveal'))
    (bound : Reveals sdk ⟨coin, reveal, solution⟩ puzzle) (bound' : Reveals sdk ⟨coin, reveal', solution'⟩ puzzle') :
    puzzle = puzzle' :=
  collisionFree (.inl bound.1) (.inr bound'.1) (bound.2.trans bound'.2.symm)

theorem IsStoreSpend.same_identity (identity : IdentityLaw sdk) {coin : Coin}
    {reveal reveal' solution solution' : Program} {view view' : StoreSpend} {puzzle puzzle' : Clvm}
    (collisionFree : Set.InjOn sdk.treeHash (revealedPuzzles sdk reveal reveal'))
    (bound : Reveals sdk ⟨coin, reveal, solution⟩ puzzle) (bound' : Reveals sdk ⟨coin, reveal', solution'⟩ puzzle')
    (shape : IsStoreSpend sdk ⟨coin, reveal, solution⟩ view)
    (shape' : IsStoreSpend sdk ⟨coin, reveal', solution'⟩ view') :
    view.launcherId = view'.launcherId ∧ view.stateLayerHash sdk = view'.stateLayerHash sdk := by
  obtain ⟨shown, decoded, _, _, layers⟩ := shape
  obtain ⟨shown', decoded', _, _, layers'⟩ := shape'
  have read : shown = puzzle := Except.ok.inj (decoded.symm.trans bound.1)
  have read' : shown' = puzzle' := Except.ok.inj (decoded'.symm.trans bound'.1)
  have samePuzzle := Reveals.unique collisionFree bound bound'
  rw [read] at layers
  rw [read', ← samePuzzle] at layers'
  exact identity.puzzleAlone layers layers'

/-- Whatever reveals and solutions are served for one coin, the stores hydrated from
them have the same launcher id and the same proof. -/
theorem hydrated_identity_fixed_by_coin (identity : IdentityLaw sdk) {coin : Coin}
    {reveal reveal' solution solution' : Program} {store store' : Datastore DigDataStoreMetadata}
    (collisionFree : Set.InjOn sdk.treeHash (revealedPuzzles sdk reveal reveal'))
    (hydrated : hydrate sdk ⟨coin, reveal, solution⟩ = .ok store)
    (hydrated' : hydrate sdk ⟨coin, reveal', solution'⟩ = .ok store') :
    store.info.launcherId = store'.info.launcherId ∧ store.proof = store'.proof := by
  obtain ⟨⟨puzzle, bound⟩, parsed⟩ := hydrate_eq_ok.mp hydrated
  obtain ⟨⟨puzzle', bound'⟩, parsed'⟩ := hydrate_eq_ok.mp hydrated'
  by_cases launcher : coin.puzzleHash = sdk.singletonLauncherHash
  · obtain ⟨launcherId, proof⟩ := identity.launched parsed launcher
    obtain ⟨launcherId', proof'⟩ := identity.launched parsed' launcher
    exact ⟨launcherId.trans launcherId'.symm, proof.trans proof'.symm⟩
  · obtain ⟨view, shape, launcherId, proof⟩ := identity.recreated parsed launcher
    obtain ⟨view', shape', launcherId', proof'⟩ := identity.recreated parsed' launcher
    obtain ⟨sameLauncher, sameLayer⟩ := IsStoreSpend.same_identity identity collisionFree bound bound' shape shape'
    constructor
    · rw [launcherId, launcherId', sameLauncher]
    · rw [proof, proof', lineageOf, lineageOf, sameLayer]

section Samples

open Reference

theorem delegated_reveal {store : Datastore DigDataStoreMetadata} (delegated : store.info.delegatedPuzzles ≠ [])
    (inner inner' : Spend) : (datastoreSpend store inner).puzzleReveal = (datastoreSpend store inner').puzzleReveal := by
  simp [datastoreSpend, innerLayers, delegated]

theorem admin_store_identity_fixed : ∃ store store',
    hydrate wallet (datastoreSpend adminStore transferInner) = .ok store ∧
    hydrate wallet (datastoreSpend adminStore ⟨adminPuzzle, .atom []⟩) = .ok store' ∧
    store.info.launcherId = store'.info.launcherId ∧ store.proof = store'.proof := by
  have byAdmin : (hydrate wallet (datastoreSpend adminStore ⟨adminPuzzle, .atom []⟩)).isOk = true := by
    decide +kernel
  obtain ⟨store, hydrated⟩ := except_isOk_iff.mp transfer_hydrates
  obtain ⟨store', hydrated'⟩ := except_isOk_iff.mp byAdmin
  have sameReveal : (datastoreSpend adminStore transferInner).puzzleReveal =
      (datastoreSpend adminStore ⟨adminPuzzle, .atom []⟩).puzzleReveal := delegated_reveal (by decide) _ _
  have collisionFree : Set.InjOn wallet.treeHash (revealedPuzzles wallet
      (datastoreSpend adminStore transferInner).puzzleReveal
      (datastoreSpend adminStore ⟨adminPuzzle, .atom []⟩).puzzleReveal) := by
    rw [sameReveal]
    rintro puzzle (decoded | decoded) puzzle' (decoded' | decoded') _
    all_goals exact Except.ok.inj (decoded.symm.trans decoded')
  exact ⟨store, store', hydrated, hydrated', hydrated_identity_fixed_by_coin identityLaw collisionFree
    hydrated hydrated'⟩

end Samples

end DigMerkle
