import DigMerkle.Reference.Wallet
import Mathlib.Data.List.Nodup
import Mathlib.Data.Set.Function

namespace DigMerkle.Reference

open Library

@[simp] theorem wallet_treeHash : wallet.treeHash = treeHash := rfl
@[simp] theorem wallet_run : wallet.run = run := rfl
@[simp] theorem wallet_programToClvm : wallet.programToClvm = deserialize := rfl
@[simp] theorem wallet_storeSpend : wallet.storeSpend = storeSpend := rfl

theorem bytes32?_eq_some {bytes : List UInt8} {value : Bytes32} :
    bytes32? bytes = some value ↔ bytes = value.bytes := by
  constructor
  · intro read
    unfold bytes32? at read
    split at read
    · cases read
      rfl
    · cases read
  · intro same
    subst same
    exact bytes32?_bytes value

theorem asDelegation_eq_some {puzzle : Clvm} :
    asDelegation puzzle = some (launcherId, owner, root) ↔ puzzle = delegationPuzzle launcherId owner root := by
  constructor
  · intro read
    unfold asDelegation at read
    split at read
    · simp only [bind, Option.bind_eq_some_iff, pure, Option.some.injEq, Prod.mk.injEq] at read
      obtain ⟨_, first, _, second, _, third, rfl, rfl, rfl⟩ := read
      rw [bytes32?_eq_some] at first second third
      subst first second third
      rfl
    · cases read
  · intro same
    subst same
    simp [asDelegation, delegationPuzzle, BytesImpl.toClvm]

theorem storeSpend_eq_some {puzzle solution : Clvm} {view : StoreSpend} :
    storeSpend puzzle solution = some view ↔
      puzzle = singletonPuzzle view.launcherId
        (statePuzzle view.metadata view.metadataUpdaterPuzzleHash view.innerPuzzle) ∧
      solution = .pair singletonMod view.innerSolution := by
  constructor
  · intro read
    unfold storeSpend at read
    split at read
    · simp only [bind, Option.bind_eq_some_iff, pure, Option.some.injEq] at read
      obtain ⟨_, first, _, second, rfl⟩ := read
      rw [bytes32?_eq_some] at first second
      subst first second
      exact ⟨rfl, rfl⟩
    · cases read
  · intro same
    rcases same with ⟨rfl, rfl⟩
    simp [storeSpend, singletonPuzzle, statePuzzle, singletonMod, BytesImpl.toClvm]

theorem delegationSpend_eq_some {puzzle solution : Clvm} {layer : DelegationSpend}
    (parsed : delegationSpend puzzle solution = some layer) :
    ∃ proof, puzzle = delegationPuzzle layer.launcherId layer.ownerPuzzleHash layer.merkleRoot ∧
      solution = .pair proof (.pair layer.puzzle layer.solution) ∧
      layer.merkleProof = if proof = .atom [] then none else some proof := by
  unfold delegationSpend at parsed
  split at parsed
  · simp only [bind, Option.bind_eq_some_iff, pure, Option.some.injEq] at parsed
    obtain ⟨⟨launcherId, owner, root⟩, curried, rfl⟩ := parsed
    exact ⟨_, asDelegation_eq_some.mp curried, rfl, rfl⟩
  · cases parsed

theorem curryLaw : CurryLaw wallet where
  standard _ := rfl
  delegation parsed := by
    obtain ⟨_, rfl, _, _⟩ := delegationSpend_eq_some parsed
    rfl
  store parsed := by
    obtain ⟨rfl, _⟩ := storeSpend_eq_some.mp parsed
    rfl

theorem run_plain {puzzle : Clvm} (plain : asDelegation puzzle = none) (solution : Clvm) :
    run puzzle solution = runPlain puzzle solution := by
  unfold run
  split
  · rw [plain]
  · rfl

theorem emitted_standard (publicKey : PublicKey) (conditions : Conditions) :
    wallet.emitted (standardPuzzle publicKey) (encodeConditions conditions) =
      .ok (.aggSigMe publicKey :: conditions) := by
  have output : run (standardPuzzle publicKey) (encodeConditions conditions) =
      .ok (encodeConditions (.aggSigMe publicKey :: conditions)) := by
    rw [run_plain rfl]
    rfl
  change (run (standardPuzzle publicKey) (encodeConditions conditions) >>= fun output =>
    (decodeConditions output).mapError fun _ => failure "from clvm") = _
  rw [output]
  change (decodeConditions (encodeConditions (.aggSigMe publicKey :: conditions))).mapError _ = _
  rw [decodeConditions_encodeConditions]
  rfl

theorem standardLaw : StandardLaw wallet where
  reveals success := by
    cases success
    rfl
  emits success _ := by
    cases success
    exact emitted_standard _ _
  undelegated publicKey solution := by
    change delegationSpend (standardPuzzle publicKey) solution = none
    unfold delegationSpend
    split <;> rfl

theorem listedIn_ofList (leaf : Clvm) (nodes : List Clvm) :
    listedIn leaf (.ofList nodes) = true ↔ leaf ∈ nodes := by
  induction nodes with
  | nil => simp [Clvm.ofList, listedIn]
  | cons node nodes ih =>
    rw [Clvm.ofList, listedIn, Bool.or_eq_true, ih, beq_iff_eq, List.mem_cons, eq_comm]

theorem merkleProof_eq_some {set : List DelegatedPuzzle} {puzzleHash : Bytes32} {proof : Clvm}
    (shown : merkleProof set puzzleHash = some proof) :
    proof = merkleTree set ∧ proof ≠ .atom [] ∧ listedIn puzzleHash.toClvm proof = true := by
  unfold merkleProof at shown
  split at shown
  · rename_i member
    cases shown
    obtain ⟨puzzle, listed, rfl⟩ := List.mem_map.mp member
    refine ⟨rfl, ?_, (listedIn_ofList _ _).mpr (List.mem_map.mpr ⟨puzzle, listed, rfl⟩)⟩
    cases set with
    | nil => cases listed
    | cons head tail => simp [merkleTree, Clvm.ofList]
  · cases shown

theorem authority_eq (launcherId owner : Bytes32) (set : List DelegatedPuzzle) :
    authorityPuzzleHash wallet launcherId owner set = .ok (authority launcherId owner set) := by
  unfold authorityPuzzleHash authority
  split <;> rfl

theorem launcherSolution_store (solution : Clvm) : launcherSolution (.pair singletonMod solution) = none := rfl

theorem delegationSpend_layers (launcherId owner root : Bytes32) (set : List DelegatedPuzzle)
    (inner innerSolution : Clvm) :
    delegationSpend (delegationPuzzle launcherId owner root)
      (.pair ((merkleProof set (treeHash inner)).getD (.atom [])) (.pair inner innerSolution)) =
      some ⟨launcherId, owner, root, merkleProof set (treeHash inner), inner, innerSolution⟩ := by
  simp only [delegationSpend, asDelegation_eq_some.mpr rfl, bind, Option.bind_some, pure]
  cases leaf : merkleProof set (treeHash inner) with
  | none => simp
  | some proof =>
    obtain ⟨_, present, _⟩ := merkleProof_eq_some leaf
    simp [present]

/-- What a store's spend shows. -/
def spentView (store : Datastore DigDataStoreMetadata) (inner : Spend) : StoreSpend :=
  ⟨store.info.launcherId, store.info.metadata.toClvm, updaterHash, (innerLayers store.info inner).1,
    (innerLayers store.info inner).2⟩

theorem datastoreSpend_shape (store : Datastore DigDataStoreMetadata) (inner : Spend) :
    IsStoreSpend wallet (datastoreSpend store inner) (spentView store inner) := by
  refine ⟨singletonPuzzle store.info.launcherId (statePuzzle store.info.metadata.toClvm updaterHash
    (innerLayers store.info inner).1), deserialize_serialize _,
    .pair singletonMod (innerLayers store.info inner).2, deserialize_serialize _, ?_⟩
  rw [wallet_storeSpend, storeSpend_eq_some]
  exact ⟨rfl, rfl⟩

theorem storeSpendLaw : StoreSpendLaw wallet where
  spent := by
    intro store inner allocator spend after success
    cases success
    refine ⟨rfl, spentView store inner, datastoreSpend_shape store inner, rfl, rfl, rfl, fun empty => ?_,
      fun nonempty => ⟨merkleRoot store.info.delegatedPuzzles, rfl, ?_⟩⟩
    · simp [spentView, innerLayers, empty]
    · have layers : innerLayers store.info inner = (delegationPuzzle store.info.launcherId
          store.info.ownerPuzzleHash (merkleRoot store.info.delegatedPuzzles),
          .pair ((merkleProof store.info.delegatedPuzzles (treeHash inner.puzzle)).getD (.atom []))
            (.pair inner.puzzle inner.solution)) := by
        simp [innerLayers, nonempty]
      rw [spentView, layers]
      exact delegationSpend_layers _ _ _ _ _ _

theorem conditionLaw : ConditionLaw wallet where
  newMetadata success := by
    cases success
    rfl
  recreate success := by
    cases success
    exact ⟨_, authority_eq _ _ _, rfl⟩
  amount_odd := by decide

theorem stageLaw : StageLaw wallet where
  staged success := by
    cases success
    exact ⟨_, rfl, rfl, deserialize_serialize _, deserialize_serialize _⟩

theorem memosLaw : MemosLaw wallet where
  listed success := by
    cases success
    rfl

theorem hintLaw : HintLaw wallet where
  hinted success := by
    cases success
    rfl

theorem portableLaw : PortableLaw wallet where
  standard _ _ := Fallible.replays_pure _ _
  stage _ _ := by
    intro state state' value value' after after' success success'
    cases success
    cases success'
    exact ⟨rfl, _, rfl, rfl⟩
  mint _ _ _ _ := by
    intro state state' value value' after after' success success'
    cases success
    cases success'
    exact ⟨rfl, _, rfl, rfl⟩

theorem launcherLaw : LauncherLaw wallet where
  coin _ _ := rfl
  singletonAmount _ _ := rfl
  conditions _ _ := ⟨_, rfl⟩

theorem launcherSolution_encode (opened : LauncherSolution) :
    launcherSolution (encodeLauncherSolution opened) = some opened := by
  have memos : (Clvm.ofList (opened.memos.map .atom)).decodeList Clvm.decodeAtom = .ok opened.memos :=
    Clvm.decodeList_ofList opened.memos fun _ _ => rfl
  simp [encodeLauncherSolution, launcherSolution, BytesImpl.toClvm, memos, Except.toOption]

theorem mintLaw : MintLaw wallet where
  failed refused := by cases refused
  staged success := by
    cases success
    exact ⟨_, rfl, rfl⟩
  conditions success := by
    cases success
    exact ⟨_, rfl⟩
  amount success := by
    cases success
    rfl
  store success := by
    cases success
    refine ⟨_, authority_eq _ _ _, rfl, fun spend staged => ?_⟩
    have same := List.append_cancel_left staged
    cases same
    rw [wallet_programToClvm]
    exact ⟨⟨launcherPuzzle, deserialize_serialize _, rfl⟩, _, deserialize_serialize _,
      launcherSolution_encode _⟩

theorem asCurried_eq_some {puzzle : Clvm} {curried : CurriedPuzzle} (shown : asCurried puzzle = some curried) :
    ∃ mod, puzzle = .pair mod curried.args ∧ curried.modHash = treeHash mod := by
  cases puzzle with
  | atom bytes => cases shown
  | pair mod args =>
    cases shown
    exact ⟨mod, rfl, rfl⟩

theorem numberedPuzzle_args (mintNumber mintTotal : UInt64) :
    asCurried (numberedPuzzle mintNumber mintTotal) = some ⟨wallet.nftIntermediateLauncherHash,
      .pair (treeHash launcherPuzzle).toClvm (.pair (.atom (amountBytes mintNumber)) (.atom (amountBytes mintTotal)))⟩ ∧
    wallet.nftIntermediateLauncherArgs
      (.pair (treeHash launcherPuzzle).toClvm (.pair (.atom (amountBytes mintNumber)) (.atom (amountBytes mintTotal)))) =
        some ⟨wallet.singletonLauncherHash, mintNumber.toNat, mintTotal.toNat⟩ := by
  refine ⟨rfl, ?_⟩
  simp [wallet, base, mintNumbers, BytesImpl.toClvm]

theorem intermediateLaw : IntermediateLaw wallet where
  created := by
    intro parentCoinId mintNumber mintTotal ctx launcher after success
    cases success
    obtain ⟨curried, args⟩ := numberedPuzzle_args mintNumber mintTotal
    refine ⟨_, rfl, ⟨?_, .atom [], ?_⟩, rfl⟩
    · refine ⟨numberedPuzzle mintNumber mintTotal, _, ?_, rfl, curried, rfl, args⟩
      rw [wallet_programToClvm]
      exact deserialize_serialize _
    · rw [wallet_programToClvm]
      exact deserialize_serialize _
  notDid := by
    intro coin puzzle solution curried shown mod
    obtain ⟨actual, rfl, hash⟩ := asCurried_eq_some shown
    have other : actual ≠ singletonMod := by
      intro same
      rw [hash, same] at mod
      exact absurd mod (by decide +kernel)
    change didParse coin (.pair actual curried.args) solution = .ok none
    unfold didParse
    split
    · rename_i same
      exact absurd (Clvm.pair.inj same).1 other
    · rfl

theorem intermediateArgs_eq_some {node : Clvm} {args : NftIntermediateLauncherArgs}
    (shown : wallet.nftIntermediateLauncherArgs node = some args) :
    ∃ numbers, node = .pair args.launcherPuzzleHash.toClvm numbers := by
  simp only [wallet, base] at shown
  split at shown
  · obtain ⟨hash, read, rfl⟩ := Option.map_eq_some_iff.mp shown
    rw [bytes32?_eq_some.mp read]
    exact ⟨_, rfl⟩
  · cases shown

theorem intermediateRunLaw : IntermediateRunLaw wallet (.pair intermediateMod) where
  hash := by
    intro puzzle curried shown mod
    obtain ⟨actual, rfl, hash⟩ := asCurried_eq_some shown
    have same : treeHash actual = treeHash intermediateMod := hash.symm.trans mod
    change pairHash (treeHash actual) (treeHash curried.args) = pairHash (treeHash intermediateMod) (treeHash curried.args)
    rw [same]
  emits := by
    intro node args solution shown
    obtain ⟨numbers, rfl⟩ := intermediateArgs_eq_some shown
    refine ⟨[.createCoin ⟨args.launcherPuzzleHash, 1, .none⟩], .none, ?_, rfl⟩
    rw [Sdk.emitted, wallet_run, run_plain rfl]
    change (decodeConditions (encodeConditions [.createCoin ⟨args.launcherPuzzleHash, 1, .none⟩])).mapError _ = _
    rw [decodeConditions_encodeConditions]
    rfl

theorem memoLaw : MemoLaw wallet where
  bare _ _ _ := rfl
  hinted launcherId metadata inner owner set _ := by
    change memoAuthority inner (launcherId.bytes :: owner.bytes :: set.map delegatedMemo) = _
    simp [memoAuthority]
  nonempty _ _ _ := by simp [wallet, base, recreationMemos]

theorem fromSpend_recreation {spend : CoinSpend} {view : StoreSpend}
    (singleton : spend.coin.puzzleHash ≠ wallet.singletonLauncherHash) (shape : IsStoreSpend wallet spend view)
    (set : List DelegatedPuzzle) :
    wallet.fromSpend spend set = (readRecreation spend.coin view set).map some := by
  obtain ⟨puzzle, reveal, solution, solved, layers⟩ := shape
  have puzzleRead : deserialize spend.puzzleReveal = .ok puzzle := reveal
  have solutionRead : deserialize spend.solution = .ok solution := solved
  have layersRead : storeSpend puzzle solution = some view := layers
  have ordinary : ¬ spend.coin.puzzleHash = treeHash launcherPuzzle := singleton
  change readSpend spend set = _
  simp [readSpend, puzzleRead, solutionRead, layersRead, ordinary, bind, Except.bind, Except.mapError]

theorem fromSpendLaw : FromSpendLaw wallet where
  launched := by
    intro spend solution opened set launcher solved parsed store
    have solutionRead : deserialize spend.solution = .ok solution := solved
    have openedRead : launcherSolution solution = some opened := parsed
    have launching : spend.coin.puzzleHash = treeHash launcherPuzzle := launcher
    change readSpend spend set = .ok (some store) ↔ launchedStore base spend.coin opened = .ok store
    simp [readSpend, solutionRead, openedRead, launching, except_map_eq_ok, bind, Except.bind, Except.mapError]
  misplaced := by
    intro spend view set launcher shape
    obtain ⟨puzzle, _, solution, solved, layers⟩ := shape
    obtain ⟨_, layered⟩ := storeSpend_eq_some.mp layers
    have solutionRead : deserialize spend.solution = .ok solution := solved
    have openedRead : launcherSolution solution = none := by
      rw [layered]
      exact launcherSolution_store _
    have launching : spend.coin.puzzleHash = treeHash launcherPuzzle := launcher
    refine ⟨failure "not a launcher solution", ?_⟩
    change readSpend spend set = _
    simp [readSpend, solutionRead, openedRead, launching, bind, Except.bind, Except.mapError]
  child := by
    intro spend view conditions set singleton shape emitted some_odd once listed
    have ran : base.emitted view.innerPuzzle view.innerSolution = .ok conditions := emitted
    obtain ⟨created, others, odd⟩ := List.exists_cons_of_ne_nil some_odd
    have member : created ∈ oddCreateCoins conditions := by
      rw [odd]
      exact List.mem_cons_self
    obtain ⟨memos, shown⟩ := listed created member
    refine ⟨created, member, memos, shown, fun store => ?_⟩
    rw [fromSpend_recreation singleton shape]
    change _ ↔ recreatedStore base spend.coin view conditions created memos set = .ok store
    simp [readRecreation, ran, odd, shown, except_map_eq_ok, bind, Except.bind]
  stuck := by
    intro spend view error set singleton shape emitted
    have ran : base.emitted view.innerPuzzle view.innerSolution = .error error := emitted
    refine ⟨error, ?_⟩
    rw [fromSpend_recreation singleton shape]
    simp [readRecreation, ran, bind, Except.bind, Except.map]

theorem launcherReadLaw : LauncherReadLaw wallet where
  unopened := by
    intro spend set launcher unopened
    have launching : spend.coin.puzzleHash = treeHash launcherPuzzle := launcher
    change Fails (readSpend spend set)
    cases solved : deserialize spend.solution with
    | error error => simp [readSpend, solved, bind, Except.bind, Except.mapError]
    | ok solution =>
      cases opened : launcherSolution solution with
      | some found => exact absurd opened (unopened solution found solved)
      | none => simp [readSpend, solved, opened, launching, bind, Except.bind, Except.mapError]

theorem launchedStore_identity {coin : Coin} {opened : LauncherSolution} {store : Datastore DigDataStoreMetadata}
    (read : launchedStore base coin opened = .ok store) :
    store.info.launcherId = coinId coin ∧ store.proof = .eve ⟨coin.parentCoinInfo, coin.amount⟩ := by
  obtain ⟨_, _, _, _, _, rfl⟩ := launchedStore_eq_ok.mp read
  exact ⟨rfl, rfl⟩

theorem readRecreation_identity {coin : Coin} {view : StoreSpend} {set : List DelegatedPuzzle}
    {store : Datastore DigDataStoreMetadata} (read : readRecreation coin view set = .ok store) :
    store.info.launcherId = view.launcherId ∧ store.proof = lineageOf base coin view := by
  obtain ⟨conditions, _, rest⟩ := except_bind_eq_ok.mp read
  split at rest
  · split at rest
    · obtain ⟨_, _, built⟩ := except_bind_eq_ok.mp rest
      split at built
      · obtain ⟨_, _, finish⟩ := except_bind_eq_ok.mp built
        cases finish
        exact ⟨rfl, rfl⟩
      · obtain ⟨_, _, finish⟩ := except_bind_eq_ok.mp built
        cases finish
        exact ⟨rfl, rfl⟩
    · cases rest
  · cases rest

theorem identityLaw : IdentityLaw wallet where
  launched := by
    intro spend set store parsed launcher
    have launching : spend.coin.puzzleHash = treeHash launcherPuzzle := launcher
    obtain ⟨solution, _, rest⟩ := except_bind_eq_ok.mp parsed
    rw [if_pos launching] at rest
    split at rest
    · obtain ⟨found, read, same⟩ := except_map_eq_ok.mp rest
      cases same
      exact launchedStore_identity read
    · cases rest
  recreated := by
    intro spend set store parsed singleton
    have ordinary : ¬ spend.coin.puzzleHash = treeHash launcherPuzzle := singleton
    obtain ⟨solution, solved, rest⟩ := except_bind_eq_ok.mp parsed
    rw [if_neg ordinary] at rest
    obtain ⟨puzzle, reveal, rest⟩ := except_bind_eq_ok.mp rest
    split at rest
    · rename_i view layers
      obtain ⟨found, read, same⟩ := except_map_eq_ok.mp rest
      cases same
      exact ⟨view, ⟨puzzle, except_mapError_eq_ok.mp reveal, solution, except_mapError_eq_ok.mp solved, layers⟩,
        readRecreation_identity read⟩
    · cases rest
  puzzleAlone := by
    intro puzzle solution solution' view view' first second
    obtain ⟨same, _⟩ := storeSpend_eq_some.mp first
    obtain ⟨same', _⟩ := storeSpend_eq_some.mp second
    obtain ⟨_, inner⟩ := Clvm.pair.inj (same.symm.trans same')
    obtain ⟨launcherId, state⟩ := Clvm.pair.inj inner
    obtain ⟨_, layer⟩ := Clvm.pair.inj state
    obtain ⟨metadata, rest⟩ := Clvm.pair.inj layer
    obtain ⟨updater, innerPuzzle⟩ := Clvm.pair.inj rest
    refine ⟨BytesImpl.toClvm_injective launcherId, ?_⟩
    rw [StoreSpend.stateLayerHash, StoreSpend.stateLayerHash, metadata, innerPuzzle,
      BytesImpl.toClvm_injective updater]

theorem spendLaws : SpendLaws wallet := ⟨curryLaw, standardLaw, storeSpendLaw, conditionLaw⟩

theorem didParse_eq_some {coin : Coin} {puzzle solution : Clvm} {did : Bytes32}
    (parsed : didParse coin puzzle solution = .ok (some did)) :
    ∃ rest, puzzle = .pair singletonMod (.pair did.toClvm rest) := by
  unfold didParse at parsed
  split at parsed
  · have read := bytes32?_eq_some.mp (Except.ok.inj parsed)
    subst read
    exact ⟨_, rfl⟩
  · cases Except.ok.inj parsed

theorem didParseLaw : DidParseLaw wallet where
  puzzle_alone first second := by
    obtain ⟨rest, rfl⟩ := didParse_eq_some first
    obtain ⟨_, same⟩ := didParse_eq_some second
    obtain ⟨_, inner⟩ := Clvm.pair.inj same
    exact BytesImpl.toClvm_injective (Clvm.pair.inj inner).1
  singleton parsed := by
    obtain ⟨rest, rfl⟩ := didParse_eq_some parsed
    exact ⟨_, rfl, rfl⟩
  distinct_mods := by decide +kernel

theorem ordinaryPuzzleLaw : OrdinaryPuzzleLaw wallet where
  standard publicKey := by
    have mods : treeHash (.atom [112]) ≠ treeHash singletonMod ∧ treeHash (.atom [112]) ≠ treeHash intermediateMod := by
      decide +kernel
    exact ⟨⟨treeHash (.atom [112]), publicKey.toClvm⟩, rfl, mods⟩
  notDid := by
    intro coin puzzle solution curried shown other
    obtain ⟨mod, rfl, hash⟩ := asCurried_eq_some shown
    change didParse coin (.pair mod curried.args) solution = .ok none
    cases parsed : didParse coin (.pair mod curried.args) solution with
    | error error =>
      unfold didParse at parsed
      split at parsed <;> cases parsed
    | ok found =>
      cases found with
      | none => rfl
      | some did =>
        obtain ⟨rest, same⟩ := didParse_eq_some parsed
        cases (Clvm.pair.inj same).1
        exact absurd hash other

theorem injOn_of_nodup {image : α → β} {listed : List α} (distinct : (listed.map image).Nodup) {values : Set α}
    (covered : ∀ value ∈ values, value ∈ listed) : Set.InjOn image values := by
  intro value member other member' same
  exact List.inj_on_of_nodup_map distinct (covered value member) (covered other member') same

end DigMerkle.Reference
