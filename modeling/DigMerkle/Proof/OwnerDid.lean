import DigMerkle.Reference.Laws
import Mathlib.Data.List.Nodup
import Mathlib.Data.Set.Function

namespace DigMerkle

open Library

variable {Allocator : Type} {sdk : Sdk Allocator}

theorem readSpendOf_eq_some {chain : ChainSource} {coinId : Bytes32} {refusal : Bytes32 → String}
    {spend : CoinSpend} : readSpendOf sdk chain coinId refusal = .ok (some spend) ↔
      chain coinId = .ok (some spend) ∧ sdk.coinId spend.coin = coinId := by
  simp only [readSpendOf, readCoinSpend, except_bind_eq_ok, except_mapError_eq_ok]
  constructor
  · intro success
    rcases success with ⟨answer, served, bound⟩
    cases answer with
    | none => cases bound
    | some answered =>
      dsimp only at bound
      split at bound
      · cases bound
      · rename_i same
        cases bound
        exact ⟨served, not_not.mp same⟩
  · intro answered
    rcases answered with ⟨served, same⟩
    exact ⟨_, served, by simp [same]⟩

theorem didRefFromSpend_eq_ok {spend : CoinSpend} {found : Option DidRef} :
    didRefFromSpend sdk spend = .ok found ↔ ∃ puzzle solution did, Reveals sdk spend puzzle ∧
      sdk.programToClvm spend.solution = .ok solution ∧
      sdk.didParse spend.coin puzzle solution = .ok did ∧ did.map DidRef.mk = found := by
  simp only [didRefFromSpend, parseProgram, except_bind_eq_ok, except_mapError_eq_ok]
  constructor
  · intro recognised
    rcases recognised with ⟨puzzle, reveal, solution, solved, rest⟩
    split at rest
    · cases rest
    · rename_i same
      obtain ⟨did, parsed, shown⟩ := except_bind_eq_ok.mp rest
      rw [except_mapError_eq_ok] at parsed
      exact ⟨puzzle, solution, did, ⟨reveal, not_not.mp same⟩, solved, parsed, Except.ok.inj shown⟩
  · intro bound
    rcases bound with ⟨puzzle, solution, did, ⟨reveal, same⟩, solved, parsed, rfl⟩
    refine ⟨puzzle, reveal, solution, solved, ?_⟩
    rw [if_neg (not_not.mpr same), except_bind_eq_ok]
    exact ⟨did, except_mapError_eq_ok.mpr parsed, rfl⟩

theorem didRefFromSpend_eq_some {spend : CoinSpend} {didRef : DidRef} :
    didRefFromSpend sdk spend = .ok (some didRef) ↔ ∃ puzzle solution, Reveals sdk spend puzzle ∧
      sdk.programToClvm spend.solution = .ok solution ∧
      sdk.didParse spend.coin puzzle solution = .ok (some didRef.launcherId) := by
  rw [didRefFromSpend_eq_ok]
  constructor
  · intro recognised
    rcases recognised with ⟨puzzle, solution, did, reveal, solved, parsed, shown⟩
    obtain ⟨launcherId, rfl, rfl⟩ := Option.map_eq_some_iff.mp shown
    exact ⟨puzzle, solution, reveal, solved, parsed⟩
  · intro spent
    rcases spent with ⟨puzzle, solution, reveal, solved, parsed⟩
    exact ⟨puzzle, solution, _, reveal, solved, parsed, rfl⟩

theorem intermediateLauncherHash_eq_some {puzzle : Clvm} {launcherPuzzleHash : Bytes32} :
    intermediateLauncherHash sdk puzzle = some launcherPuzzleHash ↔ ∃ curried args,
      sdk.asCurried puzzle = some curried ∧ curried.modHash = sdk.nftIntermediateLauncherHash ∧
      sdk.nftIntermediateLauncherArgs curried.args = some args ∧ args.launcherPuzzleHash = launcherPuzzleHash := by
  unfold intermediateLauncherHash
  cases parsed : sdk.asCurried puzzle with
  | none => simp
  | some curried =>
    by_cases mod : curried.modHash = sdk.nftIntermediateLauncherHash
    · simp [mod, Option.map_eq_some_iff]
    · simp [mod]

/-- The intermediates that the walk recognises: worthless coins that run the
intermediate launcher's mod, over the launcher they create at one mojo. -/
theorem isLauncherIntermediate_eq_true {spend : CoinSpend} {launcherCoin : Coin} :
    isLauncherIntermediate sdk spend launcherCoin = true ↔ spend.coin.amount = 0 ∧ ∃ puzzle curried args,
      Reveals sdk spend puzzle ∧ sdk.asCurried puzzle = some curried ∧
      curried.modHash = sdk.nftIntermediateLauncherHash ∧
      sdk.nftIntermediateLauncherArgs curried.args = some args ∧
      args.launcherPuzzleHash = sdk.singletonLauncherHash ∧
      sdk.coinId ⟨sdk.coinId spend.coin, sdk.singletonLauncherHash, 1⟩ = sdk.coinId launcherCoin := by
  unfold isLauncherIntermediate
  constructor
  · intro intermediate
    split at intermediate
    · cases intermediate
    · rename_i worthless
      split at intermediate
      · cases intermediate
      · rename_i puzzle reveal
        split at intermediate
        · cases intermediate
        · rename_i same
          cases hash : intermediateLauncherHash sdk puzzle with
          | none =>
            rw [hash] at intermediate
            cases intermediate
          | some launcherPuzzleHash =>
            obtain ⟨curried, args, parsed, mod, shown, rfl⟩ := intermediateLauncherHash_eq_some.mp hash
            by_cases launcher : args.launcherPuzzleHash = sdk.singletonLauncherHash
            · have derived : sdk.coinId ⟨sdk.coinId spend.coin, sdk.singletonLauncherHash, 1⟩ =
                  sdk.coinId launcherCoin := by
                simpa [hash, launcher] using intermediate
              exact ⟨not_not.mp worthless, puzzle, curried, args, ⟨reveal, not_not.mp same⟩, parsed, mod, shown,
                launcher, derived⟩
            · simp [hash, launcher] at intermediate
  · intro shape
    rcases shape with ⟨worthless, puzzle, curried, args, ⟨reveal, same⟩, parsed, mod, shown, launcher, derived⟩
    have hash : intermediateLauncherHash sdk puzzle = some sdk.singletonLauncherHash :=
      intermediateLauncherHash_eq_some.mpr ⟨curried, args, parsed, mod, shown, launcher⟩
    simp [worthless, reveal, same, hash, derived]

/-- The hop of a walk that recognised the DID, from the creator of the launcher. -/
inductive Recognised (sdk : Sdk Allocator) (chain : ChainSource) (launcherCoin : Coin)
    (creator : CoinSpend) (didRef : DidRef) : Prop where
  | first (recognised : didRefFromSpend sdk creator = .ok (some didRef))
  | second (singleton : CoinSpend) (intermediate : isLauncherIntermediate sdk creator launcherCoin = true)
      (read : readBoundSpend sdk chain creator.coin.parentCoinInfo = .ok (some singleton))
      (recognised : didRefFromSpend sdk singleton = .ok (some didRef))

/-- Everything a walk that found a DID has read. -/
theorem resolveOwnerDid_eq_some {storeId : Bytes32} {chain : ChainSource} {didRef : DidRef}
    (resolved : resolveOwnerDid sdk storeId chain = .ok (some didRef)) :
    ∃ launcher creator, readLauncherSpend sdk chain storeId = .ok (some launcher) ∧
      readBoundSpend sdk chain launcher.coin.parentCoinInfo = .ok (some creator) ∧
      Recognised sdk chain launcher.coin creator didRef := by
  obtain ⟨launcher, read, rest⟩ := except_bind_eq_ok.mp resolved
  cases launcher with
  | none => cases rest
  | some launcher =>
    obtain ⟨creator, readCreator, rest⟩ := except_bind_eq_ok.mp rest
    cases creator with
    | none => cases rest
    | some creator =>
      refine ⟨launcher, creator, read, readCreator, ?_⟩
      obtain ⟨found, parsed, rest⟩ := except_bind_eq_ok.mp rest
      cases found with
      | some found =>
        cases rest
        exact .first parsed
      | none =>
        unfold resolveThroughIntermediate at rest
        dsimp only at rest
        split at rest
        · rename_i intermediate
          obtain ⟨singleton, readSingleton, rest⟩ := except_bind_eq_ok.mp rest
          cases singleton with
          | none => cases rest
          | some singleton => exact .second singleton intermediate readSingleton rest
        · cases rest

/-- The spends a source serves for a store's launcher and its ancestors. -/
inductive Ancestry (chain : ChainSource) (storeId : Bytes32) : CoinSpend → Prop where
  | launcher (served : chain storeId = .ok (some spend)) : Ancestry chain storeId spend
  | parent (descendant : Ancestry chain storeId child)
      (served : chain child.coin.parentCoinInfo = .ok (some spend)) : Ancestry chain storeId spend

/-- The spends that two sources serve for one store. -/
def servedSpends (storeId : Bytes32) (chain chain' : ChainSource) : Set CoinSpend :=
  {spend | Ancestry chain storeId spend ∨ Ancestry chain' storeId spend}

/-- No two served coins share an id, and no two served puzzles a tree hash. -/
structure CollisionFree (sdk : Sdk Allocator) (served : Set CoinSpend) : Prop where
  coins : Set.InjOn sdk.coinId {coin | ∃ spend ∈ served, spend.coin = coin}
  puzzles : Set.InjOn sdk.treeHash
    {puzzle | ∃ spend ∈ served, sdk.programToClvm spend.puzzleReveal = .ok puzzle}

theorem CollisionFree.same_coin {served : Set CoinSpend} (free : CollisionFree sdk served)
    {spend spend' : CoinSpend} (member : spend ∈ served) (member' : spend' ∈ served)
    (same : sdk.coinId spend.coin = sdk.coinId spend'.coin) : spend.coin = spend'.coin :=
  free.coins ⟨spend, member, rfl⟩ ⟨spend', member', rfl⟩ same

theorem CollisionFree.same_puzzle {served : Set CoinSpend} (free : CollisionFree sdk served)
    {spend spend' : CoinSpend} (member : spend ∈ served) (member' : spend' ∈ served)
    {puzzle puzzle' : Clvm} (reveal : Reveals sdk spend puzzle) (reveal' : Reveals sdk spend' puzzle')
    (same : spend.coin = spend'.coin) : puzzle = puzzle' :=
  free.puzzles ⟨spend, member, reveal.1⟩ ⟨spend', member', reveal'.1⟩
    (by rw [reveal.2, reveal'.2, same])

theorem same_did (parse : DidParseLaw sdk) {served : Set CoinSpend} (free : CollisionFree sdk served)
    {spend spend' : CoinSpend} (member : spend ∈ served) (member' : spend' ∈ served)
    (same : spend.coin = spend'.coin) {didRef didRef' : DidRef}
    (recognised : didRefFromSpend sdk spend = .ok (some didRef))
    (recognised' : didRefFromSpend sdk spend' = .ok (some didRef')) : didRef = didRef' := by
  obtain ⟨puzzle, solution, reveal, _, parsed⟩ := didRefFromSpend_eq_some.mp recognised
  obtain ⟨puzzle', solution', reveal', _, parsed'⟩ := didRefFromSpend_eq_some.mp recognised'
  have samePuzzle := free.same_puzzle member member' reveal reveal' same
  subst samePuzzle
  cases didRef
  cases didRef'
  exact congrArg DidRef.mk (parse.puzzle_alone parsed parsed')

/-- A coin that one source reveals as a DID is no intermediate under another. -/
theorem did_not_intermediate (parse : DidParseLaw sdk) {served : Set CoinSpend}
    (free : CollisionFree sdk served) {spend spend' : CoinSpend} (member : spend ∈ served)
    (member' : spend' ∈ served) (same : spend.coin = spend'.coin) {didRef : DidRef} {launcherCoin : Coin}
    (recognised : didRefFromSpend sdk spend = .ok (some didRef)) :
    isLauncherIntermediate sdk spend' launcherCoin ≠ true := by
  intro intermediate
  obtain ⟨puzzle, solution, reveal, _, parsed⟩ := didRefFromSpend_eq_some.mp recognised
  obtain ⟨_, puzzle', curried', _, reveal', shown', mod', _⟩ := isLauncherIntermediate_eq_true.mp intermediate
  have samePuzzle := free.same_puzzle member member' reveal reveal' same
  subst samePuzzle
  obtain ⟨curried, shown, mod⟩ := parse.singleton parsed
  have sameCurried : curried = curried' := Option.some.inj (shown.symm.trans shown')
  subst sameCurried
  exact parse.distinct_mods (mod.symm.trans mod')

/-- Whatever two sources serve, walks that both find a DID find the same one. -/
theorem owner_did_independent_of_source (parse : DidParseLaw sdk) {storeId : Bytes32}
    {chain chain' : ChainSource} (free : CollisionFree sdk (servedSpends storeId chain chain'))
    {didRef didRef' : DidRef} (resolved : resolveOwnerDid sdk storeId chain = .ok (some didRef))
    (resolved' : resolveOwnerDid sdk storeId chain' = .ok (some didRef')) : didRef = didRef' := by
  obtain ⟨launcher, creator, readLauncher, readCreator, hop⟩ := resolveOwnerDid_eq_some resolved
  obtain ⟨launcher', creator', readLauncher', readCreator', hop'⟩ := resolveOwnerDid_eq_some resolved'
  obtain ⟨served, launcherId⟩ := readSpendOf_eq_some.mp readLauncher
  obtain ⟨served', launcherId'⟩ := readSpendOf_eq_some.mp readLauncher'
  obtain ⟨servedCreator, creatorId⟩ := readSpendOf_eq_some.mp readCreator
  obtain ⟨servedCreator', creatorId'⟩ := readSpendOf_eq_some.mp readCreator'
  -- Each coin pins the next: store id, launcher, creator.
  have ancestor := Ancestry.parent (.launcher served) servedCreator
  have ancestor' := Ancestry.parent (.launcher served') servedCreator'
  have sameLauncher := free.same_coin (.inl (.launcher served)) (.inr (.launcher served'))
    (launcherId.trans launcherId'.symm)
  have sameCreator := free.same_coin (.inl ancestor) (.inr ancestor')
    (by rw [creatorId, creatorId', sameLauncher])
  cases hop with
  | first recognised =>
    cases hop' with
    | first recognised' =>
      exact same_did parse free (.inl ancestor) (.inr ancestor') sameCreator recognised recognised'
    | second _ intermediate' _ _ =>
      exact absurd intermediate'
        (did_not_intermediate parse free (.inl ancestor) (.inr ancestor') sameCreator recognised)
  | second singleton intermediate readSingleton recognised =>
    cases hop' with
    | first recognised' =>
      exact absurd intermediate
        (did_not_intermediate parse free (.inr ancestor') (.inl ancestor) sameCreator.symm recognised')
    | second singleton' _ readSingleton' recognised' =>
      obtain ⟨servedSingleton, singletonId⟩ := readSpendOf_eq_some.mp readSingleton
      obtain ⟨servedSingleton', singletonId'⟩ := readSpendOf_eq_some.mp readSingleton'
      have member := Ancestry.parent ancestor servedSingleton
      have member' := Ancestry.parent ancestor' servedSingleton'
      have sameSingleton := free.same_coin (.inl member) (.inr member')
        (by rw [singletonId, singletonId', sameCreator])
      exact same_did parse free (.inl member) (.inr member') sameSingleton recognised recognised'

section Samples

open Reference

def didPuzzle : Clvm := singletonPuzzle (hash32 9) (.pair (.atom [68]) (.atom []))

def didCoin : Coin := ⟨hash32 1, treeHash didPuzzle, 1⟩

def hopCoin : Coin := ⟨coinId didCoin, treeHash intermediatePuzzle, 0⟩

def ownedLauncherCoin : Coin := ⟨coinId hopCoin, wallet.singletonLauncherHash, 1⟩

/-- A DID launched the store through an intermediate, and the source picks the
solutions. -/
def servedLineage (solution : Clvm) : List CoinSpend :=
  [⟨ownedLauncherCoin, serialize launcherPuzzle, serialize solution⟩,
    ⟨hopCoin, serialize intermediatePuzzle, serialize solution⟩,
    ⟨didCoin, serialize didPuzzle, serialize solution⟩]

def lineageSource (solution : Clvm) : ChainSource := fun id =>
  .ok ((servedLineage solution).find? fun spend => coinId spend.coin = id)

theorem lineageSource_serves {solution : Clvm} {id : Bytes32} {spend : CoinSpend}
    (served : lineageSource solution id = .ok (some spend)) : spend ∈ servedLineage solution :=
  List.mem_of_find?_eq_some (Except.ok.inj served)

theorem ancestry_served {solution : Clvm} {storeId : Bytes32} {spend : CoinSpend}
    (ancestor : Ancestry (lineageSource solution) storeId spend) : spend ∈ servedLineage solution := by
  cases ancestor with
  | launcher served => exact lineageSource_serves served
  | parent _ served => exact lineageSource_serves served

theorem servedLineage_decoded {solution : Clvm} {spend : CoinSpend} (member : spend ∈ servedLineage solution) :
    spend.coin ∈ [ownedLauncherCoin, hopCoin, didCoin] ∧ ∀ {puzzle},
      wallet.programToClvm spend.puzzleReveal = .ok puzzle →
      puzzle ∈ [launcherPuzzle, intermediatePuzzle, didPuzzle] := by
  simp only [servedLineage, List.mem_cons, List.not_mem_nil, or_false] at member
  rcases member with rfl | rfl | rfl <;> simp

theorem lineages_collisionFree (solution solution' : Clvm) (storeId : Bytes32) : CollisionFree wallet
    (servedSpends storeId (lineageSource solution) (lineageSource solution')) := by
  have decoded : ∀ {spend}, spend ∈ servedSpends storeId (lineageSource solution) (lineageSource solution') →
      spend.coin ∈ [ownedLauncherCoin, hopCoin, didCoin] ∧ ∀ {puzzle},
        wallet.programToClvm spend.puzzleReveal = .ok puzzle →
        puzzle ∈ [launcherPuzzle, intermediatePuzzle, didPuzzle] := by
    rintro spend (ancestor | ancestor)
    · exact servedLineage_decoded (ancestry_served ancestor)
    · exact servedLineage_decoded (ancestry_served ancestor)
  have ids : ([ownedLauncherCoin, hopCoin, didCoin].map coinId).Nodup := by decide +kernel
  have hashes : ([launcherPuzzle, intermediatePuzzle, didPuzzle].map treeHash).Nodup := by decide +kernel
  constructor
  · apply injOn_of_nodup ids
    rintro _ ⟨spend, served, rfl⟩
    exact (decoded served).1
  · apply injOn_of_nodup hashes
    rintro puzzle ⟨spend, served, reveal⟩
    exact (decoded served).2 reveal

theorem owner_did_independent_of_solutions : ∃ didRef didRef',
    resolveOwnerDid wallet (coinId ownedLauncherCoin) (lineageSource (.atom [])) = .ok (some didRef) ∧
    resolveOwnerDid wallet (coinId ownedLauncherCoin) (lineageSource (.atom [1])) = .ok (some didRef') ∧
    didRef = didRef' := by
  have found : ∀ solution ∈ [Clvm.atom [], .atom [1]],
      resolveOwnerDid wallet (coinId ownedLauncherCoin) (lineageSource solution) = .ok (some ⟨hash32 9⟩) := by
    decide +kernel
  have first := found (.atom []) (by simp)
  have second := found (.atom [1]) (by simp)
  exact ⟨_, _, first, second, owner_did_independent_of_source didParseLaw
    (lineages_collisionFree _ _ _) first second⟩

end Samples

end DigMerkle
