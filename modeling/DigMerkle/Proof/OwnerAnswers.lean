import DigMerkle.Proof.Recogniser

namespace DigMerkle

open Library

variable {Allocator : Type} {sdk : Sdk Allocator}

/-- No read fails, and every answer is the spend asked for, beside the puzzle that its coin
commits to. -/
structure HonestSource (sdk : Sdk Allocator) (chain : ChainSource) : Prop where
  reads : ∀ coinId error, chain coinId ≠ .error error
  genuine : ∀ coinId spend, chain coinId = .ok (some spend) → BoundTo sdk coinId spend

/-- The reveal and the solution decode, and the SDK's parser has an answer for them. -/
def SpendParses (sdk : Sdk Allocator) (spend : CoinSpend) : Prop :=
  ∃ puzzle solution did, sdk.programToClvm spend.puzzleReveal = .ok puzzle ∧
    sdk.programToClvm spend.solution = .ok solution ∧ sdk.didParse spend.coin puzzle solution = .ok did

/-- The spends above the launcher that a walk over an honest source parses. -/
inductive ParsedAbove (sdk : Sdk Allocator) (chain : ChainSource) (storeId : Bytes32) : CoinSpend → Prop where
  | creator (launcherServed : chain storeId = .ok (some launcher))
      (served : chain launcher.coin.parentCoinInfo = .ok (some spend)) : ParsedAbove sdk chain storeId spend
  | beyond (launcherServed : chain storeId = .ok (some launcher))
      (creatorServed : chain launcher.coin.parentCoinInfo = .ok (some creator))
      (plain : didRefFromSpend sdk creator = .ok none)
      (intermediate : isLauncherIntermediate sdk creator launcher.coin = true)
      (served : chain creator.coin.parentCoinInfo = .ok (some spend)) : ParsedAbove sdk chain storeId spend

/-- The walk answers, and its answer is no DID when the launcher's creator is neither a DID
nor a coin it may climb past. -/
structure AnswersHonestly (sdk : Sdk Allocator) (chain : ChainSource) (storeId : Bytes32) : Prop where
  answers : ∃ found, resolveOwnerDid sdk storeId chain = .ok found
  noDid : ∀ launcher creator, chain storeId = .ok (some launcher) →
    chain launcher.coin.parentCoinInfo = .ok (some creator) →
    (∀ didRef, didRefFromSpend sdk creator ≠ .ok (some didRef)) →
    isLauncherIntermediate sdk creator launcher.coin = false → resolveOwnerDid sdk storeId chain = .ok none

section Honest

variable {chain : ChainSource}

theorem HonestSource.not_readRefused (honest : HonestSource sdk chain) (coinId : Bytes32) :
    ¬ ReadRefused sdk chain coinId := by
  intro refused
  cases refused with
  | failed unread => exact honest.reads _ _ unread
  | foreign served other => exact other (honest.genuine _ _ served).coin

theorem HonestSource.readSpendOf_iff (honest : HonestSource sdk chain) {coinId : Bytes32}
    {refusal : Bytes32 → String} {spend : CoinSpend} :
    readSpendOf sdk chain coinId refusal = .ok (some spend) ↔ chain coinId = .ok (some spend) := by
  rw [readSpendOf_eq_some]
  exact ⟨And.left, fun served => ⟨served, (honest.genuine _ _ served).coin⟩⟩

theorem BoundTo.refused_iff {coinId : Bytes32} {spend : CoinSpend} (bound : BoundTo sdk coinId spend) :
    SpendRefused sdk spend ↔ ¬ SpendParses sdk spend := by
  obtain ⟨puzzle, decoded, same⟩ := bound.reveal
  constructor
  · intro refused parses
    obtain ⟨puzzle', solution, did, decoded', solved, parsed⟩ := parses
    cases refused with
    | reveal undecoded => cases undecoded.symm.trans decoded'
    | solution undecoded => cases undecoded.symm.trans solved
    | unbound decoded'' other =>
      cases decoded.symm.trans decoded''
      exact other same
    | parser decoded'' solved' failed =>
      cases decoded'.symm.trans decoded''
      cases solved.symm.trans solved'
      cases failed.symm.trans parsed
  · intro unparsed
    cases solved : sdk.programToClvm spend.solution with
    | error error => exact .solution solved
    | ok solution =>
      cases parsed : sdk.didParse spend.coin puzzle solution with
      | error error => exact .parser decoded solved parsed
      | ok did => exact absurd ⟨puzzle, solution, did, decoded, solved, parsed⟩ unparsed

/-- Over an honest source the walk fails only at a spend it cannot parse. -/
theorem HonestSource.fails_iff (honest : HonestSource sdk chain) {storeId : Bytes32} :
    Fails (resolveOwnerDid sdk storeId chain) ↔
      ∃ spend, ParsedAbove sdk chain storeId spend ∧ ¬ SpendParses sdk spend := by
  rw [resolveOwnerDid_fails_iff]
  constructor
  · intro failed
    rcases failed with unread | ⟨launcher, read, refused⟩
    · exact absurd unread (honest.not_readRefused _)
    · have launcherServed := honest.readSpendOf_iff.mp read
      cases refused with
      | read unread => exact absurd unread (honest.not_readRefused _)
      | creator readCreator refused =>
        have served := honest.readSpendOf_iff.mp readCreator
        exact ⟨_, .creator launcherServed served, (honest.genuine _ _ served).refused_iff.mp refused⟩
      | readBeyond _ _ _ unread => exact absurd unread (honest.not_readRefused _)
      | beyond readCreator plain intermediate readBeyond refused =>
        have creatorServed := honest.readSpendOf_iff.mp readCreator
        have served := honest.readSpendOf_iff.mp readBeyond
        exact ⟨_, .beyond launcherServed creatorServed plain intermediate served,
          (honest.genuine _ _ served).refused_iff.mp refused⟩
  · intro unparsed
    obtain ⟨spend, above, unparsed⟩ := unparsed
    cases above with
    | creator launcherServed served =>
      have refused := (honest.genuine _ _ served).refused_iff.mpr unparsed
      exact .inr ⟨_, honest.readSpendOf_iff.mpr launcherServed, .creator (honest.readSpendOf_iff.mpr served) refused⟩
    | beyond launcherServed creatorServed plain intermediate served =>
      have refused := (honest.genuine _ _ served).refused_iff.mpr unparsed
      exact .inr ⟨_, honest.readSpendOf_iff.mpr launcherServed, .beyond (honest.readSpendOf_iff.mpr creatorServed)
        plain intermediate (honest.readSpendOf_iff.mpr served) refused⟩

/-- A walk that answers over an honest source finds no DID past a creator that is none and
no intermediate. -/
theorem HonestSource.no_did (honest : HonestSource sdk chain) {storeId : Bytes32} {found : Option DidRef}
    (answered : resolveOwnerDid sdk storeId chain = .ok found) {launcher creator : CoinSpend}
    (launcherServed : chain storeId = .ok (some launcher))
    (creatorServed : chain launcher.coin.parentCoinInfo = .ok (some creator))
    (noDid : ∀ didRef, didRefFromSpend sdk creator ≠ .ok (some didRef))
    (plain : isLauncherIntermediate sdk creator launcher.coin = false) : found = none := by
  cases found with
  | none => rfl
  | some didRef =>
    obtain ⟨launcher', creator', read, readCreator, hop⟩ := resolveOwnerDid_eq_some answered
    cases launcherServed.symm.trans (honest.readSpendOf_iff.mp read)
    cases creatorServed.symm.trans (honest.readSpendOf_iff.mp readCreator)
    cases hop with
    | first recognised => exact absurd recognised (noDid didRef)
    | second _ intermediate _ _ => cases plain.symm.trans intermediate

end Honest

/-- Over an honest source the walk answers, and answers that there is no DID where there is
none, exactly when every spend above the launcher that it comes to decodes and is one the
SDK's parser has an answer for. -/
theorem honest_walk_answers_iff {chain : ChainSource} (honest : HonestSource sdk chain) (storeId : Bytes32) :
    AnswersHonestly sdk chain storeId ↔
      ∀ spend, ParsedAbove sdk chain storeId spend → SpendParses sdk spend := by
  constructor
  · intro answers spend above
    by_contra unparsed
    have failed := honest.fails_iff.mpr ⟨spend, above, unparsed⟩
    exact not_fails_iff.mpr answers.answers failed
  · intro parses
    have answered : ∃ found, resolveOwnerDid sdk storeId chain = .ok found := by
      rw [← not_fails_iff, honest.fails_iff]
      intro unparsed
      obtain ⟨spend, above, unparsed⟩ := unparsed
      exact unparsed (parses spend above)
    refine ⟨answered, ?_⟩
    intro launcher creator launcherServed creatorServed noDid plain
    obtain ⟨found, answered⟩ := answered
    rw [answered, honest.no_did answered launcherServed creatorServed noDid plain]

section Samples

open Reference

/-- A parser that also refuses a singleton whose curried arguments are not a launcher id and
an inner puzzle. -/
def strictDidParse (coin : Coin) (puzzle solution : Clvm) : Except DriverError (Option Bytes32) :=
  match puzzle with
  | .pair (.atom [115]) (.atom _) => .error (failure "singleton arguments")
  | _ => didParse coin puzzle solution

def strictWallet : Sdk Unit := { wallet with didParse := strictDidParse }

theorem strictWallet_decodes (value : Clvm) : strictWallet.programToClvm (serialize value) = .ok value := by
  change deserialize (serialize value) = .ok value
  exact deserialize_serialize value

/-- The singleton mod, curried with nothing. -/
def malformedSingleton : Clvm := .pair singletonMod (.atom [])

/-- A creator's spend, with its own puzzle and any solution. -/
def creatorSpend (puzzle : Clvm) (solution : Program) : CoinSpend :=
  ⟨⟨hash32 1, treeHash puzzle, 1⟩, serialize puzzle, solution⟩

/-- The spend of the launcher that a creator made. -/
def launcherUnder (creator : CoinSpend) : CoinSpend :=
  ⟨⟨coinId creator.coin, treeHash launcherPuzzle, 1⟩, serialize launcherPuzzle, serialize (.atom [])⟩

def sourceUnder (creator : CoinSpend) : ChainSource := listedSource [launcherUnder creator, creator]

def resolveUnder (creator : CoinSpend) : MerkleResult (Option DidRef) :=
  resolveOwnerDid strictWallet (coinId (launcherUnder creator).coin) (sourceUnder creator)

theorem sourceUnder_honest (puzzle : Clvm) (solution : Program) :
    HonestSource strictWallet (sourceUnder (creatorSpend puzzle solution)) where
  reads := by
    intro coinId error failed
    cases failed
  genuine := by
    intro id spend served
    have found : [launcherUnder (creatorSpend puzzle solution), creatorSpend puzzle solution].find?
        (fun spend => coinId spend.coin = id) = some spend := Except.ok.inj served
    have same : coinId spend.coin = id := by simpa using List.find?_some found
    have member := List.mem_of_find?_eq_some found
    simp only [List.mem_cons, List.not_mem_nil, or_false] at member
    rcases member with rfl | rfl
    · exact ⟨same, launcherPuzzle, strictWallet_decodes _, rfl⟩
    · exact ⟨same, puzzle, strictWallet_decodes _, rfl⟩

theorem standard_creator_answers :
    AnswersHonestly strictWallet (sourceUnder (creatorSpend (standardPuzzle ownerKey) (serialize (.atom []))))
      (coinId (launcherUnder (creatorSpend (standardPuzzle ownerKey) (serialize (.atom [])))).coin) := by
  apply (honest_walk_answers_iff (sourceUnder_honest _ _) _).mpr
  intro spend above
  generalize shape : creatorSpend (standardPuzzle ownerKey) (serialize (.atom [])) = creator at above
  have launcherSame : sourceUnder creator (coinId (launcherUnder creator).coin) = .ok (some (launcherUnder creator)) := by
    subst shape
    decide +kernel
  have creatorSame : sourceUnder creator (launcherUnder creator).coin.parentCoinInfo = .ok (some creator) := by
    subst shape
    decide +kernel
  have stops : isLauncherIntermediate strictWallet creator (launcherUnder creator).coin = false := by
    subst shape
    decide +kernel
  cases above with
  | creator launcherServed served =>
    cases launcherSame.symm.trans launcherServed
    cases creatorSame.symm.trans served
    subst shape
    exact ⟨_, _, none, strictWallet_decodes _, strictWallet_decodes _, rfl⟩
  | beyond launcherServed creatorServed _ intermediate _ =>
    cases launcherSame.symm.trans launcherServed
    cases creatorSame.symm.trans creatorServed
    cases stops.symm.trans intermediate

/-- Two honest chains that the walk answers with an error: one creator's puzzle has the
singleton's mod and other arguments, and another's solution is no program. -/
theorem honest_creator_refused :
    (HonestSource strictWallet (sourceUnder (creatorSpend malformedSingleton (serialize (.atom [])))) ∧
      Fails (resolveUnder (creatorSpend malformedSingleton (serialize (.atom []))))) ∧
    HonestSource strictWallet (sourceUnder (creatorSpend (standardPuzzle ownerKey) [9])) ∧
      Fails (resolveUnder (creatorSpend (standardPuzzle ownerKey) [9])) := by
  have parser : (resolveUnder (creatorSpend malformedSingleton (serialize (.atom [])))).isOk = false := by
    decide +kernel
  have solution : (resolveUnder (creatorSpend (standardPuzzle ownerKey) [9])).isOk = false := by decide +kernel
  exact ⟨⟨sourceUnder_honest _ _, isOk_eq_false.mp parser⟩, sourceUnder_honest _ _, isOk_eq_false.mp solution⟩

end Samples

/-- Coins among which ids are unique: they cover what a source serves, and the launchers
that served coins would create as intermediates. -/
structure CoversServed (sdk : Sdk Allocator) (chain : ChainSource) (coins : Set Coin) : Prop where
  unique : Set.InjOn sdk.coinId coins
  served : ∀ coinId spend, chain coinId = .ok (some spend) → spend.coin ∈ coins ∧
    derivedLauncher sdk spend.coin ∈ coins

/-- The id is the id of a singleton launcher coin. -/
def IsLauncherId (sdk : Sdk Allocator) (coins : Set Coin) (storeId : Bytes32) : Prop :=
  ∃ coin ∈ coins, sdk.coinId coin = storeId ∧ coin.puzzleHash = sdk.singletonLauncherHash

/-- Where the walk ends at its first hop, the coin that the DID created is a launcher. -/
def FirstHopLaunches (sdk : Sdk Allocator) (chain : ChainSource) (storeId : Bytes32) : Prop :=
  ∀ child creator didRef, chain storeId = .ok (some child) →
    chain child.coin.parentCoinInfo = .ok (some creator) →
    didRefFromSpend sdk creator = .ok (some didRef) → child.coin.puzzleHash = sdk.singletonLauncherHash

section Launchers

variable {chain : ChainSource} {coins : Set Coin}

theorem CoversServed.isLauncherId_iff (covers : CoversServed sdk chain coins) {storeId : Bytes32}
    {spend : CoinSpend} (served : chain storeId = .ok (some spend)) (same : sdk.coinId spend.coin = storeId) :
    IsLauncherId sdk coins storeId ↔ spend.coin.puzzleHash = sdk.singletonLauncherHash := by
  have member := (covers.served storeId spend served).1
  constructor
  · intro launcher
    obtain ⟨coin, listed, id, hash⟩ := launcher
    rwa [covers.unique member listed (same.trans id.symm)]
  · intro hash
    exact ⟨spend.coin, member, same, hash⟩

/-- What the walk climbs to over an intermediate coin is a launcher. -/
theorem CoversServed.launcher_of_intermediate (covers : CoversServed sdk chain coins) {storeId creatorId : Bytes32}
    {spend creator : CoinSpend} (served : chain storeId = .ok (some spend))
    (creatorServed : chain creatorId = .ok (some creator))
    (intermediate : isLauncherIntermediate sdk creator spend.coin = true) :
    spend.coin.puzzleHash = sdk.singletonLauncherHash := by
  have free : Set.InjOn sdk.coinId {spend.coin, derivedLauncher sdk creator.coin} := by
    apply covers.unique.mono
    intro coin member
    rcases member with rfl | rfl
    · exact (covers.served _ _ served).1
    · exact (covers.served _ _ creatorServed).2
  rw [recognised_coin intermediate free]
  rfl

/-- A coin that the walk finds a DID for is a launcher exactly when the first hop, which
checks parentage alone, did not end at a DID that created some other coin. -/
theorem owned_store_is_launcher_iff (covers : CoversServed sdk chain coins) {storeId : Bytes32} {didRef : DidRef}
    (resolved : resolveOwnerDid sdk storeId chain = .ok (some didRef)) :
    IsLauncherId sdk coins storeId ↔ FirstHopLaunches sdk chain storeId := by
  obtain ⟨child, creator, read, readCreator, hop⟩ := resolveOwnerDid_eq_some resolved
  obtain ⟨served, same⟩ := readSpendOf_eq_some.mp read
  obtain ⟨creatorServed, _⟩ := readSpendOf_eq_some.mp readCreator
  rw [covers.isLauncherId_iff served same]
  constructor
  · intro hash child' _ _ served' _ _
    cases served.symm.trans served'
    exact hash
  · intro launches
    cases hop with
    | first recognised => exact launches child creator didRef served creatorServed recognised
    | second _ intermediate _ _ => exact covers.launcher_of_intermediate served creatorServed intermediate

end Launchers

section Samples

open Reference

/-- A payment that the DID made: two mojos to a standard puzzle. -/
def didPayment : CoinSpend :=
  ⟨⟨coinId didCoin, treeHash (standardPuzzle ownerKey), 2⟩, serialize (standardPuzzle ownerKey), serialize (.atom [])⟩

theorem listed_covers {spends : List CoinSpend} {coins : List Coin} (distinct : (coins.map coinId).Nodup)
    (listed : ∀ spend ∈ spends, spend.coin ∈ coins ∧ derivedLauncher wallet spend.coin ∈ coins) :
    CoversServed wallet (listedSource spends) {coin | coin ∈ coins} where
  unique := injOn_of_nodup distinct fun _ => id
  served := by
    intro id spend served
    exact listed spend (List.mem_of_find?_eq_some (Except.ok.inj served))

/-- The coins of the launch through the hop, and the launchers that they would create. -/
def lineageCoins : List Coin :=
  [ownedLauncherCoin, hopCoin, didCoin, derivedLauncher wallet ownedLauncherCoin, derivedLauncher wallet didCoin]

theorem owned_lineage_is_launcher :
    IsLauncherId wallet {coin | coin ∈ lineageCoins} (coinId ownedLauncherCoin) := by
  have distinct : (lineageCoins.map coinId).Nodup := by decide +kernel
  have resolved : resolveOwnerDid wallet (coinId ownedLauncherCoin) (listedSource (servedLineage (.atom []))) =
      .ok (some ⟨hash32 9⟩) := by decide +kernel
  have covers : CoversServed wallet (listedSource (servedLineage (.atom []))) {coin | coin ∈ lineageCoins} := by
    apply listed_covers distinct
    intro spend member
    simp only [servedLineage, List.mem_cons, List.not_mem_nil, or_false] at member
    rcases member with rfl | rfl | rfl
    · exact ⟨.head _, .tail _ (.tail _ (.tail _ (.head _)))⟩
    · exact ⟨.tail _ (.head _), .head _⟩
    · exact ⟨.tail _ (.tail _ (.head _)), .tail _ (.tail _ (.tail _ (.tail _ (.head _))))⟩
  apply (owned_store_is_launcher_iff covers resolved).mpr
  intro child creator didRef served _ _
  have same : coinId child.coin = coinId ownedLauncherCoin := by
    simpa using List.find?_some (Except.ok.inj served)
  have own := covers.unique (covers.served _ _ served).1 (List.mem_cons_self : ownedLauncherCoin ∈ lineageCoins) same
  rw [own]
  rfl

/-- The DID's payment is reported as a store that the DID owns. -/
theorem payment_reported_owned :
    CoversServed wallet (listedSource [didPayment, didSpend]) {coin | coin ∈ [didPayment.coin, didCoin,
      derivedLauncher wallet didPayment.coin, derivedLauncher wallet didCoin]} ∧
    resolveOwnerDid wallet (coinId didPayment.coin) (listedSource [didPayment, didSpend]) = .ok (some ⟨hash32 9⟩) ∧
    ¬ IsLauncherId wallet {coin | coin ∈ [didPayment.coin, didCoin, derivedLauncher wallet didPayment.coin,
      derivedLauncher wallet didCoin]} (coinId didPayment.coin) := by
  have distinct : ([didPayment.coin, didCoin, derivedLauncher wallet didPayment.coin,
      derivedLauncher wallet didCoin].map coinId).Nodup := by decide +kernel
  have covers : CoversServed wallet (listedSource [didPayment, didSpend]) {coin | coin ∈ [didPayment.coin, didCoin,
      derivedLauncher wallet didPayment.coin, derivedLauncher wallet didCoin]} := by
    apply listed_covers distinct
    intro spend member
    simp only [List.mem_cons, List.not_mem_nil, or_false] at member
    rcases member with rfl | rfl
    · exact ⟨.head _, .tail _ (.tail _ (.head _))⟩
    · exact ⟨.tail _ (.head _), .tail _ (.tail _ (.tail _ (.head _)))⟩
  have served : listedSource [didPayment, didSpend] (coinId didPayment.coin) = .ok (some didPayment) := by
    decide +kernel
  have ordinary : didPayment.coin.puzzleHash ≠ wallet.singletonLauncherHash := by decide +kernel
  refine ⟨covers, by decide +kernel, ?_⟩
  rwa [covers.isLauncherId_iff served rfl]

end Samples

end DigMerkle
