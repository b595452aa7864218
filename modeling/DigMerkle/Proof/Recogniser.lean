import DigMerkle.Proof.IntermediateLaunch

namespace DigMerkle

open Library

variable {Allocator : Type} {sdk : Sdk Allocator}

/-- The launcher that an intermediate launcher coin creates. -/
def derivedLauncher (sdk : Sdk Allocator) (intermediate : Coin) : Coin :=
  ⟨sdk.coinId intermediate, sdk.singletonLauncherHash, 1⟩

/-- The revealed puzzle shares its tree hash with no other puzzle that is curried with its
arguments. -/
def PuzzleCollisionFree (sdk : Sdk Allocator) (intermediatePuzzle : Clvm → Clvm) (spend : CoinSpend) : Prop :=
  ∀ puzzle curried, sdk.programToClvm spend.puzzleReveal = .ok puzzle → sdk.asCurried puzzle = some curried →
    Set.InjOn sdk.treeHash {puzzle, intermediatePuzzle curried.args}

theorem recognised_puzzle {intermediatePuzzle : Clvm → Clvm} (law : IntermediateRunLaw sdk intermediatePuzzle)
    {spend : CoinSpend} {launcherCoin : Coin} (free : PuzzleCollisionFree sdk intermediatePuzzle spend)
    (accepted : isLauncherIntermediate sdk spend launcherCoin = true) :
    ∃ node args, sdk.programToClvm spend.puzzleReveal = .ok (intermediatePuzzle node) ∧
      sdk.nftIntermediateLauncherArgs node = some args ∧ args.launcherPuzzleHash = sdk.singletonLauncherHash := by
  obtain ⟨_, puzzle, curried, args, reveal, shown, mod, decoded, launcher, _⟩ :=
    isLauncherIntermediate_eq_true.mp accepted
  have same : puzzle = intermediatePuzzle curried.args :=
    free puzzle curried reveal.1 shown (.inl rfl) (.inr rfl) (law.hash shown mod)
  exact ⟨curried.args, args, same ▸ reveal.1, decoded, launcher⟩

theorem recognised_coin {spend : CoinSpend} {launcherCoin : Coin}
    (accepted : isLauncherIntermediate sdk spend launcherCoin = true)
    (free : Set.InjOn sdk.coinId {launcherCoin, derivedLauncher sdk spend.coin}) :
    launcherCoin = derivedLauncher sdk spend.coin := by
  obtain ⟨_, _, _, _, _, _, _, _, _, derived⟩ := isLauncherIntermediate_eq_true.mp accepted
  exact free (.inl rfl) (.inr rfl) derived.symm

/-- Run with any solution, the puzzle emits the launcher's creation and no other. -/
theorem recognised_emits {intermediatePuzzle : Clvm → Clvm} (law : IntermediateRunLaw sdk intermediatePuzzle)
    {spend : CoinSpend} {launcherCoin : Coin} (free : PuzzleCollisionFree sdk intermediatePuzzle spend)
    (accepted : isLauncherIntermediate sdk spend launcherCoin = true) {solution : Clvm}
    (solved : sdk.programToClvm spend.solution = .ok solution) :
    ∃ conditions memos, SpendEmits sdk spend conditions ∧
      conditions.filterMap Condition.created? = [⟨sdk.singletonLauncherHash, 1, memos⟩] := by
  obtain ⟨node, args, reveal, decoded, launcher⟩ := recognised_puzzle law free accepted
  obtain ⟨conditions, memos, emitted, created⟩ := law.emits solution decoded
  rw [launcher] at created
  exact ⟨conditions, memos, ⟨_, solution, reveal, solved, emitted⟩, created⟩

/-- Running a recognised spend reports that it creates the launcher exactly when its
solution decodes. -/
theorem recognised_creates_iff {intermediatePuzzle : Clvm → Clvm} (law : IntermediateRunLaw sdk intermediatePuzzle)
    {spend : CoinSpend} {launcherCoin : Coin} (free : PuzzleCollisionFree sdk intermediatePuzzle spend)
    (accepted : isLauncherIntermediate sdk spend launcherCoin = true) (ctx : SpendContext Allocator) :
    (spendCreates sdk spend launcherCoin ctx).1 = .ok true ↔
      ∃ solution, sdk.programToClvm spend.solution = .ok solution := by
  rw [spendCreates_eq_true]
  constructor
  · intro creates
    obtain ⟨_, _, ⟨_, solution, _, solved, _⟩, _⟩ := creates
    exact ⟨solution, solved⟩
  · intro decodes
    obtain ⟨solution, solved⟩ := decodes
    obtain ⟨conditions, memos, emits, created⟩ := recognised_emits law free accepted solved
    obtain ⟨_, _, _, _, _, _, _, _, _, derived⟩ := isLauncherIntermediate_eq_true.mp accepted
    have member : .createCoin ⟨sdk.singletonLauncherHash, 1, memos⟩ ∈ conditions := by
      obtain ⟨condition, present, shown⟩ := List.mem_filterMap.mp (created ▸ List.mem_singleton_self _)
      cases condition with
      | createCoin coin =>
        cases shown
        exact present
      | _ => cases shown
    exact ⟨conditions, _, emits, member, derived⟩

/-- A spend and a launcher that the recogniser accepts: whatever solution the spend carries,
running it reports that it creates the launcher if the solution decodes at all. The launcher
is the spent coin's one-mojo child at the singleton launcher puzzle hash, and no other
launcher is accepted for the spend. -/
theorem recogniser_agrees_with_execution {intermediatePuzzle : Clvm → Clvm}
    (law : IntermediateRunLaw sdk intermediatePuzzle) {spend : CoinSpend} {launcherCoin : Coin}
    (puzzles : PuzzleCollisionFree sdk intermediatePuzzle spend)
    (coins : Set.InjOn sdk.coinId {launcherCoin, derivedLauncher sdk spend.coin})
    (accepted : isLauncherIntermediate sdk spend launcherCoin = true) :
    (∀ (program : Program) (ctx : SpendContext Allocator),
      (spendCreates sdk { spend with solution := program } launcherCoin ctx).1 = .ok true ↔
        ∃ solution, sdk.programToClvm program = .ok solution) ∧
    launcherCoin = ⟨sdk.coinId spend.coin, sdk.singletonLauncherHash, 1⟩ ∧
    ∀ other, Set.InjOn sdk.coinId {other, derivedLauncher sdk spend.coin} →
      isLauncherIntermediate sdk spend other = true → other = launcherCoin := by
  have own := recognised_coin accepted coins
  refine ⟨?_, own, ?_⟩
  · intro program ctx
    -- Neither the recogniser nor the collisions depend on the solution.
    have unchanged : isLauncherIntermediate sdk { spend with solution := program } launcherCoin = true := accepted
    have free : PuzzleCollisionFree sdk intermediatePuzzle { spend with solution := program } := puzzles
    exact recognised_creates_iff law free unchanged ctx
  · intro other free accepted'
    rw [own]
    exact recognised_coin accepted' free

section Samples

open Reference

/-- The hop's spend, with the given solution. -/
def hopSpend (solution : Program) : CoinSpend := ⟨hopCoin, serialize intermediatePuzzle, solution⟩

theorem hopSpend_puzzles (solution : Program) :
    PuzzleCollisionFree wallet (.pair intermediateMod) (hopSpend solution) := by
  intro puzzle curried reveal shown
  cases (deserialize_serialize intermediatePuzzle).symm.trans reveal
  cases shown
  intro first member second member' _
  rcases member with rfl | rfl <;> rcases member' with rfl | rfl <;> rfl

theorem hopSpend_coins : Set.InjOn wallet.coinId {ownedLauncherCoin, derivedLauncher wallet hopCoin} := by
  intro first member second member' _
  rcases member with rfl | rfl <;> rcases member' with rfl | rfl <;> rfl

theorem hop_agrees_with_execution :
    (spendCreates wallet (hopSpend (serialize (.atom [7]))) ownedLauncherCoin wallet.newContext).1 = .ok true := by
  have accepted : isLauncherIntermediate wallet (hopSpend []) ownedLauncherCoin = true := by decide +kernel
  have agrees := (recogniser_agrees_with_execution intermediateRunLaw (hopSpend_puzzles []) hopSpend_coins accepted).1
  have solved : wallet.programToClvm (serialize (.atom [7])) = .ok (.atom [7]) := by
    rw [wallet_programToClvm]
    exact deserialize_serialize _
  exact (agrees (serialize (.atom [7])) wallet.newContext).mpr ⟨.atom [7], solved⟩

/-- The recogniser accepts the hop with a solution that is no program, and running it fails. -/
theorem undecodable_solution_recognised : PuzzleCollisionFree wallet (.pair intermediateMod) (hopSpend [9]) ∧
    Set.InjOn wallet.coinId {ownedLauncherCoin, derivedLauncher wallet hopCoin} ∧
    isLauncherIntermediate wallet (hopSpend [9]) ownedLauncherCoin = true ∧
    Fails (spendCreates wallet (hopSpend [9]) ownedLauncherCoin wallet.newContext).1 := by
  have failed : (spendCreates wallet (hopSpend [9]) ownedLauncherCoin wallet.newContext).1.isOk = false := by
    decide +kernel
  exact ⟨hopSpend_puzzles [9], hopSpend_coins, by decide +kernel, isOk_eq_false.mp failed⟩

end Samples

end DigMerkle
