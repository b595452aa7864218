import DigMerkle.Library.Outcome
import DigMerkle.Proof.IntermediateLaunch

namespace DigMerkle

open Library Fallible

variable {Allocator : Type} {sdk : Sdk Allocator}

theorem allocating_ends {action : Fallible DriverError Allocator α} {refuses : MerkleError → Prop}
    (allowed : ∀ {allocator error after}, action allocator = (.error error, after) → refuses (.driver error))
    (ctx : SpendContext Allocator) : Ends (allocating action) ctx (fun _ _ => True) refuses := by
  apply Ends.mapError
  apply Ends.onPart
  exact ⟨fun _ => trivial, allowed⟩

theorem driving_ends {action : Fallible DriverError (SpendContext Allocator) α} {refuses : MerkleError → Prop}
    {ctx : SpendContext Allocator}
    (allowed : ∀ {error after}, action ctx = (.error error, after) → refuses (.driver error)) :
    Ends (driving action) ctx (fun _ _ => True) refuses := by
  apply Ends.mapError
  exact ⟨fun _ => trivial, allowed⟩

/-- Why a staged spend could not be judged. -/
inductive RunRefusal (sdk : Sdk Allocator) (spend : CoinSpend) : MerkleError → Prop where
  | reveal (undecoded : sdk.programToClvm spend.puzzleReveal = .error text) :
      RunRefusal sdk spend (.driver (sdk.toClvmDriverError text))
  | solution (undecoded : sdk.programToClvm spend.solution = .error text) :
      RunRefusal sdk spend (.driver (sdk.toClvmDriverError text))
  | run (reveal : sdk.programToClvm spend.puzzleReveal = .ok puzzle)
      (solution : sdk.programToClvm spend.solution = .ok given) (failed : sdk.run puzzle given = .error error) :
      RunRefusal sdk spend (.driver error)
  | conditions (reveal : sdk.programToClvm spend.puzzleReveal = .ok puzzle)
      (solution : sdk.programToClvm spend.solution = .ok given) (ran : sdk.run puzzle given = .ok output)
      (unread : sdk.conditionsFromClvm output = .error error) :
      RunRefusal sdk spend (.parse s!"intermediate spend conditions: {sdk.fromClvmErrorText error}")

theorem ends_mapped {result : Except ε' α} {wrap : ε' → ε} {refuses : ε → Prop} (state : σ)
    (allowed : ∀ {error}, result = .error error → refuses (wrap error)) :
    Ends (ofExcept (result.mapError wrap) : Fallible ε σ α) state (fun value _ => result = .ok value) refuses := by
  apply ends_ofExcept
  · exact except_mapError_eq_ok.mp
  · intro error failed
    cases result with
    | ok value => cases failed
    | error inner =>
      cases failed
      exact allowed rfl

theorem spendCreates_ends (spend : CoinSpend) (expected : Coin) (ctx : SpendContext Allocator) :
    Ends (spendCreates sdk spend expected) ctx (fun _ _ => True) (RunRefusal sdk spend) := by
  refine (ends_mapped _ fun undecoded => .reveal undecoded).bind fun {puzzle _} reveal => ?_
  refine (ends_mapped _ fun undecoded => .solution undecoded).bind fun {given _} solution => ?_
  refine (ends_mapped _ fun failed => .run reveal solution failed).bind fun {output _} ran => ?_
  refine (ends_mapped _ fun unread => .conditions reveal solution ran unread).bind fun _ => ?_
  exact ends_pure trivial

/-- Why launch conditions that do not create the launcher do not reach it otherwise. -/
inductive ReachRefusal (sdk : Sdk Allocator) (ctx : SpendContext Allocator) (conditions : Conditions)
    (launcherCoin : Coin) : MerkleError → Prop where
  | unstaged (unstaged : stagedSpendOf sdk ctx launcherCoin.parentCoinInfo = none) :
      ReachRefusal sdk ctx conditions launcherCoin (.chain
        "launch conditions do not create the launcher coin, and no staged spend creates it either — the supplied Launcher is unreachable from this parent")
  | uncreated (staged : stagedSpendOf sdk ctx launcherCoin.parentCoinInfo = some intermediate)
      (uncreated : createsCoin conditions intermediate.coin.puzzleHash intermediate.coin.amount = false) :
      ReachRefusal sdk ctx conditions launcherCoin (.chain
        "launch conditions do not create the intermediate coin the launcher descends from")
  | ownParent (own : sdk.coinId launcherCoin = launcherCoin.parentCoinInfo) :
      ReachRefusal sdk ctx conditions launcherCoin (.chain
        "launch conditions do not create the intermediate coin the launcher descends from")
  | barren (staged : stagedSpendOf sdk ctx launcherCoin.parentCoinInfo = some intermediate)
      (created : createsCoin conditions intermediate.coin.puzzleHash intermediate.coin.amount = true)
      (emits : SpendEmits sdk intermediate emitted)
      (others : ∀ created, .createCoin created ∈ emitted →
        sdk.coinId (createdBy sdk intermediate.coin created) ≠ sdk.coinId launcherCoin) :
      ReachRefusal sdk ctx conditions launcherCoin (.chain
        "the intermediate coin's spend does not create the launcher coin")
  | unjudged (staged : stagedSpendOf sdk ctx launcherCoin.parentCoinInfo = some intermediate)
      (created : createsCoin conditions intermediate.coin.puzzleHash intermediate.coin.amount = true)
      (refused : RunRefusal sdk intermediate error) : ReachRefusal sdk ctx conditions launcherCoin error

theorem spendCreates_eq_false {spend : CoinSpend} {expected : Coin} {ctx : SpendContext Allocator}
    (judged : (spendCreates sdk spend expected ctx).1 = .ok false) :
    ∃ emitted, SpendEmits sdk spend emitted ∧ ∀ created, .createCoin created ∈ emitted →
      sdk.coinId (createdBy sdk spend.coin created) ≠ sdk.coinId expected := by
  obtain ⟨emitted, emits, others⟩ := spendCreates_eq_ok.mp judged
  refine ⟨emitted, emits, fun created member same => ?_⟩
  have other := List.any_eq_false.mp others _ member
  exact other (decide_eq_true same)

section Guard

variable {conditions : Conditions} {launcherCoin : Coin} {ctx : SpendContext Allocator}

theorem assertLaunchReaches_ends
    (indirect : createsCoin conditions launcherCoin.puzzleHash launcherCoin.amount = false) :
    Ends (assertLaunchReachesTheLauncher sdk conditions launcherCoin) ctx (fun _ _ => True)
      (ReachRefusal sdk ctx conditions launcherCoin) := by
  rw [assertLaunchReachesTheLauncher, if_neg (by simp [indirect])]
  cases staged : stagedSpendOf sdk ctx launcherCoin.parentCoinInfo with
  | none =>
    refine ends_of_ok (Prod.ext (congrArg Except.ok staged) rfl) ?_
    exact ⟨fun _ => trivial, fun refused => by cases refused; exact .unstaged staged⟩
  | some intermediate =>
    refine ends_of_ok (Prod.ext (congrArg Except.ok staged) rfl) ?_
    dsimp only
    split
    · rename_i created
      have judging : Ends (spendCreates sdk intermediate launcherCoin) ctx (fun _ _ => True)
          (ReachRefusal sdk ctx conditions launcherCoin) :=
        (spendCreates_ends intermediate launcherCoin ctx).allow fun refused => .unjudged staged created refused
      refine judging.known.bind fun {creates after} judged => ?_
      cases creates with
      | true => exact ends_pure trivial
      | false =>
        obtain ⟨emitted, emits, others⟩ := spendCreates_eq_false (congrArg Prod.fst judged)
        exact ⟨fun _ => trivial, fun refused => by cases refused; exact .barren staged created emits others⟩
    · rename_i uncreated
      exact ⟨fun _ => trivial, fun refused => by cases refused; exact .uncreated staged (by simpa using uncreated)⟩

/-- A spend found with the launcher's own staged one was staged before it, or the coin is its
own parent. -/
theorem stagedSpendOf_append {after : SpendContext Allocator} {spend intermediate : CoinSpend} {coinId : Bytes32}
    (appended : after.coinSpends = ctx.coinSpends ++ [spend])
    (found : stagedSpendOf sdk after coinId = some intermediate) :
    stagedSpendOf sdk ctx coinId = some intermediate ∨ intermediate = spend ∧ sdk.coinId spend.coin = coinId := by
  rw [stagedSpendOf, appended, List.find?_append] at found
  cases earlier : ctx.coinSpends.find? fun spend => sdk.coinId spend.coin = coinId with
  | some previous =>
    rw [earlier, Option.some_or] at found
    exact .inl (earlier.trans found)
  | none =>
    rw [earlier, Option.none_or] at found
    have same : intermediate = spend := by simpa using List.mem_of_find?_eq_some found
    have id : sdk.coinId intermediate.coin = coinId := by simpa using List.find?_some found
    exact .inr ⟨same, same ▸ id⟩

theorem ReachRefusal.before_staging {after : SpendContext Allocator} {spend : CoinSpend}
    (appended : after.coinSpends = ctx.coinSpends ++ [spend]) (coin : spend.coin = launcherCoin)
    (indirect : createsCoin conditions launcherCoin.puzzleHash launcherCoin.amount = false) {error : MerkleError}
    (refused : ReachRefusal sdk after conditions launcherCoin error) :
    ReachRefusal sdk ctx conditions launcherCoin error := by
  have earlier : ∀ {intermediate}, stagedSpendOf sdk after launcherCoin.parentCoinInfo = some intermediate →
      createsCoin conditions intermediate.coin.puzzleHash intermediate.coin.amount = true →
      stagedSpendOf sdk ctx launcherCoin.parentCoinInfo = some intermediate := by
    intro intermediate staged created
    rcases stagedSpendOf_append appended staged with before | ⟨rfl, _⟩
    · exact before
    · rw [coin, indirect] at created
      cases created
  cases refused with
  | unstaged unstaged =>
    rw [stagedSpendOf, appended, List.find?_append, Option.or_eq_none_iff] at unstaged
    exact .unstaged unstaged.1
  | uncreated staged uncreated =>
    rcases stagedSpendOf_append appended staged with before | ⟨_, own⟩
    · exact .uncreated before uncreated
    · exact .ownParent (coin ▸ own)
  | ownParent own => exact .ownParent own
  | barren staged created emits others => exact .barren (earlier staged created) created emits others
  | unjudged staged created refused => exact .unjudged (earlier staged created) created refused

theorem ReachRefusal.congr {rewritten : Conditions}
    (created : ∀ puzzleHash amount, createsCoin rewritten puzzleHash amount = createsCoin conditions puzzleHash amount)
    {error : MerkleError} (refused : ReachRefusal sdk ctx rewritten launcherCoin error) :
    ReachRefusal sdk ctx conditions launcherCoin error := by
  cases refused with
  | unstaged unstaged => exact .unstaged unstaged
  | uncreated staged uncreated => exact .uncreated staged (created _ _ ▸ uncreated)
  | ownParent own => exact .ownParent own
  | barren staged creates emits others => exact .barren staged (created _ _ ▸ creates) emits others
  | unjudged staged creates refused => exact .unjudged staged (created _ _ ▸ creates) refused

end Guard

/-- Why a launch was refused, under the error that says so. -/
inductive LaunchRefusal (sdk : Sdk Allocator) (call : LaunchCall) (ctx : SpendContext Allocator) :
    MerkleError → Prop where
  | notLauncher (other : call.launcher.coin.puzzleHash ≠ sdk.singletonLauncherHash) :
      LaunchRefusal sdk call ctx (.chain
        s!"the supplied launcher coin's puzzle hash is {call.launcher.coin.puzzleHash.hex}, not the singleton launcher puzzle — it would not mint a store singleton")
  | evenAmount (even : call.launcher.singletonAmount % 2 = 0) : LaunchRefusal sdk call ctx (.chain
      s!"the store singleton's amount would be {call.launcher.singletonAmount}, which is even — a singleton's amount must be odd, and an even-amount launch is accepted on chain but produces a store that can never be updated or melted")
  | mint (failed : call.mint sdk ctx = (.error error, after)) : LaunchRefusal sdk call ctx (.driver error)
  | memos (stamped : ∃ condition ∈ call.launcher.conditions, stamps sdk call.launcher.coin condition = true)
      (failed : sdk.memos (launcherMemos sdk call.ownerPuzzleHash call.kind) allocator = (.error error, after)) :
      LaunchRefusal sdk call ctx (.driver error)
  | unreached (indirect : createsCoin call.launcher.conditions call.launcher.coin.puzzleHash
        call.launcher.coin.amount = false)
      (refused : ReachRefusal sdk ctx call.launcher.conditions call.launcher.coin error) :
      LaunchRefusal sdk call ctx error

theorem overrideLauncherHint_ends {launcherCoin : Coin} {ownerPuzzleHash : Bytes32} {kind : StoreKind}
    {refuses : MerkleError → Prop} {conditions : Conditions}
    (allowed : ∀ {allocator error after}, (∃ condition ∈ conditions, stamps sdk launcherCoin condition = true) →
      sdk.memos (launcherMemos sdk ownerPuzzleHash kind) allocator = (.error error, after) → refuses (.driver error))
    (ctx : SpendContext Allocator) :
    Ends (overrideLauncherHint sdk launcherCoin ownerPuzzleHash kind conditions) ctx (fun _ _ => True) refuses := by
  induction conditions generalizing ctx with
  | nil => exact ends_pure trivial
  | cons condition conditions ih =>
    have head : Ends (overrideCondition sdk launcherCoin ownerPuzzleHash kind condition) ctx
        (fun _ _ => True) refuses := by
      by_cases stamped : stamps sdk launcherCoin condition = true
      · obtain ⟨created, rfl, launcher⟩ := stamps_eq_true stamped
        rw [overrideCondition, if_pos launcher]
        exact (allocating_ends (fun failed => allowed ⟨_, List.mem_cons_self, stamped⟩ failed) ctx).bind
          fun _ => ends_pure trivial
      · exact ends_of_returned (overrideCondition_kept stamped) trivial
    have tail := ih fun stamped failed => by
      obtain ⟨other, member, stamps⟩ := stamped
      exact allowed ⟨other, List.mem_cons_of_mem _ member, stamps⟩ failed
    exact head.bind fun _ => (tail _).bind fun _ => ends_pure trivial

theorem AnnouncesLaunch.stamped {launcher : Launcher} {conditions : Conditions}
    (announced : AnnouncesLaunch launcher conditions) {launcherCoin : Coin}
    (stamped : ∃ condition ∈ conditions, stamps sdk launcherCoin condition = true) :
    ∃ condition ∈ launcher.conditions, stamps sdk launcherCoin condition = true := by
  obtain ⟨condition, member, stamped⟩ := stamped
  obtain ⟨created, rfl, _⟩ := stamps_eq_true stamped
  exact ⟨_, announced.created.mp member, stamped⟩

theorem assertMintedSingletonAmountIsOdd_error {amount : UInt64} {error : MerkleError}
    (refused : assertMintedSingletonAmountIsOdd amount = .error error) : amount % 2 = 0 ∧ error = .chain
      s!"the store singleton's amount would be {amount}, which is even — a singleton's amount must be odd, and an even-amount launch is accepted on chain but produces a store that can never be updated or melted" := by
  unfold assertMintedSingletonAmountIsOdd at refused
  split at refused
  · rename_i even
    cases refused
    exact ⟨even, rfl⟩
  · cases refused

/-- What a launch ends in, on any context. -/
theorem LaunchCall.run_ends (staging : StagingLaw sdk) (call : LaunchCall) (ctx : SpendContext Allocator) :
    Ends (call.run sdk) ctx (fun _ _ => True) (LaunchRefusal sdk call ctx) := by
  have legality : Ends (ofExcept (assertLauncherIsLegal sdk call.launcher.coin call.launcher.singletonAmount) :
      InContext Allocator Unit) ctx (fun _ _ => True) (LaunchRefusal sdk call ctx) := by
    apply ends_ofExcept (fun _ => trivial)
    intro error refused
    unfold assertLauncherIsLegal at refused
    split at refused
    · rename_i other
      cases refused
      exact .notLauncher other
    · obtain ⟨even, rfl⟩ := assertMintedSingletonAmountIsOdd_error refused
      exact .evenAmount even
  refine legality.known.bind fun {_ _} checked => ?_
  obtain ⟨legal, rfl⟩ := ofExcept_eq_ok.mp checked
  have odd := (assertLauncherIsLegal_eq_ok.mp legal).2
  refine (driving_ends fun failed => .mint failed).known.bind fun {minted staged} mint => ?_
  have minting := driving_eq_ok.mp mint
  have announced : AnnouncesLaunch call.launcher minted.1 := staging.conditions minting
  have amount : assertMintedSingletonAmountIsOdd minted.2.coin.amount = .ok () := by
    rw [staging.amount minting]
    exact assertMintedSingletonAmountIsOdd_eq_ok.mpr odd
  refine ends_of_ok (Prod.ext amount rfl) ?_
  refine (overrideLauncherHint_ends (fun stamped failed => .memos (announced.stamped stamped) failed) staged).known.bind
    fun {overridden after} rewrite => ?_
  have created : ∀ puzzleHash amount, createsCoin overridden.1 puzzleHash amount =
      createsCoin call.launcher.conditions puzzleHash amount := by
    intro puzzleHash amount
    rw [Rewritten.createsCoin (overrideLauncherHint_eq_ok rewrite).1, announced.createsCoin]
  cases direct : createsCoin overridden.1 call.launcher.coin.puzzleHash call.launcher.coin.amount with
  | true =>
    rw [assertLaunchReachesTheLauncher, if_pos direct]
    exact ends_of_ok rfl (ends_pure trivial)
  | false =>
    obtain ⟨spend, appended, coin⟩ := staging.staged minting
    have kept : (overrideLauncherHint sdk call.launcher.coin call.ownerPuzzleHash call.kind minted.1
        staged).2.coinSpends = staged.coinSpends := overrideLauncherHint_keeps _ _ _ _ staged
    rw [rewrite] at kept
    have guarded : Ends (assertLaunchReachesTheLauncher sdk overridden.1 call.launcher.coin) after (fun _ _ => True)
        (LaunchRefusal sdk call ctx) := (assertLaunchReaches_ends direct).allow fun refused =>
      .unreached (created _ _ ▸ direct) ((refused.before_staging (kept.trans appended) coin direct).congr created)
    exact guarded.bind fun _ => ends_pure trivial

/-- Whatever the caller supplies, a launch is refused for the reason that its error gives, as a
fact about the launcher, the base conditions and the spends staged before the call. -/
theorem launch_refusal_named (staging : StagingLaw sdk) {call : LaunchCall} {ctx after : SpendContext Allocator}
    {error : MerkleError} (refused : call.run sdk ctx = (.error error, after)) : LaunchRefusal sdk call ctx error :=
  (call.run_ends staging ctx).refused refused

section Samples

open Reference

theorem stranded_launch_refused : ∃ error after,
    strandedLaunch.run wallet wallet.newContext = (.error error, after) ∧
    LaunchRefusal wallet strandedLaunch wallet.newContext error := by
  have outcome : (strandedLaunch.run wallet wallet.newContext).1.isOk = false := by decide +kernel
  cases run : strandedLaunch.run wallet wallet.newContext with
  | mk result after =>
    rw [run] at outcome
    obtain ⟨error, rfl⟩ := isOk_eq_false.mp outcome
    exact ⟨error, after, rfl, launch_refusal_named mintLaw.toStagingLaw run⟩

end Samples

end DigMerkle
