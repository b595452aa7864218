import DigMerkle.Proof.Launch

/-! Refused launches and the caller's context. The builder's later refusals come
after the SDK has staged the launcher spend, and nothing unstages it. -/

namespace DigMerkle

open Library Fallible

variable {Allocator : Type} {sdk : Sdk Allocator}

theorem ReachesLauncher.congr {ctx other : SpendContext Allocator} {conditions rewritten : Conditions}
    {launcherCoin : Coin} (staged : other.coinSpends = ctx.coinSpends)
    (created : ∀ puzzleHash amount, createsCoin rewritten puzzleHash amount = createsCoin conditions puzzleHash amount) :
    ReachesLauncher sdk other rewritten launcherCoin ↔ ReachesLauncher sdk ctx conditions launcherCoin := by
  simp only [ReachesLauncher, ReachesThroughStaged, stagedSpendOf, staged, created,
    spendCreates_outcome sdk _ launcherCoin ctx other]

/-- The launcher's own staged spend never stands in for an intermediate: if it
were found, the conditions would create the launcher directly. -/
theorem ReachesLauncher.of_staged {ctx after : SpendContext Allocator} {conditions : Conditions}
    {launcherCoin : Coin} {spend : CoinSpend} (staged : after.coinSpends = ctx.coinSpends ++ [spend])
    (coin : spend.coin = launcherCoin) :
    ReachesLauncher sdk after conditions launcherCoin ↔ ReachesLauncher sdk ctx conditions launcherCoin := by
  unfold ReachesLauncher ReachesThroughStaged
  simp only [stagedSpendOf, staged, List.find?_append, spendCreates_outcome sdk _ launcherCoin ctx after]
  constructor
  · intro reached
    rcases reached with direct | ⟨intermediate, found, created, creates⟩
    · exact .inl direct
    · cases earlier : ctx.coinSpends.find? fun spend => sdk.coinId spend.coin = launcherCoin.parentCoinInfo with
      | some previous =>
        rw [earlier, Option.some_or] at found
        cases found
        exact .inr ⟨intermediate, rfl, created, creates⟩
      | none =>
        rw [earlier, Option.none_or] at found
        have same : intermediate = spend := by
          have member := List.mem_of_find?_eq_some found
          simpa using member
        rw [same, coin] at created
        exact .inl created
  · intro reached
    rcases reached with direct | ⟨intermediate, found, created, creates⟩
    · exact .inl direct
    · exact .inr ⟨intermediate, by rw [found]; rfl, created, creates⟩

theorem finishLaunch_succeeds {kind : StoreKind} {launcher : Launcher} {ownerPuzzleHash : Bytes32}
    {minted : Conditions × Datastore DigDataStoreMetadata} {staged : SpendContext Allocator} :
    (∃ launch after, finishLaunch sdk kind launcher ownerPuzzleHash minted staged = (.ok launch, after)) ↔
      minted.2.coin.amount % 2 ≠ 0 ∧
      allocatesMemos sdk (launcherMemos sdk ownerPuzzleHash kind)
        (minted.1.countP (stamps sdk launcher.coin)) staged.allocator ∧
      ReachesLauncher sdk staged minted.1 launcher.coin := by
  rw [← assertMintedSingletonAmountIsOdd_eq_ok, ← overrideLauncherHint_succeeds]
  have reaches : ∀ {result middle}, overrideLauncherHint sdk launcher.coin ownerPuzzleHash kind minted.1 staged =
      (.ok result, middle) → (ReachesLauncher sdk middle result.1 launcher.coin ↔
        ReachesLauncher sdk staged minted.1 launcher.coin) := by
    intro result middle rewrite
    have kept : (overrideLauncherHint sdk launcher.coin ownerPuzzleHash kind minted.1 staged).2.coinSpends =
        staged.coinSpends := overrideLauncherHint_keeps _ _ _ _ staged
    rw [rewrite] at kept
    exact ReachesLauncher.congr kept (Rewritten.createsCoin (overrideLauncherHint_eq_ok rewrite).1)
  simp only [finishLaunch, bind_eq_ok, ofExcept_eq_ok, pure_eq_ok]
  constructor
  · intro success
    rcases success with ⟨launch, after, _, _, ⟨odd, rfl⟩, result, middle, rewrite, _, last, guarded, _⟩
    refine ⟨odd, ⟨result, middle, rewrite⟩, (reaches rewrite).mp (assertLaunchReaches_eq_ok.mp ?_)⟩
    rw [guarded]
  · intro ready
    rcases ready with ⟨odd, ⟨result, middle, rewrite⟩, reached⟩
    have guarded := assertLaunchReaches_eq_ok.mpr ((reaches rewrite).mpr reached)
    exact ⟨_, _, (), staged, ⟨odd, rfl⟩, result, middle, rewrite, (), _, Prod.ext guarded rfl, rfl, rfl⟩

/-- The arguments of one launch on the caller's context. -/
structure LaunchCall where
  kind : StoreKind
  launcher : Launcher
  metadata : DigDataStoreMetadata
  ownerPuzzleHash : Bytes32
  delegatedPuzzles : List DelegatedPuzzle

def LaunchCall.run (sdk : Sdk Allocator) (call : LaunchCall) : InContext Allocator DatastoreLaunch :=
  mintDatastoreLaunchWithKind sdk call.kind call.launcher call.metadata call.ownerPuzzleHash
    call.delegatedPuzzles

def LaunchCall.mint (sdk : Sdk Allocator) (call : LaunchCall) :
    Fallible DriverError (SpendContext Allocator) (Conditions × Datastore DigDataStoreMetadata) :=
  sdk.launcherMintDatastore call.launcher call.metadata call.ownerPuzzleHash call.delegatedPuzzles

/-- The launch is refused before the SDK stages anything, or not refused at all:
the memos of each stamped condition can be allocated and the supplied launcher's
conditions lead to its coin. -/
def LaunchCall.Settles (sdk : Sdk Allocator) (call : LaunchCall) (ctx : SpendContext Allocator) : Prop :=
  call.launcher.coin.puzzleHash ≠ sdk.singletonLauncherHash ∨
  call.launcher.singletonAmount % 2 = 0 ∨
  (∃ error, (call.mint sdk ctx).1 = .error error) ∨
  (allocatesMemos sdk (launcherMemos sdk call.ownerPuzzleHash call.kind)
      (call.launcher.conditions.countP (stamps sdk call.launcher.coin)) (call.mint sdk ctx).2.allocator ∧
    ReachesLauncher sdk ctx call.launcher.conditions call.launcher.coin)

theorem atomicAt_minted (staging : StagingLaw sdk) {call : LaunchCall} {ctx staged : SpendContext Allocator}
    {minted : Conditions × Datastore DigDataStoreMetadata}
    (legal : assertLauncherIsLegal sdk call.launcher.coin call.launcher.singletonAmount = .ok ())
    (mint : call.mint sdk ctx = (.ok minted, staged)) :
    AtomicAt (LaunchCall.run sdk) SpendContext.coinSpends call ctx ↔
      ∃ launch after, finishLaunch sdk call.kind call.launcher call.ownerPuzzleHash minted staged =
        (.ok launch, after) := by
  have runs : call.run sdk ctx = finishLaunch sdk call.kind call.launcher call.ownerPuzzleHash minted staged := by
    rw [LaunchCall.run, mintDatastoreLaunchWithKind_eq, legal]
    exact bind_of_ok _ (driving_eq_ok.mpr mint)
  obtain ⟨spend, appended, _⟩ := staging.staged mint
  have kept := finishLaunch_keeps sdk call.kind call.launcher call.ownerPuzzleHash minted staged
  unfold AtomicAt
  rw [runs]
  cases outcome : finishLaunch sdk call.kind call.launcher call.ownerPuzzleHash minted staged with
  | mk result after =>
    rw [outcome] at kept
    cases result with
    | ok launch => simp
    | error error =>
      have stranded : after.coinSpends ≠ ctx.coinSpends := by
        rw [show after.coinSpends = staged.coinSpends from kept, appended]
        simp
      simp [stranded]

/-- One launch leaves the staged spends alone when it refuses, exactly when it
settles. -/
theorem LaunchCall.atomicAt_iff (staging : StagingLaw sdk) (call : LaunchCall) (ctx : SpendContext Allocator) :
    AtomicAt (LaunchCall.run sdk) SpendContext.coinSpends call ctx ↔ call.Settles sdk ctx := by
  cases legal : assertLauncherIsLegal sdk call.launcher.coin call.launcher.singletonAmount with
  | error error =>
    have refused : call.run sdk ctx = (.error error, ctx) := by
      rw [LaunchCall.run, mintDatastoreLaunchWithKind_eq, legal]
      rfl
    have illegal : ¬ (call.launcher.coin.puzzleHash = sdk.singletonLauncherHash ∧
        call.launcher.singletonAmount % 2 ≠ 0) := by
      rw [← assertLauncherIsLegal_eq_ok, legal]
      simp
    apply iff_of_true (fun _ _ => by rw [refused])
    by_cases launcher : call.launcher.coin.puzzleHash = sdk.singletonLauncherHash
    · exact .inr (.inl (by_contra fun odd => illegal ⟨launcher, odd⟩))
    · exact .inl launcher
  | ok =>
    obtain ⟨launcher, odd⟩ := assertLauncherIsLegal_eq_ok.mp legal
    cases mint : call.mint sdk ctx with
    | mk outcome staged =>
      cases outcome with
      | error error =>
        have refused : call.run sdk ctx = (.error (.driver error), staged) := by
          have driven : driving (call.mint sdk) ctx = (.error (.driver error), staged) := by
            simp [driving, mapError, mint, Except.mapError]
          rw [LaunchCall.run, mintDatastoreLaunchWithKind_eq, legal]
          change (driving (call.mint sdk) >>= _) ctx = _
          rw [bind_apply, driven]
        refine iff_of_true (fun _ _ => ?_) (.inr (.inr (.inl ⟨error, by rw [mint]⟩)))
        rw [refused]
        exact staging.failed mint
      | ok minted =>
        obtain ⟨spend, appended, coin⟩ := staging.staged mint
        have announced : AnnouncesLaunch call.launcher minted.1 := staging.conditions mint
        have amount := staging.amount mint
        rw [atomicAt_minted staging legal mint, finishLaunch_succeeds, amount, announced.countP_stamps,
          ReachesLauncher.congr rfl announced.createsCoin, ReachesLauncher.of_staged appended coin]
        simp [LaunchCall.Settles, launcher, odd, mint]

theorem LaunchCall.staged_coin (staging : StagingLaw sdk) {call : LaunchCall} {ctx after : SpendContext Allocator}
    {launch : DatastoreLaunch} (success : call.run sdk ctx = (.ok launch, after)) :
    after.coinSpends.map CoinSpend.coin = ctx.coinSpends.map CoinSpend.coin ++ [call.launcher.coin] := by
  obtain ⟨_, staged, mint, _, _, kept⟩ := (Launched.of_ok success).minted
  obtain ⟨spend, appended, coin⟩ := staging.staged mint
  rw [kept, appended, List.map_append, List.map_singleton, coin]

/-- Over any run of caught launches: every refusal leaves the staged spends as they
were, and the drained spends add one launcher spend for each accepted launch,
exactly when each launch of the run settles. -/
theorem launches_atomic_iff (staging : StagingLaw sdk) (ctx : SpendContext Allocator) (calls : List LaunchCall) :
    (EachAttempt (LaunchCall.run sdk) (AtomicAt (LaunchCall.run sdk) SpendContext.coinSpends) calls ctx ∧
      ∃ drained, (drainCoinSpends (attemptAll (LaunchCall.run sdk) calls ctx).2).1 = .ok drained ∧
        drained.map CoinSpend.coin = ctx.coinSpends.map CoinSpend.coin ++
          (acceptedCalls (LaunchCall.run sdk) calls ctx).map fun call => call.launcher.coin) ↔
    EachAttempt (LaunchCall.run sdk) (LaunchCall.Settles sdk) calls ctx := by
  have settles : EachAttempt (LaunchCall.run sdk) (AtomicAt (LaunchCall.run sdk) SpendContext.coinSpends) calls ctx ↔
      EachAttempt (LaunchCall.run sdk) (LaunchCall.Settles sdk) calls ctx :=
    eachAttempt_congr (LaunchCall.atomicAt_iff staging)
  rw [← settles]
  refine and_iff_left_of_imp fun atomic => ⟨_, rfl, ?_⟩
  have coins : EachAttempt (LaunchCall.run sdk)
      (AtomicAt (LaunchCall.run sdk) fun ctx => ctx.coinSpends.map CoinSpend.coin) calls ctx :=
    atomic.imp fun call state kept error refused => congrArg (List.map CoinSpend.coin) (kept error refused)
  exact attemptAll_log (fun call state launch after => call.staged_coin staging) coins

section Samples

open Reference

theorem allocatesMemos_wallet (hints : List Bytes32) (count : Nat) (allocator : Unit) :
    allocatesMemos wallet hints count allocator := by
  induction count generalizing allocator with
  | zero => trivial
  | succ count ih => exact ⟨_, (), rfl, ih ()⟩

/-- A launcher coin whose supplied conditions create nothing. -/
def strandedLaunch : LaunchCall :=
  ⟨.file, ⟨⟨hash32 1, wallet.singletonLauncherHash, 1⟩, [], 1⟩, Reference.metadata, hash32 2, []⟩

def directLaunch : LaunchCall :=
  ⟨.file, wallet.launcherNew (hash32 1) 1, Reference.metadata, hash32 2, []⟩

def evenLaunch : LaunchCall :=
  ⟨.file, wallet.launcherNew (hash32 1) 2, Reference.metadata, hash32 2, []⟩

theorem launches_atomic_even_then_direct :
    EachAttempt (LaunchCall.run wallet) (AtomicAt (LaunchCall.run wallet) SpendContext.coinSpends)
      [evenLaunch, directLaunch] wallet.newContext := by
  have direct : ∀ ctx, directLaunch.Settles wallet ctx := by
    intro ctx
    refine .inr (.inr (.inr ⟨?_, .inl ?_⟩))
    · generalize List.countP _ _ = count
      exact allocatesMemos_wallet _ count _
    · simp [directLaunch, wallet, base, createsCoin, Condition.created?]
  have even : evenLaunch.launcher.singletonAmount % 2 = 0 := by decide +kernel
  have settles : EachAttempt (LaunchCall.run wallet) (LaunchCall.Settles wallet)
      [evenLaunch, directLaunch] wallet.newContext :=
    ⟨.inr (.inl even), direct _, trivial⟩
  exact ((launches_atomic_iff mintLaw.toStagingLaw _ _).mpr settles).1

/-- The launch is refused because nothing creates its launcher, and its staged
launcher spend stays behind. -/
theorem unreachable_launch_strands_its_spend :
    StagingLaw wallet ∧ (∃ error, (strandedLaunch.run wallet wallet.newContext).1 = .error error) ∧
    ¬ EachAttempt (LaunchCall.run wallet) (AtomicAt (LaunchCall.run wallet) SpendContext.coinSpends)
      [strandedLaunch] wallet.newContext := by
  have unsettled : ¬ strandedLaunch.Settles wallet wallet.newContext := by
    rintro (launcher | even | ⟨error, refused⟩ | ⟨_, direct | ⟨intermediate, found, _⟩⟩)
    · exact launcher rfl
    · exact absurd even (by decide)
    · cases refused
    · cases direct
    · cases found
  have stranded : ¬ AtomicAt (LaunchCall.run wallet) SpendContext.coinSpends strandedLaunch
      wallet.newContext := by
    rwa [LaunchCall.atomicAt_iff mintLaw.toStagingLaw]
  refine ⟨mintLaw.toStagingLaw, ?_, fun each => stranded each.1⟩
  obtain ⟨error, late⟩ := not_forall.mp stranded
  exact ⟨error, (Classical.not_imp.mp late).1⟩

end Samples

end DigMerkle
