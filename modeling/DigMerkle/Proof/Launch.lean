import DigMerkle.Reference.Laws

namespace DigMerkle

open Library

variable {Allocator : Type} {sdk : Sdk Allocator}

section Announced

variable {launcher : Launcher} {conditions : Conditions}

/-- The SDK's mint adds no creation to the launcher's base conditions. -/
def AnnouncesLaunch (launcher : Launcher) (conditions : Conditions) : Prop :=
  ∃ announcementId, conditions = launcher.conditions ++ [.assertCoinAnnouncement announcementId]

theorem AnnouncesLaunch.created (announced : AnnouncesLaunch launcher conditions) {created : CreateCoin} :
    .createCoin created ∈ conditions ↔ .createCoin created ∈ launcher.conditions := by
  obtain ⟨announcementId, rfl⟩ := announced
  simp

theorem AnnouncesLaunch.createsCoin (announced : AnnouncesLaunch launcher conditions) (puzzleHash : Bytes32)
    (amount : UInt64) : createsCoin conditions puzzleHash amount = createsCoin launcher.conditions puzzleHash amount := by
  obtain ⟨announcementId, rfl⟩ := announced
  simp [DigMerkle.createsCoin, Condition.created?]

end Announced

def launcherMemos (sdk : Sdk Allocator) (ownerPuzzleHash : Bytes32) (kind : StoreKind) : List Bytes32 :=
  [digstoreOwnerHint sdk ownerPuzzleHash, launcherHintFor kind]

/-- Whether the rewrite stamps a condition. -/
def stamps (sdk : Sdk Allocator) (launcherCoin : Coin) (condition : Condition) : Bool :=
  match condition.created? with
  | some created => isThisLauncher sdk launcherCoin created
  | none => false

/-- A condition before and after the rewrite: a stamped one keeps its puzzle hash
and amount, and any other is the same. -/
inductive Rewritten (sdk : Sdk Allocator) (launcherCoin : Coin) (ownerPuzzleHash : Bytes32)
    (kind : StoreKind) : Condition → Condition → Prop where
  | stamped (launcher : isThisLauncher sdk launcherCoin created = true)
      (allocated : sdk.memos (launcherMemos sdk ownerPuzzleHash kind) allocator = (.ok memos, after)) :
      Rewritten sdk launcherCoin ownerPuzzleHash kind (.createCoin created)
        (.createCoin { created with memos })
  | kept (foreign : stamps sdk launcherCoin condition = false) :
      Rewritten sdk launcherCoin ownerPuzzleHash kind condition condition

theorem AnnouncesLaunch.countP_stamps {launcher : Launcher} {conditions : Conditions}
    (announced : AnnouncesLaunch launcher conditions) (launcherCoin : Coin) :
    conditions.countP (stamps sdk launcherCoin) = launcher.conditions.countP (stamps sdk launcherCoin) := by
  obtain ⟨announcementId, rfl⟩ := announced
  simp [stamps, Condition.created?]

theorem stamps_eq_true {launcherCoin : Coin} {condition : Condition}
    (stamped : stamps sdk launcherCoin condition = true) :
    ∃ created, condition = .createCoin created ∧ isThisLauncher sdk launcherCoin created = true := by
  cases condition with
  | createCoin created => exact ⟨created, rfl, stamped⟩
  | _ => cases stamped

theorem overrideCondition_stamped {launcherCoin : Coin} {ownerPuzzleHash : Bytes32} {kind : StoreKind}
    {created : CreateCoin} {ctx after : SpendContext Allocator} {result : Condition × Bool}
    (launcher : isThisLauncher sdk launcherCoin created = true) :
    overrideCondition sdk launcherCoin ownerPuzzleHash kind (.createCoin created) ctx = (.ok result, after) ↔
      ∃ memos allocator, sdk.memos (launcherMemos sdk ownerPuzzleHash kind) ctx.allocator = (.ok memos, allocator) ∧
        result = (.createCoin { created with memos }, true) ∧ after = { ctx with allocator } := by
  rw [overrideCondition, if_pos launcher, Fallible.bind_eq_ok]
  constructor
  · intro success
    rcases success with ⟨memos, middle, stored, finish⟩
    obtain ⟨allocator, allocated, rfl⟩ := allocating_eq_ok.mp stored
    cases finish
    exact ⟨memos, allocator, allocated, rfl, rfl⟩
  · intro success
    rcases success with ⟨memos, allocator, allocated, rfl, rfl⟩
    exact ⟨memos, _, allocating_eq_ok.mpr ⟨allocator, allocated, rfl⟩, rfl⟩

theorem overrideCondition_kept {launcherCoin : Coin} {ownerPuzzleHash : Bytes32} {kind : StoreKind}
    {condition : Condition} {ctx : SpendContext Allocator} (foreign : ¬ stamps sdk launcherCoin condition = true) :
    overrideCondition sdk launcherCoin ownerPuzzleHash kind condition ctx = (.ok (condition, false), ctx) := by
  cases condition with
  | createCoin created =>
    have other : ¬ isThisLauncher sdk launcherCoin created = true := foreign
    rw [overrideCondition, if_neg other]
    rfl
  | _ => rfl

theorem overrideCondition_eq_ok {launcherCoin : Coin} {ownerPuzzleHash : Bytes32} {kind : StoreKind}
    {condition : Condition} {ctx after : SpendContext Allocator} {result : Condition × Bool}
    (success : overrideCondition sdk launcherCoin ownerPuzzleHash kind condition ctx = (.ok result, after)) :
    Rewritten sdk launcherCoin ownerPuzzleHash kind condition result.1 ∧
      result.2 = stamps sdk launcherCoin condition := by
  by_cases stamped : stamps sdk launcherCoin condition = true
  · obtain ⟨created, rfl, launcher⟩ := stamps_eq_true stamped
    obtain ⟨memos, allocator, allocated, rfl, _⟩ := (overrideCondition_stamped launcher).mp success
    exact ⟨.stamped launcher allocated, stamped.symm⟩
  · rw [overrideCondition_kept stamped] at success
    cases success
    have foreign : stamps sdk launcherCoin condition = false := by simpa using stamped
    exact ⟨.kept foreign, foreign.symm⟩

/-- The rewrite is pointwise, and its flag says whether a condition was stamped. -/
theorem overrideLauncherHint_eq_ok {launcherCoin : Coin} {ownerPuzzleHash : Bytes32} {kind : StoreKind}
    {conditions : Conditions} {ctx after : SpendContext Allocator} {result : Conditions × Bool}
    (success : overrideLauncherHint sdk launcherCoin ownerPuzzleHash kind conditions ctx =
      (.ok result, after)) :
    List.Forall₂ (Rewritten sdk launcherCoin ownerPuzzleHash kind) conditions result.1 ∧
      result.2 = conditions.any (stamps sdk launcherCoin) := by
  induction conditions generalizing ctx result with
  | nil =>
    cases success
    exact ⟨.nil, rfl⟩
  | cons condition conditions ih =>
    rw [overrideLauncherHint, Fallible.bind_eq_ok] at success
    obtain ⟨head, middle, first, rest⟩ := success
    obtain ⟨tail, last, second, finish⟩ := Fallible.bind_eq_ok.mp rest
    cases finish
    obtain ⟨rewritten, flag⟩ := overrideCondition_eq_ok first
    obtain ⟨others, later⟩ := ih second
    exact ⟨.cons rewritten others, by rw [List.any_cons, ← flag, ← later]⟩

theorem Rewritten.createsCoin {launcherCoin : Coin} {conditions rewritten : Conditions}
    (each : List.Forall₂ (Rewritten sdk launcherCoin ownerPuzzleHash kind) conditions rewritten)
    (puzzleHash : Bytes32) (amount : UInt64) :
    createsCoin rewritten puzzleHash amount = createsCoin conditions puzzleHash amount := by
  induction each with
  | nil => rfl
  | cons head _ ih =>
    simp only [DigMerkle.createsCoin, List.any_cons] at ih ⊢
    rw [ih]
    cases head <;> rfl

theorem Rewritten.source {launcherCoin : Coin} {conditions rewritten : Conditions}
    (each : List.Forall₂ (Rewritten sdk launcherCoin ownerPuzzleHash kind) conditions rewritten)
    {condition : Condition} (member : condition ∈ rewritten) :
    ∃ before ∈ conditions, Rewritten sdk launcherCoin ownerPuzzleHash kind before condition := by
  induction each with
  | nil => cases member
  | cons head _ ih =>
    cases member with
    | head => exact ⟨_, List.mem_cons_self, head⟩
    | tail _ later =>
      obtain ⟨before, present, related⟩ := ih later
      exact ⟨before, List.mem_cons_of_mem _ present, related⟩

theorem Rewritten.target {launcherCoin : Coin} {conditions rewritten : Conditions}
    (each : List.Forall₂ (Rewritten sdk launcherCoin ownerPuzzleHash kind) conditions rewritten)
    {condition : Condition} (member : condition ∈ conditions) :
    ∃ after ∈ rewritten, Rewritten sdk launcherCoin ownerPuzzleHash kind condition after := by
  induction each with
  | nil => cases member
  | cons head _ ih =>
    cases member with
    | head => exact ⟨_, List.mem_cons_self, head⟩
    | tail _ later =>
      obtain ⟨after, present, related⟩ := ih later
      exact ⟨after, List.mem_cons_of_mem _ present, related⟩

/-- As many allocations of the same memos succeed one after the other. -/
def allocatesMemos (sdk : Sdk Allocator) (hints : List Bytes32) : Nat → Allocator → Prop
  | 0, _ => True
  | count + 1, allocator => ∃ memos after, sdk.memos hints allocator = (.ok memos, after) ∧
      allocatesMemos sdk hints count after

theorem overrideLauncherHint_succeeds {launcherCoin : Coin} {ownerPuzzleHash : Bytes32} {kind : StoreKind}
    {conditions : Conditions} {ctx : SpendContext Allocator} :
    (∃ result after, overrideLauncherHint sdk launcherCoin ownerPuzzleHash kind conditions ctx =
      (.ok result, after)) ↔
    allocatesMemos sdk (launcherMemos sdk ownerPuzzleHash kind)
      (conditions.countP (stamps sdk launcherCoin)) ctx.allocator := by
  induction conditions generalizing ctx with
  | nil => exact ⟨fun _ => trivial, fun _ => ⟨_, _, rfl⟩⟩
  | cons condition conditions ih =>
    have split : (∃ result after, overrideLauncherHint sdk launcherCoin ownerPuzzleHash kind
          (condition :: conditions) ctx = (.ok result, after)) ↔
        ∃ head middle, overrideCondition sdk launcherCoin ownerPuzzleHash kind condition ctx = (.ok head, middle) ∧
          ∃ tail last, overrideLauncherHint sdk launcherCoin ownerPuzzleHash kind conditions middle =
            (.ok tail, last) := by
      simp only [overrideLauncherHint, Fallible.bind_eq_ok]
      constructor
      · intro success
        rcases success with ⟨_, _, head, middle, first, tail, last, second, _⟩
        exact ⟨head, middle, first, tail, last, second⟩
      · intro halves
        rcases halves with ⟨head, middle, first, tail, last, second⟩
        exact ⟨_, _, head, middle, first, tail, last, second, rfl⟩
    rw [split]
    simp only [ih]
    by_cases stamped : stamps sdk launcherCoin condition = true
    · rw [List.countP_cons_of_pos stamped]
      obtain ⟨created, rfl, launcher⟩ := stamps_eq_true stamped
      simp only [overrideCondition_stamped launcher]
      constructor
      · intro halves
        rcases halves with ⟨_, _, ⟨memos, allocator, allocated, _, rfl⟩, rest⟩
        exact ⟨memos, allocator, allocated, rest⟩
      · intro allocates
        rcases allocates with ⟨memos, allocator, allocated, rest⟩
        exact ⟨_, _, ⟨memos, allocator, allocated, rfl, rfl⟩, rest⟩
    · rw [List.countP_cons_of_neg stamped]
      simp only [overrideCondition_kept stamped]
      constructor
      · intro halves
        rcases halves with ⟨_, _, passed, rest⟩
        cases passed
        exact rest
      · intro rest
        exact ⟨_, _, rfl, rest⟩

theorem overrideLauncherHint_keeps (launcherCoin : Coin) (ownerPuzzleHash : Bytes32) (kind : StoreKind)
    (conditions : Conditions) : Fallible.Keeps SpendContext.coinSpends
      (overrideLauncherHint sdk launcherCoin ownerPuzzleHash kind conditions) := by
  induction conditions with
  | nil => exact Fallible.keeps_pure _ _
  | cons condition conditions ih =>
    refine .bind ?_ fun head => .bind ih fun tail => Fallible.keeps_pure _ _
    cases condition with
    | createCoin created =>
      rw [overrideCondition]
      split
      · exact .bind (allocating_coinSpends _) fun memos => Fallible.keeps_pure _ _
      · exact Fallible.keeps_pure _ _
    | _ => exact Fallible.keeps_pure _ _

theorem spendCreates_stateless (sdk : Sdk Allocator) (spend : CoinSpend) (expected : Coin) :
    Fallible.Stateless (spendCreates sdk spend expected) :=
  .bind (Fallible.stateless_ofExcept _) fun _ => .bind (Fallible.stateless_ofExcept _) fun _ =>
    .bind (Fallible.stateless_ofExcept _) fun _ => .bind (Fallible.stateless_ofExcept _) fun _ =>
      Fallible.stateless_pure _

theorem spendCreates_outcome (sdk : Sdk Allocator) (spend : CoinSpend) (expected : Coin)
    (ctx other : SpendContext Allocator) :
    (spendCreates sdk spend expected other).1 = (spendCreates sdk spend expected ctx).1 := by
  obtain ⟨outcome, same⟩ := spendCreates_stateless sdk spend expected
  rw [same]
  rfl

/-- The staged spend of the launcher's parent is created by the conditions and
itself creates the launcher. -/
def ReachesThroughStaged (sdk : Sdk Allocator) (ctx : SpendContext Allocator) (conditions : Conditions)
    (launcherCoin : Coin) : Prop :=
  ∃ intermediate, stagedSpendOf sdk ctx launcherCoin.parentCoinInfo = some intermediate ∧
    createsCoin conditions intermediate.coin.puzzleHash intermediate.coin.amount = true ∧
    (spendCreates sdk intermediate launcherCoin ctx).1 = .ok true

def ReachesLauncher (sdk : Sdk Allocator) (ctx : SpendContext Allocator) (conditions : Conditions)
    (launcherCoin : Coin) : Prop :=
  createsCoin conditions launcherCoin.puzzleHash launcherCoin.amount = true ∨
    ReachesThroughStaged sdk ctx conditions launcherCoin

theorem assertLaunchReaches_eq_ok {conditions : Conditions} {launcherCoin : Coin}
    {ctx : SpendContext Allocator} :
    (assertLaunchReachesTheLauncher sdk conditions launcherCoin ctx).1 = .ok () ↔
      ReachesLauncher sdk ctx conditions launcherCoin := by
  unfold assertLaunchReachesTheLauncher ReachesLauncher ReachesThroughStaged
  by_cases direct : createsCoin conditions launcherCoin.puzzleHash launcherCoin.amount = true
  · simp [direct]
  · simp only [direct, Bool.false_eq_true, ↓reduceIte, false_or]
    rw [Fallible.bind_apply, Fallible.read_apply]
    cases found : stagedSpendOf sdk ctx launcherCoin.parentCoinInfo with
    | none => simp
    | some intermediate =>
      obtain ⟨outcome, same⟩ := spendCreates_stateless sdk intermediate launcherCoin
      by_cases created : createsCoin conditions intermediate.coin.puzzleHash intermediate.coin.amount = true
      · simp only [created, ↓reduceIte, Fallible.bind_apply, same, Fallible.ofExcept_apply,
          Option.some.injEq, exists_eq_left', true_and]
        cases outcome with
        | error error => simp
        | ok creates => cases creates <;> simp
      · simp [created]

theorem assertLaunchReaches_keeps (conditions : Conditions) (launcherCoin : Coin) :
    Fallible.Keeps SpendContext.coinSpends (assertLaunchReachesTheLauncher sdk conditions launcherCoin) := by
  unfold assertLaunchReachesTheLauncher
  split
  · exact Fallible.keeps_pure _ _
  · refine .bind (Fallible.keeps_read _ _) fun staged => ?_
    cases staged with
    | none => exact Fallible.keeps_fail _ _
    | some intermediate =>
      obtain ⟨outcome, same⟩ := spendCreates_stateless sdk intermediate launcherCoin
      dsimp only
      split
      · refine .bind (by rw [same]; exact Fallible.keeps_ofExcept _ _) fun creates => ?_
        split
        · exact Fallible.keeps_pure _ _
        · exact Fallible.keeps_fail _ _
      · exact Fallible.keeps_fail _ _

/-- The part of a launch that follows the SDK's mint. -/
def finishLaunch (sdk : Sdk Allocator) (kind : StoreKind) (launcher : Launcher) (ownerPuzzleHash : Bytes32)
    (minted : Conditions × Datastore DigDataStoreMetadata) : InContext Allocator DatastoreLaunch := do
  Fallible.ofExcept (assertMintedSingletonAmountIsOdd minted.2.coin.amount)
  let overridden ← overrideLauncherHint sdk launcher.coin ownerPuzzleHash kind minted.1
  assertLaunchReachesTheLauncher sdk overridden.1 launcher.coin
  return ⟨overridden.1, minted.2, overridden.2⟩

theorem mintDatastoreLaunchWithKind_eq (sdk : Sdk Allocator) (kind : StoreKind) (launcher : Launcher)
    (metadata : DigDataStoreMetadata) (ownerPuzzleHash : Bytes32) (set : List DelegatedPuzzle) :
    mintDatastoreLaunchWithKind sdk kind launcher metadata ownerPuzzleHash set =
      (.ofExcept (assertLauncherIsLegal sdk launcher.coin launcher.singletonAmount) >>= fun _ =>
        driving (sdk.launcherMintDatastore launcher metadata ownerPuzzleHash set) >>=
          finishLaunch sdk kind launcher ownerPuzzleHash) := rfl

theorem finishLaunch_keeps (sdk : Sdk Allocator) (kind : StoreKind) (launcher : Launcher)
    (ownerPuzzleHash : Bytes32) (minted : Conditions × Datastore DigDataStoreMetadata) :
    Fallible.Keeps SpendContext.coinSpends (finishLaunch sdk kind launcher ownerPuzzleHash minted) :=
  .bind (Fallible.keeps_ofExcept _ _) fun _ => .bind (overrideLauncherHint_keeps _ _ _ _) fun _ =>
    .bind (assertLaunchReaches_keeps _ _) fun _ => Fallible.keeps_pure _ _

theorem assertMintedSingletonAmountIsOdd_eq_ok {amount : UInt64} :
    assertMintedSingletonAmountIsOdd amount = .ok () ↔ amount % 2 ≠ 0 := by
  unfold assertMintedSingletonAmountIsOdd
  split <;> simp_all

theorem assertLauncherIsLegal_eq_ok {coin : Coin} {amount : UInt64} :
    assertLauncherIsLegal sdk coin amount = .ok () ↔
      coin.puzzleHash = sdk.singletonLauncherHash ∧ amount % 2 ≠ 0 := by
  rw [assertLauncherIsLegal, ← assertMintedSingletonAmountIsOdd_eq_ok]
  split <;> simp_all

/-- Everything a successful launch did. -/
structure Launched (sdk : Sdk Allocator) (kind : StoreKind) (launcher : Launcher)
    (metadata : DigDataStoreMetadata) (ownerPuzzleHash : Bytes32) (set : List DelegatedPuzzle)
    (ctx : SpendContext Allocator) (launch : DatastoreLaunch) (after : SpendContext Allocator) : Prop where
  legal : launcher.coin.puzzleHash = sdk.singletonLauncherHash
  odd : launcher.singletonAmount % 2 ≠ 0
  minted : ∃ conditions staged, sdk.launcherMintDatastore launcher metadata ownerPuzzleHash set ctx =
      (.ok (conditions, launch.datastore), staged) ∧
    List.Forall₂ (Rewritten sdk launcher.coin ownerPuzzleHash kind) conditions launch.parentConditions ∧
    launch.launcherMemosWritten = conditions.any (stamps sdk launcher.coin) ∧
    after.coinSpends = staged.coinSpends

theorem Launched.of_ok {kind : StoreKind} {launcher : Launcher} {metadata : DigDataStoreMetadata}
    {ownerPuzzleHash : Bytes32} {set : List DelegatedPuzzle} {ctx after : SpendContext Allocator}
    {launch : DatastoreLaunch}
    (success : mintDatastoreLaunchWithKind sdk kind launcher metadata ownerPuzzleHash set ctx =
      (.ok launch, after)) :
    Launched sdk kind launcher metadata ownerPuzzleHash set ctx launch after := by
  simp only [mintDatastoreLaunchWithKind_eq, Fallible.bind_eq_ok, Fallible.ofExcept_eq_ok] at success
  obtain ⟨⟨⟩, _, ⟨legal, rfl⟩, minted, staged, driven, finish⟩ := success
  have kept := finishLaunch_keeps sdk kind launcher ownerPuzzleHash minted staged
  rw [finish] at kept
  simp only [finishLaunch, Fallible.bind_eq_ok, Fallible.ofExcept_eq_ok, Fallible.pure_eq_ok] at finish
  obtain ⟨_, _, _, overridden, _, rewrite, _, _, _, rfl, rfl⟩ := finish
  obtain ⟨each, flag⟩ := overrideLauncherHint_eq_ok rewrite
  obtain ⟨launcherHash, amount⟩ := assertLauncherIsLegal_eq_ok.mp legal
  exact ⟨launcherHash, amount, minted.1, staged, driving_eq_ok.mp driven, each, flag, kept⟩

end DigMerkle
