import DigMerkle.Proof.LauncherMemos

namespace DigMerkle

open Library

variable {Allocator : Type} {sdk : Sdk Allocator}

/-- The created coin has the launcher's puzzle hash and amount. -/
def LikeLauncher (launcherCoin : Coin) (created : CreateCoin) : Prop :=
  created.puzzleHash = launcherCoin.puzzleHash ∧ created.amount = launcherCoin.amount

instance (launcherCoin : Coin) (created : CreateCoin) : Decidable (LikeLauncher launcherCoin created) :=
  inferInstanceAs (Decidable (_ ∧ _))

/-- The creation with the two owner-discovery memos. -/
def stampedCreation (sdk : Sdk Allocator) (ownerPuzzleHash : Bytes32) (kind : StoreKind) (created : CreateCoin) :
    CreateCoin :=
  ⟨created.puzzleHash, created.amount, memosOf [(digstoreOwnerHint sdk ownerPuzzleHash).bytes, (launcherHintFor kind).bytes]⟩

/-- What the rewrite is for: the launcher's creation gets the two memos, and any other
condition stays. -/
def stampLauncher (sdk : Sdk Allocator) (launcherCoin : Coin) (ownerPuzzleHash : Bytes32) (kind : StoreKind) :
    Condition → Condition
  | .createCoin created =>
    if LikeLauncher launcherCoin created then .createCoin (stampedCreation sdk ownerPuzzleHash kind created)
    else .createCoin created
  | condition => condition

/-- The coins whose ids the rewrite compares: the launcher, and each created coin under
the launcher's parent. -/
def rewriteCoins (launcherCoin : Coin) (conditions : Conditions) : Set Coin :=
  {coin | coin = launcherCoin ∨ ∃ created, .createCoin created ∈ conditions ∧
    coin = ⟨launcherCoin.parentCoinInfo, created.puzzleHash, created.amount⟩}

/-- The outcome of a rewrite, position by position. -/
structure PointwiseRewrite (sdk : Sdk Allocator) (launcherCoin : Coin) (ownerPuzzleHash : Bytes32)
    (kind : StoreKind) (conditions : Conditions) (result : Conditions × Bool) : Prop where
  stamped : result.1 = conditions.map (stampLauncher sdk launcherCoin ownerPuzzleHash kind)
  flag : result.2 = true ↔ ∃ created, .createCoin created ∈ conditions ∧ LikeLauncher launcherCoin created

section Rewrite

variable {launcherCoin : Coin} {ownerPuzzleHash : Bytes32} {kind : StoreKind} {conditions : Conditions}

theorem likeLauncher_iff (collisionFree : Set.InjOn sdk.coinId (rewriteCoins launcherCoin conditions))
    {created : CreateCoin} (member : .createCoin created ∈ conditions) :
    isThisLauncher sdk launcherCoin created = true ↔ LikeLauncher launcherCoin created :=
  isThisLauncher_iff collisionFree (.inl rfl) (.inr ⟨created, member, rfl⟩)

theorem Rewritten.eq_stampLauncher (memos : MemosLaw sdk)
    (collisionFree : Set.InjOn sdk.coinId (rewriteCoins launcherCoin conditions)) {before after : Condition}
    (member : before ∈ conditions) (related : Rewritten sdk launcherCoin ownerPuzzleHash kind before after) :
    stampLauncher sdk launcherCoin ownerPuzzleHash kind before = after := by
  cases related with
  | stamped launched allocated =>
    rw [stampLauncher, if_pos ((likeLauncher_iff collisionFree member).mp launched), memos.listed allocated]
    rfl
  | kept foreign =>
    cases before with
    | createCoin created =>
      have other : ¬ LikeLauncher launcherCoin created := by
        intro like
        have launched := (likeLauncher_iff collisionFree member).mpr like
        exact absurd launched (by simpa [stamps, Condition.created?] using foreign)
      rw [stampLauncher, if_neg other]
    | _ => rfl

theorem stampLauncher_eq_createCoin {before : Condition} {created : CreateCoin}
    (same : stampLauncher sdk launcherCoin ownerPuzzleHash kind before = .createCoin created) :
    ∃ original, before = .createCoin original ∧
      (LikeLauncher launcherCoin original ∧ created = stampedCreation sdk ownerPuzzleHash kind original ∨
        ¬ LikeLauncher launcherCoin original ∧ created = original) := by
  cases before with
  | createCoin original =>
    refine ⟨original, rfl, ?_⟩
    by_cases like : LikeLauncher launcherCoin original
    · rw [stampLauncher, if_pos like] at same
      exact .inl ⟨like, (Condition.createCoin.inj same).symm⟩
    · rw [stampLauncher, if_neg like] at same
      exact .inr ⟨like, (Condition.createCoin.inj same).symm⟩
  | _ => cases same

theorem stampLauncher_created {created : CreateCoin}
    (member : .createCoin created ∈ conditions.map (stampLauncher sdk launcherCoin ownerPuzzleHash kind)) :
    ∃ original, .createCoin original ∈ conditions ∧ original.puzzleHash = created.puzzleHash ∧
      original.amount = created.amount := by
  obtain ⟨before, present, same⟩ := List.mem_map.mp member
  obtain ⟨original, rfl, ⟨_, rfl⟩ | ⟨_, rfl⟩⟩ := stampLauncher_eq_createCoin same
  · exact ⟨original, present, rfl, rfl⟩
  · exact ⟨created, present, rfl, rfl⟩

theorem stampLauncher_stampLauncher (condition : Condition) :
    stampLauncher sdk launcherCoin ownerPuzzleHash kind
      (stampLauncher sdk launcherCoin ownerPuzzleHash kind condition) =
        stampLauncher sdk launcherCoin ownerPuzzleHash kind condition := by
  cases condition with
  | createCoin created =>
    by_cases like : LikeLauncher launcherCoin created
    · have again : LikeLauncher launcherCoin (stampedCreation sdk ownerPuzzleHash kind created) := like
      simp only [stampLauncher, if_pos like, if_pos again]
      rfl
    · simp only [stampLauncher, if_neg like]
  | _ => rfl

theorem PointwiseRewrite.of_ok (memos : MemosLaw sdk)
    (collisionFree : Set.InjOn sdk.coinId (rewriteCoins launcherCoin conditions)) {ctx after : SpendContext Allocator}
    {result : Conditions × Bool}
    (success : overrideLauncherHint sdk launcherCoin ownerPuzzleHash kind conditions ctx = (.ok result, after)) :
    PointwiseRewrite sdk launcherCoin ownerPuzzleHash kind conditions result := by
  obtain ⟨each, flag⟩ := overrideLauncherHint_eq_ok success
  constructor
  · have members := (List.forall₂_and_left _ _).mpr ⟨fun condition member => member, each⟩
    have stamped : List.Forall₂ (· = ·) (conditions.map (stampLauncher sdk launcherCoin ownerPuzzleHash kind))
        result.1 := by
      rw [List.forall₂_map_left_iff]
      exact members.imp fun before after ⟨member, related⟩ => related.eq_stampLauncher memos collisionFree member
    rw [List.forall₂_eq_eq_eq] at stamped
    exact stamped.symm
  · rw [flag]
    refine any_created_iff.trans (exists_congr fun created => and_congr_right fun member => ?_)
    exact likeLauncher_iff collisionFree member

theorem PointwiseRewrite.rewriteCoins_subset {result : Conditions × Bool}
    (pointwise : PointwiseRewrite sdk launcherCoin ownerPuzzleHash kind conditions result) :
    rewriteCoins launcherCoin result.1 ⊆ rewriteCoins launcherCoin conditions := by
  intro coin compared
  rcases compared with own | ⟨created, member, made⟩
  · exact .inl own
  · rw [pointwise.stamped] at member
    obtain ⟨original, present, puzzleHash, amount⟩ := stampLauncher_created member
    exact .inr ⟨original, present, by rw [made, puzzleHash, amount]⟩

/-- A second rewrite of a rewritten list gives what the first gave. -/
theorem PointwiseRewrite.again {result second : Conditions × Bool}
    (pointwise : PointwiseRewrite sdk launcherCoin ownerPuzzleHash kind conditions result)
    (pointwise' : PointwiseRewrite sdk launcherCoin ownerPuzzleHash kind result.1 second) : second = result := by
  have conditionsSame : second.1 = result.1 := by
    rw [pointwise'.stamped, pointwise.stamped, List.map_map]
    exact List.map_congr_left fun condition _ => stampLauncher_stampLauncher condition
  have flagSame : second.2 = true ↔ result.2 = true := by
    rw [pointwise'.flag, pointwise.flag, pointwise.stamped]
    constructor
    · intro found
      obtain ⟨created, member, like⟩ := found
      obtain ⟨original, present, puzzleHash, amount⟩ := stampLauncher_created member
      exact ⟨original, present, puzzleHash.trans like.1, amount.trans like.2⟩
    · intro found
      obtain ⟨created, member, like⟩ := found
      refine ⟨stampedCreation sdk ownerPuzzleHash kind created, List.mem_map.mpr ⟨_, member, ?_⟩, like⟩
      rw [stampLauncher, if_pos like]
  exact Prod.ext conditionsSame (Bool.eq_iff_iff.mpr flagSame)

theorem Rewritten.countP_stamps {rewritten : Conditions}
    (each : List.Forall₂ (Rewritten sdk launcherCoin ownerPuzzleHash kind) conditions rewritten) :
    rewritten.countP (stamps sdk launcherCoin) = conditions.countP (stamps sdk launcherCoin) := by
  induction each with
  | nil => rfl
  | cons head _ ih =>
    rw [List.countP_cons, List.countP_cons, ih]
    cases head <;> rfl

/-- What a stamped creation's memos are read back as: the owner's hint, and the kind. -/
theorem PointwiseRewrite.classified {result : Conditions × Bool}
    (pointwise : PointwiseRewrite sdk launcherCoin ownerPuzzleHash kind conditions result) {created : CreateCoin}
    (member : .createCoin created ∈ result.1) (like : LikeLauncher launcherCoin created) :
    ∃ hint : Bytes32, memoList created.memos = some [(digstoreOwnerHint sdk ownerPuzzleHash).bytes, hint.bytes] ∧
      fromLauncherHint hint = some kind := by
  rw [pointwise.stamped] at member
  obtain ⟨before, _, same⟩ := List.mem_map.mp member
  refine ⟨launcherHintFor kind, ?_, fromLauncherHint_launcherHintFor kind⟩
  obtain ⟨original, _, ⟨_, rfl⟩ | ⟨other, rfl⟩⟩ := stampLauncher_eq_createCoin same
  · exact memoList_memosOf _
  · exact absurd like other

theorem overrideLauncherHint_again (memos : MemosLaw sdk)
    (collisionFree : Set.InjOn sdk.coinId (rewriteCoins launcherCoin conditions))
    {ctx after ctx' after' : SpendContext Allocator} {result second : Conditions × Bool}
    (success : overrideLauncherHint sdk launcherCoin ownerPuzzleHash kind conditions ctx = (.ok result, after))
    (success' : overrideLauncherHint sdk launcherCoin ownerPuzzleHash kind result.1 ctx' = (.ok second, after')) :
    second = result := by
  have pointwise := PointwiseRewrite.of_ok memos collisionFree success
  have pointwise' := PointwiseRewrite.of_ok memos (collisionFree.mono pointwise.rewriteCoins_subset) success'
  exact pointwise.again pointwise'

theorem overrideLauncherHint_repeats {ctx after : SpendContext Allocator} {result : Conditions × Bool}
    (success : overrideLauncherHint sdk launcherCoin ownerPuzzleHash kind conditions ctx = (.ok result, after)) :
    ∃ second after', overrideLauncherHint sdk launcherCoin ownerPuzzleHash kind result.1 ctx =
      (.ok second, after') := by
  have allocates := overrideLauncherHint_succeeds.mp ⟨result, after, success⟩
  apply overrideLauncherHint_succeeds.mpr
  rwa [Rewritten.countP_stamps (overrideLauncherHint_eq_ok success).1]

/-- A successful rewrite stamps the launcher's creations and keeps every other condition
in its place, its flag says whether it stamped one, a second rewrite returns the same,
and the second memo it wrote is read back as the kind. -/
theorem memo_rewrite_pointwise (memos : MemosLaw sdk)
    (collisionFree : Set.InjOn sdk.coinId (rewriteCoins launcherCoin conditions)) {ctx after : SpendContext Allocator}
    {result : Conditions × Bool}
    (success : overrideLauncherHint sdk launcherCoin ownerPuzzleHash kind conditions ctx = (.ok result, after)) :
    PointwiseRewrite sdk launcherCoin ownerPuzzleHash kind conditions result ∧
    (∀ ctx' second after', overrideLauncherHint sdk launcherCoin ownerPuzzleHash kind result.1 ctx' =
      (.ok second, after') → second = result) ∧
    (∃ after', overrideLauncherHint sdk launcherCoin ownerPuzzleHash kind result.1 ctx = (.ok result, after')) ∧
    ∀ created, .createCoin created ∈ result.1 → LikeLauncher launcherCoin created →
      ∃ hint : Bytes32, memoList created.memos = some [(digstoreOwnerHint sdk ownerPuzzleHash).bytes, hint.bytes] ∧
        fromLauncherHint hint = some kind := by
  have pointwise := PointwiseRewrite.of_ok memos collisionFree success
  have again : ∀ ctx' second after', overrideLauncherHint sdk launcherCoin ownerPuzzleHash kind result.1 ctx' =
      (.ok second, after') → second = result :=
    fun ctx' second after' success' => overrideLauncherHint_again memos collisionFree success success'
  obtain ⟨second, after', repeated⟩ := overrideLauncherHint_repeats success
  have same := again ctx second after' repeated
  subst same
  exact ⟨pointwise, again, ⟨after', repeated⟩, fun created => pointwise.classified⟩

end Rewrite

section Samples

open Reference

/-- The launcher's creation, between a payment and an announcement. -/
def mixedConditions : Conditions :=
  [.createCoin ⟨hash32 4, 7, .none⟩, .createCoin ⟨wallet.singletonLauncherHash, 1, .none⟩,
    .assertCoinAnnouncement (hash32 6)]

theorem mixedConditions_coins {coin : Coin} (compared : coin ∈ rewriteCoins directLauncher.coin mixedConditions) :
    coin ∈ [directLauncher.coin, ⟨coinId fundingCoin, hash32 4, 7⟩] := by
  rcases compared with own | ⟨created, member, made⟩
  · rw [own]
    exact List.mem_cons_self
  · have shapes : created = ⟨hash32 4, 7, .none⟩ ∨ created = ⟨wallet.singletonLauncherHash, 1, .none⟩ := by
      simpa [mixedConditions] using member
    rcases shapes with rfl | rfl
    · rw [made]
      exact .tail _ (.head _)
    · rw [made]
      exact .head _

theorem memo_rewrite_mixed : ∃ result, PointwiseRewrite wallet directLauncher.coin (hash32 3) .didProfile
    mixedConditions result := by
  have accepted : (overrideLauncherHint wallet directLauncher.coin (hash32 3) .didProfile mixedConditions
      wallet.newContext).1.isOk = true := by decide +kernel
  have distinct : ([directLauncher.coin, ⟨coinId fundingCoin, hash32 4, 7⟩].map coinId).Nodup := by decide +kernel
  have collisionFree : Set.InjOn wallet.coinId (rewriteCoins directLauncher.coin mixedConditions) :=
    injOn_of_nodup distinct fun _ => mixedConditions_coins
  obtain ⟨result, rewritten⟩ := except_isOk_iff.mp accepted
  obtain ⟨after, success⟩ := Fallible.exists_after rewritten
  exact ⟨result, (memo_rewrite_pointwise memosLaw collisionFree success).1⟩

end Samples

end DigMerkle
