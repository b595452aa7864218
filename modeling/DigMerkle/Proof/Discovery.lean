import DigMerkle.Proof.Compose
import DigMerkle.Proof.MemoRewrite
import DigMerkle.Proof.ReadBack

/-! Discovering an owner's stores. A coin index lists created coins by their first memo, and
under an owner's hint it lists the launchers of that owner's mints and nothing else. -/

namespace DigMerkle

open Library

variable {Allocator : Type} {sdk : Sdk Allocator}

/-- The conditions that a spend runs to. -/
def conditionsOf (sdk : Sdk Allocator) (spend : CoinSpend) : Option Conditions := do
  let puzzle ← (sdk.programToClvm spend.puzzleReveal).toOption
  let solution ← (sdk.programToClvm spend.solution).toOption
  (sdk.emitted puzzle solution).toOption

theorem conditionsOf_of_emits {spend : CoinSpend} {conditions : Conditions} (emits : SpendEmits sdk spend conditions) :
    conditionsOf sdk spend = some conditions := by
  obtain ⟨puzzle, solution, reveal, solved, emitted⟩ := emits
  simp [conditionsOf, reveal, solved, emitted, Except.toOption]

/-- A created coin with its memos, as a coin index lists it. -/
structure CoinRecord where
  coin : Coin
  memos : List (List UInt8)

def recordOf (sdk : Sdk Allocator) (parent : Coin) (created : CreateCoin) : CoinRecord :=
  ⟨createdBy sdk parent created, (memoList created.memos).getD []⟩

/-- What a spend adds to the index. A launcher gives its child no memos, so the child is
listed under none. -/
def createdRecords (sdk : Sdk Allocator) (spend : CoinSpend) : List CoinRecord :=
  if spend.coin.puzzleHash = sdk.singletonLauncherHash then []
  else (((conditionsOf sdk spend).getD []).filterMap Condition.created?).map (recordOf sdk spend.coin)

/-- The first memo is the one that a coin is listed under. -/
def CoinRecord.hintedBy (hint : Bytes32) (record : CoinRecord) : Bool := record.memos.head? = some hint.bytes

theorem CoinRecord.hintedBy_iff {record : CoinRecord} {first hint : Bytes32}
    (listed : record.memos.head? = some first.bytes) : record.hintedBy hint = true ↔ first = hint := by
  rw [hintedBy, listed, decide_eq_true_iff, Option.some.injEq]
  constructor
  · intro same
    exact BytesImpl.toClvm_injective (congrArg Clvm.atom same)
  · intro same
    rw [same]

/-- The kind that the second memo names. -/
def CoinRecord.kind (record : CoinRecord) : Option StoreKind := do
  let memo ← record.memos[1]?
  let hint ← (BytesImpl.fromClvm 32 (.atom memo)).toOption
  fromLauncherHint hint

def recordsByHint (sdk : Sdk Allocator) (hint : Bytes32) (spends : List CoinSpend) : List CoinRecord :=
  spends.flatMap fun spend => (createdRecords sdk spend).filter (CoinRecord.hintedBy hint)

/-- The store behind a listed launcher, hydrated from the launcher's spend. -/
def openRecord (sdk : Sdk Allocator) (spends : List CoinSpend) (record : CoinRecord) :
    Option (StoreKind × Datastore DigDataStoreMetadata) := do
  let kind ← record.kind
  let spend ← spends.find? fun spend => spend.coin = record.coin
  let store ← (hydrate sdk spend).toOption
  return (kind, store)

/-- The stores that an owner finds in the index. -/
def discoverStores (sdk : Sdk Allocator) (ownerPuzzleHash : Bytes32) (spends : List CoinSpend) :
    List (StoreKind × Datastore DigDataStoreMetadata) :=
  (recordsByHint sdk (digstoreOwnerHint sdk ownerPuzzleHash) spends).filterMap (openRecord sdk spends)

theorem ownerConditions_hinted (hint : HintLaw sdk) {parentCoin : Coin} {ownerPuzzleHash : Bytes32}
    {reserved : UInt64} {launchConditions conditions : Conditions} {ctx after : SpendContext Allocator}
    (success : ownerConditions sdk parentCoin ownerPuzzleHash reserved launchConditions ctx =
      (.ok conditions, after)) :
    conditions = launchConditions ++
      changeOf ownerPuzzleHash parentCoin.amount reserved (memosOf [ownerPuzzleHash.bytes]) := by
  unfold ownerConditions at success
  split at success
  · rename_i surplus
    simp only [Fallible.bind_eq_ok, allocating_eq_ok, Fallible.pure_eq_ok] at success
    obtain ⟨memos, _, ⟨_, allocated, _⟩, rfl, _⟩ := success
    rw [changeOf, if_pos surplus, hint.hinted allocated]
  · rename_i covered
    cases success
    rw [changeOf, if_neg covered, List.append_nil]

theorem rewritten_direct_stamped (memos : MemosLaw sdk) {launcherCoin : Coin} {ownerPuzzleHash : Bytes32}
    {kind : StoreKind} {created : CreateCoin} {announcementId : Bytes32} {rewritten : Conditions}
    (launcher : isThisLauncher sdk launcherCoin created = true)
    (each : List.Forall₂ (Rewritten sdk launcherCoin ownerPuzzleHash kind)
      [.createCoin created, .assertCoinAnnouncement announcementId] rewritten) :
    rewritten = [.createCoin (stampedCreation sdk ownerPuzzleHash kind created),
      .assertCoinAnnouncement announcementId] := by
  cases each with
  | cons first rest =>
    cases rest with
    | cons second rest =>
      cases rest
      cases second
      cases first with
      | stamped _ allocated =>
        rw [memos.listed allocated]
        rfl
      | kept foreign => exact absurd launcher (by simpa [stamps, Condition.created?] using foreign)

/-- The groups of laws that minting, listing and reading back rely on. -/
structure DiscoveryLaws (sdk : Sdk Allocator) : Prop where
  standard : StandardLaw sdk
  launcher : LauncherLaw sdk
  mint : MintLaw sdk
  stage : StageLaw sdk
  memos : MemosLaw sdk
  hint : HintLaw sdk
  memo : MemoLaw sdk
  fromSpend : FromSpendLaw sdk

/-- The two spends of a mint: the launcher's, which hydrates to the reported store, and the
parent's, which creates the launcher under the owner's and the kind's memo, and the change. -/
structure MintCall.Spends (sdk : Sdk Allocator) (call : MintCall) (built : MerkleCoinSpend)
    (launcherSpend parentSpend : CoinSpend) (child : Datastore DigDataStoreMetadata) : Prop where
  built : built = ⟨[launcherSpend, parentSpend], some child⟩
  hydrated : hydrate sdk launcherSpend = .ok child
  launcher : launcherSpend.coin = ⟨sdk.coinId call.parentCoin, sdk.singletonLauncherHash, 1⟩
  parent : parentSpend.coin = call.parentCoin
  emits : ∃ publicKey memos announcementId, SpendEmits sdk parentSpend (.aggSigMe publicKey ::
    .createCoin (stampedCreation sdk call.ownerPuzzleHash call.kind ⟨sdk.singletonLauncherHash, 1, memos⟩) ::
    .assertCoinAnnouncement announcementId :: changeOf call.ownerPuzzleHash call.parentCoin.amount (call.fee + 1)
      (memosOf [call.ownerPuzzleHash.bytes]))

theorem MintCall.spends (laws : DiscoveryLaws sdk) {call : MintCall} {built : MerkleCoinSpend}
    (success : call.run sdk = .ok built) :
    ∃ launcherSpend parentSpend child, call.Spends sdk built launcherSpend parentSpend child := by
  obtain ⟨kind, parentCoin, owner, metadata, ownerPuzzleHash, set, fee⟩ := call
  cases owner with
  | custom spend => cases success
  | standard publicKey =>
    obtain ⟨after, inContext⟩ : ∃ after, mintInContext sdk kind parentCoin (.standard publicKey) metadata
        ownerPuzzleHash set fee sdk.newContext = (.ok built, after) := Fallible.exists_after success
    simp only [mintInContext, innerSpend, Fallible.bind_eq_ok, allocating_eq_ok, driving_eq_ok,
      Fallible.ofExcept_eq_ok, Fallible.pure_eq_ok, reservedAmount_eq_ok] at inContext
    obtain ⟨launch, launchedCtx, launched, _, _, ⟨⟨_, rfl⟩, rfl⟩, conditions, _, owned, inner, _,
      ⟨_, signed, rfl⟩, _, final, spent, coinSpends, _, drained, rfl, _⟩ := inContext
    cases drained
    have inverted := Launched.of_ok launched
    obtain ⟨before, staged, minted, each, _, kept⟩ := inverted.minted
    obtain ⟨launcherSpend, appended, launcherCoin⟩ := laws.mint.staged minted
    have only : launchedCtx.coinSpends = [launcherSpend] := kept.trans appended
    obtain ⟨_, unstaged⟩ := ownerConditions_eq_ok owned
    obtain ⟨parentSpend, both, coin, reveal, solution⟩ := laws.stage.staged spent
    have spends : final.coinSpends = [launcherSpend, parentSpend] := by
      rw [both, unstaged, only]
      rfl
    -- The launcher is the parent's child at the launcher's puzzle hash, so the rewrite stamps it.
    have direct := laws.launcher.coin (sdk.coinId parentCoin) 1
    obtain ⟨memos, base⟩ := laws.launcher.conditions (sdk.coinId parentCoin) 1
    obtain ⟨announcementId, announced⟩ := laws.mint.conditions minted
    have shape : before = [.createCoin ⟨sdk.singletonLauncherHash, 1, memos⟩,
        .assertCoinAnnouncement announcementId] := by
      rw [show before = _ from announced, base]
      rfl
    subst shape
    have stamped := rewritten_direct_stamped laws.memos (by rw [isThisLauncher, direct]; simp) each
    have emitted : conditions = _ := ownerConditions_hinted laws.hint owned
    rw [stamped] at emitted
    have named : ∀ condition, .other condition ∉ conditions := by
      intro condition member
      rw [emitted] at member
      unfold changeOf at member
      split at member <;> simp at member
    have emits := laws.standard.emits signed named
    rw [emitted] at emits
    rw [spends]
    exact ⟨launcherSpend, parentSpend, launch.datastore, rfl,
      inverted.hydrates laws.mint laws.memo laws.fromSpend only, launcherCoin.trans direct, coin,
      publicKey, memos, announcementId, _, _, reveal, solution, emits⟩

section Listed

variable {call : MintCall} {built : MerkleCoinSpend} {launcherSpend parentSpend : CoinSpend}
  {child : Datastore DigDataStoreMetadata}

theorem MintCall.Spends.launcher_records (spends : call.Spends sdk built launcherSpend parentSpend child) :
    createdRecords sdk launcherSpend = [] := by
  rw [createdRecords, if_pos (by rw [spends.launcher])]

/-- The launcher is listed under the owner's hint, and any change under the bare owner. -/
theorem MintCall.Spends.parent_records (spends : call.Spends sdk built launcherSpend parentSpend child)
    (funded : call.parentCoin.puzzleHash ≠ sdk.singletonLauncherHash) :
    ∃ change, createdRecords sdk parentSpend = ⟨launcherSpend.coin,
        [(digstoreOwnerHint sdk call.ownerPuzzleHash).bytes, (launcherHintFor call.kind).bytes]⟩ :: change ∧
      ∀ record ∈ change, record.memos = [call.ownerPuzzleHash.bytes] := by
  obtain ⟨publicKey, memos, announcementId, emits⟩ := spends.emits
  rw [createdRecords, spends.parent, if_neg funded, conditionsOf_of_emits emits]
  refine ⟨((changeOf call.ownerPuzzleHash call.parentCoin.amount (call.fee + 1)
    (memosOf [call.ownerPuzzleHash.bytes])).filterMap Condition.created?).map (recordOf sdk call.parentCoin), ?_, ?_⟩
  · simp [List.filterMap_cons, Condition.created?, recordOf, createdBy, stampedCreation, memoList_memosOf,
      spends.launcher]
  · intro record member
    unfold changeOf at member
    split at member
    · simp only [List.filterMap_cons, List.filterMap_nil, Condition.created?, List.map_cons, List.map_nil,
        List.mem_singleton] at member
      rw [member, recordOf, memoList_memosOf]
      rfl
    · cases member

end Listed

/-- The hint of this owner is neither the hint nor the puzzle hash of another owner. -/
structure HintsApart (sdk : Sdk Allocator) (ownerPuzzleHash : Bytes32) (owners : List Bytes32) : Prop where
  hints : ∀ other ∈ owners, digstoreOwnerHint sdk other = digstoreOwnerHint sdk ownerPuzzleHash →
    other = ownerPuzzleHash
  plain : ∀ other ∈ owners, other ≠ digstoreOwnerHint sdk ownerPuzzleHash

/-- A mint's store with its kind, when the mint is this owner's. -/
def MintCall.ownedBy (ownerPuzzleHash : Bytes32) (call : MintCall) (built : MerkleCoinSpend) :
    List (StoreKind × Datastore DigDataStoreMetadata) :=
  if call.ownerPuzzleHash = ownerPuzzleHash then (built.child.map fun child => (call.kind, child)).toList else []

section Found

variable {call : MintCall} {built : MerkleCoinSpend} {launcherSpend parentSpend : CoinSpend}
  {child : Datastore DigDataStoreMetadata}

/-- A mint is listed under the owner's hint by its launcher alone, and only when it is the owner's. -/
theorem MintCall.Spends.found (spends : call.Spends sdk built launcherSpend parentSpend child)
    (funded : call.parentCoin.puzzleHash ≠ sdk.singletonLauncherHash) {ownerPuzzleHash : Bytes32}
    {owners : List Bytes32} (apart : HintsApart sdk ownerPuzzleHash owners) (listed : call.ownerPuzzleHash ∈ owners) :
    recordsByHint sdk (digstoreOwnerHint sdk ownerPuzzleHash) built.coinSpends =
      if call.ownerPuzzleHash = ownerPuzzleHash then [⟨launcherSpend.coin,
        [(digstoreOwnerHint sdk call.ownerPuzzleHash).bytes, (launcherHintFor call.kind).bytes]⟩] else [] := by
  obtain ⟨change, records, plain⟩ := spends.parent_records funded
  have unlisted : change.filter (CoinRecord.hintedBy (digstoreOwnerHint sdk ownerPuzzleHash)) = [] := by
    apply List.filter_eq_nil_iff.mpr
    intro record member hinted
    rw [CoinRecord.hintedBy_iff (by rw [plain record member]; rfl)] at hinted
    exact apart.plain _ listed hinted
  rw [spends.built, recordsByHint, List.flatMap_cons, List.flatMap_singleton, spends.launcher_records, records,
    List.filter_nil, List.nil_append]
  by_cases owned : call.ownerPuzzleHash = ownerPuzzleHash
  · rw [if_pos owned, List.filter_cons_of_pos, unlisted]
    exact (CoinRecord.hintedBy_iff rfl).mpr (congrArg (digstoreOwnerHint sdk) owned)
  · rw [if_neg owned, List.filter_cons_of_neg, unlisted]
    intro hinted
    exact owned (apart.hints _ listed ((CoinRecord.hintedBy_iff rfl).mp hinted))

theorem MintCall.Spends.opened (spends : call.Spends sdk built launcherSpend parentSpend child)
    {all : List CoinSpend} (once : (all.map CoinSpend.coin).Nodup) (member : launcherSpend ∈ all)
    (hint : List UInt8) :
    openRecord sdk all ⟨launcherSpend.coin, [hint, (launcherHintFor call.kind).bytes]⟩ = some (call.kind, child) := by
  have kind : CoinRecord.kind ⟨launcherSpend.coin, [hint, (launcherHintFor call.kind).bytes]⟩ = some call.kind := by
    have decoded : BytesImpl.fromClvm 32 (.atom (launcherHintFor call.kind).bytes) = .ok (launcherHintFor call.kind) :=
      BytesImpl.fromClvm_eq_ok.mpr rfl
    simp [CoinRecord.kind, decoded, Except.toOption, fromLauncherHint_launcherHintFor]
  have spend : all.find? (fun spend => spend.coin = launcherSpend.coin) = some launcherSpend :=
    find?_of_nodup once member
  simp [openRecord, kind, spend, spends.hydrated, Except.toOption]

end Found

/-- Over every block of spends in which no coin is spent twice, made of any number of mints by
any owners and of other spends that create nothing under the owner's hint, an owner's scan
finds exactly the stores of the owner's mints, each with its kind, in order. -/
theorem owner_discovers_exactly (laws : DiscoveryLaws sdk) {mints : List (MintCall × MerkleCoinSpend)}
    {spends : List CoinSpend} {ownerPuzzleHash : Bytes32}
    (minted : ∀ mint ∈ mints, mint.1.run sdk = .ok mint.2)
    (funded : ∀ mint ∈ mints, mint.1.parentCoin.puzzleHash ≠ sdk.singletonLauncherHash)
    (apart : HintsApart sdk ownerPuzzleHash (mints.map fun mint => mint.1.ownerPuzzleHash))
    (block : Interspersed (fun spend => recordsByHint sdk (digstoreOwnerHint sdk ownerPuzzleHash) [spend] = [])
      (mints.flatMap fun mint => mint.2.coinSpends) spends)
    (once : (spends.map CoinSpend.coin).Nodup) :
    discoverStores sdk ownerPuzzleHash spends =
      mints.flatMap fun mint => mint.1.ownedBy ownerPuzzleHash mint.2 := by
  have own : recordsByHint sdk (digstoreOwnerHint sdk ownerPuzzleHash) spends =
      recordsByHint sdk (digstoreOwnerHint sdk ownerPuzzleHash) (mints.flatMap fun mint => mint.2.coinSpends) :=
    block.flatMap_eq fun spend silent => by simpa [recordsByHint] using silent
  rw [discoverStores, own, recordsByHint, List.flatMap_assoc, List.filterMap_flatMap]
  apply List.flatMap_congr
  intro mint member
  obtain ⟨launcherSpend, parentSpend, child, shape⟩ := MintCall.spends laws (minted mint member)
  have found := shape.found (funded mint member) apart (List.mem_map_of_mem member)
  change (recordsByHint sdk (digstoreOwnerHint sdk ownerPuzzleHash) mint.2.coinSpends).filterMap _ = _
  rw [found, MintCall.ownedBy]
  by_cases owned : mint.1.ownerPuzzleHash = ownerPuzzleHash
  · have present : launcherSpend ∈ spends := by
      apply block.subset
      rw [List.mem_flatMap]
      exact ⟨mint, member, by rw [shape.built]; exact List.mem_cons_self⟩
    rw [if_pos owned, if_pos owned, List.filterMap_cons_some (shape.opened once present _), shape.built]
    rfl
  · rw [if_neg owned, if_neg owned]
    rfl

section Samples

open Reference

def profileMint : MintCall :=
  ⟨.didProfile, ⟨hash32 1, hash32 2, 1000⟩, .standard ownerKey, Reference.metadata, ownerHash, delegates, 10⟩

/-- Another owner's mint, without change. -/
def foreignMint : MintCall :=
  ⟨.file, ⟨hash32 4, hash32 2, 2⟩, .standard (key 6), Reference.metadata, hash32 9, [], 1⟩

/-- A payment to the profile's owner, hinted with the owner's puzzle hash as any other coin. -/
def ordinaryPayment : CoinSpend :=
  ⟨⟨hash32 7, hash32 2, 5⟩, serialize (standardPuzzle (key 6)),
    serialize (encodeConditions [.createCoin ⟨ownerHash, 5, memosOf [ownerHash.bytes]⟩])⟩

theorem discoveryLaws : DiscoveryLaws wallet :=
  ⟨standardLaw, launcherLaw, mintLaw, stageLaw, memosLaw, hintLaw, memoLaw, fromSpendLaw⟩

theorem profile_owner_discovers : ∃ profile foreign child, profileMint.run wallet = .ok profile ∧
    foreignMint.run wallet = .ok foreign ∧ profile.child = some child ∧
    discoverStores wallet ownerHash (profile.coinSpends ++ ordinaryPayment :: foreign.coinSpends) =
      [(.didProfile, child)] := by
  have accepted : (profileMint.run wallet).isOk = true ∧ (foreignMint.run wallet).isOk = true := by decide +kernel
  obtain ⟨profile, mint⟩ := except_isOk_iff.mp accepted.1
  obtain ⟨foreign, mint'⟩ := except_isOk_iff.mp accepted.2
  obtain ⟨launcher, parent, child, rfl, hydrated, coin, coin', emits⟩ := MintCall.spends discoveryLaws mint
  obtain ⟨launcher', parent', child', rfl, hydrated', other, other', emits'⟩ := MintCall.spends discoveryLaws mint'
  have silent : recordsByHint wallet (digstoreOwnerHint wallet ownerHash) [ordinaryPayment] = [] := by decide +kernel
  have apart : HintsApart wallet ownerHash [ownerHash, hash32 9] := ⟨by decide +kernel, by decide +kernel⟩
  have once : ([launcher, parent, ordinaryPayment, launcher', parent'].map CoinSpend.coin).Nodup := by
    simp only [List.map_cons, List.map_nil, coin, coin', other, other']
    decide +kernel
  have funded : profileMint.parentCoin.puzzleHash ≠ wallet.singletonLauncherHash ∧
      foreignMint.parentCoin.puzzleHash ≠ wallet.singletonLauncherHash := by decide +kernel
  have foreign : foreignMint.ownerPuzzleHash ≠ ownerHash := by decide +kernel
  let mints : List (MintCall × MerkleCoinSpend) :=
    [(profileMint, ⟨[launcher, parent], some child⟩), (foreignMint, ⟨[launcher', parent'], some child'⟩)]
  have minted : ∀ taken ∈ mints, taken.1.run wallet = .ok taken.2 := by simp [mints, mint, mint']
  have found := owner_discovers_exactly discoveryLaws minted (by simp [mints, funded]) apart
    (.own _ (.own _ (.extra _ silent (.own _ (.own _ .nil))))) once
  have owned : profileMint.ownedBy ownerHash ⟨[launcher, parent], some child⟩ = [(.didProfile, child)] := if_pos rfl
  have others : foreignMint.ownedBy ownerHash ⟨[launcher', parent'], some child'⟩ = [] := if_neg foreign
  refine ⟨_, _, child, mint, mint', rfl, found.trans ?_⟩
  rw [List.flatMap_cons, List.flatMap_singleton, owned, others, List.append_nil]

end Samples

end DigMerkle
