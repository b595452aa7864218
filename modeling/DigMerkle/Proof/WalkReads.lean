import DigMerkle.Library.Query
import DigMerkle.Proof.OwnerDid

/-! What the walk to a store's owner asks of its source. The walk is a query of the source:
it asks for the store's launcher and then only for parents of coins that it was served, so
its answer rests on at most three reads. -/

namespace DigMerkle

open Library

variable {Allocator : Type} {sdk : Sdk Allocator}

abbrev OwnerQuery := Query Bytes32 (Except String (Option CoinSpend)) (MerkleResult (Option DidRef))

/-- A read that looks at nothing but the answer for the id it is given, and takes a spend
only for that id. -/
structure SingleRead (sdk : Sdk Allocator) (read : ChainSource → Bytes32 → MerkleResult (Option CoinSpend)) : Prop where
  single : ∀ chain coinId, read (fun _ => chain coinId) coinId = read chain coinId
  bound : ∀ {chain coinId spend}, read chain coinId = .ok (some spend) →
    chain coinId = .ok (some spend) ∧ sdk.coinId spend.coin = coinId

theorem readLauncherSpend_single : SingleRead sdk (readLauncherSpend sdk) :=
  ⟨fun _ _ => rfl, readSpendOf_eq_some.mp⟩

theorem readBoundSpend_single : SingleRead sdk (readBoundSpend sdk) :=
  ⟨fun _ _ => rfl, readSpendOf_eq_some.mp⟩

/-- A question, and how the crate's read takes the answer to it. -/
def reading (read : ChainSource → Bytes32 → MerkleResult (Option CoinSpend)) (coinId : Bytes32)
    (next : CoinSpend → OwnerQuery) : OwnerQuery :=
  .ask coinId fun answer =>
    match read (fun _ => answer) coinId with
    | .error error => .done (.error error)
    | .ok none => .done (.ok none)
    | .ok (some spend) => next spend

/-- The rest of the walk once the launcher's creator is known. -/
def walkFromCreator (sdk : Sdk Allocator) (launcher creator : CoinSpend) : OwnerQuery :=
  match didRefFromSpend sdk creator with
  | .error error => .done (.error error)
  | .ok (some didRef) => .done (.ok (some didRef))
  | .ok none =>
    if isLauncherIntermediate sdk creator launcher.coin then
      reading (readBoundSpend sdk) creator.coin.parentCoinInfo
        fun singleton => .done (didRefFromSpend sdk singleton)
    else .done (.ok none)

def ownerWalk (sdk : Sdk Allocator) (storeId : Bytes32) : OwnerQuery :=
  reading (readLauncherSpend sdk) storeId fun launcher =>
    reading (readBoundSpend sdk) launcher.coin.parentCoinInfo (walkFromCreator sdk launcher)

theorem run_reading {read : ChainSource → Bytes32 → MerkleResult (Option CoinSpend)} (single : SingleRead sdk read)
    (coinId : Bytes32) (next : CoinSpend → OwnerQuery) (chain : ChainSource) :
    (reading read coinId next).run chain = read chain coinId >>= fun found =>
      match found with
      | none => .ok none
      | some spend => (next spend).run chain := by
  rw [reading, Query.run, single.single]
  cases read chain coinId with
  | error error => rfl
  | ok found => cases found <;> rfl

theorem run_walkFromCreator (launcher creator : CoinSpend) (chain : ChainSource) :
    (walkFromCreator sdk launcher creator).run chain = didRefFromSpend sdk creator >>= fun found =>
      match found with
      | some didRef => .ok (some didRef)
      | none => resolveThroughIntermediate sdk chain creator launcher.coin := by
  rw [walkFromCreator]
  cases didRefFromSpend sdk creator with
  | error error => rfl
  | ok found =>
    cases found with
    | some didRef => rfl
    | none =>
      by_cases intermediate : isLauncherIntermediate sdk creator launcher.coin = true
      · rw [if_pos intermediate]
        change (reading (readBoundSpend sdk) creator.coin.parentCoinInfo _).run chain =
          resolveThroughIntermediate sdk chain creator launcher.coin
        rw [run_reading readBoundSpend_single, resolveThroughIntermediate, if_pos intermediate]
        congr 1
      · rw [if_neg intermediate]
        change _ = resolveThroughIntermediate sdk chain creator launcher.coin
        rw [resolveThroughIntermediate, if_neg intermediate]
        rfl

/-- The crate's walk over a source is the run of the query. -/
theorem run_ownerWalk (storeId : Bytes32) (chain : ChainSource) :
    (ownerWalk sdk storeId).run chain = resolveOwnerDid sdk storeId chain := by
  rw [ownerWalk, run_reading readLauncherSpend_single, resolveOwnerDid]
  congr 1
  funext found
  cases found with
  | none => rfl
  | some launcher =>
    change (reading (readBoundSpend sdk) launcher.coin.parentCoinInfo (walkFromCreator sdk launcher)).run chain =
      resolveFromLauncher sdk chain launcher.coin
    rw [run_reading readBoundSpend_single, resolveFromLauncher]
    congr 1
    funext found
    cases found with
    | none => rfl
    | some creator => exact run_walkFromCreator launcher creator chain

/-- An answer leads to the parent of the coin that it was asked for. -/
def LeadsToParent (sdk : Sdk Allocator) (coinId : Bytes32) (answer : Except String (Option CoinSpend))
    (parentId : Bytes32) : Prop :=
  ∃ spend, answer = .ok (some spend) ∧ sdk.coinId spend.coin = coinId ∧ parentId = spend.coin.parentCoinInfo

/-- A spend was served. -/
def Served (answer : Except String (Option CoinSpend)) : Prop := ∃ spend, answer = .ok (some spend)

/-- The result names a DID. -/
def NamesDid (result : MerkleResult (Option DidRef)) : Prop := ∃ didRef, result = .ok (some didRef)

section Reading

variable {read : ChainSource → Bytes32 → MerkleResult (Option CoinSpend)} {coinId : Bytes32}
  {next : CoinSpend → OwnerQuery}

theorem atMost_reading {bound : Nat} (bounded : ∀ spend, (next spend).AtMost bound) :
    (reading read coinId next).AtMost (bound + 1) := by
  intro answer
  dsimp only
  split
  · cases bound <;> trivial
  · cases bound <;> trivial
  · exact bounded _

theorem follows_reading (single : SingleRead sdk read) (follows : ∀ spend, (next spend).Follows (LeadsToParent sdk))
    (parents : ∀ spend key later, next spend = .ask key later → key = spend.coin.parentCoinInfo) :
    (reading read coinId next).Follows (LeadsToParent sdk) := by
  intro answer
  dsimp only
  split
  · exact ⟨trivial, fun _ _ asks => by cases asks⟩
  · exact ⟨trivial, fun _ _ asks => by cases asks⟩
  next spend taken =>
    obtain ⟨served, same⟩ := single.bound taken
    exact ⟨follows spend, fun key later asks => ⟨spend, served, same, parents spend key later asks⟩⟩

theorem needs_reading (single : SingleRead sdk read) (needs : ∀ spend, (next spend).Needs Served NamesDid) :
    (reading read coinId next).Needs Served NamesDid := by
  intro answer
  dsimp only
  split
  · exact ⟨trivial, fun _ => ⟨_, rfl, by simp [NamesDid]⟩⟩
  · exact ⟨trivial, fun _ => ⟨_, rfl, by simp [NamesDid]⟩⟩
  next spend taken =>
    exact ⟨needs spend, fun unserved => absurd ⟨spend, (single.bound taken).1⟩ unserved⟩

end Reading

variable (sdk) in
theorem walkFromCreator_cases (launcher creator : CoinSpend) :
    (∃ result, walkFromCreator sdk launcher creator = .done result) ∨
      walkFromCreator sdk launcher creator = reading (readBoundSpend sdk) creator.coin.parentCoinInfo
        fun singleton => .done (didRefFromSpend sdk singleton) := by
  unfold walkFromCreator
  split
  · exact .inl ⟨_, rfl⟩
  · exact .inl ⟨_, rfl⟩
  · by_cases intermediate : isLauncherIntermediate sdk creator launcher.coin = true
    · rw [if_pos intermediate]
      exact .inr rfl
    · rw [if_neg intermediate]
      exact .inl ⟨_, rfl⟩

theorem ownerWalk_atMost (storeId : Bytes32) : (ownerWalk sdk storeId).AtMost 3 := by
  apply atMost_reading
  intro launcher
  apply atMost_reading
  intro creator
  rcases walkFromCreator_cases sdk launcher creator with ⟨result, done⟩ | asks
  · rw [done]
    trivial
  · rw [asks]
    exact atMost_reading fun _ => trivial

theorem ownerWalk_follows (storeId : Bytes32) : (ownerWalk sdk storeId).Follows (LeadsToParent sdk) := by
  apply follows_reading readLauncherSpend_single
  · intro launcher
    apply follows_reading readBoundSpend_single
    · intro creator
      rcases walkFromCreator_cases sdk launcher creator with ⟨result, done⟩ | asks
      · rw [done]
        trivial
      · rw [asks]
        exact follows_reading readBoundSpend_single (fun _ => trivial) fun _ _ _ ends => by cases ends
    · intro creator key later asking
      rcases walkFromCreator_cases sdk launcher creator with ⟨result, done⟩ | asks
      · cases done.symm.trans asking
      · cases asks.symm.trans asking
        rfl
  · intro launcher key later asking
    cases asking
    rfl

theorem ownerWalk_needs (storeId : Bytes32) : (ownerWalk sdk storeId).Needs Served NamesDid := by
  apply needs_reading readLauncherSpend_single
  intro launcher
  apply needs_reading readBoundSpend_single
  intro creator
  rcases walkFromCreator_cases sdk launcher creator with ⟨result, done⟩ | asks
  · rw [done]
    trivial
  · rw [asks]
    exact needs_reading readBoundSpend_single fun _ => trivial

/-- The walk reads at most three coin spends, the store's launcher first and then only
parents of coins that it was served, and every source that agrees on these reads is
answered the same. -/
theorem walk_reads_ancestors_only (storeId : Bytes32) (chain : ChainSource) : ∃ asked : List Bytes32,
    asked.length ≤ 3 ∧ asked.head? = some storeId ∧
    asked.IsChain (fun coinId parentId => LeadsToParent sdk coinId (chain coinId) parentId) ∧
    ∀ chain' : ChainSource, (∀ coinId ∈ asked, chain' coinId = chain coinId) →
      resolveOwnerDid sdk storeId chain' = resolveOwnerDid sdk storeId chain := by
  refine ⟨(ownerWalk sdk storeId).asked chain, (ownerWalk_atMost storeId).length_asked chain, rfl,
    (ownerWalk_follows storeId).chain chain, fun chain' agree => ?_⟩
  rw [← run_ownerWalk, ← run_ownerWalk]
  exact Query.run_congr agree

/-- A source that is read again and again may fail, fall silent or change its mind about
what it never served, but while it keeps the spends it has served, an owner that was once
found is found ever after. -/
theorem owner_stays_found {storeId : Bytes32} {sources : Nat → ChainSource} (growing : Growing Served sources)
    {time : Nat} {didRef : DidRef} (found : resolveOwnerDid sdk storeId (sources time) = .ok (some didRef)) :
    ∀ later, time ≤ later → resolveOwnerDid sdk storeId (sources later) = .ok (some didRef) := by
  intro later order
  rw [← run_ownerWalk] at found ⊢
  have served : ∀ coinId ∈ (ownerWalk sdk storeId).asked (sources time), Served (sources time coinId) :=
    (ownerWalk_needs storeId).served ⟨didRef, found⟩
  rw [growing.run_eq order served, found]

section Samples

open Reference

/-- A source that is empty at first, then fails for every id it does not know. -/
def lateSources : Nat → ChainSource
  | 0 => fun _ => .ok none
  | time + 1 => fun id =>
    match (servedLineage (.atom [])).find? fun spend => coinId spend.coin = id with
    | some spend => .ok (some spend)
    | none => if time % 2 = 0 then .ok none else .error "timeout"

theorem lateSources_growing : Growing Served lateSources := by
  intro time key served
  obtain ⟨spend, served⟩ := served
  cases time with
  | zero => cases served
  | succ time =>
    simp only [lateSources] at served ⊢
    split
    · rfl
    next absent =>
      rw [absent] at served
      dsimp only at served
      split at served <;> cases served

theorem late_owner_stays_found :
    resolveOwnerDid wallet (coinId ownedLauncherCoin) (lateSources 0) = .ok none ∧
    resolveOwnerDid wallet (coinId ownedLauncherCoin) (lateSources 1) = .ok (some ⟨hash32 9⟩) ∧
    resolveOwnerDid wallet (coinId ownedLauncherCoin) (lateSources 8) = .ok (some ⟨hash32 9⟩) := by
  have found : resolveOwnerDid wallet (coinId ownedLauncherCoin) (lateSources 1) = .ok (some ⟨hash32 9⟩) := by
    decide +kernel
  exact ⟨by decide +kernel, found, owner_stays_found lateSources_growing found 8 (by decide)⟩

end Samples

end DigMerkle
