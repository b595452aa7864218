import DigMerkle.Reference.Signing
import DigMerkle.Proof.Progress
import DigMerkle.Proof.ReadBack

namespace DigMerkle

open Library

variable {Allocator AggSigConstants : Type} {sdk : Sdk Allocator} {signer : Signer Allocator AggSigConstants}

/-- The keys that a spend asks to sign, and the coin they sign over. -/
def Asks (sdk : Sdk Allocator) (spend : CoinSpend) (asked : List (PublicKey × Coin)) : Prop :=
  ∃ conditions, SignedConditions sdk spend conditions ∧ (∀ condition, .other condition ∉ conditions) ∧
    asked = (conditions.filterMap Condition.signer?).map fun publicKey => (publicKey, spend.coin)

/-- What a bundle asks for, spend by spend. -/
inductive AsksAll (sdk : Sdk Allocator) : List CoinSpend → List (PublicKey × Coin) → Prop
  | nil : AsksAll sdk [] []
  | cons {spend : CoinSpend} {spends : List CoinSpend} {asked later : List (PublicKey × Coin)}
      (first : Asks sdk spend asked) (rest : AsksAll sdk spends later) :
      AsksAll sdk (spend :: spends) (asked ++ later)

theorem AsksAll.calculated (law : SignerLaw sdk signer) {spends : List CoinSpend} {asked : List (PublicKey × Coin)}
    (asks : AsksAll sdk spends asked) (finite : ∀ each ∈ asked, signer.isInfinity each.1 = false)
    (constants : AggSigConstants) (allocator : Allocator) : ∃ signatures after,
      signer.fromCoinSpends spends constants allocator = (.ok signatures, after) ∧
      List.Forall₂ (SignsCoin sdk signer constants) asked signatures := by
  induction asks generalizing allocator with
  | nil => exact ⟨[], allocator, law.nil constants allocator, .nil⟩
  | @cons spend spends asked later first _ ih =>
    obtain ⟨conditions, signed, named, rfl⟩ := first
    obtain ⟨here, middle, calculated, matched⟩ := law.single signed named (fun publicKey member =>
      finite (publicKey, spend.coin) (List.mem_append_left _ (List.mem_map.mpr ⟨publicKey, member, rfl⟩)))
      constants allocator
    obtain ⟨rest, after, calculatedRest, matchedRest⟩ :=
      ih (fun each member => finite each (List.mem_append_right _ member)) middle
    refine ⟨here ++ rest, after, ?_, List.rel_append matched matchedRest⟩
    rw [law.cons, Fallible.bind_eq_ok]
    exact ⟨here, middle, calculated, Fallible.bind_eq_ok.mpr ⟨rest, after, calculatedRest, rfl⟩⟩

theorem AsksAll.refused (law : SignerLaw sdk signer) {spends : List CoinSpend} {asked : List (PublicKey × Coin)}
    (asks : AsksAll sdk spends asked) (infinite : ∃ each ∈ asked, signer.isInfinity each.1 = true)
    (constants : AggSigConstants) (allocator : Allocator) :
    Fails (signer.fromCoinSpends spends constants allocator).1 := by
  induction asks generalizing allocator with
  | nil =>
    obtain ⟨_, member, _⟩ := infinite
    cases member
  | @cons spend spends asked later first rest ih =>
    obtain ⟨conditions, signed, named, rfl⟩ := first
    rw [law.cons, Fallible.bind_apply]
    by_cases here : ∃ publicKey ∈ conditions.filterMap Condition.signer?, signer.isInfinity publicKey = true
    · obtain ⟨error, failed⟩ := law.infinity signed here constants allocator
      cases outcome : signer.fromCoinSpends [spend] constants allocator with
      | mk result middle =>
        rw [outcome] at failed
        cases failed
        exact ⟨error, rfl⟩
    · have finite : ∀ publicKey ∈ conditions.filterMap Condition.signer?, signer.isInfinity publicKey = false :=
        fun publicKey member => Bool.eq_false_iff.mpr fun infinity => here ⟨publicKey, member, infinity⟩
      obtain ⟨signatures, middle, calculated, _⟩ := law.single signed named finite constants allocator
      have elsewhere : ∃ each ∈ later, signer.isInfinity each.1 = true := by
        obtain ⟨each, member, infinity⟩ := infinite
        rcases List.mem_append.mp member with first | rest
        · obtain ⟨publicKey, listed, rfl⟩ := List.mem_map.mp first
          exact absurd ⟨publicKey, listed, infinity⟩ here
        · exact ⟨each, rest, infinity⟩
      obtain ⟨error, failed⟩ := ih elsewhere middle
      rw [calculated]
      dsimp only
      rw [Fallible.bind_apply]
      cases outcome : signer.fromCoinSpends spends constants middle with
      | mk result after =>
        rw [outcome] at failed
        cases failed
        exact ⟨error, rfl⟩

section Built

variable {publicKey : PublicKey} {store : Datastore DigDataStoreMetadata} {spend : CoinSpend} {view : StoreSpend}

theorem Launched.asks (mint : MintLaw sdk) {kind : StoreKind} {launcher : Launcher}
    {metadata : DigDataStoreMetadata} {ownerPuzzleHash : Bytes32} {set : List DelegatedPuzzle}
    {ctx after : SpendContext Allocator} {launch : DatastoreLaunch}
    (launched : Launched sdk kind launcher metadata ownerPuzzleHash set ctx launch after)
    (staged : after.coinSpends = ctx.coinSpends ++ [spend]) : Asks sdk spend [] := by
  obtain ⟨_, _, minted, _, _, kept⟩ := launched.minted
  obtain ⟨_, _, _, shown⟩ := mint.store minted
  obtain ⟨⟨puzzle, reveal, hash⟩, solution, solved, opened⟩ := shown spend (kept.symm.trans staged)
  exact ⟨[], .launcher reveal hash solved opened, by simp, rfl⟩

/-- A mint's bundle asks its key for one signature, over the parent coin. -/
theorem Minted.asks (standard : StandardLaw sdk) (launcherLaw : LauncherLaw sdk) (mint : MintLaw sdk)
    {kind : StoreKind} {parentCoin : Coin} {metadata : DigDataStoreMetadata} {ownerPuzzleHash : Bytes32}
    {set : List DelegatedPuzzle} {fee : UInt64} {launch : DatastoreLaunch} {launcherSpend parentSpend : CoinSpend}
    {conditions : Conditions}
    (minted : Minted sdk kind parentCoin publicKey metadata ownerPuzzleHash set fee launch launcherSpend
      parentSpend conditions) : AsksAll sdk [launcherSpend, parentSpend] [(publicKey, parentCoin)] := by
  obtain ⟨after, launched, only⟩ := minted.launched
  obtain ⟨memos, announcementId, launching⟩ := minted.parentConditions launcherLaw mint.toStagingLaw
  obtain ⟨changeMemos, shape⟩ := minted.emits
  obtain ⟨inner, _, _, signed, reveal, solved⟩ := minted.signed
  have named : ∀ condition, .other condition ∉ conditions := by
    intro condition member
    rw [shape, launching, changeOf] at member
    split at member <;> simp at member
  have keyAlone : (.aggSigMe publicKey :: conditions).filterMap Condition.signer? = [publicKey] := by
    rw [shape, launching, changeOf]
    split <;> rfl
  have emitted := standard.emits signed named
  rw [standard.reveals signed] at reveal emitted
  have parent : Asks sdk parentSpend [(publicKey, parentCoin)] := by
    refine ⟨_, .standard reveal solved emitted, by simp [named], ?_⟩
    rw [keyAlone, minted.parent]
    rfl
  exact .cons (launched.asks mint only) (.cons parent .nil)

theorem Updated.asks (laws : UpdateLaws sdk) {newMetadata : DigDataStoreMetadata}
    {child : Datastore DigDataStoreMetadata} {inner : Bytes32}
    (updated : Updated sdk publicKey newMetadata store spend child inner view)
    (key : sdk.standardCurryTreeHash publicKey = store.info.ownerPuzzleHash) (odd : store.coin.amount % 2 = 1) :
    Asks sdk spend [(publicKey, store.coin)] := by
  have recreates := updated.recreates laws (revealedOwner_self key)
  refine ⟨_, .store updated.shape updated.updater (by rwa [updated.coin]) recreates.emitted recreates.once
    (.inl ⟨⟨_, recreates.odd⟩, by simp [updateEmits]⟩), by simp [updateEmits], ?_⟩
  rw [updated.coin]
  rfl

/-- The run lemma: each update of a run asks for one signature, over the coin it spends. -/
theorem UpdateRun.asks (laws : UpdateLaws sdk) {launcherId : Bytes32} {set : List DelegatedPuzzle}
    {steps : List UpdateStep} {later : List CoinSpend}
    (coherent : Coherent sdk launcherId (sdk.standardCurryTreeHash publicKey) set store)
    (run : UpdateRun sdk store steps) (keyed : ∀ step ∈ steps, step.publicKey = publicKey)
    (rest : AsksAll sdk later [(publicKey, (finalState UpdateStep.child store steps).coin)]) :
    AsksAll sdk (steps.flatMap UpdateStep.coinSpends ++ later)
      ((store.coin :: steps.map fun step => step.child.coin).map fun coin => (publicKey, coin)) := by
  induction steps generalizing store with
  | nil => exact rest
  | cons step steps ih =>
    obtain ⟨spend, inner, view, spends, updated⟩ := run.1.updated laws.toSpendLaws
    have key := keyed step List.mem_cons_self
    have kept := coherent.step laws run.1 (by rw [key])
    have first := updated.asks laws (by rw [key, coherent.owner]) coherent.odd
    rw [key] at first
    rw [List.flatMap_cons, spends]
    exact .cons first (ih kept.child run.2 (fun other member => keyed other (List.mem_cons_of_mem _ member)) rest)

end Built

section Samples

open Reference

end Samples

end DigMerkle
