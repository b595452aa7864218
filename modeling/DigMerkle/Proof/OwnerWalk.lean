import DigMerkle.Proof.OwnerDid

/-! When the owner walk refuses. Each spend it parses must be the one asked for and
reveal the puzzle its coin commits to, but the launcher's spend is never parsed. -/

namespace DigMerkle

open Library

variable {Allocator : Type} {sdk : Sdk Allocator}

/-- A read that is refused: the source fails, or answers with another coin. -/
inductive ReadRefused (sdk : Sdk Allocator) (chain : ChainSource) (coinId : Bytes32) : Prop where
  | failed (unread : chain coinId = .error error)
  | foreign (served : chain coinId = .ok (some spend)) (other : sdk.coinId spend.coin ≠ coinId)

theorem readSpendOf_fails_iff {chain : ChainSource} {coinId : Bytes32} {refusal : Bytes32 → String} :
    Fails (readSpendOf sdk chain coinId refusal) ↔ ReadRefused sdk chain coinId := by
  simp only [readSpendOf, readCoinSpend, fails_bind, fails_mapError, except_mapError_eq_ok]
  constructor
  · intro refused
    rcases refused with ⟨error, unread⟩ | ⟨answer, served, refused⟩
    · exact .failed unread
    · cases answer with
      | none => exact absurd refused (not_fails_ok _)
      | some spend =>
        by_cases same : sdk.coinId spend.coin = coinId
        · simp [same] at refused
        · exact .foreign served same
  · intro refused
    cases refused with
    | failed unread => exact .inl ⟨_, unread⟩
    | foreign served other => exact .inr ⟨_, served, by simp [other]⟩

/-- A spend that no DID is read from and that is not an answer either: it does not
decode, its coin does not commit to the reveal, or the SDK's parser fails on it. -/
inductive SpendRefused (sdk : Sdk Allocator) (spend : CoinSpend) : Prop where
  | reveal (undecoded : sdk.programToClvm spend.puzzleReveal = .error error)
  | solution (undecoded : sdk.programToClvm spend.solution = .error error)
  | unbound (decoded : sdk.programToClvm spend.puzzleReveal = .ok puzzle)
      (other : sdk.treeHash puzzle ≠ spend.coin.puzzleHash)
  | parser (decoded : sdk.programToClvm spend.puzzleReveal = .ok puzzle)
      (solved : sdk.programToClvm spend.solution = .ok solution)
      (failed : sdk.didParse spend.coin puzzle solution = .error error)

theorem didRefFromSpend_fails_iff {spend : CoinSpend} :
    Fails (didRefFromSpend sdk spend) ↔ SpendRefused sdk spend := by
  simp only [didRefFromSpend, parseProgram, fails_bind, fails_mapError, except_mapError_eq_ok]
  constructor
  · intro refused
    rcases refused with ⟨_, undecoded⟩ | ⟨puzzle, decoded, ⟨_, undecoded⟩ | ⟨solution, solved, refused⟩⟩
    · exact .reveal undecoded
    · exact .solution undecoded
    · by_cases same : sdk.treeHash puzzle = spend.coin.puzzleHash
      · rw [if_neg (not_not.mpr same), fails_bind, fails_mapError] at refused
        rcases refused with ⟨_, failed⟩ | ⟨_, _, impossible⟩
        · exact .parser decoded solved failed
        · exact absurd impossible (not_fails_ok _)
      · exact .unbound decoded same
  · intro refused
    cases refused with
    | reveal undecoded => exact .inl ⟨_, undecoded⟩
    | solution undecoded =>
      cases decoded : sdk.programToClvm spend.puzzleReveal with
      | error error => exact .inl (fails_error error)
      | ok puzzle => exact .inr ⟨puzzle, rfl, .inl ⟨_, undecoded⟩⟩
    | unbound decoded other =>
      cases solved : sdk.programToClvm spend.solution with
      | error error => exact .inr ⟨_, decoded, .inl (fails_error error)⟩
      | ok solution => exact .inr ⟨_, decoded, .inr ⟨solution, rfl, by simp [other]⟩⟩
    | @parser puzzle solution error decoded solved failed =>
      refine .inr ⟨puzzle, decoded, .inr ⟨solution, solved, ?_⟩⟩
      split
      · exact fails_error _
      · rw [fails_bind, fails_mapError, failed]
        exact .inl (fails_error error)

/-- The read or the spend at which a walk from a launcher coin is refused. -/
inductive WalkRefused (sdk : Sdk Allocator) (chain : ChainSource) (launcherCoin : Coin) : Prop where
  | read (refused : ReadRefused sdk chain launcherCoin.parentCoinInfo)
  | creator (read : readBoundSpend sdk chain launcherCoin.parentCoinInfo = .ok (some creator))
      (refused : SpendRefused sdk creator)
  | readBeyond (read : readBoundSpend sdk chain launcherCoin.parentCoinInfo = .ok (some creator))
      (plain : didRefFromSpend sdk creator = .ok none)
      (intermediate : isLauncherIntermediate sdk creator launcherCoin = true)
      (refused : ReadRefused sdk chain creator.coin.parentCoinInfo)
  | beyond (read : readBoundSpend sdk chain launcherCoin.parentCoinInfo = .ok (some creator))
      (plain : didRefFromSpend sdk creator = .ok none)
      (intermediate : isLauncherIntermediate sdk creator launcherCoin = true)
      (readBeyond : readBoundSpend sdk chain creator.coin.parentCoinInfo = .ok (some ancestor))
      (refused : SpendRefused sdk ancestor)

theorem resolveThroughIntermediate_fails_iff {chain : ChainSource} {creator : CoinSpend} {launcherCoin : Coin} :
    Fails (resolveThroughIntermediate sdk chain creator launcherCoin) ↔
      isLauncherIntermediate sdk creator launcherCoin = true ∧
        (ReadRefused sdk chain creator.coin.parentCoinInfo ∨
          ∃ ancestor, readBoundSpend sdk chain creator.coin.parentCoinInfo = .ok (some ancestor) ∧
            SpendRefused sdk ancestor) := by
  unfold resolveThroughIntermediate
  by_cases intermediate : isLauncherIntermediate sdk creator launcherCoin = true
  · simp only [intermediate, if_true, true_and, fails_bind, readBoundSpend, readSpendOf_fails_iff]
    refine or_congr_right ?_
    constructor
    · intro refused
      rcases refused with ⟨answer, read, refused⟩
      cases answer with
      | none => exact absurd refused (not_fails_ok _)
      | some ancestor => exact ⟨ancestor, read, didRefFromSpend_fails_iff.mp refused⟩
    · intro refused
      rcases refused with ⟨ancestor, read, refused⟩
      exact ⟨_, read, didRefFromSpend_fails_iff.mpr refused⟩
  · simp [intermediate]

/-- The walk above a launcher fails exactly where it is refused. -/
theorem resolveFromLauncher_fails_iff {chain : ChainSource} {launcherCoin : Coin} :
    Fails (resolveFromLauncher sdk chain launcherCoin) ↔ WalkRefused sdk chain launcherCoin := by
  unfold resolveFromLauncher
  rw [fails_bind]
  constructor
  · intro refused
    rcases refused with unread | ⟨answer, read, refused⟩
    · exact .read (readSpendOf_fails_iff.mp unread)
    · cases answer with
      | none => exact absurd refused (not_fails_ok _)
      | some creator =>
        rcases fails_bind.mp refused with unparsed | ⟨found, parsed, refused⟩
        · exact .creator read (didRefFromSpend_fails_iff.mp unparsed)
        · cases found with
          | some didRef => exact absurd refused (not_fails_ok _)
          | none =>
            obtain ⟨intermediate, unread | ⟨ancestor, readBeyond, unparsed⟩⟩ :=
              resolveThroughIntermediate_fails_iff.mp refused
            · exact .readBeyond read parsed intermediate unread
            · exact .beyond read parsed intermediate readBeyond unparsed
  · intro refused
    cases refused with
    | read refused => exact .inl (readSpendOf_fails_iff.mpr refused)
    | creator read refused =>
      exact .inr ⟨_, read, fails_bind.mpr (.inl (didRefFromSpend_fails_iff.mpr refused))⟩
    | readBeyond read plain intermediate refused =>
      exact .inr ⟨_, read, fails_bind.mpr (.inr ⟨none, plain,
        resolveThroughIntermediate_fails_iff.mpr ⟨intermediate, .inl refused⟩⟩)⟩
    | beyond read plain intermediate readBeyond refused =>
      exact .inr ⟨_, read, fails_bind.mpr (.inr ⟨none, plain,
        resolveThroughIntermediate_fails_iff.mpr ⟨intermediate, .inr ⟨_, readBeyond, refused⟩⟩⟩)⟩

theorem resolveOwnerDid_fails_iff {storeId : Bytes32} {chain : ChainSource} :
    Fails (resolveOwnerDid sdk storeId chain) ↔ ReadRefused sdk chain storeId ∨
      ∃ launcher, readLauncherSpend sdk chain storeId = .ok (some launcher) ∧
        WalkRefused sdk chain launcher.coin := by
  simp only [resolveOwnerDid, fails_bind, readLauncherSpend, readSpendOf_fails_iff]
  refine or_congr_right ?_
  constructor
  · intro refused
    rcases refused with ⟨answer, read, refused⟩
    cases answer with
    | none => exact absurd refused (not_fails_ok _)
    | some launcher => exact ⟨launcher, read, resolveFromLauncher_fails_iff.mp refused⟩
  · intro refused
    rcases refused with ⟨launcher, read, refused⟩
    exact ⟨_, read, resolveFromLauncher_fails_iff.mpr refused⟩

/-- The spend is the one asked for, and its coin commits to its reveal. -/
structure BoundTo (sdk : Sdk Allocator) (coinId : Bytes32) (spend : CoinSpend) : Prop where
  coin : sdk.coinId spend.coin = coinId
  reveal : ∃ puzzle, Reveals sdk spend puzzle

/-- The answers that a walk consumes, under the ids it asked for. -/
inductive Consumed (sdk : Sdk Allocator) (chain : ChainSource) (storeId : Bytes32) : Bytes32 → CoinSpend → Prop where
  | launcher (served : chain storeId = .ok (some spend)) : Consumed sdk chain storeId storeId spend
  | creator (read : readLauncherSpend sdk chain storeId = .ok (some launcher))
      (served : chain launcher.coin.parentCoinInfo = .ok (some spend)) :
      Consumed sdk chain storeId launcher.coin.parentCoinInfo spend
  | beyond (read : readLauncherSpend sdk chain storeId = .ok (some launcher))
      (readCreator : readBoundSpend sdk chain launcher.coin.parentCoinInfo = .ok (some creator))
      (plain : didRefFromSpend sdk creator = .ok none)
      (intermediate : isLauncherIntermediate sdk creator launcher.coin = true)
      (served : chain creator.coin.parentCoinInfo = .ok (some spend)) :
      Consumed sdk chain storeId creator.coin.parentCoinInfo spend

/-- Every unbound answer that the walk consumes makes it fail. -/
def UnboundRefused (sdk : Sdk Allocator) (chain : ChainSource) (storeId : Bytes32) : Prop :=
  ∀ coinId spend, Consumed sdk chain storeId coinId spend → ¬ BoundTo sdk coinId spend →
    Fails (resolveOwnerDid sdk storeId chain)

theorem unbound_cases {chain : ChainSource} {coinId : Bytes32} {spend : CoinSpend}
    (served : chain coinId = .ok (some spend)) (unbound : ¬ BoundTo sdk coinId spend) :
    ReadRefused sdk chain coinId ∨
      readBoundSpend sdk chain coinId = .ok (some spend) ∧ SpendRefused sdk spend := by
  by_cases coin : sdk.coinId spend.coin = coinId
  · refine .inr ⟨readSpendOf_eq_some.mpr ⟨served, coin⟩, ?_⟩
    cases decoded : sdk.programToClvm spend.puzzleReveal with
    | error error => exact .reveal decoded
    | ok puzzle =>
      apply SpendRefused.unbound decoded
      intro same
      exact unbound ⟨coin, puzzle, decoded, same⟩
  · exact .inl (.foreign served coin)

/-- Every unbound answer is an error exactly when the launcher's own spend, which the
walk takes only the coin from, reveals its puzzle, or the walk above it is refused. -/
theorem unbound_answers_refused_iff (storeId : Bytes32) (chain : ChainSource) :
    UnboundRefused sdk chain storeId ↔
      ∀ launcher, readLauncherSpend sdk chain storeId = .ok (some launcher) →
        (∃ puzzle, Reveals sdk launcher puzzle) ∨ WalkRefused sdk chain launcher.coin := by
  constructor
  · intro refuses launcher read
    by_cases reveal : ∃ puzzle, Reveals sdk launcher puzzle
    · exact .inl reveal
    · obtain ⟨served, same⟩ := readSpendOf_eq_some.mp read
      have failed := refuses storeId launcher (.launcher served) fun bound => reveal bound.reveal
      rcases resolveOwnerDid_fails_iff.mp failed with unread | ⟨other, read', refused⟩
      · exact absurd (readSpendOf_fails_iff.mpr unread) (not_fails_iff.mpr ⟨_, read⟩)
      · cases read.symm.trans read'
        exact .inr refused
  · intro condition coinId spend consumed unbound
    apply resolveOwnerDid_fails_iff.mpr
    cases consumed with
    | launcher served =>
      rcases unbound_cases served unbound with unread | ⟨read, _⟩
      · exact .inl unread
      · have readLauncher : readLauncherSpend sdk chain storeId = .ok (some spend) :=
          readSpendOf_eq_some.mpr (readSpendOf_eq_some.mp read)
        rcases condition spend readLauncher with reveal | refused
        · exact absurd ⟨(readSpendOf_eq_some.mp read).2, reveal⟩ unbound
        · exact .inr ⟨spend, readLauncher, refused⟩
    | creator read served =>
      rcases unbound_cases served unbound with unread | ⟨readCreator, refused⟩
      · exact .inr ⟨_, read, .read unread⟩
      · exact .inr ⟨_, read, .creator readCreator refused⟩
    | beyond read readCreator plain intermediate served =>
      rcases unbound_cases served unbound with unread | ⟨readBeyond, refused⟩
      · exact .inr ⟨_, read, .readBeyond readCreator plain intermediate unread⟩
      · exact .inr ⟨_, read, .beyond readCreator plain intermediate readBeyond refused⟩

section Samples

open Reference

/-- The launcher coin beside the DID's puzzle instead of its own. -/
def forgedLauncherSpend : CoinSpend := ⟨ownedLauncherCoin, serialize didPuzzle, serialize (.atom [])⟩

/-- A source that forges the launcher's reveal and serves the rest as it is. -/
def forgedSource : ChainSource := fun id =>
  .ok ((forgedLauncherSpend :: servedLineage (.atom [])).find? fun spend => coinId spend.coin = id)

/-- The forged reveal is consumed and the walk still names the DID. -/
theorem forged_launcher_reveal_accepted :
    Consumed wallet forgedSource (coinId ownedLauncherCoin) (coinId ownedLauncherCoin) forgedLauncherSpend ∧
    ¬ BoundTo wallet (coinId ownedLauncherCoin) forgedLauncherSpend ∧
    resolveOwnerDid wallet (coinId ownedLauncherCoin) forgedSource = .ok (some ⟨hash32 9⟩) ∧
    ¬ UnboundRefused wallet forgedSource (coinId ownedLauncherCoin) := by
  have served : forgedSource (coinId ownedLauncherCoin) = .ok (some forgedLauncherSpend) := by decide +kernel
  have consumed : Consumed wallet forgedSource (coinId ownedLauncherCoin) (coinId ownedLauncherCoin)
      forgedLauncherSpend := .launcher served
  have forged : treeHash didPuzzle ≠ ownedLauncherCoin.puzzleHash := by decide +kernel
  have unbound : ¬ BoundTo wallet (coinId ownedLauncherCoin) forgedLauncherSpend := by
    intro bound
    obtain ⟨puzzle, decoded, same⟩ := bound.reveal
    cases (deserialize_serialize didPuzzle).symm.trans decoded
    exact forged same
  have resolved : resolveOwnerDid wallet (coinId ownedLauncherCoin) forgedSource = .ok (some ⟨hash32 9⟩) := by
    decide +kernel
  refine ⟨consumed, unbound, resolved, fun refuses => ?_⟩
  have failed := refuses _ _ consumed unbound
  rw [resolved] at failed
  exact not_fails_ok _ failed

end Samples

end DigMerkle
