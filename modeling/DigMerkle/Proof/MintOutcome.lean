import DigMerkle.Proof.Compose
import DigMerkle.Proof.LaunchRefusal
import DigMerkle.Proof.Progress

namespace DigMerkle

open Library Fallible

variable {Allocator : Type} {sdk : Sdk Allocator}

def MintCall.launcher (sdk : Sdk Allocator) (call : MintCall) : Launcher :=
  sdk.launcherNew (sdk.coinId call.parentCoin) 1

/-- An SDK operation that the mint calls refused with this error. -/
inductive SdkRefusal (sdk : Sdk Allocator) (call : MintCall) : DriverError → Prop where
  | mint (failed : sdk.launcherMintDatastore (call.launcher sdk) call.metadata call.ownerPuzzleHash
      call.delegatedPuzzles ctx = (.error error, after)) : SdkRefusal sdk call error
  | memos (failed : sdk.memos (launcherMemos sdk call.ownerPuzzleHash call.kind) allocator = (.error error, after)) :
      SdkRefusal sdk call error
  | changeHint (failed : sdk.hint call.ownerPuzzleHash allocator = (.error error, after)) : SdkRefusal sdk call error
  | standard (authorized : call.owner = .standard publicKey)
      (failed : sdk.standardSpendWithConditions publicKey conditions allocator = (.error error, after)) :
      SdkRefusal sdk call error
  | stage (failed : sdk.contextSpend call.parentCoin spend ctx = (.error error, after)) : SdkRefusal sdk call error

/-- Why a mint was refused, under the error that says so. -/
inductive MintRefusal (sdk : Sdk Allocator) (call : MintCall) : MerkleError → Prop where
  | customOwner (custom : call.owner.isCustom = true) : MintRefusal sdk call (.unsupportedOwner
      "a launch's parent conditions are built inside this call, so Owner::Custom cannot emit them — use mint_datastore_launch_with_kind and compose the parent spend yourself")
  | feeOverflow (overflow : 2 ^ 64 ≤ call.fee.toNat + 1) :
      MintRefusal sdk call (.chain "fee overflow: fee + 1 exceeds u64::MAX")
  | driver (refused : SdkRefusal sdk call error) : MintRefusal sdk call (.driver error)

/-- The launch that the wrapper makes. -/
def MintCall.launch (sdk : Sdk Allocator) (call : MintCall) : InContext Allocator DatastoreLaunch :=
  mintDatastoreLaunchWithKind sdk call.kind (call.launcher sdk) call.metadata call.ownerPuzzleHash
    call.delegatedPuzzles

/-- The guards let a direct launch pass: its launcher is legal, its amount is one, and its base
conditions create it, which is the creation that the rewrite stamps. -/
theorem directLaunch_ends (launcherLaw : LauncherLaw sdk) (staging : StagingLaw sdk) (call : MintCall)
    (ctx : SpendContext Allocator) :
    Ends (call.launch sdk) ctx (fun launch _ => launch.launcherMemosWritten = true) (MintRefusal sdk call) := by
  have coin : (call.launcher sdk).coin = ⟨sdk.coinId call.parentCoin, sdk.singletonLauncherHash, 1⟩ :=
    launcherLaw.coin _ _
  have amount : (call.launcher sdk).singletonAmount = 1 := launcherLaw.singletonAmount _ _
  obtain ⟨memos, base⟩ := launcherLaw.conditions (sdk.coinId call.parentCoin) 1
  constructor
  · intro launch after success
    obtain ⟨conditions, _, minted, _, flag, _⟩ := (Launched.of_ok success).minted
    have announces : AnnouncesLaunch (call.launcher sdk) conditions := staging.conditions minted
    obtain ⟨announcementId, announced⟩ := announces
    rw [flag, announced, MintCall.launcher, base]
    simp [stamps, Condition.created?, isThisLauncher, launcherLaw.coin]
  · intro error after failure
    let direct : LaunchCall :=
      ⟨call.kind, call.launcher sdk, call.metadata, call.ownerPuzzleHash, call.delegatedPuzzles⟩
    have named : LaunchRefusal sdk direct ctx error := (direct.run_ends staging ctx).refused failure
    cases named with
    | notLauncher other => exact absurd (congrArg Coin.puzzleHash coin) other
    | evenAmount even =>
      rw [amount] at even
      exact absurd even (by decide)
    | mint failed => exact .driver (.mint failed)
    | memos _ failed => exact .driver (.memos failed)
    | unreached indirect =>
      have creates : createsCoin (call.launcher sdk).conditions (call.launcher sdk).coin.puzzleHash
          (call.launcher sdk).coin.amount = true := by
        rw [coin, MintCall.launcher, base]
        simp [createsCoin, Condition.created?]
      cases creates.symm.trans indirect

theorem ownerConditions_ends {call : MintCall} (reserved : UInt64) (conditions : Conditions)
    (ctx : SpendContext Allocator) :
    Ends (ownerConditions sdk call.parentCoin call.ownerPuzzleHash reserved conditions) ctx (fun _ _ => True)
      (MintRefusal sdk call) := by
  unfold ownerConditions
  split
  · exact (allocating_ends (fun failed => .driver (.changeHint failed)) ctx).bind fun _ => ends_pure trivial
  · exact ends_pure trivial

theorem reservedAmount_ends {call : MintCall} (ctx : SpendContext Allocator) :
    Ends (ofExcept (reservedAmount call.fee)) ctx (fun _ _ => True) (MintRefusal sdk call) := by
  apply ends_ofExcept (fun _ => trivial)
  intro error refused
  by_cases fits : call.fee.toNat + 1 < 2 ^ 64
  · cases refused.symm.trans (reservedAmount_eq_ok.mpr ⟨fits, rfl⟩)
  · have overflow : reservedAmount call.fee = .error (.chain "fee overflow: fee + 1 exceeds u64::MAX") := by
      unfold reservedAmount checkedAdd
      rw [if_neg (by simpa using fits)]
    cases refused.symm.trans overflow
    exact .feeOverflow (by omega)

theorem mintInContext_ends (launcherLaw : LauncherLaw sdk) (staging : StagingLaw sdk) {call : MintCall}
    {publicKey : PublicKey} (authorized : call.owner = .standard publicKey) (ctx : SpendContext Allocator) :
    Ends (mintInContext sdk call.kind call.parentCoin call.owner call.metadata call.ownerPuzzleHash
      call.delegatedPuzzles call.fee) ctx (fun _ _ => True) (MintRefusal sdk call) := by
  refine (directLaunch_ends launcherLaw staging call ctx).bind fun {launch _} _ => ?_
  refine (reservedAmount_ends _).bind fun {reserved _} _ => ?_
  refine (ownerConditions_ends reserved launch.parentConditions _).bind fun {conditions _} _ => ?_
  rw [authorized]
  refine (allocating_ends (fun failed => .driver (.standard authorized failed)) _).bind fun {spend _} _ => ?_
  refine (driving_ends fun failed => .driver (.stage failed)).bind fun _ => ?_
  exact ends_of_ok rfl (ends_pure trivial)

/-- Whatever the arguments and however the SDK refuses, a mint is refused as a custom owner's,
for a fee that does not fit, or with the SDK's own error, never by a launch guard, and what
the wrapper asserts of its launch holds. -/
theorem mint_refusal_named (launcherLaw : LauncherLaw sdk) (staging : StagingLaw sdk) (call : MintCall) :
    (∀ error, call.run sdk = .error error → MintRefusal sdk call error) ∧
      ∀ ctx launch after, call.launch sdk ctx = (.ok launch, after) → launch.launcherMemosWritten = true := by
  constructor
  · intro error refused
    rw [MintCall.run, mintDatastoreWithKind] at refused
    split at refused
    · rename_i custom
      cases refused
      exact .customOwner custom
    · rename_i standard
      cases owner : call.owner with
      | custom spend =>
        rw [owner] at standard
        exact absurd rfl standard
      | standard publicKey =>
        exact (mintInContext_ends launcherLaw staging owner sdk.newContext).refused (Prod.ext refused rfl)
  · intro ctx launch after launched
    exact (directLaunch_ends launcherLaw staging call ctx).returned launched

section Samples

open Reference

/-- A mint whose fee takes the whole range of an amount. -/
def dearMint : MintCall :=
  ⟨.file, ownedCoin 1000, .standard ownerKey, Reference.metadata, ownerHash, [], 18446744073709551615⟩

theorem dear_mint_refused : (∃ error, dearMint.run wallet = .error error ∧ MintRefusal wallet dearMint error) ∧
    ∃ launch after, dearMint.launch wallet wallet.newContext = (.ok launch, after) ∧
      launch.launcherMemosWritten = true := by
  have outcomes : (dearMint.run wallet).isOk = false ∧ (dearMint.launch wallet wallet.newContext).1.isOk = true := by
    decide +kernel
  obtain ⟨error, refused⟩ := isOk_eq_false.mp outcomes.1
  obtain ⟨launch, success⟩ := except_isOk_iff.mp outcomes.2
  obtain ⟨after, launched⟩ := exists_after success
  obtain ⟨named, written⟩ := mint_refusal_named launcherLaw mintLaw.toStagingLaw dearMint
  exact ⟨⟨error, refused, named error refused⟩, launch, after, launched, written _ _ _ launched⟩

end Samples

section Built

variable {call : MintCall}

def MintCall.authority (sdk : Sdk Allocator) (call : MintCall) : Except DriverError Bytes32 :=
  authorityPuzzleHash sdk (sdk.coinId (call.launcher sdk).coin) call.ownerPuzzleHash call.delegatedPuzzles

theorem SdkRefusal.authority_fails (construction : ConstructionLaw sdk) (launchConstruction : LaunchConstructionLaw sdk)
    {error : DriverError} (refused : SdkRefusal sdk call error) : ¬ (call.authority sdk).isOk = true := by
  intro authority
  cases refused with
  | @mint ctx _ _ failed =>
    obtain ⟨_, _, built⟩ := launchConstruction.mint _ call.metadata _ _ ctx authority
    cases failed.symm.trans built
  | @memos allocator _ _ failed =>
    obtain ⟨_, _, built⟩ := launchConstruction.memos (launcherMemos sdk call.ownerPuzzleHash call.kind) allocator
    cases failed.symm.trans built
  | @changeHint allocator _ _ failed =>
    obtain ⟨_, _, built⟩ := launchConstruction.hint call.ownerPuzzleHash allocator
    cases failed.symm.trans built
  | @standard publicKey conditions allocator _ _ _ failed =>
    obtain ⟨_, _, built⟩ := construction.standard publicKey conditions allocator
    cases failed.symm.trans built
  | @stage spend ctx _ _ failed =>
    obtain ⟨_, built⟩ := launchConstruction.stage call.parentCoin spend ctx
    cases failed.symm.trans built

/-- The mint by a key succeeds when the fee fits and the delegation tree can be built. -/
theorem MintCall.succeeds (launcherLaw : LauncherLaw sdk) (staging : StagingLaw sdk)
    (construction : ConstructionLaw sdk) (launchConstruction : LaunchConstructionLaw sdk)
    (standard : call.owner.isCustom = false) (fits : call.fee.toNat + 1 < 2 ^ 64)
    (authority : (call.authority sdk).isOk = true) : ∃ built, call.run sdk = .ok built := by
  apply not_fails_iff.mp
  intro failed
  obtain ⟨error, refused⟩ := failed
  cases owner : call.owner with
  | custom spend =>
    rw [owner] at standard
    cases standard
  | standard publicKey =>
    rw [MintCall.run, mintDatastoreWithKind, if_neg (by simp [standard])] at refused
    have named := (mintInContext_ends launcherLaw staging owner sdk.newContext).refused (Prod.ext refused rfl)
    cases named with
    | customOwner custom => cases custom.symm.trans standard
    | feeOverflow overflow => omega
    | driver sdkRefused => exact sdkRefused.authority_fails construction launchConstruction authority

/-- A successful mint was authorized by a key and reports a coherent store. -/
theorem MintCall.coherent (mint : MintLaw sdk) (stage : StageLaw sdk) {built : MerkleCoinSpend}
    (success : call.run sdk = .ok built) :
    call.owner.isCustom = false ∧ call.fee.toNat + 1 < 2 ^ 64 ∧ (call.authority sdk).isOk = true ∧
      ∃ store, built.child = some store ∧ store.info.metadata = call.metadata ∧
        Coherent sdk (sdk.coinId (call.launcher sdk).coin) call.ownerPuzzleHash call.delegatedPuzzles store := by
  obtain ⟨publicKey, launch, _, _, _, authorized, rfl, minted⟩ :=
    mintDatastoreWithKind_eq_ok mint.toStagingLaw stage success
  obtain ⟨after, launched, _⟩ := minted.launched
  obtain ⟨_, _, minting, _⟩ := launched.minted
  obtain ⟨inner, authority, _⟩ := mint.store minting
  obtain ⟨eve, version, _⟩ := launched.coherent mint
  exact ⟨by rw [authorized]; rfl, minted.fits, except_isOk_iff.mpr ⟨inner, authority⟩, launch.datastore, rfl,
    version, eve⟩

end Built

section Samples

open Reference

end Samples

end DigMerkle
