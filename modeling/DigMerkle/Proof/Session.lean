import DigMerkle.Library.Session
import DigMerkle.Proof.Progress
import DigMerkle.Proof.Binding

/-! A client's session on a store. Requests by any keys are built from the last store that
the client read, and their spends are read back; the session serves them as a register
serves its owner. -/

namespace DigMerkle

open Library

variable {Allocator : Type} {sdk : Sdk Allocator}

/-- A request to replace a store's metadata or to melt it, by a key. -/
abbrev StoreRequest := Request PublicKey DigDataStoreMetadata

/-- A client builds each request from the store it last read. It goes on with the store
that an update's spend hydrates to, and with none after a melt whose spend is bound to the
store's coin. -/
def attempt (sdk : Sdk Allocator) : Option (Datastore DigDataStoreMetadata) → StoreRequest →
    Option (Option (Datastore DigDataStoreMetadata))
  | none, _ => none
  | some store, .write publicKey newMetadata =>
    match updateRoot sdk store (.standard publicKey) newMetadata with
    | .ok ⟨[spend], _⟩ => (hydrate sdk spend).toOption.map some
    | _ => none
  | some store, .close publicKey =>
    match melt sdk store (.standard publicKey) with
    | .ok ⟨[spend], _⟩ => (requireRevealMatchesCoin sdk spend).toOption.map fun _ => none
    | _ => none

/-- What the register shows of a store. -/
def version : Option (Datastore DigDataStoreMetadata) → Option DigDataStoreMetadata :=
  Option.map fun store => store.info.metadata

/-- The owner's register of a launch. -/
def ownersRegister (sdk : Sdk Allocator) (ownerPuzzleHash : Bytes32) :
    Option DigDataStoreMetadata → StoreRequest → Option (Option DigDataStoreMetadata) :=
  Request.register fun publicKey => sdk.standardCurryTreeHash publicKey = ownerPuzzleHash

/-- No two puzzles of the session meet: a store is not at the launcher's puzzle, and another
key's store puzzle is not the owner's. -/
structure Unmixed (sdk : Sdk Allocator) (launcherId ownerPuzzleHash : Bytes32) (set : List DelegatedPuzzle)
    (versions : List DigDataStoreMetadata) (requests : List StoreRequest) : Prop where
  ordinary : Ordinary sdk launcherId ownerPuzzleHash set versions
  apart : ∀ metadata ∈ versions, ∀ request ∈ requests,
    Set.InjOn (storePuzzleHash sdk launcherId metadata) {sdk.standardCurryTreeHash request.writer, ownerPuzzleHash}

/-- Nobody but the owner who makes a request is listed in the delegation set. -/
def Undelegated (sdk : Sdk Allocator) (ownerPuzzleHash : Bytes32) (set : List DelegatedPuzzle)
    (requests : List StoreRequest) : Prop :=
  ∀ request ∈ requests, sdk.standardCurryTreeHash request.writer ≠ ownerPuzzleHash →
    ∀ puzzle ∈ set, sdk.leafHash puzzle ≠ sdk.standardCurryTreeHash request.writer

/-- The session's invariant: the store last read is coherent and carries a known metadata. -/
def Followed (sdk : Sdk Allocator) (launcherId ownerPuzzleHash : Bytes32) (set : List DelegatedPuzzle)
    (versions : List DigDataStoreMetadata) (state : Option (Datastore DigDataStoreMetadata)) : Prop :=
  ∀ store, state = some store →
    Coherent sdk launcherId ownerPuzzleHash set store ∧ store.info.metadata ∈ versions

section Steps

variable {launcherId ownerPuzzleHash : Bytes32} {set : List DelegatedPuzzle} {versions : List DigDataStoreMetadata}
  {store : Datastore DigDataStoreMetadata} {publicKey : PublicKey} {newMetadata : DigDataStoreMetadata}

theorem Coherent.attempt_write (laws : UpdateLaws sdk) (construction : ConstructionLaw sdk)
    (conditionConstruction : ConditionConstructionLaw sdk)
    (coherent : Coherent sdk launcherId ownerPuzzleHash set store)
    (ordinary : store.coin.puzzleHash ≠ sdk.singletonLauncherHash)
    (key : sdk.standardCurryTreeHash publicKey = ownerPuzzleHash) (newMetadata : DigDataStoreMetadata) :
    ∃ child, attempt sdk (some store) (.write publicKey newMetadata) = some (some child) ∧
      Coherent sdk launcherId ownerPuzzleHash set child ∧ child.info.metadata = newMetadata := by
  subst key
  obtain ⟨step, keyed, named, success⟩ :=
    coherent.update laws construction conditionConstruction ordinary newMetadata
  have kept := coherent.step laws success (by rw [keyed])
  obtain ⟨spend, inner, view, spends, updated⟩ := success.updated laws.toSpendLaws
  rw [UpdateStep.Succeeds, keyed, named, spends] at success
  have read := updated.hydrates laws coherent.committed (by rw [keyed, coherent.owner])
  refine ⟨step.child, ?_, kept.child, by rw [kept.metadata, named]⟩
  simp only [attempt, success, read, Except.toOption, Option.map_some]

/-- The update by a key that is not listed either is not built, or its spend is not bound. -/
theorem Coherent.attempt_write_refused (laws : UpdateLaws sdk) (merkle : MerkleLaw sdk)
    (coherent : Coherent sdk launcherId ownerPuzzleHash set store)
    (apart : Set.InjOn (storePuzzleHash sdk launcherId store.info.metadata)
      {sdk.standardCurryTreeHash publicKey, ownerPuzzleHash})
    (stranger : sdk.standardCurryTreeHash publicKey ≠ ownerPuzzleHash)
    (unlisted : ∀ puzzle ∈ set, sdk.leafHash puzzle ≠ sdk.standardCurryTreeHash publicKey)
    (newMetadata : DigDataStoreMetadata) :
    attempt sdk (some store) (.write publicKey newMetadata) = none := by
  cases outcome : updateRoot sdk store (.standard publicKey) newMetadata with
  | error error => simp only [attempt, outcome]
  | ok built =>
    obtain ⟨spend, child, inner, view, rfl, updated⟩ := updateRoot_eq_ok laws.toSpendLaws outcome
    obtain ⟨shown, run⟩ := updated.toSpentBy.runs laws.fromSpend updated.parsed
    have empty : store.info.delegatedPuzzles = [] := by
      rcases updated.toSpentBy.letsUpdate laws merkle run with empty | owner | listed
      · exact empty
      · exact absurd (owner.trans coherent.owner) stranger
      · obtain ⟨puzzle, member, leaf⟩ := listed
        rw [coherent.set] at member
        exact absurd leaf (unlisted puzzle member)
    have bound := updated.toSpentBy.reveals_iff laws.curry coherent.committed
      (by rwa [coherent.launcherId, coherent.owner])
    rw [coherent.owner] at bound
    have unbound : ∀ read, hydrate sdk spend ≠ .ok read := fun read success => by
      rcases bound.mp (hydrate_eq_ok.mp success).1 with delegated | owner
      · exact delegated empty
      · exact stranger owner
    cases read : hydrate sdk spend with
    | ok store => exact absurd read (unbound store)
    | error error => simp only [attempt, outcome, read, Except.toOption, Option.map_none]

theorem Coherent.attempt_close (laws : SpendLaws sdk) (construction : ConstructionLaw sdk)
    (coherent : Coherent sdk launcherId ownerPuzzleHash set store) :
    attempt sdk (some store) (.close publicKey) =
      if sdk.standardCurryTreeHash publicKey = ownerPuzzleHash then some none else none := by
  have melts : (∃ built, melt sdk store (.standard publicKey) = .ok built) ↔
      sdk.standardCurryTreeHash publicKey = ownerPuzzleHash := by
    rw [melt_succeeds_iff laws construction coherent.committed, coherent.owner]
  by_cases key : sdk.standardCurryTreeHash publicKey = ownerPuzzleHash
  · obtain ⟨built, success⟩ := melts.mpr key
    obtain ⟨spend, view, rfl, spent, _⟩ := melt_eq_ok laws success
    have bound := requireRevealMatchesCoin_eq_ok.mpr
      (spent.reveals laws.curry coherent.committed (revealedOwner_eq (key.trans coherent.owner.symm)))
    simp only [attempt, success, bound, Except.toOption, Option.map_some, if_pos key]
  · cases outcome : melt sdk store (.standard publicKey) with
    | ok built => exact absurd (melts.mp ⟨built, outcome⟩) key
    | error error => simp only [attempt, outcome, if_neg key]

/-- The step lemma: a request is served as the owner's register serves it. -/
theorem Followed.refines (laws : UpdateLaws sdk) (construction : ConstructionLaw sdk)
    (conditionConstruction : ConditionConstructionLaw sdk) (merkle : MerkleLaw sdk)
    {requests : List StoreRequest} {state : Option (Datastore DigDataStoreMetadata)} {request : StoreRequest}
    (followed : Followed sdk launcherId ownerPuzzleHash set versions state)
    (unmixed : Unmixed sdk launcherId ownerPuzzleHash set versions requests)
    (undelegated : Undelegated sdk ownerPuzzleHash set requests)
    (member : request ∈ requests) (written : ∀ value, request.written? = some value → value ∈ versions) :
    Refines (attempt sdk) (ownersRegister sdk ownerPuzzleHash) version
      (Followed sdk launcherId ownerPuzzleHash set versions) state request := by
  cases state with
  | none => exact ⟨by cases request <;> rfl, by simp [attempt]⟩
  | some store =>
    obtain ⟨coherent, current⟩ := followed store rfl
    cases request with
    | write publicKey newMetadata =>
      by_cases key : sdk.standardCurryTreeHash publicKey = ownerPuzzleHash
      · obtain ⟨child, served, kept, named⟩ := coherent.attempt_write laws construction conditionConstruction
          (coherent.ordinary unmixed.ordinary current) key newMetadata
        have known := written newMetadata rfl
        constructor
        · simp [served, ownersRegister, version, Request.register, key, named]
        · intro next reached
          rw [served] at reached
          cases reached
          intro store same
          cases same
          exact ⟨kept, by rwa [named]⟩
      · have refused : attempt sdk (some store) (.write publicKey newMetadata) = none :=
          coherent.attempt_write_refused laws merkle (unmixed.apart _ current _ member) key
            (undelegated _ member key) newMetadata
        exact ⟨by simp [refused, ownersRegister, version, Request.register, key], by simp [refused]⟩
    | close publicKey =>
      have closed : attempt sdk (some store) (.close publicKey) = _ := coherent.attempt_close laws.toSpendLaws construction
      by_cases key : sdk.standardCurryTreeHash publicKey = ownerPuzzleHash
      · rw [if_pos key] at closed
        exact ⟨by simp [closed, ownersRegister, version, Request.register, key], by simp [closed, Followed]⟩
      · rw [if_neg key] at closed
        exact ⟨by simp [closed, ownersRegister, version, Request.register, key], by simp [closed]⟩

end Steps

/-- The metadata that a session on a launch can meet. -/
def versionsOf (metadata : DigDataStoreMetadata) (requests : List StoreRequest) : List DigDataStoreMetadata :=
  metadata :: requests.filterMap Request.written?

section Launches

variable {kind : StoreKind} {launcher : Launcher} {metadata : DigDataStoreMetadata} {ownerPuzzleHash : Bytes32}
  {set : List DelegatedPuzzle} {ctx after : SpendContext Allocator} {launch : DatastoreLaunch}
  {requests : List StoreRequest}

theorem Launched.followed (mint : MintLaw sdk)
    (launched : Launched sdk kind launcher metadata ownerPuzzleHash set ctx launch after) :
    Followed sdk (sdk.coinId launcher.coin) ownerPuzzleHash set (versionsOf metadata requests)
      (some launch.datastore) := by
  obtain ⟨eve, named, _⟩ := launched.coherent mint
  intro store same
  cases same
  exact ⟨eve, by rw [named]; exact List.mem_cons_self⟩

theorem Unmixed.refines (laws : UpdateLaws sdk) (construction : ConstructionLaw sdk)
    (conditionConstruction : ConditionConstructionLaw sdk) (merkle : MerkleLaw sdk) {launcherId : Bytes32}
    (unmixed : Unmixed sdk launcherId ownerPuzzleHash set (versionsOf metadata requests) requests)
    (undelegated : Undelegated sdk ownerPuzzleHash set requests) :
    ∀ state, Followed sdk launcherId ownerPuzzleHash set (versionsOf metadata requests) state →
      ∀ request ∈ requests, Refines (attempt sdk) (ownersRegister sdk ownerPuzzleHash) version
        (Followed sdk launcherId ownerPuzzleHash set (versionsOf metadata requests)) state request := by
  intro state followed request member
  apply followed.refines laws construction conditionConstruction merkle unmixed undelegated member
  intro value written
  exact List.mem_cons_of_mem _ (List.mem_filterMap.mpr ⟨request, member, written⟩)

end Launches

section Samples

open Reference

end Samples

end DigMerkle
