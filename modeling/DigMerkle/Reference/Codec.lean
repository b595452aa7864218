import DigMerkle.Contract.Laws

namespace DigMerkle.Reference

open Library

/-- Values in postfix form: 0 pushes the empty atom, 1 extends the top atom by
the next byte and 2 pairs the two top values. -/
def serialize : Clvm → Program
  | .atom bytes => 0 :: bytes.flatMap fun byte => [1, byte]
  | .pair first rest => serialize first ++ serialize rest ++ [2]

def deserializeOnto : Program → List Clvm → Option (List Clvm)
  | [], stack => some stack
  | 0 :: program, stack => deserializeOnto program (.atom [] :: stack)
  | 1 :: byte :: program, .atom bytes :: stack =>
    deserializeOnto program (.atom (bytes ++ [byte]) :: stack)
  | 2 :: program, rest :: first :: stack => deserializeOnto program (.pair first rest :: stack)
  | _, _ => none

def deserialize (program : Program) : Except String Clvm :=
  match deserializeOnto program [] with
  | some [value] => .ok value
  | _ => .error "invalid program"

private theorem deserializeOnto_bytes (bytes start : List UInt8) (program : Program) (stack : List Clvm) :
    deserializeOnto (bytes.flatMap (fun byte => [1, byte]) ++ program) (.atom start :: stack) =
      deserializeOnto program (.atom (start ++ bytes) :: stack) := by
  induction bytes generalizing start with
  | nil => simp
  | cons byte bytes ih =>
    change deserializeOnto (1 :: byte :: (bytes.flatMap (fun byte => [1, byte]) ++ program)) _ = _
    rw [deserializeOnto, ih, List.append_assoc]
    rfl

theorem deserializeOnto_serialize (value : Clvm) (program : Program) (stack : List Clvm) :
    deserializeOnto (serialize value ++ program) stack = deserializeOnto program (value :: stack) := by
  induction value generalizing program stack with
  | atom bytes =>
    change deserializeOnto (0 :: (bytes.flatMap (fun byte => [1, byte]) ++ program)) stack = _
    rw [deserializeOnto, deserializeOnto_bytes]
    rfl
  | pair first rest ihFirst ihRest =>
    rw [serialize, List.append_assoc, List.append_assoc, ihFirst, ihRest]
    change deserializeOnto (2 :: program) _ = _
    rw [deserializeOnto]

@[simp] theorem deserialize_serialize (value : Clvm) : deserialize (serialize value) = .ok value := by
  have read := deserializeOnto_serialize value [] []
  rw [List.append_nil] at read
  rw [deserialize, read]
  rfl

def bytesOfNat (size value : Nat) : List UInt8 :=
  (List.range size).map fun place => UInt8.ofNat (value / 256 ^ (size - 1 - place))

def digest (bytes : List UInt8) : Bytes32 :=
  ⟨bytesOfNat 32 (bytes.foldl (fun state byte => (state * 65599 + byte.toNat + 1) % 2 ^ 256) 7),
    by simp [bytesOfNat]⟩

def treeHash : Clvm → Bytes32 :=
  Clvm.fold (fun bytes => digest (1 :: bytes)) fun first rest => digest (2 :: first.bytes ++ rest.bytes)

def amountBytes (amount : UInt64) : List UInt8 := bytesOfNat 8 amount.toNat

def amountOf (bytes : List UInt8) : UInt64 :=
  UInt64.ofNat (bytes.foldl (fun value byte => value * 256 + byte.toNat) 0)

theorem bytesOfNat_succ (size value : Nat) :
    bytesOfNat (size + 1) value = bytesOfNat size (value / 256) ++ [UInt8.ofNat value] := by
  have earlier : ∀ place ∈ List.range size, UInt8.ofNat (value / 256 ^ (size + 1 - 1 - place)) =
      UInt8.ofNat (value / 256 / 256 ^ (size - 1 - place)) := by
    intro place member
    have inside : place < size := List.mem_range.mp member
    have exponent : size + 1 - 1 - place = (size - 1 - place) + 1 := by omega
    rw [exponent, Nat.pow_succ', Nat.div_div_eq_div_mul]
  rw [bytesOfNat, List.range_succ, List.map_append, List.map_congr_left earlier, bytesOfNat]
  simp

theorem foldl_bytesOfNat (size value : Nat) :
    (bytesOfNat size value).foldl (fun value byte => value * 256 + byte.toNat) 0 = value % 256 ^ size := by
  induction size generalizing value with
  | zero => simp [bytesOfNat, Nat.mod_one]
  | succ size ih =>
    rw [bytesOfNat_succ, List.foldl_append, ih, Nat.pow_succ', Nat.mod_mul]
    simp only [List.foldl_cons, List.foldl_nil, UInt8.toNat_ofNat']
    omega

@[simp] theorem amountOf_amountBytes (amount : UInt64) : amountOf (amountBytes amount) = amount := by
  have bounded : amount.toNat < 256 ^ 8 := amount.toNat_lt
  rw [amountOf, amountBytes, foldl_bytesOfNat, Nat.mod_eq_of_lt bounded, UInt64.ofNat_toNat]

def coinId (coin : Coin) : Bytes32 :=
  digest (coin.parentCoinInfo.bytes ++ coin.puzzleHash.bytes ++ amountBytes coin.amount)

def encodeMemos : Memos → Clvm
  | .none => .atom []
  | .some node => .pair node (.atom [])

def decodeMemos : Clvm → Memos
  | .atom _ => .none
  | .pair node _ => .some node

@[simp] theorem decodeMemos_encodeMemos (memos : Memos) : decodeMemos (encodeMemos memos) = memos := by
  cases memos <;> rfl

def encodeCondition : Condition → Clvm
  | .createCoin created =>
    .pair (.atom [51]) (.pair created.puzzleHash.toClvm
      (.pair (.atom (amountBytes created.amount)) (encodeMemos created.memos)))
  | .assertCoinAnnouncement announcementId => .pair (.atom [61]) announcementId.toClvm
  | .aggSigMe publicKey => .pair (.atom [50]) publicKey.toClvm
  | .meltSingleton => .pair (.atom [113]) (.atom [])
  | .newMetadata metadata => .pair (.atom [24]) metadata
  | .other condition => .pair (.atom [0]) condition

def decodeCondition : Clvm → Except FromClvmError Condition
  | .pair (.atom [51]) (.pair puzzleHash (.pair (.atom amount) memos)) => do
    let puzzleHash ← BytesImpl.fromClvm 32 puzzleHash
    return .createCoin ⟨puzzleHash, amountOf amount, decodeMemos memos⟩
  | .pair (.atom [61]) announcementId => do
    return .assertCoinAnnouncement (← BytesImpl.fromClvm 32 announcementId)
  | .pair (.atom [50]) publicKey => do return .aggSigMe (← BytesImpl.fromClvm 48 publicKey)
  | .pair (.atom [113]) _ => .ok .meltSingleton
  | .pair (.atom [24]) metadata => .ok (.newMetadata metadata)
  | .pair (.atom [0]) condition => .ok (.other condition)
  | _ => .error (.custom "unknown condition")

@[simp] theorem decodeCondition_encodeCondition (condition : Condition) :
    decodeCondition (encodeCondition condition) = .ok condition := by
  cases condition <;>
    simp [encodeCondition, decodeCondition, bind, Except.bind, pure, Except.pure]

def encodeConditions (conditions : Conditions) : Clvm := .ofList (conditions.map encodeCondition)

def decodeConditions (node : Clvm) : Except FromClvmError Conditions := node.decodeList decodeCondition

@[simp] theorem decodeConditions_encodeConditions (conditions : Conditions) :
    decodeConditions (encodeConditions conditions) = .ok conditions :=
  Clvm.decodeList_ofList conditions fun condition _ => decodeCondition_encodeCondition condition

def bytes32? (bytes : List UInt8) : Option Bytes32 :=
  if size : bytes.length = 32 then some ⟨bytes, size⟩ else none

@[simp] theorem bytes32?_bytes (value : Bytes32) : bytes32? value.bytes = some value := by
  simp [bytes32?, value.length_bytes]

def leafHash : DelegatedPuzzle → Bytes32
  | .admin puzzleHash => puzzleHash
  | .writer innerPuzzleHash => digest (3 :: innerPuzzleHash.bytes)
  | .oracle puzzleHash fee => digest (4 :: puzzleHash.bytes ++ amountBytes fee)

def delegatedMemo : DelegatedPuzzle → List UInt8
  | .admin puzzleHash => 1 :: puzzleHash.bytes
  | .writer innerPuzzleHash => 2 :: innerPuzzleHash.bytes
  | .oracle puzzleHash fee => 3 :: puzzleHash.bytes ++ amountBytes fee

def delegatedOfMemo : List UInt8 → Option DelegatedPuzzle
  | 1 :: bytes => (bytes32? bytes).map .admin
  | 2 :: bytes => (bytes32? bytes).map .writer
  | 3 :: bytes => (bytes32? (bytes.take 32)).map fun puzzleHash => .oracle puzzleHash (amountOf (bytes.drop 32))
  | _ => none

@[simp] theorem delegatedOfMemo_delegatedMemo (puzzle : DelegatedPuzzle) :
    delegatedOfMemo (delegatedMemo puzzle) = some puzzle := by
  cases puzzle with
  | admin puzzleHash => simp [delegatedMemo, delegatedOfMemo]
  | writer innerPuzzleHash => simp [delegatedMemo, delegatedOfMemo]
  | oracle puzzleHash fee =>
    have front : (puzzleHash.bytes ++ amountBytes fee).take 32 = puzzleHash.bytes :=
      List.take_left' puzzleHash.length_bytes
    have back : (puzzleHash.bytes ++ amountBytes fee).drop 32 = amountBytes fee :=
      List.drop_left' puzzleHash.length_bytes
    simp [delegatedMemo, delegatedOfMemo, front, back]

def setOfMemos (memos : List (List UInt8)) : Option (List DelegatedPuzzle) := memos.mapM delegatedOfMemo

@[simp] theorem setOfMemos_map (set : List DelegatedPuzzle) : setOfMemos (set.map delegatedMemo) = some set := by
  induction set with
  | nil => rfl
  | cons puzzle set ih =>
    have rest : (set.map delegatedMemo).mapM delegatedOfMemo = some set := ih
    simp [setOfMemos, rest]

end DigMerkle.Reference
