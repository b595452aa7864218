import DigMerkle.Library.Fallible
import Mathlib.Data.List.Forall2

namespace DigMerkle.Library

/-- A CLVM value: a byte string or a pair. -/
inductive Clvm where
  | atom (bytes : List UInt8)
  | pair (first rest : Clvm)
  deriving DecidableEq, Repr

/-- Why a CLVM value is not the encoding of a typed one. -/
inductive FromClvmError where
  | expectedAtom
  | expectedPair
  | wrongAtomLength (expected found : Nat)
  | invalidUtf8
  | custom (message : String)
  deriving DecidableEq, Repr

namespace Clvm

def decodeAtom : Clvm → Except FromClvmError (List UInt8)
  | atom bytes => .ok bytes
  | pair _ _ => .error .expectedAtom

def decodePair : Clvm → Except FromClvmError (Clvm × Clvm)
  | atom _ => .error .expectedPair
  | pair first rest => .ok (first, rest)

/-- Strings are atoms that hold UTF-8. -/
def ofString (text : String) : Clvm := atom text.toUTF8.data.toList

def decodeString (node : Clvm) : Except FromClvmError String := do
  let bytes ← decodeAtom node
  match String.fromUTF8? ⟨bytes.toArray⟩ with
  | some text => .ok text
  | none => .error .invalidUtf8

/-- A one-byte unsigned integer, in as few bytes as a signed reading allows. -/
def ofByte (value : UInt8) : Clvm :=
  if value = 0 then atom []
  else if value < 128 then atom [value]
  else atom [0, value]

def ofList : List Clvm → Clvm
  | [] => atom []
  | head :: tail => pair head (ofList tail)

/-- Items are decoded front to back, and only the empty atom ends a list. -/
def decodeList (item : Clvm → Except FromClvmError α) : Clvm → Except FromClvmError (List α)
  | pair first rest => do
    let head ← item first
    let tail ← decodeList item rest
    return head :: tail
  | atom [] => .ok []
  | atom bytes => .error (.wrongAtomLength 0 bytes.length)

/-- Fold a value bottom-up; a tree hash is such a fold. -/
def fold (onAtom : List UInt8 → β) (onPair : β → β → β) : Clvm → β
  | atom bytes => onAtom bytes
  | pair first rest => onPair (fold onAtom onPair first) (fold onAtom onPair rest)

@[simp] theorem decodeAtom_eq_ok {node : Clvm} : decodeAtom node = .ok bytes ↔ node = atom bytes := by
  cases node <;> simp [decodeAtom]

theorem ofByte_atom (value : UInt8) : ∃ bytes, ofByte value = atom bytes := by
  unfold ofByte
  split
  · exact ⟨_, rfl⟩
  · split <;> exact ⟨_, rfl⟩

theorem decodeString_eq_ok {node : Clvm} : decodeString node = .ok text ↔ node = ofString text := by
  constructor
  · intro success
    cases node with
    | pair first rest => cases success
    | atom bytes =>
      simp only [decodeString, decodeAtom, bind, Except.bind] at success
      split at success
      · rename_i read
        cases success
        unfold String.fromUTF8? at read
        split at read
        · have same := Option.some.inj read
          subst same
          rfl
        · cases read
      · cases success
  · intro same
    subst same
    have valid : String.fromUTF8? ⟨text.toUTF8.data.toList.toArray⟩ = some text := by
      unfold String.fromUTF8?
      rw [dif_pos (show ByteArray.IsValidUTF8 ⟨text.toUTF8.data.toList.toArray⟩ from text.isValidUTF8)]
      rfl
    simp only [decodeString, ofString, decodeAtom, bind, Except.bind, valid]

@[simp] theorem decodeString_ofString (text : String) : decodeString (ofString text) = .ok text :=
  decodeString_eq_ok.mpr rfl

theorem ofString_injective (same : ofString text = ofString other) : text = other := by
  have read := decodeString_eq_ok.mpr same
  rw [decodeString_ofString] at read
  exact Except.ok.inj read

theorem ofList_injective {nodes others : List Clvm} (same : ofList nodes = ofList others) :
    nodes = others := by
  induction nodes generalizing others with
  | nil => cases others with
    | nil => rfl
    | cons head tail => cases same
  | cons head tail ih => cases others with
    | nil => cases same
    | cons head' tail' =>
      obtain ⟨first, rest⟩ := Clvm.pair.inj same
      rw [first, ih rest]

theorem decodeList_eq_ok {item : Clvm → Except FromClvmError α} {node : Clvm} {values : List α} :
    decodeList item node = .ok values ↔
      ∃ nodes, node = ofList nodes ∧ List.Forall₂ (fun part value => item part = .ok value) nodes values := by
  induction node generalizing values with
  | atom bytes =>
    cases bytes with
    | nil =>
      constructor
      · intro success
        cases success
        exact ⟨[], rfl, .nil⟩
      · intro listed
        rcases listed with ⟨nodes, shape, each⟩
        cases nodes with
        | nil => cases each; rfl
        | cons head tail => cases shape
    | cons byte bytes =>
      constructor
      · intro success
        cases success
      · intro listed
        rcases listed with ⟨nodes, shape, each⟩
        cases nodes with
        | nil => cases shape
        | cons head tail => cases shape
  | pair first rest _ ih =>
    simp only [decodeList, except_bind_eq_ok, except_pure_eq_ok]
    constructor
    · intro success
      rcases success with ⟨head, decoded, tail, decodedTail, rfl⟩
      obtain ⟨nodes, shape, each⟩ := ih.mp decodedTail
      exact ⟨first :: nodes, by rw [shape, ofList], .cons decoded each⟩
    · intro listed
      rcases listed with ⟨nodes, shape, each⟩
      cases nodes with
      | nil => cases shape
      | cons head tail =>
        obtain ⟨rfl, rfl⟩ := Clvm.pair.inj shape
        cases each with
        | cons decoded later => exact ⟨_, decoded, _, ih.mpr ⟨tail, rfl, later⟩, rfl⟩

theorem decodeList_eq_ok_map {item : Clvm → Except FromClvmError α} {encode : α → Clvm} {node : Clvm}
    {values : List α} (canonical : ∀ part value, item part = .ok value ↔ part = encode value) :
    decodeList item node = .ok values ↔ node = ofList (values.map encode) := by
  simp only [decodeList_eq_ok, canonical]
  constructor
  · intro listed
    rcases listed with ⟨nodes, rfl, each⟩
    have same : nodes = values.map encode := by
      rw [← List.forall₂_eq_eq_eq, List.forall₂_map_right_iff]
      exact each
    rw [same]
  · intro same
    subst same
    exact ⟨_, rfl, by rw [List.forall₂_map_left_iff]; exact List.forall₂_same.mpr fun _ _ => rfl⟩

theorem decodeList_ofList {item : Clvm → Except FromClvmError α} {encode : α → Clvm} (values : List α)
    (each : ∀ value ∈ values, item (encode value) = .ok value) :
    decodeList item (ofList (values.map encode)) = .ok values := by
  refine decodeList_eq_ok.mpr ⟨values.map encode, rfl, ?_⟩
  rw [List.forall₂_map_left_iff]
  exact List.forall₂_same.mpr each

end Clvm

end DigMerkle.Library
