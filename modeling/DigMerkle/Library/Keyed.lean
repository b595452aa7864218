import DigMerkle.Library.Fallible

/-! Records read from keyed items, one item after the other, by a reader that
skips the keys it does not know. -/

namespace DigMerkle.Library

variable {Key Value Record : Type} [DecidableEq Key]

/-- Reading an item whose key is not listed leaves the record alone. -/
def SkipsOthers (known : List Key) (read : Record → Key × Value → Except ε Record) : Prop :=
  ∀ record item, item.1 ∉ known → read record item = .ok record

/-- The items that a reader of these keys does not skip. -/
def knownItems (known : List Key) (items : List (Key × Value)) : List (Key × Value) :=
  items.filter fun item => item.1 ∈ known

/-- Only the known items decide what is read, wherever the others stand. -/
theorem SkipsOthers.foldlM_knownItems {known : List Key} {read : Record → Key × Value → Except ε Record}
    (skips : SkipsOthers known read) (items : List (Key × Value)) (record : Record) :
    (knownItems known items).foldlM read record = items.foldlM read record := by
  induction items generalizing record with
  | nil => rfl
  | cons item items ih =>
    simp only [knownItems] at ih ⊢
    by_cases listed : item.1 ∈ known
    · rw [List.filter_cons_of_pos (by simpa using listed), List.foldlM_cons, List.foldlM_cons]
      cases read record item with
      | error error => rfl
      | ok after => exact ih after
    · rw [List.filter_cons_of_neg (by simpa using listed), List.foldlM_cons, skips record item listed]
      exact ih record

theorem exists_last_item {key : Key} {items : List (Key × Value)} (present : key ∈ items.map Prod.fst) :
    ∃ before value after, items = before ++ (key, value) :: after ∧ key ∉ after.map Prod.fst := by
  induction items with
  | nil => cases present
  | cons item items ih =>
    by_cases later : key ∈ items.map Prod.fst
    · obtain ⟨before, value, after, rfl, last⟩ := ih later
      exact ⟨item :: before, value, after, rfl, last⟩
    · rw [List.map_cons, List.mem_cons] at present
      rcases present with rfl | earlier
      · exact ⟨[], item.2, items, rfl, later⟩
      · exact absurd earlier later

/-- The value of a key's last item. -/
def lastValue (key : Key) : List (Key × Value) → Option Value
  | [] => none
  | item :: items => (lastValue key items).or (if item.1 = key then some item.2 else none)

theorem lastValue_append (key : Key) (items later : List (Key × Value)) :
    lastValue key (items ++ later) = (lastValue key later).or (lastValue key items) := by
  induction items with
  | nil => simp [lastValue]
  | cons item items ih => rw [List.cons_append, lastValue, ih, lastValue, Option.or_assoc]

theorem mem_of_lastValue {items : List (Key × Value)} (last : lastValue key items = some value) :
    (key, value) ∈ items := by
  induction items with
  | nil => cases last
  | cons item items ih =>
    rw [lastValue, Option.or_eq_some_iff] at last
    rcases last with later | ⟨_, here⟩
    · exact List.mem_cons_of_mem item (ih later)
    · by_cases same : item.1 = key
      · rw [if_pos same] at here
        cases here
        exact same ▸ List.mem_cons_self
      · rw [if_neg same] at here
        cases here

theorem lastValue_eq_some {items : List (Key × Value)} (distinct : (items.map Prod.fst).Nodup) :
    lastValue key items = some value ↔ (key, value) ∈ items := by
  refine ⟨mem_of_lastValue, fun member => ?_⟩
  induction items with
  | nil => cases member
  | cons item items ih =>
    obtain ⟨fresh, distinct⟩ := List.nodup_cons.mp distinct
    rw [lastValue]
    rcases List.mem_cons.mp member with rfl | later
    · have absent : lastValue key items = none := by
        by_contra present
        obtain ⟨other, last⟩ := Option.ne_none_iff_exists'.mp present
        exact fresh (List.mem_map.mpr ⟨_, mem_of_lastValue last, rfl⟩)
      rw [absent, if_pos rfl, Option.none_or]
    · rw [ih distinct later, Option.some_or]

theorem lastValue_perm {items other : List (Key × Value)} (distinct : (items.map Prod.fst).Nodup)
    (permuted : items.Perm other) (key : Key) : lastValue key items = lastValue key other := by
  have distinct' : (other.map Prod.fst).Nodup := (permuted.map Prod.fst).nodup_iff.mp distinct
  apply Option.ext
  intro value
  rw [lastValue_eq_some distinct, lastValue_eq_some distinct', permuted.mem_iff]

theorem find?_of_nodup {items : List α} {key : α → Key} (distinct : (items.map key).Nodup) (member : item ∈ items) :
    items.find? (fun other => key other = key item) = some item := by
  induction items with
  | nil => cases member
  | cons first items ih =>
    obtain ⟨fresh, distinct⟩ := List.nodup_cons.mp distinct
    rcases List.mem_cons.mp member with rfl | later
    · rw [List.find?_cons_of_pos (by simp)]
    · have other : key first ≠ key item := fun same => fresh (same ▸ List.mem_map_of_mem later)
      rw [List.find?_cons_of_neg (by simpa using other)]
      exact ih distinct later

/-- A reader that accepts the well-typed items, and stores those of the known keys at
their keys. -/
structure StoresLast (known : List Key) (typed : Key × Value → Prop) (entry : Record → Key → Option Value)
    (read : Record → Key × Value → Except ε Record) : Prop where
  accepts : ∀ record item, (∃ after, read record item = .ok after) ↔ typed item
  same : ∀ {record after key value}, key ∈ known → read record (key, value) = .ok after →
    entry after key = some value
  other : ∀ {record after key item}, key ≠ item.1 → read record item = .ok after →
    entry after key = entry record key

namespace StoresLast

variable {known : List Key} {typed : Key × Value → Prop} {entry : Record → Key → Option Value}
  {read : Record → Key × Value → Except ε Record}

omit [DecidableEq Key] in
/-- Items are read exactly when each of them is well typed, whatever was read before. -/
theorem foldlM_accepts (stores : StoresLast known typed entry read) (items : List (Key × Value)) (record : Record) :
    (∃ after, items.foldlM read record = .ok after) ↔ ∀ item ∈ items, typed item := by
  induction items generalizing record with
  | nil => exact iff_of_true ⟨record, rfl⟩ fun _ member => nomatch member
  | cons item items ih =>
    simp only [List.foldlM_cons, except_bind_eq_ok, List.forall_mem_cons]
    constructor
    · intro success
      rcases success with ⟨after, middle, first, rest⟩
      exact ⟨(stores.accepts record item).mp ⟨middle, first⟩, (ih middle).mp ⟨after, rest⟩⟩
    · intro typed
      rcases typed with ⟨first, rest⟩
      obtain ⟨middle, read⟩ := (stores.accepts record item).mpr first
      obtain ⟨after, success⟩ := (ih middle).mpr rest
      exact ⟨after, middle, read, success⟩

/-- A known key ends up with its last value, or with what it held. -/
theorem entry_foldlM (stores : StoresLast known typed entry read) {items : List (Key × Value)}
    {record after : Record} (success : items.foldlM read record = .ok after) (listed : key ∈ known) :
    entry after key = (lastValue key items).or (entry record key) := by
  induction items generalizing record with
  | nil =>
    cases success
    rfl
  | cons item items ih =>
    rw [List.foldlM_cons, except_bind_eq_ok] at success
    obtain ⟨middle, first, rest⟩ := success
    rw [ih rest, lastValue, Option.or_assoc]
    congr 1
    by_cases same : item.1 = key
    · subst same
      rw [if_pos rfl, stores.same listed first, Option.some_or]
    · rw [if_neg same, stores.other (Ne.symm same) first, Option.none_or]

end StoresLast

/-- A list with further items put in between, each of which is extra. -/
inductive Interspersed (extra : α → Prop) : List α → List α → Prop where
  | nil : Interspersed extra [] []
  | own (item : α) (rest : Interspersed extra own all) : Interspersed extra (item :: own) (item :: all)
  | extra (item : α) (foreign : extra item) (rest : Interspersed extra own all) :
      Interspersed extra own (item :: all)

theorem Interspersed.mem {extra : α → Prop} {own all : List α} (interspersed : Interspersed extra own all)
    (member : item ∈ all) : item ∈ own ∨ extra item := by
  induction interspersed with
  | nil => cases member
  | own first _ ih =>
    rcases List.mem_cons.mp member with rfl | later
    · exact .inl List.mem_cons_self
    · exact (ih later).imp_left (List.mem_cons_of_mem first)
  | extra first foreign _ ih =>
    rcases List.mem_cons.mp member with rfl | later
    · exact .inr foreign
    · exact ih later

theorem Interspersed.subset {extra : α → Prop} {own all : List α} (interspersed : Interspersed extra own all) :
    own ⊆ all := by
  induction interspersed with
  | nil => exact List.Subset.refl []
  | own item _ ih => exact List.cons_subset_cons item ih
  | extra item _ _ ih => exact List.subset_cons_of_subset item ih

theorem Interspersed.flatMap_eq {extra : α → Prop} {own all : List α} (interspersed : Interspersed extra own all)
    {read : α → List β} (silent : ∀ item, extra item → read item = []) : all.flatMap read = own.flatMap read := by
  induction interspersed with
  | nil => rfl
  | own item _ ih => rw [List.flatMap_cons, List.flatMap_cons, ih]
  | extra item foreign _ ih => rw [List.flatMap_cons, silent item foreign, List.nil_append, ih]

theorem Interspersed.imp {extra weaker : α → Prop} {own all : List α} (interspersed : Interspersed extra own all)
    (weaken : ∀ item, extra item → weaker item) : Interspersed weaker own all := by
  induction interspersed with
  | nil => exact .nil
  | own item _ ih => exact .own item ih
  | extra item foreign _ ih => exact .extra item (weaken item foreign) ih

theorem Interspersed.of_map {change : α → β} (injective : Function.Injective change) {extra : β → Prop}
    {own all : List α} (interspersed : Interspersed extra (own.map change) (all.map change)) :
    Interspersed (fun item => extra (change item)) own all := by
  induction all generalizing own with
  | nil =>
    generalize shape : own.map change = mapped at interspersed
    cases interspersed
    rw [List.map_eq_nil_iff.mp shape]
    exact .nil
  | cons item all ih =>
    generalize shape : own.map change = mapped at interspersed
    cases interspersed with
    | own _ rest =>
      obtain ⟨first, own, rfl, same, rfl⟩ := List.map_eq_cons_iff.mp shape
      cases injective same
      exact .own _ (ih rest)
    | extra _ foreign rest =>
      subst shape
      exact .extra _ foreign (ih rest)

/-- A reader that knows a list's keys alone finds that list among the further items. -/
theorem Interspersed.knownItems {known : List Key} {own all : List (Key × Value)}
    (interspersed : Interspersed (fun item => item.1 ∉ known) own all)
    (listed : ∀ item ∈ own, item.1 ∈ known) : knownItems known all = own := by
  induction interspersed with
  | nil => rfl
  | own item _ ih =>
    have known : item.1 ∈ known := listed item List.mem_cons_self
    rw [Library.knownItems, List.filter_cons_of_pos (by simpa using known)]
    exact congrArg (item :: ·) (ih fun other member => listed other (List.mem_cons_of_mem _ member))
  | extra item foreign _ ih =>
    rw [Library.knownItems, List.filter_cons_of_neg (by simpa using foreign)]
    exact ih listed

end DigMerkle.Library
