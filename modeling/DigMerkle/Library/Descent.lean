import Mathlib.Data.Set.Function

namespace DigMerkle.Library

variable {Node Hash Value : Type}

/-- A line of descent, latest first: every node but the root points at the link of the next
older one. -/
inductive Descent (isRoot : Node → Prop) (link parent : Node → Hash) : List Node → Prop
  | root {node : Node} (rooted : isRoot node) : Descent isRoot link parent [node]
  | child {node older : Node} {past : List Node} (descent : Descent isRoot link parent (older :: past))
      (derived : ¬ isRoot node) (points : parent node = link older) : Descent isRoot link parent (node :: older :: past)

/-- Two lines of descent whose latest links agree are the same line. -/
theorem Descent.unique {isRoot : Node → Prop} {link parent : Node → Hash} {line line' : List Node}
    (descent : Descent isRoot link parent line) (descent' : Descent isRoot link parent line')
    (injective : Set.InjOn link {node | node ∈ line ∨ node ∈ line'})
    (latest : line.head?.map link = line'.head?.map link) : line = line' := by
  induction descent generalizing line' with
  | @root node rooted =>
    cases descent' with
    | @root node' _ =>
      have same : node = node' := injective (by simp) (by simp) (Option.some.inj latest)
      rw [same]
    | @child node' older' past' _ derived' _ =>
      have same : node = node' := injective (by simp) (by simp) (Option.some.inj latest)
      exact absurd (same ▸ rooted) derived'
  | @child node older past _ derived points ih =>
    cases descent' with
    | @root node' rooted' =>
      have same : node = node' := injective (by simp) (by simp) (Option.some.inj latest)
      exact absurd (same ▸ rooted') derived
    | @child node' older' past' descent' _ points' =>
      have same : node = node' := injective (by simp) (by simp) (Option.some.inj latest)
      subst same
      have earlier := ih descent' (injective.mono fun found member => member.imp (List.mem_cons_of_mem _)
        (List.mem_cons_of_mem _)) (congrArg some (points.symm.trans points'))
      rw [earlier]

end DigMerkle.Library
