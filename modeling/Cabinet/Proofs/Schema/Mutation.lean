import Cabinet.Proofs.Schema.Apply
import Cabinet.Proofs.Workspace.Paired

/-!
Operations that change tables and columns: each checks its arguments, reads, and makes one revision
or one change at most.
-/

namespace Cabinet.Schema

open Operation

/-- The operations that make one revision or one change of a database at most. -/
inductive Mutation (f : Folders) (id : String) : {α : Type} → Operation α → Prop
  | revision {α : Type} {revision : Revision α} (lawful : revision.Lawful) :
    Mutation f id (applyRevision f id revision)
  | change {α : Type} {change : Change α} (action : String) (lawful : change.Lawful) :
    Mutation f id (applyChange f id action change)
  | answer {α : Type} (x : Except Error α) (calm : Calm x) : Mutation f id (Operation.of x)
  | check {α β : Type} {x : Except Error α} {next : α → Operation β} (calm : Calm x)
    (rest : ∀ a, x = .ok a → Mutation f id (next a)) : Mutation f id (Operation.of x >>= next)
  | reading {α β : Type} {op : Operation α} {next : α → Operation β} (reads : op.Reads)
    (rest : ∀ a, Mutation f id (next a)) : Mutation f id (op >>= next)
  | quietly {α β : Type} {op : Operation α} {next : α → Operation β} (first : Mutation f id op)
    (quiet : ∀ a, (next a).Quiet) : Mutation f id (op >>= next)

end Cabinet.Schema
