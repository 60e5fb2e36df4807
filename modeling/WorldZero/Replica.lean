import Mathlib.Tactic.TypeStar

/-!
# Replicas that are kept by updates

An authority has some entities, each with a value, and tells others of it by updates. An update
that sets or removes an entity does so whatever there has been before, a move applies to an
entity that is known. A replica is a fold of the updates, entity by entity.
-/

namespace Replica

inductive Update (E P : Type*) where
  | spawned (entity : E) (value : P)
  | despawned (entity : E)
  | moved (entity : E) (value : P)

variable {E P : Type*}

namespace Update

def entity : Update E P → E
  | spawned e _ | despawned e | moved e _ => e

/-- The entity is set to the value, or removed. -/
def announce (e : E) : Option P → Update E P
  | some p => spawned e p
  | none => despawned e

@[simp] theorem entity_announce (e : E) (x : Option P) : (announce e x).entity = e := by
  cases x <;> rfl

variable [DecidableEq E]

/-- What is known of the entity after the update. -/
def cell (e : E) (x : Option P) : Update E P → Option P
  | spawned e' p => if e' = e then some p else x
  | despawned e' => if e' = e then none else x
  | moved e' p => if e' = e then x.map fun _ => p else x

variable {u : Update E P} {e : E} {x : Option P} {p : P}

theorem cell_of_ne (other : u.entity ≠ e) : u.cell e x = x := by
  cases u <;> exact if_neg other

@[simp] theorem cell_spawned : (spawned e p).cell e x = some p := if_pos rfl

@[simp] theorem cell_despawned : (despawned e : Update E P).cell e x = none := if_pos rfl

@[simp] theorem cell_moved : (moved e p).cell e x = x.map fun _ => p := if_pos rfl

@[simp] theorem cell_announce {y : Option P} : (announce e y).cell e x = y := by
  cases y
  · exact cell_despawned
  · exact cell_spawned

end Update

open Update

variable [DecidableEq E]

/-- What is known of the entity after the updates, in order. -/
def replay (updates : List (Update E P)) (e : E) (x : Option P) : Option P :=
  updates.foldl (Update.cell e) x

variable {updates updates' : List (Update E P)} {u : Update E P} {e : E} {x : Option P}

@[simp] theorem replay_nil : replay ([] : List (Update E P)) e x = x := rfl

@[simp] theorem replay_cons : replay (u :: updates) e x = replay updates e (u.cell e x) := rfl

@[simp] theorem replay_append :
    replay (updates ++ updates') e x = replay updates' e (replay updates e x) :=
  List.foldl_append ..

end Replica
