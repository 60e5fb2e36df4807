import WorldZero.Character.Equipment

/-!
# Exchanges that fail before they write

An equip or an unequip reads what it needs and then runs through its writes: the stats of one
item after the other, an item type into or out of the inventory, the row of the slot. Here it
is cut into these pieces, so that it can be said where among them it fails. One that fails
before its first write leaves everything as it was.
-/

namespace WorldZero.Character

open Sql

namespace EquipM

variable {α β γ : Type} (m : EquipM α)

def discard : EquipM Unit := m.bind fun _ => .pure ()

theorem bind_assoc (f : α → EquipM β) (g : β → EquipM γ) :
    (m.bind f).bind g = m.bind fun a => (f a).bind g := by
  funext faults s
  simp only [bind, run]
  cases m faults s with
  | mk result after => cases result <;> rfl

theorem discard_bind (f : α → EquipM β) :
    (m.bind f).discard = m.bind fun a => (f a).discard := bind_assoc m f _

theorem discard_pure (a : α) : (EquipM.pure a).discard = .pure () := rfl

/-- What follows does not depend on the result. -/
theorem bind_const (n : EquipM β) : (m.bind fun _ => n) = m.discard.bind fun _ => n := by
  rw [discard, bind_assoc]
  rfl

variable {m} {faults rest : Faults} {s s' : EquipState} {e : Error} {a : α}

theorem run_bind_ok {f : α → EquipM β} (returned : m.run faults s = (.ok a, s', rest)) :
    (m.bind f).run faults s = (f a).run rest s' := by
  show EquipM.bind m f faults s = _
  rw [EquipM.bind, returned]

theorem run_bind_error {f : α → EquipM β} (failed : m.run faults s = (.error e, s', rest)) :
    (m.bind f).run faults s = (.error e, s', rest) := by
  show EquipM.bind m f faults s = _
  rw [EquipM.bind, failed]

end EquipM

/-- A call of the store, or a statement on `equipped_items`. -/
inductive Piece where
  | store (p : StoreM Int)
  | slot (effect : EquipState → Option EquipState) (failure : Error)

namespace Piece

variable (store : CharacterStore) (schema : EquipmentSchema) (c : CharacterId)

def perform : Piece → EquipM Unit
  | .store p => (EquipM.call c p).discard
  | .slot effect failure => .execute effect failure

def sequence : List Piece → EquipM Unit
  | [] => .pure ()
  | piece :: pieces => (piece.perform c).bind fun _ => sequence pieces

/-- Wherever one of the pieces fails, nothing has been written, by the pieces or before them
(`written`). -/
def failsClean : (written : Bool) → List Piece → Faults → EquipState → Bool
  | _, [], _, _ => true
  | written, .store p :: pieces, faults, s =>
      p.failsClean written faults s.tables &&
        match (EquipM.call c p).run faults s with
        | (.ok _, s', rest) => failsClean true pieces rest s'
        | (.error _, _, _) => true
  | written, .slot effect _ :: pieces, faults, s =>
      match faults.head?.join, effect s with
      | some .failed, _ | _, none => !written
      | some .lost, some _ => false
      | none, some s' => failsClean true pieces faults.tail s'

variable {c}

theorem sequence_append (pieces pieces' : List Piece) :
    sequence c (pieces ++ pieces') = (sequence c pieces).bind fun _ => sequence c pieces' := by
  induction pieces with
  | nil => rfl
  | cons piece pieces ih =>
      rw [List.cons_append, sequence, sequence, ih, EquipM.bind_assoc]

/-- What is stored of the characters is the same. -/
def Kept (s s' : EquipState) : Prop :=
  s'.tables = s.tables ∧ s'.equippedItems = s.equippedItems

/-- A failing call of the store has not written, and the part of an exchange before it neither. -/
theorem kept_of_call {written : Bool} {p : StoreM Int} {faults rest : Faults}
    {s s' : EquipState} {e : Error} (clean : p.failsClean written faults s.tables = true)
    (failed : (EquipM.call c p).run faults s = (.error e, s', rest)) :
    written = false ∧ Kept s s' := by
  rcases ran : p.runFaulty faults s.tables with ⟨result, tables, left⟩
  have outcome : (EquipM.call c p).run faults s = (result, { s with
      tables
      exchanging := s.exchanging || decide (tables.lookup (.character c) ≠
        s.tables.lookup (.character c)) }, left) := by
    simp only [EquipM.run, EquipM.call, ran]
  rw [outcome] at failed
  cases failed
  obtain ⟨none, same⟩ := Program.unchanged_of_failsClean clean ran
  exact ⟨none, same, rfl⟩

theorem kept_of_failsClean {written : Bool} {pieces : List Piece} {faults rest : Faults}
    {s s' : EquipState} {e : Error} (clean : failsClean c written pieces faults s = true)
    (failed : (sequence c pieces).run faults s = (.error e, s', rest)) :
    written = false ∧ Kept s s' := by
  induction pieces generalizing written faults s with
  | nil => cases failed
  | cons piece pieces ih =>
      rw [sequence] at failed
      cases piece with
      | store p =>
          rw [failsClean, Bool.and_eq_true] at clean
          rcases called : (EquipM.call c p).run faults s with ⟨e' | n, s₁, faults₁⟩
          · have performed : (perform c (.store p)).run faults s = (.error e', s₁, faults₁) :=
              EquipM.run_bind_error called
            rw [EquipM.run_bind_error performed] at failed
            cases failed
            exact kept_of_call clean.1 called
          · have performed : (perform c (.store p)).run faults s = (.ok (), s₁, faults₁) :=
              EquipM.run_bind_ok called
            rw [called] at clean
            rw [EquipM.run_bind_ok performed] at failed
            obtain ⟨impossible, -⟩ := ih clean.2 failed
            cases impossible
      | slot effect failure =>
          rw [failsClean] at clean
          rcases performed : (perform c (.slot effect failure)).run faults s with
            ⟨e' | u, s₁, faults₁⟩
          · rw [EquipM.run_bind_error performed] at failed
            cases failed
            rw [perform, EquipM.run_execute] at performed
            split at performed
            next fault =>
              cases performed
              rw [fault] at clean
              exact ⟨by simpa using clean, rfl, rfl⟩
            next none _ =>
              cases performed
              rw [none] at clean
              cases fault : faults.head?.join with
              | none => exact ⟨by simpa [fault] using clean, rfl, rfl⟩
              | some f => cases f <;> exact ⟨by simpa [fault] using clean, rfl, rfl⟩
            next some fault =>
              rw [fault, some] at clean
              cases clean
            · cases performed
          · rw [EquipM.run_bind_ok performed] at failed
            rw [perform, EquipM.run_execute] at performed
            split at performed
            · cases performed
            · cases performed
            · cases performed
            next fault some =>
              cases performed
              rw [fault, some] at clean
              obtain ⟨impossible, -⟩ := ih clean failed
              cases impossible

end Piece

/-! ### The pieces of an equip and of an unequip -/

section Calls

variable (store : CharacterStore) (schema : EquipmentSchema) (c : CharacterId)

def statPieces (deltas : List (String × Int64)) : List Piece :=
  deltas.map fun d => .store (applyStatDelta store c d.1 d.2.toInt)

def unequipPieces (slot itemType : String) : List Piece :=
  statPieces store c (reversed (schema.statDeltas itemType)) ++
    [.store (grantItem store c itemType 1),
      .slot (fun s => some { s with
        equippedItems := s.equippedItems.erase (c, slot), exchanging := false })
        (.wrap "character" "failed to clear equipped slot")]

def equipPieces (slot itemType : String) (deltas : List (String × Int64))
    (occupantType : Option String) : List Piece :=
  occupantType.elim [] (unequipPieces store schema c slot) ++ (statPieces store c deltas ++
    [.store (removeItem c itemType 1),
      .slot (fun s =>
        if (s.tables.lookup (.character c)).isSome then
          some { s with
            equippedItems := s.equippedItems.insert (c, slot) itemType, exchanging := false }
        else none)
        (.wrap "character" "failed to record equipped item")])

/-- Wherever an unequip fails, nothing has been written: its reads write nothing. -/
def unequipFailsClean (slot : String) (faults : Faults) (s : EquipState) : Bool :=
  match (equippedInSlot c slot).run faults s with
  | (.ok (some itemType), s₁, rest) =>
      Piece.failsClean c false (unequipPieces store schema c slot itemType) rest s₁
  | (.ok none, _, _) | (.error _, _, _) => true

def equipFailsClean (itemType : String) (faults : Faults) (s : EquipState) : Bool :=
  match schema.resolve itemType with
  | .error _ => true
  | .ok declared =>
      match (EquipM.call c (itemQuantity c itemType)).run faults s with
      | (.error _, _, _) => true
      | (.ok owned, s₁, rest) =>
          if owned < 1 then true
          else
            match (equippedInSlot c declared.slot).run rest s₁ with
            | (.error _, _, _) => true
            | (.ok occupantType, s₂, rest') =>
                Piece.failsClean c false
                  (equipPieces store schema c declared.slot itemType declared.statDeltas
                    occupantType) rest' s₂

variable {store schema c} {slot itemType : String} {faults rest : Faults} {s s' : EquipState}
  {e : Error}

theorem discard_applyStatDeltas (deltas : List (String × Int64)) :
    (applyStatDeltas store c deltas).discard = Piece.sequence c (statPieces store c deltas) := by
  induction deltas with
  | nil => rfl
  | cons d deltas ih =>
      show EquipM.discard (EquipM.bind _ fun _ => EquipM.bind _ fun _ => EquipM.pure _) = _
      simp only [EquipM.discard_bind, EquipM.discard_pure]
      show EquipM.bind _ (fun _ => (applyStatDeltas store c deltas).discard) = _
      rw [ih, EquipM.bind_const]
      rfl

/-- The pieces after the stats. -/
theorem bind_applyStatDeltas (deltas : List (String × Int64)) (pieces : List Piece) :
    ((applyStatDeltas store c deltas).bind fun _ => Piece.sequence c pieces) =
      Piece.sequence c (statPieces store c deltas ++ pieces) := by
  rw [EquipM.bind_const, discard_applyStatDeltas, Piece.sequence_append]

theorem discard_unequipInner :
    (unequipInner store schema c slot itemType).discard =
      Piece.sequence c (unequipPieces store schema c slot itemType) := by
  rw [unequipPieces, ← bind_applyStatDeltas]
  show EquipM.discard (EquipM.bind _ fun _ => EquipM.bind _ fun _ => EquipM.bind _ fun _ =>
    EquipM.pure _) = _
  simp only [EquipM.discard_bind, EquipM.discard_pure]
  refine congrArg _ (funext fun _ => ?_)
  rw [EquipM.bind_const]
  rfl

/-- The reads are no part of an exchange. -/
theorem run_equippedInSlot :
    ∃ result, (equippedInSlot c slot).run faults s = (result, s, faults.tail) := by
  change ∃ result, equippedInSlot c slot faults s = (result, s, faults.tail)
  unfold equippedInSlot
  split
  · exact ⟨_, rfl⟩
  · exact ⟨_, rfl⟩

theorem kept_of_unequip (clean : unequipFailsClean store schema c slot faults s = true)
    (failed : (unequipItem store schema c slot).run faults s = (.error e, s', rest)) :
    Piece.Kept s s' := by
  obtain ⟨result, read⟩ : ∃ result,
      (equippedInSlot c slot).run faults s = (result, s, faults.tail) := run_equippedInSlot
  rw [unequipFailsClean, read] at clean
  change (EquipM.bind (equippedInSlot c slot) _).run faults s = _ at failed
  cases result with
  | error e' =>
      rw [EquipM.run_bind_error read] at failed
      cases failed
      exact ⟨rfl, rfl⟩
  | ok occupant =>
      rw [EquipM.run_bind_ok read] at failed
      cases occupant with
      | none =>
          cases failed
          exact ⟨rfl, rfl⟩
      | some itemType =>
          have ended : (unequipInner store schema c slot itemType).discard.run faults.tail s =
            (.error e, s', rest) := EquipM.run_bind_error failed
          rw [discard_unequipInner] at ended
          exact (Piece.kept_of_failsClean clean ended).2

/-- What an equip does after its reads. -/
theorem discard_equip (slot itemType : String) (deltas : List (String × Int64))
    (occupantType : Option String) (outcome : List (String × Int) × List (String × Int) →
      List (String × Int) → Int → EquipOutcome) :
    (EquipM.bind (match occupantType with
        | none => EquipM.pure ([], [])
        | some occupantType => (unequipInner store schema c slot occupantType).bind fun occupant =>
            EquipM.pure (occupant.statChanges, occupant.itemChanges))
      fun changes => (applyStatDeltas store c deltas).bind fun newChanges =>
        (EquipM.call c (removeItem c itemType 1)).bind fun remaining =>
          (recordEquipped c slot itemType).bind fun _ =>
            EquipM.pure (outcome changes newChanges remaining)).discard =
      Piece.sequence c (equipPieces store schema c slot itemType deltas occupantType) := by
  have tail : ∀ changes, ((applyStatDeltas store c deltas).bind fun newChanges =>
      (EquipM.call c (removeItem c itemType 1)).bind fun remaining =>
        (recordEquipped c slot itemType).bind fun _ =>
          EquipM.pure (outcome changes newChanges remaining)).discard =
      Piece.sequence c (equipPieces store schema c slot itemType deltas none) := by
    intro changes
    rw [equipPieces, Option.elim_none, List.nil_append, ← bind_applyStatDeltas]
    simp only [EquipM.discard_bind, EquipM.discard_pure]
    refine congrArg _ (funext fun _ => ?_)
    rw [EquipM.bind_const]
    rfl
  cases occupantType with
  | none => exact tail ([], [])
  | some occupantType =>
      simp only [EquipM.bind_assoc]
      rw [EquipM.discard_bind]
      have rest : ∀ occupant : UnequipOutcome, (EquipM.bind
          (EquipM.pure (occupant.statChanges, occupant.itemChanges)) fun changes =>
          (applyStatDeltas store c deltas).bind fun newChanges =>
            (EquipM.call c (removeItem c itemType 1)).bind fun remaining =>
              (recordEquipped c slot itemType).bind fun _ =>
                EquipM.pure (outcome changes newChanges remaining)).discard =
          Piece.sequence c (equipPieces store schema c slot itemType deltas none) :=
        fun occupant => tail (occupant.statChanges, occupant.itemChanges)
      rw [funext rest, EquipM.bind_const, discard_unequipInner, ← Piece.sequence_append]
      rfl

theorem kept_of_equip (clean : equipFailsClean store schema c itemType faults s = true)
    (failed : (equipItem store schema c itemType).run faults s = (.error e, s', rest)) :
    Piece.Kept s s' := by
  unfold equipFailsClean at clean
  unfold equipItem at failed
  cases resolved : schema.resolve itemType with
  | error e' =>
      rw [resolved] at failed
      cases failed
      exact ⟨rfl, rfl⟩
  | ok declared =>
  rw [resolved] at clean failed
  change (EquipM.bind (EquipM.call c (itemQuantity c itemType)) _).run faults s = _ at failed
  have reading : (itemQuantity c itemType).Writes fun _ => False :=
    .bind ⟨by simp [Stmt.written], fun _ => trivial⟩ fun _ => trivial
  have same : (EquipM.call c (itemQuantity c itemType)).Leads (fun _ s₁ => Piece.Kept s s₁) s :=
    .call ((reading.unchanged s.tables).mono fun r tables same exchanging _ => ⟨same, rfl⟩)
  have kept := same faults
  rcases asked : (EquipM.call c (itemQuantity c itemType)).run faults s with ⟨e' | owned, s₁, left⟩
  · rw [asked] at kept
    rw [EquipM.run_bind_error asked] at failed
    cases failed
    exact kept
  rw [asked] at kept clean
  rw [EquipM.run_bind_ok asked] at failed
  by_cases few : owned < 1
  · rw [if_pos few] at failed
    cases failed
    exact kept
  rw [if_neg few] at failed
  obtain ⟨result, read⟩ : ∃ result,
      (equippedInSlot c declared.slot).run left s₁ = (result, s₁, left.tail) := run_equippedInSlot
  simp only [if_neg few, read] at clean
  change (EquipM.bind (EquipM.bind (equippedInSlot c declared.slot) _) _).run left s₁ = _ at failed
  rw [EquipM.bind_assoc] at failed
  cases result with
  | error e' =>
      rw [EquipM.run_bind_error read] at failed
      cases failed
      exact kept
  | ok occupant =>
      rw [EquipM.run_bind_ok read] at failed
      have ended : (Piece.sequence c (equipPieces store schema c declared.slot itemType
          declared.statDeltas occupant)).run left.tail s₁ = (.error e, s', rest) := by
        rw [← discard_equip _ _ _ _ fun changes newChanges remaining =>
          { slot := declared.slot
            itemType
            statChanges := changes.1 ++ newChanges
            itemChanges := changes.2 ++ [(itemType, remaining)] }]
        exact EquipM.run_bind_error failed
      have after := (Piece.kept_of_failsClean clean ended).2
      exact ⟨after.1.trans kept.1, after.2.trans kept.2⟩

end Calls

end WorldZero.Character
