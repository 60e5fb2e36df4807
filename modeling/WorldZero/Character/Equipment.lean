import Mathlib.Data.List.AList
import WorldZero.Character.Crafting
import WorldZero.Sql.Faults
import WorldZero.Transition

/-!
# Equipment

`equip_item` and `unequip_item`: stat deltas, inventory and the row of
`equipped_items`, one autocommitted statement after the other. A statement may fail
at any point, and what the call has done before it stays.

The deltas of an item belong to the row that records it. Between the first stat
write and the change of the row the two disagree, and a call that ends there
leaves them so. `coherent_of_uninterrupted` says that nothing else does.
-/

namespace WorldZero.Character

open Sql

/-! ### Stat writes -/

def setStat (store : CharacterStore) (c : CharacterId) (key : String) (value : Int) :
    StoreM Unit := do
  Program.ofExcept (store.schema.validateWrite key value)
  let _ ← Program.executeUpdate (RowKey.character c)
    (fun stats : Stats => some (stats.insert key (.number value)))
    (.wrap "character" "failed to write stat")
  pure ()

def applyStatDelta (store : CharacterStore) (c : CharacterId) (key : String) (delta : Int) :
    StoreM Int := do
  let current ← getStat store c key
  match I64.checkedAdd current delta with
  | none => .throw (.new "character" s!"stat delta overflowed for {debugStr key}")
  | some newValue => do
      setStat store c key newValue
      pure newValue

/-! ### The declared equipment -/

structure EquipmentItem where
  itemType : String
  slot : String
  /-- In the order in which the map is iterated. -/
  statDeltas : List (String × Int64)
  deriving DecidableEq

structure EquipmentSchema where
  schemaVersion : Nat
  slots : List String
  items : List EquipmentItem
  deriving DecidableEq

namespace EquipmentSchema

def resolve (schema : EquipmentSchema) (itemType : String) : Except Error EquipmentItem :=
  match schema.items.find? fun i => i.itemType = itemType with
  | some declared => .ok declared
  | none => .error (.new "character" s!"item is not equippable: {itemType}")

/-- What wearing the item does; an item that is no longer declared does nothing. -/
def statDeltas (schema : EquipmentSchema) (itemType : String) : List (String × Int64) :=
  match schema.resolve itemType with
  | .ok declared => declared.statDeltas
  | .error _ => []

end EquipmentSchema

/-! ### The calls -/

/-- `exchanging` is read by the specifications only: the stats of the character have
changed since a row of `equipped_items` last did. -/
structure EquipState where
  tables : Tables
  equippedItems : AList fun _ : CharacterId × String => String
  exchanging : Bool

/-- A sequence of autocommitted statements, under faults. -/
def EquipM (α : Type) : Type := Faults → EquipState → Except Error α × EquipState × Faults

namespace EquipM

variable {α β : Type}

def run (m : EquipM α) (faults : Faults) (s : EquipState) :
    Except Error α × EquipState × Faults := m faults s

def pure (a : α) : EquipM α := fun faults s => (.ok a, s, faults)

def throw (e : Error) : EquipM α := fun faults s => (.error e, s, faults)

def bind (m : EquipM α) (f : α → EquipM β) : EquipM β := fun faults s =>
  match m.run faults s with
  | (.ok a, s', faults') => (f a).run faults' s'
  | (.error e, s', faults') => (.error e, s', faults')

instance : Monad EquipM where
  pure := EquipM.pure
  bind := EquipM.bind

def ofExcept : Except Error α → EquipM α
  | .ok a => .pure a
  | .error e => .throw e

/-- A call of the store. -/
def call (c : CharacterId) (p : StoreM α) : EquipM α := fun faults s =>
  let (result, tables, rest) := p.runFaulty faults s.tables
  let changed : Bool := tables.lookup (.character c) ≠ s.tables.lookup (.character c)
  (result, { s with tables, exchanging := s.exchanging || changed }, rest)

/-- A statement on `equipped_items`; `effect` fails if it violates a constraint. -/
def execute (effect : EquipState → Option EquipState) (failure : Error) : EquipM Unit :=
  fun faults s =>
    match faults.head?.join, effect s with
    | some .failed, _ | _, none => (.error failure, s, faults.tail)
    | some .lost, some s' => (.error failure, s', faults.tail)
    | none, some s' => (.ok (), s', faults.tail)

end EquipM

structure EquipOutcome where
  slot : String
  itemType : String
  statChanges : List (String × Int)
  itemChanges : List (String × Int)
  deriving DecidableEq

structure UnequipOutcome where
  slot : String
  itemType : String
  statChanges : List (String × Int)
  itemChanges : List (String × Int)
  deriving DecidableEq

def equippedInSlot (c : CharacterId) (slot : String) : EquipM (Option String) := fun faults s =>
  match faults.head?.join with
  | some _ => (.error (.wrap "character" "failed to read equipped slot"), s, faults.tail)
  | none => (.ok (s.equippedItems.lookup (c, slot)), s, faults.tail)

/-- `INSERT … ON CONFLICT DO UPDATE`; the row references that of the character. -/
def recordEquipped (c : CharacterId) (slot itemType : String) : EquipM Unit :=
  .execute (fun s =>
    if (s.tables.lookup (.character c)).isSome then
      some { s with
        equippedItems := s.equippedItems.insert (c, slot) itemType, exchanging := false }
    else none)
    (.wrap "character" "failed to record equipped item")

def clearSlot (c : CharacterId) (slot : String) : EquipM Unit :=
  .execute (fun s => some { s with
      equippedItems := s.equippedItems.erase (c, slot), exchanging := false })
    (.wrap "character" "failed to clear equipped slot")

def applyStatDeltas (store : CharacterStore) (c : CharacterId) :
    List (String × Int64) → EquipM (List (String × Int))
  | [] => pure []
  | (key, delta) :: deltas => do
      let newValue ← .call c (applyStatDelta store c key delta.toInt)
      let changes ← applyStatDeltas store c deltas
      pure ((key, newValue) :: changes)

/-- `-delta` for every delta, as the release build computes it. -/
def reversed (deltas : List (String × Int64)) : List (String × Int64) :=
  deltas.map fun d => (d.1, -d.2)

def unequipInner (store : CharacterStore) (schema : EquipmentSchema) (c : CharacterId)
    (slot itemType : String) : EquipM UnequipOutcome := do
  let statChanges ← applyStatDeltas store c (reversed (schema.statDeltas itemType))
  let newQuantity ← .call c (grantItem store c itemType 1)
  clearSlot c slot
  pure { slot, itemType, statChanges, itemChanges := [(itemType, newQuantity)] }

def unequipItem (store : CharacterStore) (schema : EquipmentSchema) (c : CharacterId)
    (slot : String) : EquipM UnequipOutcome := do
  match ← equippedInSlot c slot with
  | none => .throw (.new "character"
      s!"character {c} has nothing equipped in slot {debugStr slot}")
  | some itemType => unequipInner store schema c slot itemType

/-- The occupant of the slot, if there is one, is unequipped first. -/
def displace (store : CharacterStore) (schema : EquipmentSchema) (c : CharacterId)
    (slot : String) : EquipM (List (String × Int) × List (String × Int)) := do
  match ← equippedInSlot c slot with
  | none => pure ([], [])
  | some occupantType =>
      let occupant ← unequipInner store schema c slot occupantType
      pure (occupant.statChanges, occupant.itemChanges)

def equipItem (store : CharacterStore) (schema : EquipmentSchema) (c : CharacterId)
    (itemType : String) : EquipM EquipOutcome := do
  let declared ← .ofExcept (schema.resolve itemType)
  let owned ← .call c (itemQuantity c itemType)
  if owned < 1 then .throw (.new "character"
    s!"character {c} does not own item {debugStr itemType}")
  else
    let (statChanges, itemChanges) ← displace store schema c declared.slot
    let newChanges ← applyStatDeltas store c declared.statDeltas
    let remaining ← .call c (removeItem c itemType 1)
    recordEquipped c declared.slot itemType
    pure { slot := declared.slot
           itemType
           statChanges := statChanges ++ newChanges
           itemChanges := itemChanges ++ [(itemType, remaining)] }

/-! ### Runs of calls -/

inductive EquipCall where
  | equipItem (itemType : String)
  | unequipItem (slot : String)
  deriving DecidableEq

/-- Whether the call returned `Ok`, and the state that it leaves. -/
def EquipCall.exec (store : CharacterStore) (schema : EquipmentSchema) (c : CharacterId)
    (faults : Faults) (s : EquipState) : EquipCall → Bool × EquipState
  | .equipItem itemType =>
      let (result, s', _) := (Character.equipItem store schema c itemType).run faults
        { s with exchanging := false }
      (result.isOk, s')
  | .unequipItem slot =>
      let (result, s', _) := (Character.unequipItem store schema c slot).run faults
        { s with exchanging := false }
      (result.isOk, s')

def equipStep (store : CharacterStore) (schema : EquipmentSchema) (c : CharacterId)
    (s : EquipState) (l : EquipCall × Faults) : Option EquipState :=
  some (l.1.exec store schema c l.2 s).2

/-- The call does not end between a stat write and the change of the row that the write
belongs to. -/
def Uninterrupted (store : CharacterStore) (schema : EquipmentSchema) (c : CharacterId)
    (s : EquipState) (l : EquipCall × Faults) : Prop :=
  (l.1.exec store schema c l.2 s).1 = false →
    (l.1.exec store schema c l.2 s).2.exchanging = false

instance (store : CharacterStore) (schema : EquipmentSchema) (c : CharacterId)
    (s : EquipState) (l : EquipCall × Faults) : Decidable (Uninterrupted store schema c s l) :=
  inferInstanceAs (Decidable (_ → _))

/-! ### Stats and what is worn -/

/-- A stat of the character, as `get_stat` reads it. -/
def statValue (store : CharacterStore) (t : Tables) (c : CharacterId) (key : String) :
    Option Int :=
  (t.lookup (.character c)).bind fun stats => (store.schema.resolveRead stats key).toOption

def deltaSum (deltas : List (String × Int64)) (key : String) : Int :=
  (deltas.map fun d => if d.1 = key then d.2.toInt else 0).sum

/-- What the recorded items of the character declare for the stat. -/
def worn (schema : EquipmentSchema) (c : CharacterId)
    (equippedItems : AList fun _ : CharacterId × String => String) (key : String) : Int :=
  (equippedItems.entries.map fun e =>
    if e.1.1 = c then deltaSum (schema.statDeltas e.2) key else 0).sum

variable {store : CharacterStore} {schema : EquipmentSchema} {c : CharacterId} {key key' : String}
  {deltas : List (String × Int64)} {rows : AList fun _ : CharacterId × String => String}
  {slot itemType : String}

@[simp] theorem deltaSum_nil : deltaSum [] key = 0 := rfl

@[simp] theorem deltaSum_cons {delta : Int64} :
    deltaSum ((key', delta) :: deltas) key =
      (if key' = key then delta.toInt else 0) + deltaSum deltas key := by
  simp [deltaSum]

theorem toInt_neg {delta : Int64} (negatable : delta ≠ Int64.minValue) :
    (-delta).toInt = -delta.toInt := by
  have low := delta.le_toInt
  have high := delta.toInt_lt
  have not_least : delta.toInt ≠ -2 ^ 63 := fun least =>
    negatable (Int64.toInt_inj.mp (by rw [least]; rfl))
  rw [Int64.toInt_neg]
  exact Int.bmod_eq_of_le (by omega) (by omega)

/-- Reversing an item takes back what it has given, unless a delta has no negation. -/
theorem deltaSum_reversed (negatable : ∀ d ∈ deltas, d.2 ≠ Int64.minValue) :
    deltaSum (reversed deltas) key = -deltaSum deltas key := by
  induction deltas with
  | nil => rfl
  | cons d deltas ih =>
      obtain ⟨here, rest⟩ := List.forall_mem_cons.mp negatable
      have later := ih rest
      obtain ⟨key', delta⟩ := d
      have negated : (-delta).toInt = -delta.toInt := toInt_neg here
      rw [reversed, List.map_cons, deltaSum_cons, deltaSum_cons]
      rw [reversed] at later
      rw [later, negated]
      split <;> omega

/-- Taking a row out of a table takes its summand out of a sum over the rows. -/
theorem sum_entries_eq {A : Type} {B : A → Type} [DecidableEq A] (f : Sigma B → Int) (a : A)
    (l : List (Sigma B)) :
    (l.map f).sum = (l.dlookup a).elim 0 (fun b => f ⟨a, b⟩) + ((l.kerase a).map f).sum := by
  induction l with
  | nil => rfl
  | cons e l ih =>
      obtain ⟨a', b⟩ := e
      by_cases same : a = a'
      · subst same
        simp
      · rw [List.dlookup_cons_ne l ⟨a', b⟩ same, List.kerase_cons_ne (s := ⟨a', b⟩) same,
          List.map_cons, List.sum_cons, ih, List.map_cons, List.sum_cons]
        omega

theorem worn_erase (recorded : rows.lookup (c, slot) = some itemType) :
    worn schema c (rows.erase (c, slot)) key =
      worn schema c rows key - deltaSum (schema.statDeltas itemType) key := by
  have account := sum_entries_eq (fun e : Sigma fun _ : CharacterId × String => String =>
    if e.1.1 = c then deltaSum (schema.statDeltas e.2) key else 0) (c, slot) rows.entries
  rw [show rows.entries.dlookup (c, slot) = some itemType from recorded] at account
  simp only [Option.elim_some, if_true] at account
  simp only [worn, AList.erase]
  omega

theorem worn_insert (free : rows.lookup (c, slot) = none) :
    worn schema c (rows.insert (c, slot) itemType) key =
      worn schema c rows key + deltaSum (schema.statDeltas itemType) key := by
  rw [worn, AList.entries_insert_of_notMem (AList.lookup_eq_none.mp free)]
  simp only [List.map_cons, List.sum_cons, if_true, worn]
  omega

theorem worn_eq_zero (nothing : ∀ slot, rows.lookup (c, slot) = none) :
    worn schema c rows key = 0 := by
  have zero : ∀ n ∈ rows.entries.map fun e =>
      if e.1.1 = c then deltaSum (schema.statDeltas e.2) key else 0, n = 0 := by
    intro n hn
    obtain ⟨⟨⟨owner, slot⟩, itemType⟩, he, rfl⟩ := List.mem_map.mp hn
    split
    · next own =>
        simp only at own
        subst own
        have recorded : rows.lookup (owner, slot) = some itemType := AList.mem_lookup_iff.mpr he
        rw [nothing slot] at recorded
        cases recorded
    · rfl
  exact List.sum_eq_zero zero

/-! ### What a stat write does -/

/-- The stat has been moved by `delta`. -/
def StatWritten (store : CharacterStore) (c : CharacterId) (key : String) (delta : Int)
    (t t' : Tables) : Prop :=
  ∃ (stats : Stats) (v : Int), t.lookup (.character c) = some stats ∧
    store.schema.resolveRead stats key = .ok v ∧ I64.fits (v + delta) = true ∧
    t'.lookup (.character c) = some (stats.insert key (.number (v + delta)))

theorem resolveRead_insert_self {stats : Stats} {v n : Int}
    (read : store.schema.resolveRead stats key = .ok v) (fits : I64.fits n = true) :
    store.schema.resolveRead (stats.insert key (.number n)) key = .ok n := by
  have declared : store.schema.declares key = true := by
    rw [AttributeSchema.declares_iff]
    cases at_decl : store.schema.declaration key with
    | ok decl => exact ⟨decl, rfl⟩
    | error e => simp [AttributeSchema.resolveRead, at_decl, bind, Except.bind] at read
  exact AttributeSchema.resolveRead_stored declared (by simp [Json.asI64, fits])

theorem resolveRead_insert_of_ne {stats : Stats} {json : Json} (other : key' ≠ key) :
    store.schema.resolveRead (stats.insert key json) key' =
      store.schema.resolveRead stats key' := by
  simp only [AttributeSchema.resolveRead, Finmap.lookup_insert_of_ne stats other]

theorem StatWritten.statValue {delta : Int} {t t' : Tables} (h : StatWritten store c key delta t t')
    (key' : String) :
    statValue store t' c key' =
      (Character.statValue store t c key').map (· + if key = key' then delta else 0) := by
  obtain ⟨stats, v, before, read, fits, afterwards⟩ := h
  simp only [Character.statValue, before, afterwards, Option.bind_some]
  by_cases same : key = key'
  · subst same
    rw [resolveRead_insert_self read fits, read]
    simp [Except.toOption]
  · rw [resolveRead_insert_of_ne (Ne.symm same)]
    simp [same]

theorem leads_applyStatDelta {delta : Int} {t : Tables} :
    (applyStatDelta store c key delta).Leads (fun r t' => match r with
      | .ok _ => StatWritten store c key delta t t'
      | .error _ =>
          t'.lookup (.character c) = t.lookup (.character c) ∨
            StatWritten store c key delta t t') t := by
  unfold applyStatDelta getStat
  refine .bind (.bind (.fetchOne (.inl rfl) fun stats row => .ofExcept ?_))
  cases read : store.schema.resolveRead stats key with
  | error e => exact .inl rfl
  | ok v =>
      cases sum : I64.checkedAdd v delta with
      | none => simp only [sum]; exact .inl rfl
      | some newValue =>
          obtain ⟨fits, rfl⟩ := I64.checkedAdd_eq_some.mp sum
          simp only [sum]
          unfold setStat
          refine .bind (.bind (.ofExcept ?_))
          cases store.schema.validateWrite key (v + delta) with
          | error e => exact .inl rfl
          | ok u =>
              refine .bind
                (.executeUpdate (.inl rfl) (fun absent => ?_) fun stats' w row' set => ?_)
              · rw [row] at absent
                cases absent
              · obtain rfl := Option.some.inj (row.symm.trans row')
                obtain rfl := Option.some.inj set
                have written : StatWritten store c key delta t
                    (t.insert (.character c) (stats.insert key (.number (v + delta)))) :=
                  ⟨stats, v, row, read, fits, Finmap.lookup_insert t⟩
                exact ⟨.inr written, written⟩

theorem applyStatDelta_writes {delta : Int} :
    (applyStatDelta store c key delta).Writes (· = .character c) := by
  refine .bind (.bind ⟨by simp [Stmt.written], fun row => ?_⟩ fun stats => ?_) fun current => ?_
  · cases row <;> trivial
  · cases store.schema.resolveRead stats key <;> trivial
  · split
    · trivial
    · refine .bind (.bind ?_ fun _ => .bind ⟨?_, fun _ => trivial⟩ fun _ => trivial)
        fun _ => trivial
      · cases store.schema.validateWrite key _ <;> trivial
      · rintro k ⟨⟩
        rfl

theorem requireStack_writes {alreadyOwned : Bool} {full : Nat → Nat → Error}
    {P : RowKey → Prop} : (requireStack store c alreadyOwned full).Writes P := by
  unfold requireStack
  split
  · trivial
  · refine .bind ⟨by simp [Stmt.written], fun _ => trivial⟩ fun n => ?_
    split <;> trivial

theorem grantItem_writes {quantity : Int} :
    (grantItem store c itemType quantity).Writes (· = .item c itemType) := by
  unfold grantItem
  split
  · trivial
  · refine .bind (.bind ⟨by simp [Stmt.written], fun _ => trivial⟩ fun _ => trivial) fun owned => ?_
    refine .bind requireStack_writes fun _ => ?_
    refine .bind ⟨?_, fun _ => trivial⟩ fun _ => trivial
    rintro k ⟨⟩
    rfl

theorem removeItem_writes {quantity : Int} :
    (removeItem c itemType quantity).Writes (· = .item c itemType) := by
  unfold removeItem
  split
  · trivial
  · refine .bind (.bind ⟨by simp [Stmt.written], fun _ => trivial⟩ fun _ => trivial)
      fun current => ?_
    split
    · trivial
    · refine .bind ?_ fun _ => trivial
      unfold writeRemaining
      split
      all_goals
        refine ⟨?_, fun _ => trivial⟩
        rintro k ⟨⟩
        rfl

/-! ### The account of a call -/

namespace EquipM

variable {α β : Type}

/-- Every execution from `s` ends in a result and a state that satisfy `Q`. -/
def Leads (Q : Except Error α → EquipState → Prop) (m : EquipM α) (s : EquipState) : Prop :=
  ∀ faults, Q (m.run faults s).1 (m.run faults s).2.1

variable {Q Q' : Except Error α → EquipState → Prop} {m : EquipM α} {s : EquipState}

theorem run_bind (f : α → EquipM β) (faults : Faults) :
    (m >>= f).run faults s =
      match m.run faults s with
      | (.ok a, s', faults') => (f a).run faults' s'
      | (.error e, s', faults') => (.error e, s', faults') := rfl

theorem run_execute (effect : EquipState → Option EquipState) (failure : Error)
    (faults : Faults) :
    (execute effect failure).run faults s =
      match faults.head?.join, effect s with
      | some .failed, _ | _, none => (.error failure, s, faults.tail)
      | some .lost, some s' => (.error failure, s', faults.tail)
      | none, some s' => (.ok (), s', faults.tail) := rfl

theorem Leads.pure {a : α} (h : Q (.ok a) s) : (EquipM.pure a).Leads Q s := fun _ => h

theorem Leads.throw {e : Error} (h : Q (.error e) s) : (EquipM.throw e : EquipM α).Leads Q s :=
  fun _ => h

theorem Leads.bind {f : α → EquipM β} {R : Except Error β → EquipState → Prop}
    (h : m.Leads (fun r s' => match r with
      | .ok a => (f a).Leads R s'
      | .error e => R (.error e) s') s) : (m >>= f).Leads R s := by
  intro faults
  have first := h faults
  rw [run_bind]
  split
  · next a s' faults' run =>
      rw [run] at first
      exact first faults'
  · next e s' faults' run =>
      rw [run] at first
      exact first

theorem Leads.mono (h : m.Leads Q s) (imp : ∀ r s', Q r s' → Q' r s') : m.Leads Q' s :=
  fun faults => imp _ _ (h faults)

theorem Leads.ofExcept {r : Except Error α} (h : Q r s) : (EquipM.ofExcept r).Leads Q s := by
  cases r <;> exact fun _ => h

theorem Leads.call {p : StoreM α}
    (h : p.Leads (fun r tables => ∀ exchanging,
      exchanging = (s.exchanging ||
        decide (tables.lookup (.character c) ≠ s.tables.lookup (.character c))) →
      Q r { s with tables, exchanging }) s.tables) : (EquipM.call c p).Leads Q s := by
  intro faults
  exact Program.leads_runFaulty h faults _ rfl

theorem Leads.execute {effect : EquipState → Option EquipState} {failure : Error}
    {Q : Except Error Unit → EquipState → Prop} (failed : Q (.error failure) s)
    (performed : ∀ s', effect s = some s' → Q (.error failure) s' ∧ Q (.ok ()) s') :
    (EquipM.execute effect failure).Leads Q s := by
  intro faults
  rw [run_execute]
  split
  · exact failed
  · exact failed
  · next s' _ effective => exact (performed s' effective).1
  · next s' _ effective => exact (performed s' effective).2

end EquipM

theorem leads_equippedInSlot {s : EquipState} {Q : Except Error (Option String) → EquipState → Prop}
    (failed : Q (.error (.wrap "character" "failed to read equipped slot")) s)
    (read : Q (.ok (s.equippedItems.lookup (c, slot))) s) : (equippedInSlot c slot).Leads Q s := by
  intro faults
  have run : (equippedInSlot c slot).run faults s =
      match faults.head?.join with
      | some _ => (.error (.wrap "character" "failed to read equipped slot"), s, faults.tail)
      | none => (.ok (s.equippedItems.lookup (c, slot)), s, faults.tail) := rfl
  rw [run]
  split
  · exact failed
  · exact read

/-- Every stat is what it was at first, with what is worn and, in the course of an
exchange, with what has been written for it so far. -/
def InAccount (store : CharacterStore) (schema : EquipmentSchema) (c : CharacterId)
    (base : String → Option Int) (written : String → Int) (s : EquipState) : Prop :=
  ∀ key, statValue store s.tables c key =
    (base key).map (· + worn schema c s.equippedItems key + written key)

def Coherent (store : CharacterStore) (schema : EquipmentSchema) (c : CharacterId)
    (base : String → Option Int) (s : EquipState) : Prop :=
  InAccount store schema c base (fun _ => 0) s

/-- Stats and rows agree unless an exchange is going on. -/
def Closed (store : CharacterStore) (schema : EquipmentSchema) (c : CharacterId)
    (base : String → Option Int) (s : EquipState) : Prop :=
  s.exchanging = false → Coherent store schema c base s

/-- In the course of an exchange. -/
structure Exchanging (store : CharacterStore) (schema : EquipmentSchema) (c : CharacterId)
    (base : String → Option Int) (rows : AList fun _ : CharacterId × String => String)
    (written : String → Int) (s : EquipState) : Prop where
  accounted : InAccount store schema c base written s
  closed : Closed store schema c base s
  rows : s.equippedItems = rows

variable {base : String → Option Int} {written : String → Int} {s : EquipState}

/-- A call that does not write the character's row. -/
theorem Exchanging.call {α : Type} {p : StoreM α} {itemType : String}
    (h : Exchanging store schema c base rows written s)
    (writes : p.Writes (· = .item c itemType)) :
    (EquipM.call c p).Leads (fun _ s' => Exchanging store schema c base rows written s') s := by
  have other : ¬ (RowKey.character c = .item c itemType) := fun same => by cases same
  refine .call ((writes.leads other s.tables).mono fun r tables same exchanging flag => ?_)
  have stats : ∀ key, statValue store tables c key = statValue store s.tables c key := by
    intro key
    rw [statValue, same]
    rfl
  refine ⟨fun key => ?_, fun quiet key => ?_, h.rows⟩
  · rw [stats key]
    exact h.accounted key
  · rw [stats key]
    refine h.closed ?_ key
    simp_all

/-- One delta is written, or the exchange ends with an error. -/
theorem Exchanging.delta {delta : Int} (h : Exchanging store schema c base rows written s) :
    (EquipM.call c (applyStatDelta store c key delta)).Leads (fun r s' => match r with
      | .ok _ => Exchanging store schema c base rows
          (fun key' => written key' + if key = key' then delta else 0) s'
      | .error _ => Closed store schema c base s') s := by
  have unchanged : ∀ (tables : Tables) (exchanging : Bool),
      tables.lookup (.character c) = s.tables.lookup (.character c) →
      exchanging = (s.exchanging ||
        decide (tables.lookup (.character c) ≠ s.tables.lookup (.character c))) →
      Closed store schema c base { s with tables, exchanging } := by
    intro tables exchanging same flag quiet key
    have before := h.closed (by simp_all) key
    rw [statValue, same]
    exact before
  have closed : ∀ (tables : Tables) (exchanging : Bool),
      exchanging = (s.exchanging ||
        decide (tables.lookup (.character c) ≠ s.tables.lookup (.character c))) →
      Closed store schema c base { s with tables, exchanging } := by
    intro tables exchanging flag quiet
    by_cases same : tables.lookup (.character c) = s.tables.lookup (.character c)
    · exact unchanged tables exchanging same flag quiet
    · simp_all
  refine .call (leads_applyStatDelta.mono fun r tables moved exchanging flag => ?_)
  cases r with
  | error e => exact closed tables exchanging flag
  | ok n =>
      refine ⟨fun key' => ?_, closed tables exchanging flag, h.rows⟩
      rw [moved.statValue key', h.accounted key', Option.map_map]
      congr 1
      funext v
      simp only [Function.comp]
      omega

theorem Exchanging.apply (h : Exchanging store schema c base rows written s) :
    (applyStatDeltas store c deltas).Leads (fun r s' => match r with
      | .ok _ => Exchanging store schema c base rows
          (fun key => written key + deltaSum deltas key) s'
      | .error _ => Closed store schema c base s') s := by
  induction deltas generalizing s written with
  | nil => exact .pure (by simpa using h)
  | cons d deltas ih =>
      obtain ⟨key, delta⟩ := d
      refine .bind (h.delta.mono fun r s' after => ?_)
      cases r with
      | error e => exact after
      | ok n =>
          refine .bind ((ih after).mono fun r' s'' after' => ?_)
          cases r' with
          | error e => exact after'
          | ok changes =>
              refine .pure ?_
              simpa only [deltaSum_cons, Int.add_assoc] using after'

/-- Changing a row ends the exchange whose deltas are those of the row. -/
theorem Exchanging.clearSlot (h : Exchanging store schema c base rows written s)
    (recorded : rows.lookup (c, slot) = some itemType)
    (reversed : ∀ key, written key = -deltaSum (schema.statDeltas itemType) key) :
    (clearSlot c slot).Leads (fun r s' => match r with
      | .ok _ => Coherent store schema c base s' ∧ s'.equippedItems = rows.erase (c, slot)
      | .error _ => Closed store schema c base s') s := by
  have cleared : Coherent store schema c base { s with
      equippedItems := s.equippedItems.erase (c, slot), exchanging := false } := by
    intro key
    rw [h.rows, worn_erase recorded]
    refine (h.accounted key).trans ?_
    rw [h.rows, reversed key]
    congr 1
    funext v
    dsimp only
    omega
  refine .execute h.closed fun s' effective => ?_
  obtain rfl := Option.some.inj effective
  exact ⟨fun _ => cleared, cleared, by rw [h.rows]⟩

theorem Exchanging.recordEquipped (h : Exchanging store schema c base rows written s)
    (free : rows.lookup (c, slot) = none)
    (applied : ∀ key, written key = deltaSum (schema.statDeltas itemType) key) :
    (recordEquipped c slot itemType).Leads (fun r s' => match r with
      | .ok _ => Coherent store schema c base s'
      | .error _ => Closed store schema c base s') s := by
  refine .execute h.closed fun s' effective => ?_
  split at effective
  swap
  · cases effective
  obtain rfl := Option.some.inj effective
  have recorded : Coherent store schema c base { s with
      equippedItems := s.equippedItems.insert (c, slot) itemType, exchanging := false } := by
    intro key
    rw [h.rows, worn_insert free]
    refine (h.accounted key).trans ?_
    rw [h.rows, applied key]
    congr 1
    funext v
    dsimp only
    omega
  exact ⟨fun _ => recorded, recorded⟩

/-- An exchange begins in a coherent state. -/
theorem Coherent.exchanging (h : Coherent store schema c base s) :
    Exchanging store schema c base s.equippedItems (fun _ => 0) s :=
  ⟨h, fun _ => h, rfl⟩

section Exchanges

variable (negatable : ∀ itemType, ∀ d ∈ schema.statDeltas itemType, d.2 ≠ Int64.minValue)
  (h : Coherent store schema c base s)
include negatable h

theorem Coherent.unequipInner (recorded : s.equippedItems.lookup (c, slot) = some itemType) :
    (unequipInner store schema c slot itemType).Leads (fun r s' => match r with
      | .ok _ => Coherent store schema c base s' ∧
          s'.equippedItems = s.equippedItems.erase (c, slot)
      | .error _ => Closed store schema c base s') s := by
  refine .bind (h.exchanging.apply.mono fun r s₁ taken => ?_)
  cases r with
  | error e => exact taken
  | ok changes =>
      refine .bind ((taken.call grantItem_writes).mono fun r s₂ granted => ?_)
      cases r with
      | error e => exact granted.closed
      | ok quantity =>
          have taken_back : ∀ key, 0 + deltaSum (reversed (schema.statDeltas itemType)) key =
              -deltaSum (schema.statDeltas itemType) key := by
            intro key
            rw [deltaSum_reversed (negatable itemType), Int.zero_add]
          refine .bind ((granted.clearSlot recorded taken_back).mono fun r s₃ cleared => ?_)
          cases r with
          | error e => exact cleared
          | ok u => exact .pure cleared

theorem Coherent.unequipItem :
    (unequipItem store schema c slot).Leads (fun r s' => match r with
      | .ok _ => Coherent store schema c base s'
      | .error _ => Closed store schema c base s') s := by
  refine .bind (leads_equippedInSlot (fun _ => h) ?_)
  cases recorded : s.equippedItems.lookup (c, slot) with
  | none => exact .throw fun _ => h
  | some itemType =>
      refine (h.unequipInner negatable recorded).mono fun r s₁ after => ?_
      cases r with
      | error e => exact after
      | ok outcome => exact after.1

/-- The occupant of the slot is exchanged for nothing. -/
theorem Coherent.displace :
    (displace store schema c slot).Leads (fun r s' => match r with
      | .ok _ => Coherent store schema c base s' ∧ s'.equippedItems.lookup (c, slot) = none
      | .error _ => Closed store schema c base s') s := by
  refine .bind (leads_equippedInSlot (fun _ => h) ?_)
  cases recorded : s.equippedItems.lookup (c, slot) with
  | none => exact .pure ⟨h, recorded⟩
  | some itemType =>
      refine .bind ((h.unequipInner negatable recorded).mono fun r s₁ after => ?_)
      cases r with
      | error e => exact after
      | ok outcome =>
          refine .pure ⟨after.1, ?_⟩
          rw [after.2]
          exact AList.lookup_erase (c, slot) s.equippedItems

theorem Coherent.equipItem :
    (equipItem store schema c itemType).Leads (fun r s' => match r with
      | .ok _ => Coherent store schema c base s'
      | .error _ => Closed store schema c base s') s := by
  refine .bind (.ofExcept ?_)
  cases resolved : schema.resolve itemType with
  | error e => exact fun _ => h
  | ok declared =>
  have declares : schema.statDeltas itemType = declared.statDeltas := by
    rw [EquipmentSchema.statDeltas, resolved]
  have reads : (itemQuantity c itemType).Writes (· = .item c itemType) :=
    .bind ⟨by simp [Stmt.written], fun _ => trivial⟩ fun _ => trivial
  refine .bind ((h.exchanging.call reads).mono fun r s₁ same => ?_)
  cases r with
  | error e => exact same.closed
  | ok owned =>
  dsimp only
  split
  · exact .throw same.closed
  have unchanged : Coherent store schema c base s₁ := same.accounted
  refine .bind ((unchanged.displace negatable).mono fun r s₂ displaced => ?_)
  cases r with
  | error e => exact displaced
  | ok changes =>
  obtain ⟨coherent, free⟩ := displaced
  refine .bind (coherent.exchanging.apply.mono fun r s₃ applied => ?_)
  cases r with
  | error e => exact applied
  | ok newChanges =>
  refine .bind ((applied.call removeItem_writes).mono fun r s₄ removed => ?_)
  cases r with
  | error e => exact removed.closed
  | ok remaining =>
  have given : ∀ key, 0 + deltaSum declared.statDeltas key =
      deltaSum (schema.statDeltas itemType) key := by
    intro key
    rw [declares, Int.zero_add]
  refine .bind ((removed.recordEquipped free given).mono fun r s₅ recorded => ?_)
  cases r with
  | error e => exact recorded
  | ok u => exact .pure recorded

end Exchanges

theorem statDeltas_negatable
    (negatable : ∀ item ∈ schema.items, ∀ d ∈ item.statDeltas, d.2 ≠ Int64.minValue)
    (itemType : String) : ∀ d ∈ schema.statDeltas itemType, d.2 ≠ Int64.minValue := by
  unfold EquipmentSchema.statDeltas EquipmentSchema.resolve
  cases found : schema.items.find? fun i => i.itemType = itemType with
  | none => simp
  | some declared => exact negatable declared (List.mem_of_find?_eq_some found)

theorem Coherent.step
    (negatable : ∀ itemType, ∀ d ∈ schema.statDeltas itemType, d.2 ≠ Int64.minValue)
    {s' : EquipState} {l : EquipCall × Faults} (h : Coherent store schema c base s)
    (whole : Uninterrupted store schema c s l) (taken : equipStep store schema c s l = some s') :
    Coherent store schema c base s' := by
  obtain rfl := Option.some.inj taken
  have begun : Coherent store schema c base { s with exchanging := false } := h
  obtain ⟨call, faults⟩ := l
  cases call with
  | equipItem itemType =>
      have leads : (Character.equipItem store schema c itemType).Leads _ _ :=
        begun.equipItem negatable
      have after := leads faults
      simp only [Uninterrupted, EquipCall.exec] at whole ⊢
      beta_reduce at after
      split at after
      · exact after
      · next e failed => exact after (whole (by rw [failed]; rfl))
  | unequipItem slot =>
      have leads : (Character.unequipItem store schema c slot).Leads _ _ :=
        begun.unequipItem negatable
      have after := leads faults
      simp only [Uninterrupted, EquipCall.exec] at whole ⊢
      beta_reduce at after
      split at after
      · exact after
      · next e failed => exact after (whole (by rw [failed]; rfl))

/-- In every run of equips and unequips, under any faults, none of which ends between a
stat write and the change of the row that it belongs to, every stat is its initial
value with the deltas of what is recorded as equipped. -/
theorem coherent_of_uninterrupted {s t : EquipState} {calls : List (EquipCall × Faults)}
    (negatable : ∀ item ∈ schema.items, ∀ d ∈ item.statDeltas, d.2 ≠ Int64.minValue)
    (nothing : ∀ slot, s.equippedItems.lookup (c, slot) = none)
    (whole : Transition.Admissible (equipStep store schema c) (Uninterrupted store schema c) s
      calls)
    (run : Transition.exec (equipStep store schema c) s calls = some t) (key : String) :
    statValue store t.tables c key =
      (statValue store s.tables c key).map (· + worn schema c t.equippedItems key) := by
  have start : Coherent store schema c (statValue store s.tables c) s := by
    intro key
    simp [worn_eq_zero nothing]
  have coherent : Coherent store schema c (statValue store s.tables c) t :=
    Transition.exec_invariant
      (fun _ _ _ h whole taken => h.step (statDeltas_negatable negatable) whole taken)
      start whole run
  simpa using coherent key

namespace Wardrobe

def knight : CharacterId := ⟨7⟩

/-- Two stats, one of them bounded below; `slots` item types fit into the inventory. -/
def armory (slots : Nat) : CharacterStore where
  schema :=
    { schemaVersion := 1
      stats := [⟨"attack", .int, 10, none, none⟩, ⟨"defense", .int, 5, some 0, some 1000⟩] }
  inventoryConfig := { maxDistinctItemTypes := slots }

def headgear : EquipmentSchema where
  schemaVersion := 1
  slots := ["head"]
  items := [⟨"cap", "head", [("defense", 1)]⟩, ⟨"helmet", "head", [("defense", 5), ("attack", -1)]⟩]

/-- A blade whose second delta is out of bounds, and a ring whose delta has no negation. -/
def arms : EquipmentSchema where
  schemaVersion := 1
  slots := ["weapon", "ring", "head"]
  items :=
    [⟨"greatsword", "weapon", [("attack", 10), ("defense", -10)]⟩,
      ⟨"ring", "ring", [("attack", Int64.minValue)]⟩,
      ⟨"crown", "head", [("attack", Int64.maxValue)]⟩,
      ⟨"cap", "head", [("defense", 1)]⟩]

def one : Quantity := .one

def holding (items : List String) : EquipState where
  tables := items.foldl (fun t itemType => t.insert (.item knight itemType) one)
    ((∅ : Tables).insert (.character knight) (∅ : Stats))
  equippedItems := ∅
  exchanging := false

/-- A swap, an unequip that cannot read the row, and one that goes through. -/
def dressing : List (EquipCall × Faults) :=
  [(.equipItem "cap", []), (.equipItem "helmet", []), (.unequipItem "head", [some .failed]),
    (.unequipItem "head", [])]

theorem coherent_of_uninterrupted_dressing : ∃ t,
    Transition.exec (equipStep (armory 40) headgear knight) (holding ["cap", "helmet"]) dressing =
      some t ∧
    statValue (armory 40) t.tables knight "defense" =
      (statValue (armory 40) (holding ["cap", "helmet"]).tables knight "defense").map
        (· + worn headgear knight t.equippedItems "defense") := by
  have ends : (Transition.exec (equipStep (armory 40) headgear knight)
      (holding ["cap", "helmet"]) dressing).any
      (fun t => decide (t.equippedItems.lookup (knight, "head") = none)) = true := by
    decide +kernel
  obtain ⟨t, run, -⟩ := Transition.exec_reaches ends
  have whole : Transition.Admissible (equipStep (armory 40) headgear knight)
      (Uninterrupted (armory 40) headgear knight) (holding ["cap", "helmet"]) dressing := by
    decide +kernel
  exact ⟨t, run, coherent_of_uninterrupted (by decide) (fun _ => rfl) whole run "defense"⟩

/-- A delta out of bounds after one that has been written; an unequip into a full
inventory, twice; and the reversal of `-2 ^ 63`. -/
theorem incoherent_after_error_or_wrap :
    (∃ t, Transition.exec (equipStep (armory 40) arms knight) (holding ["greatsword"])
        [(.equipItem "greatsword", [])] = some t ∧
      worn arms knight t.equippedItems "attack" = 0 ∧
      statValue (armory 40) (holding ["greatsword"]).tables knight "attack" = some 10 ∧
      statValue (armory 40) t.tables knight "attack" = some 20) ∧
    (∃ t, Transition.exec (equipStep (armory 1) arms knight) (holding ["cap", "torch"])
        [(.equipItem "cap", []), (.unequipItem "head", []), (.unequipItem "head", [])] = some t ∧
      worn arms knight t.equippedItems "defense" = 1 ∧
      statValue (armory 1) (holding ["cap", "torch"]).tables knight "defense" = some 5 ∧
      statValue (armory 1) t.tables knight "defense" = some 4) ∧
    (∃ t, Transition.exec (equipStep (armory 40) arms knight) (holding ["ring", "crown"])
        [(.equipItem "ring", []), (.equipItem "crown", []), (.unequipItem "ring", [])] = some t ∧
      worn arms knight t.equippedItems "attack" = I64.max ∧
      statValue (armory 40) (holding ["ring", "crown"]).tables knight "attack" = some 10 ∧
      statValue (armory 40) t.tables knight "attack" =
        some (10 + I64.min + I64.max + I64.min)) := by
  refine ⟨Transition.exec_reaches ?_, Transition.exec_reaches ?_, Transition.exec_reaches ?_⟩ <;>
    decide

end Wardrobe

end WorldZero.Character
