import WorldZero.Character.Slots

/-!
# Slots under interleaved calls

From its first statement on a move holds the row that it moves, and from its second one that
of the occupant. Of the other stacks of the character it knows that none comes into a slot
meanwhile, since only moves assign one. What it commits is therefore an exchange of the two
positions as they are at that moment.
-/

namespace WorldZero.Character.Slots

open Sql.Transactions

variable {ι : Type} {calls : ι → Call} {i : ι} {a : Pending Statement Write RowKey}
  {d d' d'' : Items} {c : CharacterId} {itemType : String} {slotIndex : Int}
  {store : CharacterStore} {key : RowKey}

/-! ### Single writes -/

theorem slotIndex_apply_slot (slot : Option Int) :
    (Write.apply (.slot key slot) d).slotIndex = Function.update d.slotIndex key slot := rfl

theorem lookup_apply_row {w : Sql.Write Row} (other : key ≠ w.1) :
    (Write.apply (.row w) d).tables.lookup key = d.tables.lookup key :=
  w.lookup_apply_of_ne d.tables other

theorem slotIndex_apply_row {w : Sql.Write Row} (other : key ≠ w.1) :
    (Write.apply (.row w) d).slotIndex key = d.slotIndex key := by
  simp only [Write.apply]
  split
  · rfl
  · exact Function.update_of_ne other none d.slotIndex

/-- No statement of another call brings a stack into a slot. -/
theorem slotIndex_apply_row_cases (w : Sql.Write Row) (key : RowKey) :
    (Write.apply (.row w) d).slotIndex key = d.slotIndex key ∨
      (Write.apply (.row w) d).slotIndex key = none := by
  by_cases same : key = w.1
  · subst same
    simp only [Write.apply]
    split
    · exact .inl rfl
    · exact .inr (Function.update_self w.1 none d.slotIndex)
  · exact .inl (slotIndex_apply_row same)

theorem Assigned.row (h : Assigned store d) (w : Sql.Write Row) :
    Assigned store (Write.apply (.row w) d) where
  apart c itemType itemType' slotIndex here here' := by
    obtain same | gone := slotIndex_apply_row_cases (d := d) w (.item c itemType)
    · obtain same' | gone' := slotIndex_apply_row_cases (d := d) w (.item c itemType')
      · exact h.apart c itemType itemType' slotIndex (same ▸ here) (same' ▸ here')
      · rw [gone'] at here'
        cases here'
    · rw [gone] at here
      cases here
  inRange key slotIndex here := by
    obtain same | gone := slotIndex_apply_row_cases (d := d) w key
    · exact h.inRange key slotIndex (same ▸ here)
    · rw [gone] at here
      cases here
  placed key absent := by
    by_cases own : key = w.1
    · subst own
      have deleted : w.2 = none := (w.lookup_apply_self d.tables).symm.trans absent
      simp [Write.apply, deleted]
    · rw [lookup_apply_row own] at absent
      rw [slotIndex_apply_row own]
      exact h.placed key absent

/-- Who is in a slot after a move has been moved there, displaced to it, or has stayed. -/
theorem Moved.slotIndex_cases (moved : Moved c itemType slotIndex d d') {slot : Int}
    (here : d'.slotIndex key = some slot) :
    (key = .item c itemType ∧ slot = slotIndex) ∨
      (∃ other, other ≠ itemType ∧ key = .item c other ∧ d.slotIndex key = some slotIndex ∧
        d.slotIndex (.item c itemType) = some slot) ∨
      key ≠ .item c itemType ∧ (∀ other, key = .item c other → d.slotIndex key ≠ some slotIndex) ∧
        d.slotIndex key = some slot := by
  by_cases mover : key = .item c itemType
  · subst mover
    rw [moved.mover] at here
    exact .inl ⟨rfl, (Option.some.inj here).symm⟩
  by_cases occupied : ∃ other, key = .item c other ∧ d.slotIndex key = some slotIndex
  · obtain ⟨other, rfl, there⟩ := occupied
    have apart : other ≠ itemType := fun same => mover (same ▸ rfl)
    rw [moved.displaced other apart there] at here
    exact .inr (.inl ⟨other, apart, rfl, there, here⟩)
  · have stays : ∀ other, key = .item c other → d.slotIndex key ≠ some slotIndex :=
      fun other own there => occupied ⟨other, own, there⟩
    rw [moved.others key mover stays] at here
    exact .inr (.inr ⟨mover, stays, here⟩)

theorem Assigned.rows {ws : List Write} (h : Assigned store d)
    (rows : ∀ w ∈ ws, ∃ row, w = .row row) : Assigned store (engine.applyAll ws d) := by
  induction ws generalizing d with
  | nil => exact h
  | cons w ws ih =>
      obtain ⟨row, rfl⟩ := rows w List.mem_cons_self
      exact ih (h.row row) fun w hw => rows w (List.mem_cons_of_mem _ hw)

/-- An exchange keeps the stacks in slots of their own. -/
theorem Assigned.moved (h : Assigned store d) (moved : Moved c itemType slotIndex d d')
    (inRange : 0 ≤ slotIndex ∧ slotIndex < slotCount store)
    (there : (d.tables.lookup (.item c itemType)).isSome) : Assigned store d' where
  apart owner first second slot here here' := by
    obtain ⟨mover, rfl⟩ | ⟨other, apart, displaced, before, back⟩ | ⟨distinct, free, stays⟩ :=
      moved.slotIndex_cases here
    · cases mover
      obtain ⟨mover, -⟩ | ⟨other', apart', displaced', before', back'⟩ | ⟨-, free', stays'⟩ :=
        moved.slotIndex_cases here'
      · cases mover
        rfl
      · cases displaced'
        exact absurd (h.apart c _ _ slot before' back') apart'
      · exact absurd stays' (free' _ rfl)
    · cases displaced
      obtain ⟨mover, rfl⟩ | ⟨other', -, displaced', before', -⟩ | ⟨distinct', -, stays'⟩ :=
        moved.slotIndex_cases here'
      · cases mover
        exact absurd (h.apart c _ _ slot before back) apart
      · cases displaced'
        exact h.apart c _ _ slotIndex before before'
      · exact absurd (congrArg _ (h.apart c _ _ slot stays' back)) distinct'
    · obtain ⟨mover, rfl⟩ | ⟨other', -, displaced', before', back'⟩ | ⟨-, -, stays'⟩ :=
        moved.slotIndex_cases here'
      · cases mover
        exact absurd stays (free _ rfl)
      · cases displaced'
        exact absurd (congrArg _ (h.apart c _ _ slot stays back')) distinct
      · exact h.apart owner first second slot stays stays'
  inRange key slot here := by
    obtain ⟨-, rfl⟩ | ⟨-, -, -, -, back⟩ | ⟨-, -, stays⟩ := moved.slotIndex_cases here
    · exact inRange
    · exact h.inRange _ slot back
    · exact h.inRange key slot stays
  placed key absent := by
    rw [moved.tables] at absent
    have empty := h.placed key absent
    have other : key ≠ .item c itemType := by
      rintro rfl
      rw [absent] at there
      cases there
    rw [moved.others key other fun _ _ => by rw [empty]; nofun]
    exact empty

/-! ### What a call tolerates -/

/-- Rows that the call has locked are as they are, and once it has begun no stack of the
character whose stack it moves comes into a slot. -/
structure Tolerates (calls : ι → Call) (i : ι) (a : Pending Statement Write RowKey)
    (d d' : Items) : Prop where
  row : ∀ key ∈ a.locks, d'.tables.lookup key = d.tables.lookup key
  slot : ∀ key ∈ a.locks, d'.slotIndex key = d.slotIndex key
  settled : a.log ≠ [] → ∀ c, (calls i).mover = some c → ∀ itemType,
    d'.slotIndex (.item c itemType) = d.slotIndex (.item c itemType) ∨
      d'.slotIndex (.item c itemType) = none

/-- A move that has begun does not know of a stack that another one brings into a slot. -/
def Disturbs (calls : ι → Call) (i : ι) (w : Write) (a : Pending Statement Write RowKey) : Prop :=
  a.log ≠ [] ∧ ∃ c itemType slot, w = .slot (.item c itemType) slot ∧ (calls i).mover = some c

theorem Tolerates.refl : Tolerates calls i a d d :=
  ⟨fun _ _ => rfl, fun _ _ => rfl, fun _ _ _ _ => .inl rfl⟩

theorem Tolerates.trans (first : Tolerates calls i a d d') (second : Tolerates calls i a d' d'') :
    Tolerates calls i a d d'' where
  row key held := (second.row key held).trans (first.row key held)
  slot key held := (second.slot key held).trans (first.slot key held)
  settled begun c own itemType := by
    obtain same | gone := second.settled begun c own itemType
    · rw [same]
      exact first.settled begun c own itemType
    · exact .inr gone

theorem Tolerates.stays_free (h : Tolerates calls i a d d') (begun : a.log ≠ [])
    (own : (calls i).mover = some c) {other : String}
    (free : d.slotIndex (.item c other) ≠ some slotIndex) :
    d'.slotIndex (.item c other) ≠ some slotIndex := by
  obtain same | gone := h.settled begun c own other
  · rwa [same]
  · rw [gone]
    nofun

theorem tolerates_apply {w : Write} (free : w.key ∉ a.locks) (calm : ¬ Disturbs calls i w a) :
    Tolerates calls i a d (w.apply d) := by
  have other : ∀ key ∈ a.locks, key ≠ w.key := by
    rintro key held rfl
    exact free held
  cases w with
  | row w =>
      refine ⟨fun key held => ?_, fun key held => ?_, fun _ c _ itemType => ?_⟩
      · exact lookup_apply_row (other key held)
      · exact slotIndex_apply_row (other key held)
      · exact slotIndex_apply_row_cases w _
  | slot key slotIndex =>
      refine ⟨fun _ _ => rfl, fun key' held => ?_, fun begun c own itemType => .inl ?_⟩
      · have apart : key' ≠ key := other key' held
        rw [slotIndex_apply_slot, Function.update_of_ne apart]
      · have apart : .item c itemType ≠ key := by
          rintro rfl
          exact calm ⟨begun, c, itemType, slotIndex, rfl, own⟩
        rw [slotIndex_apply_slot, Function.update_of_ne apart]

theorem owned_exec {s : Statement} {r : s.Result} {ws : List Write}
    (exec : s.exec d = some (r, ws)) : ∀ w ∈ ws, w.key ∈ s.locks d := by
  cases s with
  | row s =>
      obtain ⟨o, performed, same⟩ := Option.map_eq_some_iff.mp exec
      cases same
      intro w hw
      obtain ⟨write, written, rfl⟩ := List.mem_map.mp hw
      exact Sql.ReadCommitted.locks_subset_waitsFor performed
        (Sql.ReadCommitted.mem_locks_of_mem_writes performed written)
  | selectSlotForUpdate c itemType | selectOccupantForUpdate c slotIndex itemType =>
      cases exec
      exact nofun
  | updateSlot c itemType slotIndex =>
      cases exec
      intro w hw
      split at hw
      next there =>
        cases List.mem_singleton.mp hw
        simp [Statement.locks, there, Write.key]
      · cases hw

def discipline (store : CharacterStore) (calls : ι → Call) : RelyGuarantee engine ι where
  inv := Assigned store
  rely := Tolerates calls
  owners w := [w.key]
  disturbs := Disturbs calls
  symm l l' h := by
    simp only [engine, decide_eq_true_eq] at h ⊢
    exact h.symm
  owned s d r ws exec w hw l hl := by
    cases List.mem_singleton.mp hl
    exact owned_exec exec w hw
  rely_refl _ _ _ := .refl
  rely_trans _ _ _ _ _ first second := first.trans second
  guarantee i a w d free calm := by
    refine tolerates_apply (fun held => ?_) calm
    have conflict := free w.key List.mem_cons_self w.key held
    simp [engine] at conflict

/-! ### What each call commits -/

/-- A move returns the stack that it has displaced, and where that is now. -/
def Reports (c : CharacterId) (itemType : String) (slotIndex : Int) (d : Items)
    (result : Option SlotMove) : Prop :=
  ∃ displaced, result = some ⟨itemType, slotIndex, displaced⟩ ∧
    ∀ other slot, displaced = some (other, slot) ↔ other ≠ itemType ∧
      d.slotIndex (.item c other) = some slotIndex ∧ d.slotIndex (.item c itemType) = slot

/-- The writes of a move exchange two positions; those of the other calls are to rows. -/
def Commits (store : CharacterStore) (call : Call) (result : Option SlotMove)
    (a : Pending Statement Write RowKey) (d : Items) : Prop :=
  match call with
  | .moveItemToSlot c itemType slotIndex =>
      (∀ w ∈ a.writes, ∃ moved slot, w = .slot (.item c moved) slot) ∧
        (0 ≤ slotIndex ∧ slotIndex < slotCount store) ∧
        (d.tables.lookup (.item c itemType)).isSome ∧
        Moved c itemType slotIndex d (engine.applyAll a.writes d) ∧
        Reports c itemType slotIndex d result
  | _ => ∀ w ∈ a.writes, ∃ row, w = .row row

theorem concludes_ofStore {α : Type} {p : StoreM α} {post : Option SlotMove →
      Pending Statement Write RowKey → Items → Prop}
    (holds : ∀ x a d, (∀ w ∈ a.writes, ∃ row, w = .row row) → post x a d)
    (rows : ∀ w ∈ a.writes, ∃ row, w = .row row) :
    (discipline store calls).Concludes i post (ofStore p) a d := by
  induction p generalizing a d with
  | pure x => exact fun d' _ _ => holds none a d' rows
  | throw e => trivial
  | statement s failure next ih =>
      intro d' _ _ r ws exec
      obtain ⟨o, -, same⟩ := Option.map_eq_some_iff.mp exec
      cases same
      refine ih o.result fun w hw => ?_
      obtain before | now := List.mem_append.mp hw
      · exact rows w before
      · obtain ⟨row, -, rfl⟩ := List.mem_map.mp now
        exact ⟨row, rfl⟩

theorem mem_occupants {other : String} :
    other ∈ occupants d c slotIndex itemType ↔ .item c other ∈ d.tables ∧
      d.slotIndex (.item c other) = some slotIndex ∧ other ≠ itemType := by
  simp only [occupants, Finset.mem_biUnion, Finmap.mem_keys]
  constructor
  · rintro ⟨key, there, found⟩
    cases key with
    | item owner type =>
        simp only at found
        split at found
        next matched =>
          obtain ⟨rfl, slot, apart⟩ := matched
          cases Finset.mem_singleton.mp found
          exact ⟨there, slot, apart⟩
        · cases found
    | character c | currency c key => cases found
  · rintro ⟨there, slot, apart⟩
    exact ⟨.item c other, there, by simp [slot, apart]⟩

/-- Whoever is found in the slot is there, and nobody is if nobody is found. -/
theorem occupant_eq_some {other : String} (found : occupant d c slotIndex itemType = some other) :
    .item c other ∈ d.tables ∧ d.slotIndex (.item c other) = some slotIndex ∧ other ≠ itemType :=
  mem_occupants.mp (Finset.mem_of_min found)

theorem occupant_eq_none (h : Assigned store d)
    (found : occupant d c slotIndex itemType = none) (other : String) (apart : other ≠ itemType) :
    d.slotIndex (.item c other) ≠ some slotIndex := by
  intro slot
  have there : .item c other ∈ d.tables := by
    by_contra absent
    rw [h.placed _ (Finmap.lookup_eq_none.mpr absent)] at slot
    cases slot
  have empty : occupants d c slotIndex itemType = ∅ := Finset.min_eq_top.mp found
  have mem := mem_occupants.mpr ⟨there, slot, apart⟩
  rw [empty] at mem
  cases mem

/-! ### The statements of a move -/

theorem exec_selectSlotForUpdate (d : Items) (c : CharacterId) (itemType : String) :
    engine.exec (.selectSlotForUpdate c itemType) d =
      some (if (d.tables.lookup (.item c itemType)).isSome then
        (some (d.slotIndex (.item c itemType)) : Option (Option Int)) else none, []) := rfl

theorem exec_selectOccupantForUpdate (d : Items) (c : CharacterId) (slotIndex : Int)
    (itemType : String) :
    engine.exec (.selectOccupantForUpdate c slotIndex itemType) d =
      some ((occupant d c slotIndex itemType : Option String), []) := rfl

theorem exec_updateSlot (slot : Option Int)
    (there : (d.tables.lookup (.item c itemType)).isSome) :
    engine.exec (.updateSlot c itemType slot) d =
      some ((() : Unit), [.slot (.item c itemType) slot]) := by
  show some ((), if (d.tables.lookup (.item c itemType)).isSome then _ else _) = _
  rw [if_pos there]

section Statements

variable {post : Option SlotMove → Pending Statement Write RowKey → Items → Prop}
  {failure : Error} {writes : List Write} {locks : List RowKey} {log : List Statement}

theorem concludes_selectSlotForUpdate {next : Option (Option Int) → SlotM (Option SlotMove)}
    (absent : ∀ a d', (discipline store calls).Concludes i post (next none) a d')
    (present : ∀ d', Tolerates calls i ⟨[], locks, log⟩ d d' → Assigned store d' →
      (d'.tables.lookup (.item c itemType)).isSome →
      (discipline store calls).Concludes i post (next (some (d'.slotIndex (.item c itemType))))
        ⟨[], .item c itemType :: locks, .selectSlotForUpdate c itemType :: log⟩ d') :
    (discipline store calls).Concludes i post
      (.statement (.selectSlotForUpdate c itemType) failure next) ⟨[], locks, log⟩ d := by
  intro d' change inv r ws exec
  rw [exec_selectSlotForUpdate] at exec
  cases exec
  by_cases there : (d'.tables.lookup (.item c itemType)).isSome
  · have held : engine.locks (.selectSlotForUpdate c itemType) (engine.applyAll [] d') =
        [.item c itemType] := if_pos there
    rw [Engine.applyAll_nil, if_pos there, ← Engine.applyAll_nil engine d', Pending.after, held]
    exact present d' change inv there
  · rw [Engine.applyAll_nil, if_neg there]
    exact absent _ d'

theorem concludes_selectOccupantForUpdate {next : Option String → SlotM (Option SlotMove)}
    (found : ∀ d', Tolerates calls i ⟨[], locks, log⟩ d d' → Assigned store d' →
      (discipline store calls).Concludes i post (next (occupant d' c slotIndex itemType))
        ⟨[], (occupant d' c slotIndex itemType).toList.map (.item c ·) ++ locks,
          .selectOccupantForUpdate c slotIndex itemType :: log⟩ d') :
    (discipline store calls).Concludes i post
      (.statement (.selectOccupantForUpdate c slotIndex itemType) failure next)
      ⟨[], locks, log⟩ d := by
  intro d' change inv r ws exec
  rw [exec_selectOccupantForUpdate] at exec
  cases exec
  exact found d' change inv

theorem concludes_updateSlot {slot : Option Int} {next : Unit → SlotM (Option SlotMove)}
    (there : ∀ d', Tolerates calls i ⟨writes, locks, log⟩ d d' → Assigned store d' →
      ((engine.applyAll writes d').tables.lookup (.item c itemType)).isSome ∧
      (discipline store calls).Concludes i post (next ())
        ⟨writes ++ [.slot (.item c itemType) slot], .item c itemType :: locks,
          .updateSlot c itemType slot :: log⟩ d') :
    (discipline store calls).Concludes i post
      (.statement (.updateSlot c itemType slot) failure next) ⟨writes, locks, log⟩ d := by
  intro d' change inv r ws exec
  obtain ⟨present, later⟩ := there d' change inv
  rw [exec_updateSlot slot present] at exec
  cases exec
  have held : engine.locks (.updateSlot c itemType slot) (engine.applyAll writes d') =
      [.item c itemType] := if_pos present
  rw [Pending.after, held]
  exact later

end Statements

/-- The position of the moved stack has been written, and nobody has been found in the slot. -/
theorem moved_alone (free : ∀ other, other ≠ itemType →
      d.slotIndex (.item c other) ≠ some slotIndex) :
    Moved c itemType slotIndex d
      (engine.applyAll [.slot (.item c itemType) (some slotIndex)] d) where
  tables := rfl
  mover := Function.update_self ..
  displaced other apart there := absurd there (free other apart)
  others _ other _ := Function.update_of_ne other ..

/-- Both positions have been written. -/
theorem moved_onto {occupantType : String} (h : Assigned store d) (apart : occupantType ≠ itemType)
    (there : d.slotIndex (.item c occupantType) = some slotIndex) :
    Moved c itemType slotIndex d (engine.applyAll
      [.slot (.item c itemType) (some slotIndex),
        .slot (.item c occupantType) (d.slotIndex (.item c itemType))] d) where
  tables := rfl
  mover := by
    have other : RowKey.item c itemType ≠ .item c occupantType := by
      rintro same
      cases same
      exact apart rfl
    exact (Function.update_of_ne other ..).trans (Function.update_self ..)
  displaced other _ there' := by
    cases h.apart c other occupantType slotIndex there' there
    exact Function.update_self ..
  others key other free := by
    have unoccupied : key ≠ .item c occupantType := by
      rintro rfl
      exact free occupantType rfl there
    exact (Function.update_of_ne unoccupied ..).trans (Function.update_of_ne other ..)

theorem concludes_move (own : (calls i).mover = some c) :
    (discipline store calls).Concludes i (Commits store (.moveItemToSlot c itemType slotIndex))
      (Call.program store (.moveItemToSlot c itemType slotIndex)) {} d := by
  simp only [Call.program, moveItemToSlot]
  split
  · trivial
  next within =>
  have inRange : 0 ≤ slotIndex ∧ slotIndex < slotCount store := by
    push Not at within
    exact within
  refine concludes_selectSlotForUpdate (fun _ _ => trivial) fun d₁ _ _ there₁ => ?_
  refine concludes_selectOccupantForUpdate fun d₂ change₂ inv₂ => ?_
  have there₂ : (d₂.tables.lookup (.item c itemType)).isSome := by
    rwa [change₂.row _ List.mem_cons_self]
  refine concludes_updateSlot fun d₃ change₃ inv₃ => ?_
  have there₃ : (d₃.tables.lookup (.item c itemType)).isSome := by
    rwa [change₃.row _ (List.mem_append_right _ List.mem_cons_self)]
  refine ⟨there₃, ?_⟩
  cases found : occupant d₂ c slotIndex itemType with
  | none =>
      rw [found] at change₃
      intro d₄ change₄ inv₄
      have there₄ : (d₄.tables.lookup (.item c itemType)).isSome := by
        rwa [change₄.row _ List.mem_cons_self]
      have free : ∀ other, other ≠ itemType →
          d₄.slotIndex (.item c other) ≠ some slotIndex := by
        intro other apart
        have free₂ := occupant_eq_none inv₂ found other apart
        have free₃ := change₃.stays_free nofun own free₂
        exact change₄.stays_free nofun own free₃
      refine ⟨?_, inRange, there₄, moved_alone free, none, rfl, ?_⟩
      · rintro w hw
        cases List.mem_singleton.mp hw
        exact ⟨itemType, some slotIndex, rfl⟩
      · intro other slot
        exact ⟨nofun, fun occupied => absurd occupied.2.1 (free other occupied.1)⟩
  | some occupantType =>
      rw [found] at change₃
      obtain ⟨there, slot₂, apart⟩ := occupant_eq_some found
      refine concludes_updateSlot fun d₄ change₄ inv₄ => ⟨?_, fun d₅ change₅ inv₅ => ?_⟩
      · have there₂ : (d₂.tables.lookup (.item c occupantType)).isSome :=
          Finmap.lookup_isSome.mpr there
        have there₃ : (d₃.tables.lookup (.item c occupantType)).isSome := by
          rwa [change₃.row _ List.mem_cons_self]
        show (d₄.tables.lookup (.item c occupantType)).isSome
        rwa [change₄.row _ (List.mem_cons_of_mem _ List.mem_cons_self)]
      -- both rows have been held since they were selected
      have there₅ : (d₅.tables.lookup (.item c itemType)).isSome := by
        rwa [change₅.row _ (List.mem_cons_of_mem _ List.mem_cons_self),
          change₄.row _ List.mem_cons_self]
      have previous : d₁.slotIndex (.item c itemType) = d₅.slotIndex (.item c itemType) := by
        rw [change₅.slot _ (List.mem_cons_of_mem _ List.mem_cons_self),
          change₄.slot _ List.mem_cons_self,
          change₃.slot _ (List.mem_append_right _ List.mem_cons_self),
          change₂.slot _ List.mem_cons_self]
      have slot₅ : d₅.slotIndex (.item c occupantType) = some slotIndex := by
        rw [change₅.slot _ List.mem_cons_self,
          change₄.slot _ (List.mem_cons_of_mem _ List.mem_cons_self),
          change₃.slot _ List.mem_cons_self, slot₂]
      refine ⟨?_, inRange, there₅, ?_,
        some (occupantType, d₁.slotIndex (.item c itemType)), rfl, ?_⟩
      · rintro w hw
        obtain rfl | hw := List.mem_cons.mp hw
        · exact ⟨itemType, some slotIndex, rfl⟩
        · cases List.mem_singleton.mp hw
          exact ⟨occupantType, _, rfl⟩
      · rw [previous]
        exact moved_onto inv₅ apart slot₅
      · intro other slot
        rw [previous]
        constructor
        · rintro ⟨⟩
          exact ⟨apart, slot₅, rfl⟩
        · rintro ⟨-, there', rfl⟩
          cases inv₅.apart c other occupantType slotIndex there' slot₅
          rfl

theorem concludes_program (store : CharacterStore) (calls : ι → Call) (i : ι) (d : Items) :
    (discipline store calls).Concludes i (Commits store (calls i)) ((calls i).program store) {}
      d := by
  have rows : ∀ w ∈ ({} : Pending Statement Write RowKey).writes, ∃ row, w = .row row := nofun
  cases own : calls i with
  | grantItem | removeItem | craftItem | executeTrade =>
      exact concludes_ofStore (fun _ _ _ rows => rows) rows
  | moveItemToSlot c itemType slotIndex => exact concludes_move (by rw [own]; rfl)

/-- What a call commits keeps the stacks in slots of their own. -/
theorem Commits.assigned {call : Call} {result : Option SlotMove}
    (h : Commits store call result a d) (inv : Assigned store d) :
    Assigned store (engine.applyAll a.writes d) := by
  cases call with
  | grantItem | removeItem | craftItem | executeTrade => exact inv.rows h
  | moveItemToSlot c itemType slotIndex =>
      obtain ⟨-, inRange, there, moved, -⟩ := h
      exact inv.moved moved inRange there

/-- A call that writes the position of a stack moves stacks of the same character. -/
theorem Commits.mover {call : Call} {result : Option SlotMove} {slot : Option Int}
    (h : Commits store call result a d) (written : .slot (.item c itemType) slot ∈ a.writes) :
    call.mover = some c := by
  cases call with
  | grantItem | removeItem | craftItem | executeTrade =>
      obtain ⟨row, same⟩ := h _ written
      cases same
  | moveItemToSlot owner moved target =>
      obtain ⟨_, _, same⟩ := h.1 _ written
      cases same
      rfl

/-! ### Runs -/

section Runs

variable [DecidableEq ι] [Fintype ι] {s t : State ι} {l : Label ι}

/-- The stacks are in slots of their own, and each call in progress will commit as told. -/
def Orderly (store : CharacterStore) (calls : ι → Call) (s : State ι) : Prop :=
  (discipline store calls).Coherent s ∧
    (discipline store calls).Concluding (fun i => Commits store (calls i)) s

omit [DecidableEq ι] [Fintype ι] in
theorem orderly_start (assigned : Assigned store d) :
    Orderly store calls (start (workload store calls) d) := by
  have concludes : ∀ i, (discipline store calls).Concludes i (Commits store (calls i))
      ((workload store calls).program i) {} d := fun i => concludes_program store calls i d
  refine ⟨RelyGuarantee.coherent_start assigned fun i => ?_,
    RelyGuarantee.concluding_start concludes⟩
  exact (concludes i).safe fun _ _ _ commits inv => commits.assigned inv

omit [DecidableEq ι] [Fintype ι] in
theorem Orderly.undisturbed (h : Orderly store calls s) (one : OneAtATime calls s l) :
    Undisturbed (Disturbs calls) s l := by
  rintro w hw j other b at_j ⟨begun', c, itemType, slot, rfl, own⟩
  have mover : (calls l.call).mover = some c := by
    unfold committing at hw
    split at hw
    next result a at_call =>
      split at hw
      · cases hw
      · exact (h.2.commits h.1 at_call rfl).mover hw
    · cases hw
  have idle := one (by rw [mover]; rfl) j other (own.trans mover.symm)
  cases call : s.calls j with
  | finished r =>
      rw [call] at at_j
      cases at_j
  | running activity =>
      rw [call] at at_j idle
      obtain rfl : activity.pending = b := Option.some.inj at_j
      simp [begun, begun'] at idle

theorem Orderly.preserved (h : Orderly store calls s) (one : OneAtATime calls s l)
    (taken : step engine (workload store calls) s l = some t) : Orderly store calls t := by
  have calm := h.undisturbed one
  exact ⟨h.1.step calm taken, h.2.step h.1 calm taken⟩

/-- A move that returns has exchanged two positions; any other step of it changes nothing. -/
theorem Orderly.step_move (h : Orderly store calls s)
    (own : calls l.call = .moveItemToSlot c itemType slotIndex)
    (taken : step engine (workload store calls) s l = some t) :
    match t.calls l.call with
    | .finished (.ok result) => Moved c itemType slotIndex s.committed t.committed ∧
        Reports c itemType slotIndex s.committed result
    | _ => t.committed = s.committed := by
  obtain ⟨a, at_call, abandoned | committed | proceeds⟩ := step_cases taken
  · obtain ⟨err, rfl⟩ := abandoned
    simp [State.put]
  · obtain ⟨result, program, -, rfl⟩ := committed
    have commits : Commits store (calls l.call) result a.pending s.committed :=
      h.2.commits h.1 at_call program
    rw [own] at commits
    obtain ⟨-, -, -, moved, reports⟩ := commits
    simpa [State.put] using ⟨moved, reports⟩
  · obtain ⟨stmt, failure, next, r, ws, -, -, -, rfl⟩ := proceeds
    cases next r with
    | pure _ | throw _ | statement _ _ _ => simp [State.put, Call.of]

/-- In every run in which the moves of a character come one at a time, whatever other calls are
under way, the stacks of a character are in different slots, all of which there are; a move that
returns has exchanged the positions of the two stacks and nothing else, and until then, or if it
is rejected, has changed nothing. -/
theorem slots_assigned (store : CharacterStore) (calls : ι → Call) {db : Items}
    (assigned : Assigned store db) {ls : List (Label ι)}
    (oneAtATime : Transition.Admissible (step engine (workload store calls)) (OneAtATime calls)
      (start (workload store calls) db) ls) :
    (∀ front, front <+: ls → ∀ s,
      Transition.exec (step engine (workload store calls)) (start (workload store calls) db)
        front = some s → Assigned store s.committed) ∧
    ∀ front l, front ++ [l] <+: ls → ∀ s t,
      Transition.exec (step engine (workload store calls)) (start (workload store calls) db)
        front = some s → step engine (workload store calls) s l = some t →
      ∀ c itemType slotIndex, calls l.call = .moveItemToSlot c itemType slotIndex →
        match t.calls l.call with
        | .finished (.ok result) => Moved c itemType slotIndex s.committed t.committed ∧
            Reports c itemType slotIndex s.committed result
        | _ => t.committed = s.committed := by
  have orderly : ∀ front, front <+: ls → ∀ s,
      Transition.exec (step engine (workload store calls)) (start (workload store calls) db)
        front = some s → Orderly store calls s :=
    Transition.throughout (fun _ _ _ h one taken => h.preserved one taken) (orderly_start assigned)
      oneAtATime
  constructor
  · intro front front_of s run
    exact (orderly front front_of s run).1.inv
  · intro front l front_of s t run taken c itemType slotIndex own
    exact (orderly front ((List.prefix_append front [l]).trans front_of) s run).step_move own taken

end Runs

namespace Backpack

def porter : CharacterId := ⟨1⟩

def carried : Tables :=
  (((∅ : Tables).insert (.character porter) ∅).insert (.item porter "torch")
    ⟨3, by decide, by decide⟩).insert (.item porter "shield") .one

/-- The torches are in the third slot, and the shield in the sixth. -/
def sorted : Items where
  tables := carried
  slotIndex key :=
    if key = .item porter "torch" then some 2
    else if key = .item porter "shield" then some 5
    else none

def roomy : CharacterStore := ⟨⟨1, []⟩, {}⟩

def rearranging : Fin 3 → Call
  | 0 => .moveItemToSlot porter "torch" 5
  | 1 => .grantItem porter "torch" 2
  | 2 => .moveItemToSlot porter "shield" 0

/-- The grant reads the torches while they are moved, and adds to them afterwards. -/
def schedule : List (Label (Fin 3)) :=
  [0, 1, 0, 0, 0, 0, 1, 1, 2, 2, 2, 2].map fun i => { call := i }

theorem assigned_sorted : Assigned roomy sorted where
  apart c itemType itemType' slotIndex here here' := by
    simp only [sorted] at here here'
    grind
  inRange key slotIndex here := by
    have slots : slotCount roomy = 40 := by decide
    simp only [sorted] at here
    grind
  placed key absent := by
    have torch : key ≠ .item porter "torch" := by
      rintro rfl
      exact absurd absent (by decide)
    have shield : key ≠ .item porter "shield" := by
      rintro rfl
      exact absurd absent (by decide)
    simp [sorted, torch, shield]

/-- The torches displace the shield, which is then moved on. -/
theorem slots_assigned_torches :
    ∃ s, Transition.exec (step engine (workload roomy rearranging))
        (start (workload roomy rearranging) sorted) schedule = some s ∧
      (s.committed.slotIndex (.item porter "torch") = some 5 ∧
        s.committed.slotIndex (.item porter "shield") = some 0 ∧
        quantity s.committed.tables porter "torch" = 5) ∧
      Assigned roomy s.committed := by
  obtain ⟨s, run, ends⟩ : ∃ s, Transition.exec (step engine (workload roomy rearranging))
      (start (workload roomy rearranging) sorted) schedule = some s ∧
      (s.committed.slotIndex (.item porter "torch") = some 5 ∧
        s.committed.slotIndex (.item porter "shield") = some 0 ∧
        quantity s.committed.tables porter "torch" = 5) :=
    Transition.exec_reaches (by decide)
  have oneAtATime : Transition.Admissible (step engine (workload roomy rearranging))
      (OneAtATime rearranging) (start (workload roomy rearranging) sorted) schedule := by
    decide
  have assigned := (slots_assigned roomy rearranging assigned_sorted oneAtATime).1
  exact ⟨s, run, ends, assigned schedule List.prefix_rfl s run⟩

end Backpack

end WorldZero.Character.Slots
