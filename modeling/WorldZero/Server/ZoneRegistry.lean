import Mathlib.Data.Finset.Card
import Mathlib.Data.List.MinMax
import WorldZero.Common
import WorldZero.Transition

/-!
# Layer assignment

`assign_layer` compares the sessions that are registered in a layer with the threshold. A
joining session registers several awaits after it has been assigned its layer, and until
then it is counted nowhere.
-/

namespace WorldZero.Server.ZoneRegistry

/-- A layer, by the entities in its `Sessions` map. -/
abbrev Layer := Finset EntityId

structure Config where
  layeringEnabled : Bool
  layerPopulationThreshold : ℕ

/-- The first of the layers with the lowest population, if that is under the threshold. -/
def leastPopulatedUnderThreshold (populations : List ℕ) (threshold : ℕ) : Option ℕ :=
  ((populations.zipIdx.argmin Prod.fst).filter fun layer => layer.1 < threshold).map Prod.snd

example : leastPopulatedUnderThreshold [5, 1, 3] 10 = some 1 := by decide

/-- `ZoneRegistry::assign_layer`: the index of a layer, and the layers with a new one if
none had room. -/
def assignLayer (config : Config) (layers : List Layer) : ℕ × List Layer :=
  if !config.layeringEnabled then (0, layers)
  else
    match leastPopulatedUnderThreshold (layers.map Finset.card)
        config.layerPopulationThreshold with
    | some index => (index, layers)
    | none => (layers.length, layers ++ [∅])

/-- One zone. -/
structure State where
  layers : List Layer
  /-- The sessions that have been assigned a layer and not yet registered in it. -/
  joining : List (EntityId × ℕ)

inductive Label where
  | assign (e : EntityId)
  | register (e : EntityId)

namespace State

variable (s : State)

/-- Every connection has an entity id of its own. -/
def Fresh (e : EntityId) : Prop :=
  (∀ p ∈ s.joining, p.1 ≠ e) ∧ ∀ layer ∈ s.layers, e ∉ layer

instance (e : EntityId) : Decidable (s.Fresh e) := inferInstanceAs (Decidable (_ ∧ _))

def register (e : EntityId) (index : ℕ) : State where
  layers := s.layers.modify index (insert e)
  joining := s.joining.erase (e, index)

/-- The registered sessions of a layer. -/
def population (index : ℕ) : ℕ := (s.layers[index]?.map Finset.card).getD 0

/-- The sessions of a layer, with those on their way to it. -/
def reserved (index : ℕ) : ℕ :=
  s.population index + s.joining.countP fun p => p.2 = index

end State

def step (config : Config) (s : State) : Label → Option State
  | .assign e =>
      if s.Fresh e then
        let (index, layers) := assignLayer config s.layers
        some { layers, joining := s.joining ++ [(e, index)] }
      else none
  | .register e =>
      (s.joining.find? fun p => p.1 = e).map fun p => s.register p.1 p.2

/-- The zone has been started with its layer 0. -/
def start : State := ⟨[∅], []⟩

/-- Those on their way are under the threshold too: for layer 0 without layering, for the
layer with the lowest population if that is under the threshold; a new layer is empty. -/
def HasRoom (config : Config) (s : State) : Label → Prop
  | .assign _ =>
      let threshold := config.layerPopulationThreshold
      if config.layeringEnabled then
        ((leastPopulatedUnderThreshold (s.layers.map Finset.card) threshold).map
          s.reserved).getD 0 < threshold
      else s.reserved 0 < threshold
  | .register _ => True

instance (config : Config) (s : State) (l : Label) : Decidable (HasRoom config s l) := by
  unfold HasRoom
  split <;> infer_instance

/-- No layer's registered population exceeds the threshold. -/
def Capped (config : Config) (s : State) : Prop :=
  ∀ layer ∈ s.layers, layer.card ≤ config.layerPopulationThreshold

instance (config : Config) (s : State) : Decidable (Capped config s) :=
  inferInstanceAs (Decidable (∀ _ ∈ _, _))

/-! ### Assignment -/

theorem leastPopulated_lt {populations : List ℕ} {threshold index : ℕ}
    (found : leastPopulatedUnderThreshold populations threshold = some index) :
    index < populations.length := by
  obtain ⟨⟨population, index'⟩, least, rfl⟩ := Option.map_eq_some_iff.mp found
  have there := List.argmin_mem (Option.filter_eq_some_iff.mp least).1
  exact (List.mem_zipIdx' there).1

variable {config : Config} {s t : State} {l : Label} {ls : List Label}

/-- The layers stay, and the index is that of one of them or of the one that is new. -/
theorem assignLayer_spec (config : Config) {layers : List Layer} (running : layers ≠ []) :
    (assignLayer config layers).1 < (assignLayer config layers).2.length ∧
      ((assignLayer config layers).2 = layers ∨ (assignLayer config layers).2 = layers ++ [∅]) := by
  unfold assignLayer
  split
  · exact ⟨List.length_pos_iff.mpr running, .inl rfl⟩
  · split
    next index found => exact ⟨by simpa using leastPopulated_lt found, .inl rfl⟩
    · exact ⟨by simp, .inr rfl⟩

/-! ### What the steps keep -/

/-- Whoever is on the way to a layer is in none yet, and the layer is there. -/
structure Sound (s : State) : Prop where
  running : s.layers ≠ []
  distinct : (s.joining.map Prod.fst).Nodup
  absent : ∀ p ∈ s.joining, ∀ layer ∈ s.layers, p.1 ∉ layer
  assigned : ∀ p ∈ s.joining, p.2 < s.layers.length

theorem sound_start : Sound start := by
  constructor <;> simp [start]

theorem taken_assign {e : EntityId} (taken : step config s (.assign e) = some t) :
    s.Fresh e ∧ t = ⟨(assignLayer config s.layers).2,
      s.joining ++ [(e, (assignLayer config s.layers).1)]⟩ := by
  simp only [step, Option.ite_none_right_eq_some, Option.some.injEq] at taken
  exact ⟨taken.1, taken.2.symm⟩

theorem taken_register {e : EntityId} (taken : step config s (.register e) = some t) :
    ∃ index, (e, index) ∈ s.joining ∧ t = s.register e index := by
  obtain ⟨⟨e', index⟩, found, rfl⟩ := Option.map_eq_some_iff.mp taken
  obtain rfl : e' = e := by simpa using List.find?_some found
  exact ⟨index, List.mem_of_find?_eq_some found, rfl⟩

theorem mem_modify {α : Type} {x : α} {xs : List α} {index : ℕ} {f : α → α}
    (there : x ∈ xs.modify index f) : x ∈ xs ∨ ∃ old ∈ xs, x = f old := by
  obtain ⟨j, here⟩ := List.mem_iff_getElem?.mp there
  rw [List.getElem?_modify] at here
  obtain ⟨old, found, rfl⟩ := Option.map_eq_some_iff.mp here
  have old_there := List.mem_of_getElem? found
  split
  · exact .inr ⟨old, old_there, rfl⟩
  · exact .inl old_there

theorem Sound.step (inv : Sound s) (taken : step config s l = some t) : Sound t := by
  cases l with
  | assign e =>
      obtain ⟨⟨unknown, absent⟩, rfl⟩ := taken_assign taken
      obtain ⟨chosen, layers⟩ := assignLayer_spec config inv.running
      have longer : s.layers.length ≤ (assignLayer config s.layers).2.length := by
        rcases layers with same | new
        · rw [same]
        · rw [new]
          simp
      have mem : ∀ layer ∈ (assignLayer config s.layers).2, layer ∈ s.layers ∨ layer = ∅ := by
        intro layer there
        rcases layers with same | new
        · exact .inl (same ▸ there)
        · simpa [new] using there
      refine ⟨?_, ?_, ?_, ?_⟩
      · rw [← List.length_pos_iff]
        exact Nat.lt_of_le_of_lt (Nat.zero_le _) chosen
      · rw [List.map_append, List.map_singleton]
        refine inv.distinct.append (List.nodup_singleton _) (List.disjoint_singleton.mpr ?_)
        simpa using fun index there => unknown (e, index) there rfl
      · intro p there layer layer_there
        rcases mem layer layer_there with before | rfl
        · rcases List.mem_append.mp there with earlier | new
          · exact inv.absent p earlier layer before
          · rw [List.mem_singleton.mp new]
            exact absent layer before
        · exact Finset.notMem_empty _
      · intro p there
        rcases List.mem_append.mp there with earlier | new
        · exact Nat.lt_of_lt_of_le (inv.assigned p earlier) longer
        · rw [List.mem_singleton.mp new]
          exact chosen
  | register e =>
      obtain ⟨index, on_the_way, rfl⟩ := taken_register taken
      have others : ∀ p ∈ s.joining.erase (e, index), p ∈ s.joining ∧ p.1 ≠ e := by
        intro p there
        obtain ⟨different, before⟩ := inv.distinct.of_map.mem_erase_iff.mp there
        exact ⟨before, fun same =>
          different (List.inj_on_of_nodup_map inv.distinct before on_the_way same)⟩
      refine ⟨?_, ?_, fun p there layer layer_there => ?_, fun p there => ?_⟩
      · simpa [State.register, ← List.length_pos_iff] using inv.running
      · exact (List.erase_sublist.map Prod.fst).nodup inv.distinct
      · obtain ⟨before, different⟩ := others p there
        rcases mem_modify layer_there with old | ⟨old, old_there, rfl⟩
        · exact inv.absent p before layer old
        · simpa [different] using inv.absent p before old old_there
      · simpa [State.register] using inv.assigned p (others p there).1

theorem reserved_assign (inv : Sound s) {e : EntityId}
    (taken : ZoneRegistry.step config s (.assign e) = some t) (index : ℕ) :
    t.reserved index =
      s.reserved index + if index = (assignLayer config s.layers).1 then 1 else 0 := by
  obtain ⟨-, rfl⟩ := taken_assign taken
  obtain ⟨-, layers⟩ := assignLayer_spec config inv.running
  have population : ∀ joining, State.population ⟨(assignLayer config s.layers).2, joining⟩ index =
      s.population index := by
    intro joining
    unfold State.population
    rcases layers with same | new
    · rw [same]
    · rw [new]
      rcases Nat.lt_trichotomy index s.layers.length with old | new | out
      · rw [List.getElem?_append_left old]
      · simp [new]
      · rw [List.getElem?_eq_none (by simp; omega), List.getElem?_eq_none (by omega)]
  unfold State.reserved
  rw [population, List.countP_append, List.countP_singleton, Nat.add_assoc]
  simp [eq_comm]

theorem reserved_register (inv : Sound s) {e : EntityId}
    (taken : ZoneRegistry.step config s (.register e) = some t) (index : ℕ) :
    t.reserved index = s.reserved index := by
  obtain ⟨chosen, on_the_way, rfl⟩ := taken_register taken
  have here := inv.assigned _ on_the_way
  have layer : s.layers[chosen]? = some s.layers[chosen] := List.getElem?_eq_getElem here
  unfold State.reserved State.population
  simp only [State.register, List.getElem?_modify, List.countP_erase, on_the_way, true_and,
    decide_eq_true_eq]
  by_cases itself : chosen = index
  · subst itself
    have absent : e ∉ s.layers[chosen] :=
      inv.absent _ on_the_way _ (List.getElem_mem here)
    have counted : 0 < s.joining.countP fun p => p.2 = chosen :=
      List.countP_pos_iff.mpr ⟨_, on_the_way, by simp⟩
    have grown : (insert e s.layers[chosen]).card = s.layers[chosen].card + 1 :=
      Finset.card_insert_of_notMem absent
    simp only [layer, if_true, Option.map_some, Option.getD_some, Option.map_eq_map, grown]
    omega
  · simp [itself]

/-- Nobody is on the way to a layer that is not there. -/
theorem Sound.reserved_new (inv : Sound s) : s.reserved s.layers.length = 0 := by
  have nobody : (s.joining.countP fun p => p.2 = s.layers.length) = 0 := by
    rw [List.countP_eq_zero]
    intro p there
    simpa using (inv.assigned p there).ne
  simp [State.reserved, State.population, nobody]

theorem hasRoom_assign (inv : Sound s) {e : EntityId} :
    HasRoom config s (.assign e) ↔
      s.reserved (assignLayer config s.layers).1 < config.layerPopulationThreshold := by
  unfold HasRoom assignLayer
  cases enabled : config.layeringEnabled with
  | false => simp
  | true =>
      cases found : leastPopulatedUnderThreshold (s.layers.map Finset.card)
          config.layerPopulationThreshold with
      | none => simp [found, inv.reserved_new]
      | some index => simp [found]

theorem reserved_mono (inv : Sound s) (taken : ZoneRegistry.step config s l = some t) (index : ℕ) :
    s.reserved index ≤ t.reserved index := by
  cases l with
  | assign e =>
      rw [reserved_assign inv taken]
      exact Nat.le_add_right _ _
  | register e => rw [reserved_register inv taken]

/-! ### Runs -/

/-- No layer can come to exceed the threshold by those that have been assigned. -/
structure Held (config : Config) (s : State) : Prop where
  sound : Sound s
  reserved : ∀ index, s.reserved index ≤ config.layerPopulationThreshold

theorem held_start : Held config start where
  sound := sound_start
  reserved index := by
    cases index <;> simp [State.reserved, State.population, start]

theorem Held.step (inv : Held config s) (room : HasRoom config s l)
    (taken : ZoneRegistry.step config s l = some t) : Held config t := by
  refine ⟨inv.sound.step taken, fun index => ?_⟩
  have before := inv.reserved index
  cases l with
  | assign e =>
      rw [reserved_assign inv.sound taken]
      split
      next chosen => exact chosen ▸ (hasRoom_assign inv.sound).mp room
      · exact before
  | register e => rwa [reserved_register inv.sound taken]

theorem Held.capped (inv : Held config s) : Capped config s := by
  intro layer there
  obtain ⟨index, here⟩ := List.mem_iff_getElem?.mp there
  refine Nat.le_trans ?_ (inv.reserved index)
  simp [State.reserved, State.population, here]

theorem reserved_le_of_run (inv : Sound s)
    (run : Transition.exec (ZoneRegistry.step config) s ls = some t) (index : ℕ) :
    s.reserved index ≤ t.reserved index := by
  induction ls generalizing s with
  | nil => rw [Transition.exec_nil.mp run]
  | cons l ls ih =>
      obtain ⟨u, taken, rest⟩ := Transition.exec_cons.mp run
      exact Nat.le_trans (reserved_mono inv taken index) (ih (inv.step taken) rest)

/-- When everybody has arrived in layers of which none exceeds the threshold, there has been
room at each assignment. -/
theorem room_of_capped (inv : Sound s)
    (run : Transition.exec (ZoneRegistry.step config) s ls = some t) (arrived : t.joining = [])
    (capped : Capped config t) : Transition.Admissible (ZoneRegistry.step config)
      (HasRoom config) s ls := by
  induction ls generalizing s with
  | nil => trivial
  | cons l ls ih =>
      obtain ⟨u, taken, rest⟩ := Transition.exec_cons.mp run
      refine ⟨?_, fun u' taken' => ?_⟩
      · cases l with
        | register e => trivial
        | assign e =>
            have assigned := reserved_assign inv taken (assignLayer config s.layers).1
            have later := reserved_le_of_run (inv.step taken) rest (assignLayer config s.layers).1
            have last : t.reserved (assignLayer config s.layers).1 ≤
                config.layerPopulationThreshold := by
              simp only [State.reserved, arrived, List.countP_nil, Nat.add_zero, State.population]
              cases here : t.layers[(assignLayer config s.layers).1]? with
              | none => exact Nat.zero_le _
              | some layer => exact capped layer (List.mem_of_getElem? here)
            rw [if_pos rfl] at assigned
            exact (hasRoom_assign inv).mpr (by omega)
      · obtain rfl := Option.some.inj (taken.symm.trans taken')
        exact ih (inv.step taken) rest

/-- For any number of sessions joining the zone: if at each assignment there is room in the
layer for those on their way to it as well, no layer exceeds the threshold; and without such
room one does, once everybody has registered. -/
theorem capped_iff_room (run : Transition.exec (step config) start ls = some t) :
    (Transition.Admissible (step config) (HasRoom config) start ls →
      ∀ front, front <+: ls → ∀ s, Transition.exec (step config) start front = some s →
        Capped config s) ∧
    (t.joining = [] →
      (∀ front, front <+: ls → ∀ s, Transition.exec (step config) start front = some s →
        Capped config s) →
      Transition.Admissible (step config) (HasRoom config) start ls) := by
  refine ⟨fun room front front_of s reached => ?_, fun arrived capped => ?_⟩
  · have held := Transition.throughout (fun _ _ _ inv room taken => Held.step inv room taken)
      held_start room front front_of s reached
    exact held.capped
  · exact room_of_capped sound_start run arrived (capped ls (List.prefix_refl ls) t run)

namespace TwoJoins

def single : Config := ⟨true, 1⟩

/-- Both are assigned the empty layer before either has registered in it. -/
def together : List Label := [.assign ⟨1⟩, .assign ⟨2⟩, .register ⟨1⟩, .register ⟨2⟩]

theorem overfull : ∃ s, Transition.exec (step single) start together = some s ∧
    ¬ Capped single s := Transition.exec_reaches (by decide)

def inTurn : List Label := [.assign ⟨1⟩, .register ⟨1⟩, .assign ⟨2⟩, .register ⟨2⟩]

theorem capped_iff_room_in_turn : ∃ t, Transition.exec (step single) start inTurn = some t ∧
    t.joining = [] ∧ Capped single t := by
  have run : Transition.exec (step single) start inTurn = some ⟨[{⟨1⟩}, {⟨2⟩}], []⟩ := by rfl
  have room : Transition.Admissible (step single) (HasRoom single) start inTurn := by decide
  exact ⟨_, run, rfl, (capped_iff_room run).1 room inTurn (List.prefix_refl _) _ run⟩

end TwoJoins

end WorldZero.Server.ZoneRegistry
