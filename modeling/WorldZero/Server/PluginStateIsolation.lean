import WorldZero.Server.PluginState

/-!
# What a plugin reads of the plugin-scoped data store

All plugins share the cache and the tables. Two runs that differ in the calls of the other
plugins can still be compared for one plugin, entry by entry: where neither run has an entry
that another plugin has set last, both have the same one. A plugin reads no such entry as long
as no other plugin sets, or has stored, what goes into the cache under a string that the plugin
looks up.
-/

namespace WorldZero.Server.PluginState

open World (PluginStateScope)

variable {ι : Type}

/-- A step of the plugin itself, of a session or of the start-up. -/
def Label.concerns [DecidableEq ι] (p : ι) : Label ι → Bool
  | .set plugin _ _ | .get plugin _ | .persist plugin _ => plugin = p
  | _ => true

/-- What the step returns to the plugin. -/
def seen [DecidableEq ι] (p : ι) (s : State ι) : Label ι → List (Option Value)
  | .get plugin a => if plugin = p then [s.get a] else []
  | _ => []

/-- What the plugin's gets of a run return, in their order. -/
def observed [DecidableEq ι] (parseEntityId : String → Option EntityId) (hosted : List String)
    (p : ι) : State ι → List (Label ι) → List (Option Value)
  | _, [] => []
  | s, l :: ls =>
      match step parseEntityId hosted s l with
      | none => []
      | some t => seen p s l ++ observed parseEntityId hosted p t ls

/-! ### Whose entries a plugin looks up -/

/-- A get of the plugin looks the string up in the cache. -/
def LooksUp (p : ι) (ls : List (Label ι)) (packed : String) : Prop :=
  ∃ a, .get p a ∈ ls ∧ a.packed = packed

/-- A session reads the rows of the character, and this key of them goes under the string. -/
def Hydrates (ls : List (Label ι)) (characterId : CharacterId) (key packed : String) : Prop :=
  ∃ e, .read e characterId ∈ ls ∧ packed = cacheKey (.character (toString e)) key

/-- What is set for the address goes under the string: at once, or from the table of a
character whose session is the address's. -/
def Lands (parseEntityId : String → Option EntityId) (ls : List (Label ι)) (a : Address)
    (packed : String) : Prop :=
  a.packed = packed ∨
    ∃ id e characterId, a.scope = .character id ∧ parseEntityId id = some e ∧
      .register e characterId ∈ ls ∧ Hydrates ls characterId a.key packed

/-- No call and no row of another plugin is about a string that the plugin looks up. -/
structure Undisturbed (parseEntityId : String → Option EntityId) (p : ι)
    (characterState : CharacterId → Bucket ι) (zoneState : String → Bucket ι)
    (ls : List (Label ι)) : Prop where
  calls : ∀ plugin a value, .set plugin a value ∈ ls → plugin ≠ p →
    ∀ packed, LooksUp p ls packed → ¬ Lands parseEntityId ls a packed
  characters : ∀ characterId key cell, (characterState characterId).lookup key = some cell →
    cell.setBy ≠ p → ∀ packed, LooksUp p ls packed → ¬ Hydrates ls characterId key packed
  zones : ∀ zoneId key cell, (zoneState zoneId).lookup key = some cell → cell.setBy ≠ p →
    .loadZone zoneId ∈ ls → ¬ LooksUp p ls (cacheKey (.zone zoneId) key)

/-- An entry, if there is one, has been set by the plugin last. -/
def Own (p : ι) (o : Option (Cell ι)) : Prop := ∀ cell ∈ o, cell.setBy = p

/-- The plugin gets only what it has set itself. -/
def ReadsOwn (p : ι) (s : State ι) : Label ι → Prop
  | .get plugin a => plugin = p → Own p (s.cache a.packed)
  | _ => True

/-- Where both entries are the plugin's own, they are the same. -/
def Match (p : ι) (o o' : Option (Cell ι)) : Prop := Own p o → Own p o' → o = o'

/-- The rows that the plugin has set are the same in both buckets. -/
def RowsMatch (p : ι) (rows rows' : Bucket ι) : Prop :=
  ∀ key, Match p (rows.lookup key) (rows'.lookup key)

variable {p : ι} {o o' : Option (Cell ι)}

theorem Match.refl : Match p o o := fun _ _ => rfl

theorem Match.symm (h : Match p o o') : Match p o' o := fun own' own => (h own own').symm

/-- An entry that another plugin has set excuses any difference. -/
theorem match_of_foreign {cell : Cell ι} (foreign : cell.setBy ≠ p) : Match p (some cell) o :=
  fun own _ => absurd (own cell rfl) foreign

theorem Match.or {r r' : Option (Cell ι)} (first : Match p r r') (second : Match p o o') :
    Match p (r.or o) (r'.or o') := by
  intro own own'
  cases r with
  | some cell =>
      cases r' with
      | some cell' => simpa using first own own'
      | none => cases first own nofun
  | none =>
      cases r' with
      | some cell' => cases first nofun own'
      | none => simpa using second (by simpa using own) (by simpa using own')

theorem Match.filter (h : Match p o o') (kept : Bool) :
    Match p (o.filter fun _ => kept) (o'.filter fun _ => kept) := by
  cases kept with
  | true => rwa [filter_kept rfl, filter_kept rfl]
  | false => simp [Match]

theorem RowsMatch.insert {rows rows' : Bucket ι} (h : RowsMatch p rows rows') (key : String)
    (cell : Cell ι) : RowsMatch p (rows.insert key cell) (rows'.insert key cell) := by
  intro key'
  by_cases here : key' = key
  · subst here
    rw [AList.lookup_insert, AList.lookup_insert]
    exact Match.refl
  · simpa [AList.lookup_insert_ne here] using h key'

theorem RowsMatch.insert_foreign {rows rows' : Bucket ι} (h : RowsMatch p rows rows')
    (key : String) {cell : Cell ι} (foreign : cell.setBy ≠ p) :
    RowsMatch p (rows.insert key cell) rows' := by
  intro key'
  by_cases here : key' = key
  · subst here
    rw [AList.lookup_insert]
    exact match_of_foreign foreign
  · simpa [AList.lookup_insert_ne here] using h key'

/-- For the plugin, the two states are the same. -/
structure Alike (p : ι) (s t : State ι) : Prop where
  cache : ∀ packed, Match p (s.cache packed) (t.cache packed)
  queue : (s.pendingStateWrites p).map (fun w => (w.address, w.value)) =
    (t.pendingStateWrites p).map fun w => (w.address, w.value)
  characterState : ∀ characterId,
    RowsMatch p (s.characterState characterId) (t.characterState characterId)
  zoneState : ∀ zoneId, RowsMatch p (s.zoneState zoneId) (t.zoneState zoneId)
  entityCharacters : s.entityCharacters = t.entityCharacters
  reading : ∀ e, (s.reading e = none ∧ t.reading e = none) ∨
    ∃ rows rows', s.reading e = some rows ∧ t.reading e = some rows' ∧ RowsMatch p rows rows'
  loadedZones : s.loadedZones = t.loadedZones

namespace Alike

variable {s s' t t' : State ι}

theorem symm (h : Alike p s t) : Alike p t s where
  cache packed := (h.cache packed).symm
  queue := h.queue.symm
  characterState characterId key := (h.characterState characterId key).symm
  zoneState zoneId key := (h.zoneState zoneId key).symm
  entityCharacters := h.entityCharacters.symm
  reading e := by
    rcases h.reading e with ⟨none, none'⟩ | ⟨rows, rows', here, there, same⟩
    · exact .inl ⟨none', none⟩
    · exact .inr ⟨rows', rows, there, here, fun key => (same key).symm⟩
  loadedZones := h.loadedZones.symm

variable [DecidableEq ι] {parseEntityId : String → Option EntityId} {hosted : List String}

omit [DecidableEq ι] in
theorem apply_foreign (h : Alike p s t) {plugin : ι} (different : plugin ≠ p) (w : Write)
    (fails : Bool) : Alike p (s.apply parseEntityId plugin w fails) t := by
  unfold State.apply
  split
  · split
    next entityId characterId _ =>
      split
      · exact h
      · refine { h with characterState := fun characterId' => ?_ }
        by_cases here : characterId' = characterId
        · subst here
          simpa [State.setCharacterState] using
            (h.characterState characterId').insert_foreign w.address.key different
        · simpa [State.setCharacterState, here] using h.characterState characterId'
    · exact h
  next zoneId _ =>
    split
    · exact h
    · refine { h with zoneState := fun zoneId' => ?_ }
      by_cases here : zoneId' = zoneId
      · subst here
        simpa [State.setZoneState] using
          (h.zoneState zoneId').insert_foreign w.address.key different
      · simpa [State.setZoneState, here] using h.zoneState zoneId'
  · exact h

omit [DecidableEq ι] in
theorem apply_own (h : Alike p s t) {w w' : Write} (address : w.address = w'.address)
    (value : w.value = w'.value) (fails : Bool) :
    Alike p (s.apply parseEntityId p w fails) (t.apply parseEntityId p w' fails) := by
  obtain ⟨⟨scope, key⟩, v, number⟩ := w
  obtain ⟨⟨scope', key'⟩, v', number'⟩ := w'
  cases address
  cases value
  cases scope with
  | entity entityId => exact h
  | zone zoneId =>
      cases fails with
      | true => exact h
      | false =>
          refine { h with zoneState := fun zoneId' => ?_ }
          by_cases here : zoneId' = zoneId
          · subst here
            simpa [State.apply, State.setZoneState] using (h.zoneState zoneId').insert key ⟨v, p⟩
          · simpa [State.apply, State.setZoneState, here] using h.zoneState zoneId'
  | character entityId =>
      have resolved : s.resolveCharacter parseEntityId entityId =
          t.resolveCharacter parseEntityId entityId := by
        rw [State.resolveCharacter, State.resolveCharacter, h.entityCharacters]
      simp only [State.apply, resolved]
      cases t.resolveCharacter parseEntityId entityId with
      | none => exact h
      | some characterId =>
          cases fails with
          | true => exact h
          | false =>
              refine { h with characterState := fun characterId' => ?_ }
              by_cases here : characterId' = characterId
              · subst here
                simpa [State.setCharacterState] using
                  (h.characterState characterId').insert key ⟨v, p⟩
              · simpa [State.setCharacterState, here] using h.characterState characterId'

omit [DecidableEq ι] in
theorem cacheRows (h : Alike p s t) {rows rows' : Bucket ι} (same : RowsMatch p rows rows')
    (scope : PluginStateScope) : Alike p (s.cacheRows scope rows) (t.cacheRows scope rows') := by
  have cache : ∀ packed, Match p ((s.cacheRows scope rows).cache packed)
      ((t.cacheRows scope rows').cache packed) := by
    intro packed
    by_cases here : ∃ key, packed = cacheKey scope key
    · obtain ⟨key, rfl⟩ := here
      rw [State.cache_cacheRows, State.cache_cacheRows]
      exact (same key).or (h.cache _)
    · have other := not_exists.mp here
      rw [State.cache_cacheRows_of_ne other, State.cache_cacheRows_of_ne other]
      exact h.cache packed
  obtain ⟨cached, hydrated, eq⟩ := s.cacheRows_eq scope rows
  obtain ⟨cached', hydrated', eq'⟩ := t.cacheRows_eq scope rows'
  rw [eq, eq'] at cache ⊢
  exact { h with cache }

/-- What another plugin does only turns entries into entries of others. -/
theorem foreign (h : Alike p s t) {l : Label ι} (other : l.concerns p = false)
    (taken : step parseEntityId hosted s l = some s') : Alike p s' t := by
  cases l with
  | set plugin a value =>
      have different : plugin ≠ p := by simpa [Label.concerns] using other
      cases taken
      refine { h with cache := fun packed => ?_, queue := ?_ }
      · by_cases here : packed = a.packed
        · simpa [State.set, here] using match_of_foreign different
        · simpa [State.set, here] using h.cache packed
      · refine Eq.trans ?_ h.queue
        obtain ⟨scope, key⟩ := a
        cases scope <;> simp [State.set, different.symm]
  | get plugin a =>
      cases taken
      exact h
  | persist plugin fails =>
      have different : plugin ≠ p := by simpa [Label.concerns] using other
      obtain ⟨w, rest, -, rfl⟩ := State.persist_eq taken
      have popped : Alike p { s with
          pendingStateWrites := Function.update s.pendingStateWrites plugin rest } t :=
        { h with queue := by simpa [Function.update_of_ne different.symm] using h.queue }
      exact popped.apply_foreign different w fails
  | register | read | hydrate | unregister | purge | loadZone => cases other

/-- The same step in both runs. -/
theorem both (h : Alike p s t) {l : Label ι} (own : l.concerns p = true)
    (taken : step parseEntityId hosted s l = some s')
    (taken' : step parseEntityId hosted t l = some t') : Alike p s' t' := by
  cases l with
  | set plugin a value =>
      have itself : plugin = p := by simpa [Label.concerns] using own
      subst itself
      cases taken
      cases taken'
      refine { h with cache := fun packed => ?_, queue := ?_ }
      · by_cases here : packed = a.packed
        · simp [State.set, here, Match]
        · simpa [State.set, here] using h.cache packed
      · have queue := h.queue
        obtain ⟨scope, key⟩ := a
        cases scope <;> simp [State.set, queue]
  | get plugin a =>
      cases taken
      cases taken'
      exact h
  | persist plugin fails =>
      have itself : plugin = p := by simpa [Label.concerns] using own
      subst itself
      obtain ⟨w, rest, queue, rfl⟩ := State.persist_eq taken
      obtain ⟨w', rest', queue', rfl⟩ := State.persist_eq taken'
      have same := h.queue
      rw [queue, queue', List.map_cons, List.map_cons, List.cons.injEq, Prod.mk.injEq] at same
      obtain ⟨⟨address, value⟩, later⟩ := same
      have popped : Alike plugin
          { s with pendingStateWrites := Function.update s.pendingStateWrites plugin rest }
          { t with pendingStateWrites := Function.update t.pendingStateWrites plugin rest' } :=
        { h with queue := by simpa using later }
      exact popped.apply_own address value fails
  | register e characterId =>
      cases taken
      cases taken'
      exact { h with entityCharacters := by simp only [h.entityCharacters] }
  | read e characterId =>
      cases taken
      cases taken'
      refine { h with reading := fun e' => ?_ }
      by_cases here : e' = e
      · subst here
        exact .inr ⟨_, _, Function.update_self _ _ _, Function.update_self _ _ _,
          h.characterState characterId⟩
      · simpa only [Function.update_of_ne here] using h.reading e'
  | hydrate e =>
      obtain ⟨rows, here, rfl⟩ := Option.map_eq_some_iff.mp taken
      obtain ⟨rows', there, rfl⟩ := Option.map_eq_some_iff.mp taken'
      rcases h.reading e with ⟨unread, -⟩ | ⟨read, read', here', there', same⟩
      · rw [unread] at here
        cases here
      obtain rfl : rows = read := Option.some.inj (here.symm.trans here')
      obtain rfl : rows' = read' := Option.some.inj (there.symm.trans there')
      refine { h.cacheRows same (.character (toString e)) with reading := fun e' => ?_ }
      by_cases itself : e' = e
      · subst itself
        exact .inl ⟨Function.update_self _ _ _, Function.update_self _ _ _⟩
      · simpa only [Function.update_of_ne itself] using h.reading e'
  | unregister e =>
      cases taken
      cases taken'
      exact { h with entityCharacters := by simp only [h.entityCharacters] }
  | purge e =>
      rw [← Option.some.inj taken, ← Option.some.inj taken']
      exact { h with cache := fun packed => (h.cache packed).filter _ }
  | loadZone zoneId =>
      simp only [step, Option.ite_none_right_eq_some, Option.some.injEq] at taken taken'
      obtain ⟨-, rfl⟩ := taken
      obtain ⟨-, rfl⟩ := taken'
      refine { h.cacheRows (h.zoneState zoneId) (.zone zoneId) with loadedZones := ?_ }
      exact congrArg (zoneId :: ·) h.loadedZones

end Alike

variable [DecidableEq ι] {parseEntityId : String → Option EntityId} {hosted : List String}
  {s t : State ι}

theorem seen_of_foreign {l : Label ι} (other : l.concerns p = false) : seen p s l = [] := by
  cases l with
  | get plugin a =>
      have different : plugin ≠ p := by simpa [Label.concerns] using other
      simp [seen, different]
  | _ => rfl

theorem Alike.seen_eq (h : Alike p s t) {l : Label ι} (own : ReadsOwn p s l)
    (own' : ReadsOwn p t l) : seen p s l = seen p t l := by
  cases l with
  | get plugin a =>
      simp only [seen]
      split
      next itself =>
        rw [State.get, State.get, h.cache a.packed (own itself) (own' itself)]
      · rfl
  | _ => rfl

/-- What is observed of a run that begins with the step. -/
theorem observed_cons {l : Label ι} {ls : List (Label ι)}
    (taken : step parseEntityId hosted s l = some t) :
    observed parseEntityId hosted p s (l :: ls) =
      seen p s l ++ observed parseEntityId hosted p t ls := by
  simp only [observed, taken]

theorem exists_step {l : Label ι} {ls : List (Label ι)}
    (run : (Transition.exec (step parseEntityId hosted) s (l :: ls)).isSome) :
    ∃ t, step parseEntityId hosted s l = some t ∧
      (Transition.exec (step parseEntityId hosted) t ls).isSome := by
  obtain ⟨last, run⟩ := Option.isSome_iff_exists.mp run
  obtain ⟨t, taken, rest⟩ := Transition.exec_cons.mp run
  exact ⟨t, taken, Option.isSome_iff_exists.mpr ⟨last, rest⟩⟩

/-- After steps of other plugins the states are alike still, and nothing has been seen. -/
theorem Alike.after_foreign (h : Alike p s t) {front rest : List (Label ι)}
    (foreign : ∀ l ∈ front, l.concerns p = false)
    (own : Transition.Admissible (step parseEntityId hosted) (ReadsOwn p) t (front ++ rest))
    (run : (Transition.exec (step parseEntityId hosted) t (front ++ rest)).isSome) :
    ∃ u, Alike p s u ∧ Transition.Admissible (step parseEntityId hosted) (ReadsOwn p) u rest ∧
      (Transition.exec (step parseEntityId hosted) u rest).isSome ∧
      observed parseEntityId hosted p t (front ++ rest) =
        observed parseEntityId hosted p u rest := by
  induction front generalizing t with
  | nil => exact ⟨t, h, own, run, rfl⟩
  | cons l front ih =>
      have other := foreign l (.head _)
      obtain ⟨t', taken, run⟩ := exists_step run
      obtain ⟨u, alike, own, run, seen_later⟩ := ih (h.symm.foreign other taken).symm
        (fun l' later => foreign l' (.tail _ later)) (own.2 t' taken) run
      refine ⟨u, alike, own, run, ?_⟩
      rw [List.cons_append, observed_cons taken, seen_of_foreign other, List.nil_append]
      exact seen_later

/-- Two runs from states that are alike for the plugin, of the same steps but for what the
other plugins do. -/
theorem Alike.observed_eq (h : Alike p s t) {ls ls' : List (Label ι)}
    (same : ls.filter (Label.concerns p) = ls'.filter (Label.concerns p))
    (own : Transition.Admissible (step parseEntityId hosted) (ReadsOwn p) s ls)
    (own' : Transition.Admissible (step parseEntityId hosted) (ReadsOwn p) t ls')
    (run : (Transition.exec (step parseEntityId hosted) s ls).isSome)
    (run' : (Transition.exec (step parseEntityId hosted) t ls').isSome) :
    observed parseEntityId hosted p s ls = observed parseEntityId hosted p t ls' := by
  induction ls generalizing s t ls' with
  | nil =>
      have foreign := List.filter_eq_nil_iff.mp same.symm
      rw [← List.append_nil ls'] at own' run' ⊢
      obtain ⟨u, -, -, -, unseen⟩ :=
        h.after_foreign (fun l there => by simpa using foreign l there) own' run'
      exact unseen.symm
  | cons l ls ih =>
      obtain ⟨s', taken, run⟩ := exists_step run
      rw [observed_cons taken]
      cases concerned : l.concerns p with
      | false =>
          rw [List.filter_cons_of_neg (by simp [concerned])] at same
          rw [seen_of_foreign concerned, List.nil_append]
          exact ih (h.foreign concerned taken) same (own.2 s' taken) own' run run'
      | true =>
          rw [List.filter_cons_of_pos concerned] at same
          obtain ⟨front, rest, rfl, foreign, -, later⟩ := List.filter_eq_cons_iff.mp same.symm
          obtain ⟨u, alike, own', run', unseen⟩ :=
            h.after_foreign (fun l there => by simpa using foreign l there) own' run'
          obtain ⟨u', taken', run'⟩ := exists_step run'
          rw [unseen, observed_cons taken', alike.seen_eq own.1 own'.1]
          exact congrArg _ (ih (alike.both concerned taken taken') later.symm (own.2 s' taken)
            (own'.2 u' taken') run run')

/-! ### Where no other plugin is about what the plugin looks up -/

/-- Nothing of another plugin is where the plugin will look it up, and nothing is on its way
there. `ls` are the steps of the whole run. -/
structure Clear (parseEntityId : String → Option EntityId) (p : ι) (ls : List (Label ι))
    (s : State ι) : Prop where
  cache : ∀ packed, LooksUp p ls packed → Own p (s.cache packed)
  queued : ∀ plugin, plugin ≠ p → ∀ w ∈ s.pendingStateWrites plugin,
    ∀ packed, LooksUp p ls packed → ¬ Lands parseEntityId ls w.address packed
  characters : ∀ characterId key cell,
    (s.characterState characterId).lookup key = some cell → cell.setBy ≠ p →
      ∀ packed, LooksUp p ls packed → ¬ Hydrates ls characterId key packed
  zones : ∀ zoneId key cell, (s.zoneState zoneId).lookup key = some cell → cell.setBy ≠ p →
    .loadZone zoneId ∈ ls → ¬ LooksUp p ls (cacheKey (.zone zoneId) key)
  registered : ∀ e characterId, s.entityCharacters e = some characterId →
    .register e characterId ∈ ls
  reading : ∀ e rows, s.reading e = some rows → ∀ key cell, rows.lookup key = some cell →
    cell.setBy ≠ p → ¬ LooksUp p ls (cacheKey (.character (toString e)) key)

namespace Clear

variable {ls : List (Label ι)}

omit [DecidableEq ι] in
theorem of_undisturbed {characterState : CharacterId → Bucket ι} {zoneState : String → Bucket ι}
    (undisturbed : Undisturbed parseEntityId p characterState zoneState ls) :
    Clear parseEntityId p ls (start characterState zoneState) where
  cache _ _ := nofun
  queued _ _ := nofun
  characters := undisturbed.characters
  zones := undisturbed.zones
  registered _ _ := nofun
  reading _ _ := nofun

theorem set (h : Clear parseEntityId p ls s) {plugin : ι} {a : Address} {value : Value}
    (apart : plugin ≠ p → ∀ packed, LooksUp p ls packed → ¬ Lands parseEntityId ls a packed) :
    Clear parseEntityId p ls (s.set plugin a value) := by
  refine { h with cache := fun packed looked => ?_, queued := fun other foreign w there => ?_ }
  · by_cases here : packed = a.packed
    · subst here
      have own : plugin = p := by
        by_contra foreign
        exact apart foreign a.packed looked (.inl rfl)
      simp [State.set, Own, own]
    · simpa [State.set, here] using h.cache packed looked
  · obtain before | ⟨rfl, -, rfl⟩ := State.mem_pending_set.mp there
    · exact h.queued other foreign w before
    · exact apart foreign

omit [DecidableEq ι] in
/-- A write of another plugin lands in a row that the plugin does not look up. -/
theorem apply (h : Clear parseEntityId p ls s) {plugin : ι} {w : Write} (fails : Bool)
    (apart : plugin ≠ p → ∀ packed, LooksUp p ls packed →
      ¬ Lands parseEntityId ls w.address packed) :
    Clear parseEntityId p ls (s.apply parseEntityId plugin w fails) := by
  obtain ⟨⟨scope, key⟩, value, number⟩ := w
  cases scope with
  | entity id => exact h
  | zone id =>
      cases fails with
      | true => exact h
      | false =>
          refine { h with zones := fun zoneId key' cell there foreign loaded looked => ?_ }
          by_cases own : zoneId = id
          · subst own
            by_cases itself : key' = key
            · subst itself
              have stored : cell = ⟨value, plugin⟩ := by
                simpa [State.apply, State.setZoneState, eq_comm] using there
              rw [stored] at foreign
              exact apart foreign _ looked (.inl rfl)
            · refine h.zones zoneId key' cell ?_ foreign loaded looked
              simpa [State.apply, State.setZoneState, AList.lookup_insert_ne itself] using there
          · refine h.zones zoneId key' cell ?_ foreign loaded looked
            simpa [State.apply, State.setZoneState, own] using there
  | character id =>
      cases resolved : s.resolveCharacter parseEntityId id with
      | none => simpa [State.apply, resolved] using h
      | some characterId =>
          cases fails with
          | true => simpa [State.apply, resolved] using h
          | false =>
              simp only [State.apply, resolved, Bool.false_eq_true, if_false]
              refine { h with
                characters := fun other key' cell there foreign packed looked lands => ?_ }
              by_cases own : other = characterId
              · subst own
                by_cases itself : key' = key
                · subst itself
                  have stored : cell = ⟨value, plugin⟩ := by
                    simpa [State.setCharacterState, eq_comm] using there
                  rw [stored] at foreign
                  obtain ⟨e, parsed, mapped⟩ := Option.bind_eq_some_iff.mp resolved
                  exact apart foreign packed looked
                    (.inr ⟨id, e, other, rfl, parsed, h.registered e other mapped, lands⟩)
                · refine h.characters other key' cell ?_ foreign packed looked lands
                  simpa [State.setCharacterState, AList.lookup_insert_ne itself] using there
              · refine h.characters other key' cell ?_ foreign packed looked lands
                simpa [State.setCharacterState, own] using there

omit [DecidableEq ι] in
theorem cacheRows (h : Clear parseEntityId p ls s) {scope : PluginStateScope} {rows : Bucket ι}
    (own : ∀ key cell, rows.lookup key = some cell → cell.setBy ≠ p →
      ¬ LooksUp p ls (cacheKey scope key)) : Clear parseEntityId p ls (s.cacheRows scope rows) := by
  have cache : ∀ packed, LooksUp p ls packed → Own p ((s.cacheRows scope rows).cache packed) := by
    intro packed looked
    by_cases here : ∃ key, packed = cacheKey scope key
    · obtain ⟨key, rfl⟩ := here
      rw [State.cache_cacheRows]
      cases row : rows.lookup key with
      | none => simpa using h.cache _ looked
      | some cell =>
          intro found there
          cases there
          by_contra foreign
          exact own key cell row foreign looked
    · rw [State.cache_cacheRows_of_ne (not_exists.mp here)]
      exact h.cache packed looked
  obtain ⟨cached, hydrated, eq⟩ := s.cacheRows_eq scope rows
  rw [eq] at cache ⊢
  exact { h with cache }

/-- One step of the run. -/
theorem step (h : Clear parseEntityId p ls s) {l : Label ι} (among : l ∈ ls)
    (apart : ∀ plugin a value, .set plugin a value ∈ ls → plugin ≠ p →
      ∀ packed, LooksUp p ls packed → ¬ Lands parseEntityId ls a packed)
    (taken : step parseEntityId hosted s l = some t) : Clear parseEntityId p ls t := by
  cases l with
  | set plugin a value =>
      cases taken
      exact h.set (apart plugin a value among)
  | get plugin a =>
      cases taken
      exact h
  | persist plugin fails =>
      obtain ⟨w, rest, queue, rfl⟩ := State.persist_eq taken
      have popped : Clear parseEntityId p ls { s with
          pendingStateWrites := Function.update s.pendingStateWrites plugin rest } := by
        refine { h with queued := fun other foreign w' there => ?_ }
        refine h.queued other foreign w' ?_
        by_cases own : other = plugin
        · subst own
          rw [queue]
          exact List.mem_cons_of_mem _ (by simpa using there)
        · simpa [own] using there
      refine popped.apply fails fun foreign => h.queued plugin foreign w ?_
      rw [queue]
      exact .head _
  | register e characterId =>
      cases taken
      refine { h with registered := fun e' characterId' mapped => ?_ }
      dsimp only at mapped
      by_cases own : e' = e
      · subst own
        rw [Function.update_self] at mapped
        cases mapped
        exact among
      · rw [Function.update_of_ne own] at mapped
        exact h.registered e' characterId' mapped
  | read e characterId =>
      cases taken
      refine { h with reading := fun e' rows read key cell there foreign looked => ?_ }
      dsimp only at read
      by_cases own : e' = e
      · subst own
        rw [Function.update_self] at read
        cases read
        exact h.characters characterId key cell there foreign _ looked ⟨e', among, rfl⟩
      · rw [Function.update_of_ne own] at read
        exact h.reading e' rows read key cell there foreign looked
  | hydrate e =>
      obtain ⟨rows, read, rfl⟩ := Option.map_eq_some_iff.mp taken
      refine { h.cacheRows (h.reading e rows read) with reading := fun e' rows' read' => ?_ }
      dsimp only at read'
      by_cases own : e' = e
      · subst own
        rw [Function.update_self] at read'
        cases read'
      · rw [Function.update_of_ne own] at read'
        exact h.reading e' rows' read'
  | unregister e =>
      cases taken
      refine { h with registered := fun e' characterId mapped => ?_ }
      dsimp only at mapped
      by_cases own : e' = e
      · subst own
        rw [Function.update_self] at mapped
        cases mapped
      · rw [Function.update_of_ne own] at mapped
        exact h.registered e' characterId mapped
  | purge e =>
      rw [← Option.some.inj taken]
      refine { h with cache := fun packed looked cell there => ?_ }
      exact h.cache packed looked cell (Option.mem_filter_iff.mp there).1
  | loadZone zoneId =>
      simp only [PluginState.step, Option.ite_none_right_eq_some, Option.some.injEq] at taken
      obtain ⟨-, rfl⟩ := taken
      have own := fun key cell there foreign => h.zones zoneId key cell there foreign among
      exact { h.cacheRows own with registered := (h.cacheRows own).registered }

/-- So all that the plugin gets in the rest of the run is its own. -/
theorem readsOwn (h : Clear parseEntityId p ls s)
    (apart : ∀ plugin a value, .set plugin a value ∈ ls → plugin ≠ p →
      ∀ packed, LooksUp p ls packed → ¬ Lands parseEntityId ls a packed)
    {rest : List (Label ι)} (among : ∀ l ∈ rest, l ∈ ls) :
    Transition.Admissible (PluginState.step parseEntityId hosted) (ReadsOwn p) s rest := by
  induction rest generalizing s with
  | nil => trivial
  | cons l rest ih =>
      have here := among l (.head _)
      refine ⟨?_, fun t taken => ih (h.step here apart taken) fun l' later =>
        among l' (.tail _ later)⟩
      cases l with
      | get plugin a =>
          rintro rfl
          exact h.cache a.packed ⟨a, here, rfl⟩
      | _ => trivial

end Clear

/-- Two processes whose tables have the same rows of the plugin, and which go through the
same steps but for those of the other plugins, return the same to each of its gets, as long
as no call and no row of another plugin is about what it looks up. -/
theorem state_is_isolated {characterState characterState' : CharacterId → Bucket ι}
    {zoneState zoneState' : String → Bucket ι}
    (characters : ∀ characterId,
      RowsMatch p (characterState characterId) (characterState' characterId))
    (zones : ∀ zoneId, RowsMatch p (zoneState zoneId) (zoneState' zoneId))
    {ls ls' : List (Label ι)}
    (same : ls.filter (Label.concerns p) = ls'.filter (Label.concerns p))
    (alone : Undisturbed parseEntityId p characterState zoneState ls)
    (alone' : Undisturbed parseEntityId p characterState' zoneState' ls')
    (run : (Transition.exec (step parseEntityId hosted) (start characterState zoneState) ls).isSome)
    (run' : (Transition.exec (step parseEntityId hosted)
      (start characterState' zoneState') ls').isSome) :
    observed parseEntityId hosted p (start characterState zoneState) ls =
      observed parseEntityId hosted p (start characterState' zoneState') ls' := by
  have alike : Alike p (start characterState zoneState) (start characterState' zoneState') :=
    { cache := fun _ => Match.refl
      queue := rfl
      characterState := characters
      zoneState := zones
      entityCharacters := rfl
      reading := fun _ => .inl ⟨rfl, rfl⟩
      loadedZones := rfl }
  exact alike.observed_eq same
    ((Clear.of_undisturbed alone).readsOwn alone.calls (fun _ => id))
    ((Clear.of_undisturbed alone').readsOwn alone'.calls (fun _ => id)) run run'

namespace TwoTenants

def empty : State Bool := start (fun _ => ∅) (fun _ => ∅)

def fee : Address := ⟨.zone "harbor", "fee"⟩

def toll : Address := ⟨.zone "harbor", "toll"⟩

/-- One plugin reads what the other one has set. -/
theorem read_from_other :
    [Label.set true fee [5], .get false fee].filter (Label.concerns false) =
      [Label.get false fee].filter (Label.concerns false) ∧
    observed (fun _ => none) ["harbor"] false empty [.set true fee [5], .get false fee] =
      [some [5]] ∧
    observed (fun _ => none) ["harbor"] false empty [.get false fee] = [none] := by
  decide

/-- The rows of the harbor, with or without one of the other plugin. -/
def rows (shared : Bool) : String → Bucket Bool := fun zoneId =>
  if zoneId = "harbor" then
    if shared then (AList.singleton "fee" ⟨[3], false⟩).insert "toll" ⟨[9], true⟩
    else AList.singleton "fee" ⟨[3], false⟩
  else ∅

def alone : List (Label Bool) := [.loadZone "harbor", .get false fee]

def shared : List (Label Bool) :=
  [.loadZone "harbor", .set true toll [5], .persist true false, .get false fee]

theorem rowsMatch (zoneId : String) : RowsMatch false (rows true zoneId) (rows false zoneId) := by
  unfold rows
  split
  · intro key
    by_cases own : key = "toll"
    · subst own
      exact match_of_foreign (by decide)
    · simp [AList.lookup_insert_ne own, Match.refl]
  · exact fun _ => Match.refl

/-- The other plugin has no row but the toll. -/
theorem toll_of_foreign {tolled : Bool} {zoneId key : String} {cell : Cell Bool}
    (there : (rows tolled zoneId).lookup key = some cell) (foreign : cell.setBy ≠ false) :
    zoneId = "harbor" ∧ key = "toll" := by
  have fees : ∀ key cell, (AList.singleton "fee" ⟨[3], false⟩ : Bucket Bool).lookup key =
      some cell → cell.setBy = false := by
    intro key cell there
    by_cases own : key = "fee"
    · subst own
      cases there
      rfl
    · rw [← AList.insert_empty, AList.lookup_insert_ne own, AList.lookup_empty] at there
      cases there
  unfold rows at there
  split at there
  next harbor =>
    split at there
    · by_cases own : key = "toll"
      · exact ⟨harbor, own⟩
      · rw [AList.lookup_insert_ne own] at there
        exact absurd (fees key cell there) foreign
    · exact absurd (fees key cell there) foreign
  · cases there

theorem undisturbed {tolled : Bool} {ls : List (Label Bool)}
    (gets : ∀ a, .get false a ∈ ls → a = fee)
    (sets : ∀ plugin a value, .set plugin a value ∈ ls → a = toll) :
    Undisturbed (fun _ => none) false (fun _ => ∅) (rows tolled) ls := by
  have looked : ∀ packed, LooksUp false ls packed → packed = "zone:harbor:fee" := by
    rintro packed ⟨a, there, rfl⟩
    rw [gets a there]
    rfl
  refine ⟨fun plugin a value there _ packed here lands => ?_, fun _ _ _ => nofun,
    fun zoneId key cell there foreign _ here => ?_⟩
  · rw [looked packed here, sets plugin a value there] at lands
    obtain same | ⟨id, e, characterId, scope, -⟩ := lands
    · revert same
      decide
    · cases scope
  · obtain ⟨rfl, rfl⟩ := toll_of_foreign there foreign
    have same := looked _ here
    revert same
    decide

theorem state_is_isolated_fee :
    observed (fun _ => none) ["harbor"] false (start (fun _ => ∅) (rows true)) shared = [some [3]] ∧
    observed (fun _ => none) ["harbor"] false (start (fun _ => ∅) (rows true)) shared =
      observed (fun _ => none) ["harbor"] false (start (fun _ => ∅) (rows false)) alone :=
  ⟨by decide, state_is_isolated (fun _ _ => Match.refl) rowsMatch (by decide)
    (undisturbed (by simp [shared]) (by simp [shared]))
    (undisturbed (by simp [alone]) (by simp [alone])) (by decide) (by decide)⟩

end TwoTenants

end WorldZero.Server.PluginState
