import WorldZero.Server.WorldActor

/-!
# Plugin effects stay with their dispatch

Each queue is drained at one place of a dispatch, if at all, while hooks are called at
several. What a hook queues is applied in the same dispatch exactly if it is of a kind that
is drained after the hook's own place: the spawns only after `on-message` and
`on-chat-command`, most others before the confirmations are sent.
-/

namespace WorldZero.Server.World

open Outbox Box

variable {σ Position : Type}

/-- Not a queue that `drain_and_apply_plugin_effects` drains. -/
def Queue.neglected : Queue → Bool
  | .spawns | .characterStatDeltas => true
  | _ => false

/-- Drained by `drain_and_apply_plugin_effects` only when the other requests have been
applied and their confirmations sent. -/
def Queue.last : Queue → Bool
  | .deaths | .respawns | .itemRegistrations => true
  | _ => false

/-- The queues that the actor still drains after a call of the hook, in the same dispatch. -/
def HookCall.drains : HookCall Position → Queue → Bool
  | .onMessage .., q | .onChatCommand .., q => decide (q ≠ .characterStatDeltas)
  | .onItemAcquire .., q => q.last
  | .onDeath _, q => q.last && decide (q ≠ .deaths)
  | .onRespawn _, q => decide (q = .itemRegistrations)
  | _, q => !q.neglected

/-- What the plugin has queued in the dispatch has been applied in it, each request once and
in the order of the calls, and none of it is left in the queues. -/
def PluginRuntime.Contained (runtime : PluginRuntime Position) : Prop := runtime.outbox.Contained

/-- No hook of the plugin has queued a request of a kind that is not drained after it. -/
def PluginRuntime.InTime (runtime : PluginRuntime Position) : Prop :=
  ∀ call ∈ runtime.outbox.calls, ∀ q, call.2 q ≠ [] → call.1.drains q = true

namespace Turn

variable {host : Host σ Position} {zoneId : String} {t : Turn σ Position} {q : Queue}
  {inFlight : (q : Queue) → List (Entry (Request Position q))} {settled : Queue → Bool}

/-- The plugin's round is at the place where these queues are settled. -/
def At (inFlight : (q : Queue) → List (Entry (Request Position q))) (settled : Queue → Bool)
    (t : Turn σ Position) : Prop :=
  t.runtime.outbox.Round HookCall.drains inFlight settled

namespace At

theorem call {hook : HookCall Position} (place : At inFlight settled t)
    (stands : ∀ q, hook.drains q = !settled q) : At inFlight settled (t.call host zoneId hook) :=
  Round.push place stands

theorem callIfWanted {hook : HookCall Position} (place : At inFlight settled t)
    (stands : ∀ q, hook.drains q = !settled q) :
    At inFlight settled (t.callIfWanted host zoneId hook) := by
  unfold Turn.callIfWanted
  split
  · exact place.call stands
  · exact place

theorem take (place : At inFlight settled t) (idle : inFlight q = [])
    (unsettled : settled q = false) :
    At (Function.update inFlight q (t.pending q)) (Function.update settled q true) (t.take q) :=
  Round.take place idle unsettled

theorem apply {entry : Entry (Request Position q)} {rest : List (Entry (Request Position q))}
    (place : At inFlight settled t) (op : Request Position q → σ → σ)
    (next : inFlight q = entry :: rest) :
    At (Function.update inFlight q rest) settled (t.apply q op entry) :=
  Round.done place next

/-- The entries that have been taken are handled one by one. -/
theorem foldl {entries : List (Entry (Request Position q))} (place : At inFlight settled t)
    (turn : Turn σ Position → Entry (Request Position q) → Turn σ Position)
    (handles : ∀ {inFlight : (q : Queue) → List (Entry (Request Position q))}
      {t : Turn σ Position} (entry rest), At inFlight settled t → inFlight q = entry :: rest →
      At (Function.update inFlight q rest) settled (turn t entry))
    (taken : inFlight q = entries) :
    At (Function.update inFlight q []) settled (entries.foldl turn t) := by
  induction entries generalizing inFlight t with
  | nil =>
      have same : Function.update inFlight q [] = inFlight := by
        rw [← taken, Function.update_eq_self]
      rw [same]
      exact place
  | cons entry entries ih =>
      have next := ih (handles entry entries place taken) (by simp)
      rwa [Function.update_idem] at next

theorem applyEach (place : At inFlight settled t) (op : Request Position q → σ → σ)
    (entries : List (Entry (Request Position q))) (taken : inFlight q = entries) :
    At (Function.update inFlight q []) settled (t.applyEach q op entries) :=
  place.foldl _ (fun _ _ place next => place.apply op next) taken

variable (host zoneId) in
theorem confirmEach (place : At inFlight settled t) (hook : Request Position q → HookCall Position)
    (entries : List (Entry (Request Position q)))
    (stands : ∀ request q, (hook request).drains q = !settled q) (taken : inFlight q = entries) :
    At (Function.update inFlight q []) settled (t.confirmEach host zoneId q hook entries) :=
  place.foldl _ (fun _ _ place next => (place.apply _ next).callIfWanted (stands _)) taken

variable (host) in
theorem applyGrants (place : At inFlight settled t)
    (entries : List (Entry (Request Position .itemGrants)))
    (taken : inFlight .itemGrants = entries) :
    At (Function.update inFlight .itemGrants []) settled (applyGrants host entries t).2 := by
  induction entries generalizing inFlight t with
  | nil =>
      have same : Function.update inFlight .itemGrants [] = inFlight := by
        rw [← taken, Function.update_eq_self]
      rw [same]
      exact place
  | cons entry entries ih =>
      have next := ih (place.apply (fun _ _ => (host.itemGrant entry.request t.world).2) taken)
        (by simp)
      rw [Function.update_idem] at next
      simp only [Turn.applyGrants]
      split <;> exact next

variable (host zoneId) in
theorem acquired (place : At inFlight settled t) (hook : String × String × Int → HookCall Position)
    (grants : List (String × String × Int))
    (stands : ∀ grant q, (hook grant).drains q = !settled q) :
    At inFlight settled
      (grants.foldl (fun t grant => t.callIfWanted host zoneId (hook grant)) t) := by
  induction grants generalizing t with
  | nil => exact place
  | cons grant grants ih => exact ih (place.callIfWanted (stands grant))

end At

/-- What `apply_plugin_pending_effects` is given, queue by queue. -/
def PendingEffects.entries (effects : PendingEffects Position) :
    (q : Queue) → List (Entry (Request Position q))
  | .moves => effects.moves
  | .teleports => effects.teleports
  | .statDeltas => effects.statDeltas
  | .itemGrants => effects.itemGrants
  | .itemRemovals => effects.itemRemovals
  | .currencyDeltas => effects.currencyDeltas
  | .stateWrites => effects.stateWrites
  | _ => []

namespace At

theorem cast {inFlight' : (q : Queue) → List (Entry (Request Position q))}
    {settled' : Queue → Bool} (place : At inFlight settled t)
    (same : ∀ q, inFlight q = inFlight' q) (same' : ∀ q, settled q = settled' q) :
    At inFlight' settled' t := by
  rwa [← funext same, ← funext same']

theorem emptied {entries : List (Entry (Request Position q))}
    (place : At (Function.update (Function.update (fun _ => []) q entries) q []) settled t) :
    At (fun _ => []) settled t := by
  rwa [Function.update_idem, Function.update_eq_self] at place

theorem takePendingEffects
    (place : At (fun _ => []) Queue.neglected t) :
    At t.pendingEffects.entries (fun q => !q.last) t.takePendingEffects := by
  have taken := ((((((place.take (q := .moves) rfl rfl).take (q := .teleports) rfl rfl).take
    (q := .statDeltas) rfl rfl).take (q := .itemGrants) rfl rfl).take
    (q := .itemRemovals) rfl rfl).take (q := .currencyDeltas) rfl rfl).take
    (q := .stateWrites) rfl rfl
  refine taken.cast ?_ ?_
  · intro q
    cases q <;> rfl
  · intro q
    cases q <;> rfl

theorem applyPluginPendingEffects {effects : PendingEffects Position}
    (place : At effects.entries settled t) :
    At (fun _ => []) settled (t.applyPluginPendingEffects host zoneId effects).2 := by
  have granted := (((place.applyEach (host.move zoneId) effects.moves rfl).applyEach
    (host.teleport zoneId) effects.teleports rfl).applyEach
    (host.statDelta zoneId) effects.statDeltas rfl).applyGrants host effects.itemGrants rfl
  have applied := ((granted.applyEach host.itemRemoval effects.itemRemovals rfl).applyEach
    host.currencyDelta effects.currencyDeltas rfl).applyEach
    host.stateWrite effects.stateWrites rfl
  refine applied.cast ?_ fun _ => rfl
  intro q
  cases q <;> rfl

theorem confirm {acquired : List (String × String × Int)}
    (place : At (fun _ => []) (fun q => !q.last) t) :
    At (fun _ => []) (fun _ => true) (t.confirm host zoneId acquired) := by
  have acquires := place.acquired host zoneId
    (fun grant => .onItemAcquire grant.1 grant.2.1 grant.2.2) acquired (by
      intro grant q
      cases q <;> rfl)
  have died := ((acquires.take (q := .deaths) rfl rfl).confirmEach host zoneId .onDeath _ (by
    intro request q
    cases q <;> rfl) rfl).emptied
  have respawned := ((died.take (q := .respawns) rfl rfl).confirmEach host zoneId .onRespawn _ (by
    intro request q
    cases q <;> rfl) rfl).emptied
  have registered := ((respawned.take (q := .itemRegistrations) rfl rfl).applyEach
    host.registerItemType _ rfl).emptied
  refine registered.cast (fun _ => rfl) ?_
  intro q
  cases q <;> rfl

theorem drainAndApply
    (place : At (fun _ => []) Queue.neglected t) :
    At (fun _ => []) (fun _ => true) (t.drainAndApply host zoneId) :=
  place.takePendingEffects.applyPluginPendingEffects.confirm

end At

/-- A plugin that has not been called in the dispatch. -/
def Unused (t : Turn σ Position) : Prop := ∀ settled, At (fun _ => []) settled t

/-- The turn of a plugin is over, with all that is drained at all. -/
def Over (t : Turn σ Position) : Prop := At (fun _ => []) (fun _ => true) t

theorem over_fireHook {hook : HookCall Position} (unused : Unused t)
    (stands : ∀ q, hook.drains q = !q.neglected) :
    Over (t.fireHook host zoneId hook) := by
  unfold Turn.fireHook
  split
  · exact ((unused _).call stands).drainAndApply
  · exact unused _

theorem At.routes {routes : List (EntityId × Position)}
    (place : At (fun _ => []) Queue.neglected t) :
    At (fun _ => []) Queue.neglected
      (routes.foldl (fun t (entity, position) =>
        t.call host zoneId (.onNpcTick (toString entity) position)) t) := by
  induction routes generalizing t with
  | nil => exact place
  | cons npc routes ih =>
      refine ih (place.call ?_)
      intro q
      cases q <;> rfl

theorem over_tick {routes : List (EntityId × Position)} (unused : Unused t) :
    Over (t.tick host zoneId routes) := by
  unfold Turn.tick
  split
  · exact unused _
  · have patrolled : At (fun _ => []) Queue.neglected
        (if t.runtime.wants "on-npc-tick" then
          routes.foldl (fun t (entity, position) =>
            t.call host zoneId (.onNpcTick (toString entity) position)) t
        else t) := by
      split
      · exact (unused _).routes
      · exact unused _
    have ticked {t : Turn σ Position} (place : At (fun _ => []) Queue.neglected t) :
        At (fun _ => []) Queue.neglected
          (if t.runtime.wants "on-tick" then t.call host zoneId .onTick else t) := by
      split
      · refine place.call ?_
        intro q
        cases q <;> rfl
      · exact place
    exact (ticked patrolled).drainAndApply

theorem At.spawnNpc {entry : Entry String} {rest : List (Entry String)}
    (place : At inFlight Queue.neglected t) (next : inFlight .spawns = entry :: rest) :
    At (Function.update inFlight .spawns rest) Queue.neglected (t.spawnNpc host zoneId entry) := by
  unfold Turn.spawnNpc
  have spawned := place.apply
    (fun _ _ => (host.spawnNpcFromTable zoneId entry.request t.world).2) next
  simp only
  split
  · refine spawned.callIfWanted ?_
    intro q
    cases q <;> rfl
  · exact spawned

theorem At.spawnRequestedNpcs (place : At (fun _ => []) (fun q => q = .characterStatDeltas) t) :
    At (fun _ => []) Queue.neglected (t.spawnRequestedNpcs host zoneId) := by
  have taken : At _ Queue.neglected (t.take .spawns) :=
    (place.take (q := .spawns) rfl rfl).cast (fun _ => rfl) (by
      intro q
      cases q <;> rfl)
  exact (taken.foldl (q := .spawns) _ (fun _ _ place next => place.spawnNpc next) rfl).emptied

theorem over_ownHook {hook : HookCall Position} (unused : Unused t)
    (stands : ∀ q, hook.drains q = !decide (q = .characterStatDeltas)) :
    Over (t.ownHook host zoneId hook) :=
  ((unused _).call stands).spawnRequestedNpcs.drainAndApply

end Turn

/-- Each plugin is left as its own turn leaves it. -/
theorem mem_forEachPlugin {turn : Turn σ Position → Turn σ Position}
    {plugins : List (PluginRuntime Position)} {world : σ} {runtime : PluginRuntime Position}
    (left : runtime ∈ (forEachPlugin turn plugins world).1) :
    ∃ before ∈ plugins, ∃ world, runtime = (turn ⟨before, world⟩).runtime := by
  induction plugins generalizing world with
  | nil => cases left
  | cons plugin plugins ih =>
      rcases List.mem_cons.mp left with rfl | later
      · exact ⟨plugin, by simp, world, rfl⟩
      · obtain ⟨before, loaded, world', rfl⟩ := ih later
        exact ⟨before, by simp [loaded], world', rfl⟩

theorem mem_forOwner {owns : PluginRuntime Position → Bool}
    {turn : Turn σ Position → Turn σ Position} {plugins : List (PluginRuntime Position)}
    {world : σ} {runtime : PluginRuntime Position}
    (left : runtime ∈ (forOwner owns turn plugins world).1) :
    runtime ∈ plugins ∨
      ∃ before ∈ plugins, ∃ world, runtime = (turn ⟨before, world⟩).runtime := by
  induction plugins generalizing world with
  | nil => cases left
  | cons plugin plugins ih =>
      simp only [forOwner] at left
      split at left
      · rcases List.mem_cons.mp left with rfl | later
        · exact .inr ⟨plugin, by simp, world, rfl⟩
        · exact .inl (by simp [later])
      · rcases List.mem_cons.mp left with rfl | later
        · exact .inl (by simp)
        · obtain there | ⟨before, loaded, world', rfl⟩ := ih later
          · exact .inl (by simp [there])
          · exact .inr ⟨before, by simp [loaded], world', rfl⟩

/-- The plugin's round is over. -/
def PluginRuntime.RoundOver (runtime : PluginRuntime Position) : Prop :=
  runtime.outbox.Round HookCall.drains (fun _ => []) (fun _ => true)

section Rounds

variable {turn : Turn σ Position → Turn σ Position} {plugins : List (PluginRuntime Position)}
  {world : σ} {runtime : PluginRuntime Position}

theorem roundOver_forEachPlugin
    (unused : ∀ runtime ∈ plugins, ∀ world : σ, Turn.Unused ⟨runtime, world⟩)
    (ends : ∀ t : Turn σ Position, t.Unused → (turn t).Over)
    (left : runtime ∈ (forEachPlugin turn plugins world).1) : runtime.RoundOver := by
  obtain ⟨before, loaded, world', rfl⟩ := mem_forEachPlugin left
  exact ends _ (unused before loaded world')

theorem roundOver_forOwner {owns : PluginRuntime Position → Bool}
    (unused : ∀ runtime ∈ plugins, ∀ world : σ, Turn.Unused ⟨runtime, world⟩)
    (ends : ∀ t : Turn σ Position, t.Unused → (turn t).Over)
    (left : runtime ∈ (forOwner owns turn plugins world).1) : runtime.RoundOver := by
  obtain there | ⟨before, loaded, world', rfl⟩ := mem_forOwner left
  · exact unused runtime there world _
  · exact ends _ (unused before loaded world')

theorem roundOver_fanOut {host : Host σ Position} {zoneId : String} {hook : HookCall Position}
    (unused : ∀ runtime ∈ plugins, ∀ world : σ, Turn.Unused ⟨runtime, world⟩)
    (stands : ∀ q, hook.drains q = !q.neglected)
    (left : runtime ∈ (runDispatch.fanOut host zoneId plugins world hook).1) :
    runtime.RoundOver :=
  roundOver_forEachPlugin unused (fun _ fresh => Turn.over_fireHook fresh stands) left

/-- A dispatch of any kind drains all that it drains at all. -/
theorem roundOver_runDispatch {host : Host σ Position} {zoneId : String} {d : Dispatch Position}
    (unused : ∀ runtime ∈ plugins, ∀ world : σ, Turn.Unused ⟨runtime, world⟩)
    (left : runtime ∈ (runDispatch host zoneId plugins world d).1) : runtime.RoundOver := by
  cases d with
  | tick routes => exact roundOver_forEachPlugin unused (fun _ => Turn.over_tick) left
  | pluginMessage | chatCommand =>
      refine roundOver_forOwner unused (fun _ fresh => Turn.over_ownHook fresh ?_) left
      intro q
      cases q <;> rfl
  | playerJoin | playerLeave | useItem | itemDropped =>
      exact roundOver_fanOut unused (fun _ => rfl) left
  | attack attacker target statKey =>
      simp only [runDispatch] at left
      split at left
      · exact unused runtime left world _
      · exact roundOver_fanOut unused (fun _ => rfl) left
  | interactNpc npc actor =>
      simp only [runDispatch] at left
      split at left
      · exact unused runtime left world _
      · exact roundOver_fanOut unused (fun _ => rfl) left

end Rounds

/-- Whatever the queues have held before, in whatever world and zone: the effects of all
plugins stay with the dispatch exactly if each hook that is called in it has queued only
requests of the kinds that are drained after it. -/
theorem contained_iff_inTime (host : Host σ Position) (zoneId : String)
    (plugins : List (PluginRuntime Position)) (world : σ) (d : Dispatch Position) :
    (∀ runtime ∈ (dispatch host zoneId plugins world d).1, runtime.Contained) ↔
      ∀ runtime ∈ (dispatch host zoneId plugins world d).1, runtime.InTime := by
  refine forall₂_congr fun runtime left => Round.contained_iff (roundOver_runDispatch ?_ left)
  intro runtime loaded world settled
  obtain ⟨before, -, rfl⟩ := List.mem_map.mp loaded
  exact Round.newRound

namespace Pickups

-- A plugin that lets a dropped item lie in the world, and has a chat command of its own. The
-- world remembers what has been spawned in which zone.
def callback : HookCall ℕ → List (HostCall ℕ)
  | .onItemDrop _ itemType _ => [.spawnNpc itemType]
  | _ => []

def server : Host (List (String × String)) ℕ where
  call _ _ hook world := (callback hook, world)
  parseEntityId _ := none
  kindOf _ _ _ := none
  characterOf _ _ := none
  requestMove _ _ _ world := world
  requestTeleport _ _ _ world := world
  applyStatDelta _ _ _ world := world
  applyNpcStatDelta _ _ _ world := world
  grantItem _ _ _ world := (none, world)
  removeItem _ _ _ world := world
  currencyDeclared _ := false
  modifyCurrency _ _ _ world := world
  setCharacterState _ _ _ world := world
  setZoneState _ _ _ world := world
  spawnNpcFromTable zoneId spawnTableId world :=
    (some (.fromUuid 9, "pickup"), (zoneId, spawnTableId) :: world)
  registerItemType _ world := world

def pickups : PluginRuntime ℕ :=
  ⟨"pickups", [], ["pickups"], ["on-item-drop"], ⟨fun _ => [], [], fun _ => []⟩⟩

/-- A player in the forest drops an ore. -/
def dropped : List (PluginRuntime ℕ) × List (String × String) :=
  dispatch server "forest" [pickups] [] (.itemDropped (.fromUuid 1) "ore" 1)

/-- The forest's actor leaves the request to spawn the ore in the queue, and the harbor's
spawns it there when somebody enters the chat command. -/
theorem spawned_elsewhere :
    (¬ ∀ (zoneId : String) (plugins : List (PluginRuntime ℕ)) (world : List (String × String))
      (d : Dispatch ℕ), ∀ runtime ∈ (dispatch server zoneId plugins world d).1,
        runtime.Contained) ∧
    (dispatch server "harbor" dropped.1 dropped.2
      (.chatCommand "pickups" "" (.fromUuid 2))).2 = [("harbor", "ore")] := by
  refine ⟨fun contained => ?_, by decide⟩
  have left : ∃ runtime ∈ dropped.1, (runtime.outbox.pending .spawns).any (·.fresh) = true := by
    decide
  obtain ⟨runtime, loaded, still⟩ := left
  obtain ⟨entry, in_queue, fresh⟩ := List.any_eq_true.mp still
  have old := (contained _ _ _ _ runtime loaded .spawns).2 entry in_queue
  rw [old] at fresh
  cases fresh

end Pickups

end WorldZero.Server.World
