import WorldZero.PluginHost.Manifest
import WorldZero.Sandbox
import WorldZero.Server.WorldActor

/-!
# The functions that a plugin can call

The `host` interface of a plugin, and the gate in front of it: a function that reaches
across entities is called only by plugins that declare the capability that it requires.
-/

namespace WorldZero.PluginHost

open Server.World (HostCall ItemCatalogEntry PluginStateScope Queue)

def capabilitySpawning : String := "spawning"
def capabilityMovement : String := "movement"
def capabilityCombat : String := "combat"
def capabilityEconomy : String := "economy"
def capabilityMessaging : String := "messaging"
def capabilityAdmin : String := "admin"

/-- A call of a method of `HostCallbacks`. -/
inductive HostFunction (Position : Type) where
  | spawnNpc (spawnTableId : String)
  | sendMessage (targetEntityId body : String)
  | applyStatDelta (entityId statKey : String) (delta : Int)
  | applyStatDeltaForCharacter (characterId statKey : String) (delta : Int)
  | moveEntity (entityId : String) (position : Position)
  | teleportEntity (entityId : String) (position : Position)
  | grantItem (entityId itemType : String) (quantity : Int)
  | removeItem (entityId itemType : String) (quantity : Int)
  | modifyCurrency (entityId currencyKey : String) (delta : Int)
  | callerRole (entityId : String)
  | pluginStateGet (scope : PluginStateScope) (key : String)
  | pluginStateSet (scope : PluginStateScope) (key : String) (value : List UInt8)
  | reportDeath (entityId : String)
  | reportRespawn (entityId : String)
  | blockZoneChannel (entityId category : String)
  | registerItemType (itemType displayName : String) (tags : List String) (metadata : String)
  | getItem (itemType : String)

namespace HostFunction

variable {Position : Type}

/-- The name that the gate goes by. -/
def name : HostFunction Position → String
  | .spawnNpc _ => "spawn-npc"
  | .sendMessage .. => "send-message"
  | .applyStatDelta .. => "apply-stat-delta"
  | .applyStatDeltaForCharacter .. => "apply-stat-delta-for-character"
  | .moveEntity .. => "move-entity"
  | .teleportEntity .. => "teleport-entity"
  | .grantItem .. => "grant-item"
  | .removeItem .. => "remove-item"
  | .modifyCurrency .. => "modify-currency"
  | .callerRole _ => "caller-role"
  | .pluginStateGet .. => "plugin-state-get"
  | .pluginStateSet .. => "plugin-state-set"
  | .reportDeath _ => "report-death"
  | .reportRespawn _ => "report-respawn"
  | .blockZoneChannel .. => "block-zone-channel"
  | .registerItemType .. => "register-item-type"
  | .getItem _ => "get-item"

/-- What a call answers if it does not fail. -/
abbrev Value : HostFunction Position → Type
  | .spawnNpc _ => String
  | .callerRole _ => List String
  | .pluginStateGet .. => Option (List UInt8)
  | .getItem _ => Option ItemCatalogEntry
  | _ => Unit

/-- A failure is told to the plugin; it is not a trap. -/
abbrev Answer (f : HostFunction Position) : Type := Except String f.Value

end HostFunction

/-- An implementation of `HostCallbacks`. -/
abbrev HostCallbacks (Position σ : Type) :=
  Sandbox.Functions (fun f : HostFunction Position => f.Answer) σ

def requiredCapability (function : String) : Option String :=
  match function with
  | "spawn-npc" => some capabilitySpawning
  | "send-message" => some capabilityMessaging
  | "move-entity" => some capabilityMovement
  | "teleport-entity" => some capabilityAdmin
  | "apply-stat-delta" | "apply-stat-delta-for-character" | "report-death" | "report-respawn" =>
      some capabilityCombat
  | "grant-item" | "remove-item" | "modify-currency" | "register-item-type" =>
      some capabilityEconomy
  | "block-zone-channel" => some capabilityMessaging
  | _ => none

section Gate

variable {Position σ : Type} (granted : List String)

def check (function : String) : Except String Unit :=
  match requiredCapability function with
  | some capability =>
      if capability ∈ granted then .ok ()
      else .error (s!"plugin lacks the {debugStr capability} capability required to call " ++
        s!"{function} — declare it in plugin.toml's capabilities list")
  | none => .ok ()

def refusal (f : HostFunction Position) : Option f.Answer :=
  match check granted f.name with
  | .ok () => none
  | .error e => some (.error e)

/-- `CapabilityGatedCallbacks`. -/
def capabilityGated (inner : HostCallbacks Position σ) : HostCallbacks Position σ :=
  Sandbox.Functions.gate (refusal granted) inner

variable {granted} {function : String}

theorem check_eq_ok :
    check granted function = .ok () ↔
      ∀ capability, requiredCapability function = some capability → capability ∈ granted := by
  unfold check
  split
  next capability required =>
    rw [required]
    simp only [Option.some.injEq, forall_eq']
    split
    next declared => exact iff_of_true rfl declared
    next undeclared => exact iff_of_false (by simp) undeclared
  next free =>
    refine iff_of_true rfl fun capability required => ?_
    rw [free] at required
    cases required

theorem refusal_eq_none {f : HostFunction Position} :
    refusal granted f = none ↔
      ∀ capability, requiredCapability f.name = some capability → capability ∈ granted := by
  rw [← check_eq_ok]
  unfold refusal
  split
  next admitted => simp [admitted]
  next e refused => simp [refused]

end Gate

/-- The capability without which nothing comes into the queue. -/
def queueCapability : Queue → Option String
  | .spawns => some capabilitySpawning
  | .moves => some capabilityMovement
  | .teleports => some capabilityAdmin
  | .statDeltas | .characterStatDeltas | .deaths | .respawns => some capabilityCombat
  | .itemGrants | .itemRemovals | .currencyDeltas | .itemRegistrations => some capabilityEconomy
  | .stateWrites => none

end WorldZero.PluginHost
