import Mathlib.Data.List.Nodup
import WorldZero.Common
import WorldZero.Validation

/-!
# Plugin manifests

`plugin.toml`: what a plugin declares, the checks on one manifest before its plugin is loaded,
and the check on all manifests of a server that no two plugins claim the same message type
or chat command.
-/

namespace WorldZero.PluginHost

open Validation

def hostApiVersion : String := "0.16.0"

def pluginMessageTypeFloor : UInt16 := 1000

def knownCapabilities : List String :=
  ["spawning", "movement", "combat", "economy", "messaging", "admin"]

def knownHooks : List String :=
  ["on-load", "on-unload", "on-zone-loaded", "on-character-create", "on-entity-spawn",
    "on-player-join-zone", "on-player-leave-zone", "on-interact", "on-message", "on-damage-calc",
    "on-death", "on-respawn", "on-tick", "on-npc-tick", "on-npc-interact", "on-chat-command",
    "on-item-acquire", "on-item-use", "on-craft-complete", "on-item-drop"]

structure PluginDeclaration where
  name : String
  hostApiVersion : String
  capabilities : List String := []
  messageTypes : List UInt16 := []
  /-- Without their leading slashes. -/
  chatCommands : List String := []
  hooks : List String := []
  deriving DecidableEq

structure PluginManifest where
  plugin : PluginDeclaration
  deriving DecidableEq

/-- `{:?}` of a list of strings. -/
def debugList (names : List String) : String := "[" ++ ", ".intercalate (names.map debugStr) ++ "]"

/-! ### One manifest -/

/-- A list whose entries each pass a check and come only once; `seen` are the entries met so
far. -/
def checkEach {α : Type} [DecidableEq α] (check : α → Except Error Unit) (twice : α → Error)
    (seen : List α) : List α → Except Error Unit
  | [] => .ok ()
  | entry :: entries => do
      check entry
      ensure (entry ∉ seen) (twice entry)
      checkEach check twice (entry :: seen) entries

namespace PluginManifest

variable (manifest : PluginManifest)

/-- How a message about the plugin begins. -/
def complaint (rest : String) : Error :=
  .new "plugin-host" (s!"plugin {debugStr manifest.plugin.name} " ++ rest)

def checkHooks : Except Error Unit :=
  checkEach
    (fun hook => ensure (hook ∈ knownHooks) (manifest.complaint
      (s!"declares unknown hook {debugStr hook} — known hooks: " ++ debugList knownHooks)))
    (fun hook => manifest.complaint s!"declares hook {debugStr hook} more than once")
    [] manifest.plugin.hooks

def checkCapabilities : Except Error Unit :=
  checkEach
    (fun capability => ensure (capability ∈ knownCapabilities) (manifest.complaint
      (s!"declares unknown capability {debugStr capability} — known capabilities: " ++
        debugList knownCapabilities)))
    (fun capability => manifest.complaint
      s!"declares capability {debugStr capability} more than once")
    [] manifest.plugin.capabilities

def checkMessageTypes : Except Error Unit :=
  checkEach
    (fun messageType => ensure (pluginMessageTypeFloor ≤ messageType) (manifest.complaint
      (s!"declares message_type {messageType}, below the core-reserved floor of " ++
        s!"{pluginMessageTypeFloor}")))
    (fun messageType => manifest.complaint s!"declares message_type {messageType} more than once")
    [] manifest.plugin.messageTypes

/-- An entry is neither empty nor begins with a slash; it may have spaces in it. -/
def checkChatCommand (command : String) : Except Error Unit :=
  match command.toList with
  | [] => .error (manifest.complaint "declares an empty chat_commands entry")
  | '/' :: stripped => .error (manifest.complaint
      (s!"declares chat_commands entry {debugStr command} with a leading '/' — did you mean " ++
        s!"{debugStr (String.ofList stripped)}?"))
  | _ => .ok ()

def checkChatCommands : Except Error Unit :=
  checkEach manifest.checkChatCommand
    (fun command => manifest.complaint
      s!"declares chat_commands entry {debugStr command} more than once")
    [] manifest.plugin.chatCommands

def checkCompatible : Except Error Unit := do
  ensure (manifest.plugin.hostApiVersion = hostApiVersion) (manifest.complaint
    (s!"targets host_api_version {debugStr manifest.plugin.hostApiVersion}, this build " ++
      s!"implements {debugStr hostApiVersion}"))
  manifest.checkMessageTypes
  manifest.checkChatCommands
  manifest.checkCapabilities
  manifest.checkHooks

end PluginManifest

/-! ### All manifests of a server -/

/-- The entries of one manifest are put down under its plugin's name. -/
def claim {α : Type} [DecidableEq α] (taken : α → String → Error) (name : String)
    (owners : List (α × String)) : List α → Except Error (List (α × String))
  | [] => .ok owners
  | entry :: entries =>
      match owners.lookup entry with
      | some owner => .error (taken entry owner)
      | none => claim taken name ((entry, name) :: owners) entries

/-- The loop over the manifests, with the owners known so far. -/
def claimAll (messageTypes : List (UInt16 × String)) (chatCommands : List (String × String)) :
    List PluginManifest → Except Error Unit
  | [] => .ok ()
  | manifest :: manifests => do
      let name := manifest.plugin.name
      let messageTypes ← claim (fun messageType owner => .new "plugin-host"
          (s!"plugins {debugStr owner} and {debugStr name} both declare message_type " ++
            s!"{messageType} — rename/reassign one"))
        name messageTypes manifest.plugin.messageTypes
      let chatCommands ← claim (fun command owner => .new "plugin-host"
          (s!"plugins {debugStr owner} and {debugStr name} both declare chat_command " ++
            s!"{debugStr command} — rename/reassign one"))
        name chatCommands manifest.plugin.chatCommands
      claimAll messageTypes chatCommands manifests

def checkNoCollisions (manifests : List PluginManifest) : Except Error Unit :=
  claimAll [] [] manifests

/-! ### What the checks say -/

theorem of_claim_ok {α : Type} [DecidableEq α] {taken : α → String → Error} {name : String}
    {owners owners' : List (α × String)} {entries : List α}
    (h : claim taken name owners entries = .ok owners') :
    entries.Nodup ∧ (∀ entry ∈ entries, entry ∉ owners.map Prod.fst) ∧
      ∀ entry, entry ∈ owners'.map Prod.fst ↔ entry ∈ entries ∨ entry ∈ owners.map Prod.fst := by
  induction entries generalizing owners with
  | nil =>
      obtain rfl : owners = owners' := by simpa [claim] using h
      simp
  | cons first entries ih =>
      rw [claim] at h
      split at h
      · cases h
      next free =>
        have fresh : first ∉ owners.map Prod.fst := by
          rw [List.lookup_eq_none_iff] at free
          rw [List.mem_map]
          rintro ⟨entry, among, rfl⟩
          simpa using free entry among
        obtain ⟨nodup, apart, all⟩ := ih h
        refine ⟨List.nodup_cons.mpr ⟨fun again => ?_, nodup⟩, ?_, fun entry => ?_⟩
        · exact apart first again (by simp)
        · refine List.forall_mem_cons.mpr ⟨fresh, fun entry among owned => ?_⟩
          exact apart entry among (List.mem_cons_of_mem _ owned)
        · rw [all, List.map_cons, List.mem_cons, List.mem_cons]
          tauto

theorem of_claimAll_ok {messageTypes : List (UInt16 × String)}
    {chatCommands : List (String × String)} {manifests : List PluginManifest}
    (h : claimAll messageTypes chatCommands manifests = .ok ()) :
    (manifests.flatMap fun m => m.plugin.chatCommands).Nodup ∧
      ∀ m ∈ manifests, ∀ command ∈ m.plugin.chatCommands,
        command ∉ chatCommands.map Prod.fst := by
  induction manifests generalizing messageTypes chatCommands with
  | nil => simp
  | cons first manifests ih =>
      simp only [claimAll, bind_ok] at h
      obtain ⟨_, -, chatCommands', claimed, rest⟩ := h
      obtain ⟨nodup, fresh, all⟩ := of_claim_ok claimed
      obtain ⟨nodup', apart⟩ := ih rest
      refine ⟨?_, List.forall_mem_cons.mpr ⟨fresh, fun m among command declared owned => ?_⟩⟩
      · rw [List.flatMap_cons, List.nodup_append']
        refine ⟨nodup, nodup', fun command declared again => ?_⟩
        obtain ⟨m, among, again⟩ := List.mem_flatMap.mp again
        exact apart m among command again ((all command).mpr (.inl declared))
      · exact apart m among command declared ((all command).mpr (.inr owned))

/-- No two plugins have a command in common. -/
theorem nodup_of_checkNoCollisions {manifests : List PluginManifest}
    (h : checkNoCollisions manifests = .ok ()) :
    (manifests.flatMap fun m => m.plugin.chatCommands).Nodup :=
  (of_claimAll_ok h).1

end WorldZero.PluginHost
