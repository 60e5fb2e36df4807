import WorldZero.Chat.GatewayProtocol
import WorldZero.PluginHost.Manifest
import WorldZero.Server.ChatSession
import WorldZero.Server.WorldActor

/-!
# Chat commands

A chat message on its way through the session, which takes out the commands that some plugin
has declared, and a command on its way through the world actor, which looks its plugin up.
-/

namespace WorldZero.Server.ChatCommands

open Chat.GatewayProtocol Gateway PluginHost World
open ChatSession (pluginChatCommand)

/-- What becomes of a chat envelope. -/
inductive Outcome where
  /-- The chat is disabled on this server. -/
  | refused (message : String)
  /-- `dispatch_chat_command`. -/
  | command (command args : String)
  /-- `chat_session::handle_message`. -/
  | message (message : ClientMessage)
  | malformed (message : String)
  deriving DecidableEq

section Session

variable (prost : Bytes → Option Proto.ClientMessage) (parse : String → Option ChannelId)

/-- `plugin_chat_commands`, the commands of all plugins of the server. -/
def pluginChatCommands (manifests : List PluginManifest) : List String :=
  manifests.flatMap fun m => m.plugin.chatCommands

/-- The session's branch for `CHAT_MESSAGE_TYPE`. -/
def handleChat (chatEnabled : Bool) (declaredCommands : List String) (envelope : Envelope) :
    Outcome :=
  if !chatEnabled then .refused "chat is disabled on this server"
  else
    match (ClientMessage.peekSendBody prost envelope).toOption.join.bind fun body =>
        pluginChatCommand declaredCommands body with
    | some (command, args) => .command command args
    | none =>
        match ClientMessage.fromEnvelope prost parse envelope with
        | .ok message => .message message
        | .error e => .malformed (toString e)

end Session

/-- The body invokes the command with the arguments. -/
def Invokes (body command args : String) : Prop :=
  body = "/" ++ command ∧ args = "" ∨ body = "/" ++ command ++ " " ++ args

/-! ### Splitting a body -/

section Body

variable {declaredCommands : List String} {body command args : String}

theorem invokes_iff_toList : Invokes body command args ↔
    body.toList = '/' :: command.toList ∧ args = "" ∨
      body.toList = '/' :: (command.toList ++ ' ' :: args.toList) := by
  have slash : "/".toList = ['/'] := rfl
  have space : " ".toList = [' '] := rfl
  simp only [Invokes, ← String.toList_inj, String.toList_append, slash, space]
  simp

/-- `split_once(' ')`. -/
theorem splitOnce_iff {rest command args : List Char} :
    rest.takeWhile (· ≠ ' ') = command ∧ (rest.dropWhile (· ≠ ' ')).drop 1 = args ↔
      ' ' ∉ command ∧ (rest = command ∧ args = [] ∨ rest = command ++ ' ' :: args) := by
  induction rest generalizing command with
  | nil => cases command <;> simp [eq_comm]
  | cons c rest ih =>
      by_cases space : c = ' '
      · subst space
        cases command with
        | nil => simp [eq_comm]
        | cons d command =>
            simp only [ne_eq, not_true_eq_false, decide_false, Bool.false_eq_true,
              not_false_eq_true, List.takeWhile_cons_of_neg, reduceCtorEq, false_and, List.mem_cons,
              not_or, List.cons_append, List.cons.injEq, false_iff, not_and]
            grind
      · cases command with
        | nil => simp [space]
        | cons d command =>
            have step := @ih command
            simp only [ne_eq, decide_not, List.drop_one] at step
            simp [space]
            grind

/-- A command is found where the body invokes it and there is no space in its name. -/
theorem pluginChatCommand_eq_some :
    pluginChatCommand declaredCommands body = some (command, args) ↔
      command ∈ declaredCommands ∧ ' ' ∉ command.toList ∧ Invokes body command args := by
  have blank : args = "" ↔ args.toList = [] := by
    rw [← String.toList_inj]
    rfl
  rw [invokes_iff_toList, pluginChatCommand, blank]
  split
  next rest read =>
    have split := @splitOnce_iff rest command.toList args.toList
    have made : ∀ (cs : List Char) (s : String), String.ofList cs = s ↔ cs = s.toList := by
      intro cs s
      rw [← String.toList_inj, String.toList_ofList]
    simp only [read, List.cons.injEq, true_and]
    split
    next known =>
      rw [Option.some.injEq, Prod.mk.injEq, made, made, split]
      refine ⟨fun h => ⟨?_, h⟩, fun h => h.2⟩
      rwa [← (made _ _).mpr (split.mpr h).1]
    next unknown =>
      refine iff_of_false nofun fun h => unknown ?_
      rw [(made _ _).mpr (split.mpr h.2).1]
      exact h.1
  next other =>
    refine iff_of_false nofun fun h => ?_
    rcases h.2.2 with h | h
    · exact other _ h.1
    · exact other _ h

end Body

section Dispatch

variable {prost : Bytes → Option Proto.ClientMessage} {parse : String → Option ChannelId}
  {chatEnabled : Bool} {declaredCommands : List String} {envelope : Envelope}
  {body command args : String}

theorem handleChat_eq_command :
    handleChat prost parse chatEnabled declaredCommands envelope = .command command args ↔
      chatEnabled = true ∧ ∃ body, IsSend prost envelope body ∧
        pluginChatCommand declaredCommands body = some (command, args) := by
  have peeked : ∀ body, (ClientMessage.peekSendBody prost envelope).toOption.join = some body ↔
      IsSend prost envelope body := by
    intro body
    rw [← peekSendBody_eq_some]
    rcases ClientMessage.peekSendBody prost envelope with e | _ | body' <;>
      simp [Except.toOption]
  rw [handleChat]
  cases chatEnabled with
  | false => simp
  | true =>
      simp only [Bool.not_true, Bool.false_eq_true, if_false, true_and, ← peeked,
        ← Option.bind_eq_some_iff]
      split
      next found => simp [found]
      next none =>
        rw [none]
        split <;> simp

end Dispatch

/-! ### The plugin of a command -/

section Owner

variable {Position : Type}

/-- The plugin has been loaded from the manifest. -/
structure LoadedFrom (manifest : PluginManifest) (runtime : PluginRuntime Position) : Prop where
  name : runtime.name = manifest.plugin.name
  messageTypes : runtime.messageTypes = manifest.plugin.messageTypes
  chatCommands : runtime.chatCommands = manifest.plugin.chatCommands
  hooks : runtime.hooks = manifest.plugin.hooks

/-- `load_plugin`, for every manifest in order. -/
def Loaded (manifests : List PluginManifest) (plugins : List (PluginRuntime Position)) : Prop :=
  List.Forall₂ LoadedFrom manifests plugins

/-- A plugin loaded from the manifest gets the command with its arguments, and none of the
others does. -/
def ReachesOnly (manifest : PluginManifest) (plugins : List (PluginRuntime Position))
    (command args : String) : Prop :=
  ∃ before runtime after, plugins = before ++ runtime :: after ∧ LoadedFrom manifest runtime ∧
    (∀ other ∈ before ++ after, command ∉ other.chatCommands) ∧
    ∀ (σ : Type) (host : Host σ Position) zoneId world sender,
      let t := Turn.ownHook host zoneId ⟨runtime, world⟩
        (.onChatCommand command args (toString sender))
      runDispatch host zoneId plugins world (.chatCommand command args sender) =
        (before ++ t.runtime :: after, t.world)

theorem forOwner_of_first {σ : Type} {owns : PluginRuntime Position → Bool}
    {turn : Turn σ Position → Turn σ Position} {before after : List (PluginRuntime Position)}
    {runtime : PluginRuntime Position} (others : ∀ r ∈ before, owns r = false)
    (owner : owns runtime = true) (world : σ) :
    forOwner owns turn (before ++ runtime :: after) world =
      (before ++ (turn ⟨runtime, world⟩).runtime :: after, (turn ⟨runtime, world⟩).world) := by
  induction before with
  | nil => simp [forOwner, owner]
  | cons r before ih =>
      obtain ⟨other, rest⟩ := List.forall_mem_cons.mp others
      rw [List.cons_append, forOwner, if_neg (by simp [other]), ih rest]
      rfl

theorem Loaded.append {earlier later : List PluginManifest} {manifest : PluginManifest}
    {plugins : List (PluginRuntime Position)} (h : Loaded (earlier ++ manifest :: later) plugins) :
    ∃ before runtime after, plugins = before ++ runtime :: after ∧ Loaded earlier before ∧
      LoadedFrom manifest runtime ∧ Loaded later after := by
  induction earlier generalizing plugins with
  | nil =>
      cases h with
      | cons this rest => exact ⟨[], _, _, rfl, .nil, this, rest⟩
  | cons m earlier ih =>
      cases h with
      | cons this rest =>
          obtain ⟨before, runtime, after, rfl, early, here, late⟩ := ih rest
          exact ⟨_ :: before, runtime, after, rfl, .cons this early, here, late⟩

theorem Loaded.mem_chatCommands {manifests : List PluginManifest}
    {plugins : List (PluginRuntime Position)} (h : Loaded manifests plugins)
    {runtime : PluginRuntime Position} (among : runtime ∈ plugins) {command : String}
    (declared : command ∈ runtime.chatCommands) : command ∈ pluginChatCommands manifests := by
  induction h with
  | nil => simp at among
  | cons this rest ih =>
      rw [pluginChatCommands, List.flatMap_cons, List.mem_append]
      rcases List.mem_cons.mp among with rfl | among
      · exact .inl (this.chatCommands ▸ declared)
      · exact .inr (ih among)

theorem reachesOnly_of_declared {manifests : List PluginManifest}
    {plugins : List (PluginRuntime Position)} (apart : checkNoCollisions manifests = .ok ())
    (loaded : Loaded manifests plugins) {manifest : PluginManifest} (among : manifest ∈ manifests)
    {command : String} (declared : command ∈ manifest.plugin.chatCommands) (args : String) :
    ReachesOnly manifest plugins command args := by
  obtain ⟨earlier, later, rfl⟩ := List.append_of_mem among
  have unique := nodup_of_checkNoCollisions apart
  rw [List.flatMap_append, List.flatMap_cons, List.nodup_append'] at unique
  obtain ⟨-, rest, early⟩ := unique
  obtain ⟨-, -, late⟩ := List.nodup_append'.mp rest
  obtain ⟨before, runtime, after, rfl, hBefore, here, hAfter⟩ := loaded.append
  have noneBefore : ∀ other ∈ before, command ∉ other.chatCommands := fun other among again =>
    early (hBefore.mem_chatCommands among again) (List.mem_append_left _ declared)
  refine ⟨before, runtime, after, rfl, here, List.forall_mem_append.mpr ⟨noneBefore, ?_⟩, ?_⟩
  · exact fun other among again => late declared (hAfter.mem_chatCommands among again)
  · intro σ host zoneId world sender
    refine forOwner_of_first (fun other among => ?_) ?_ world
    · simpa using noneBefore other among
    · simpa [here.chatCommands] using declared

/-- A declared command is taken out of the chat and to its plugin, with its arguments, exactly
if the chat is enabled and the name has no space in it; and only what invokes a declared command
is taken out of the chat. -/
theorem chat_command_routed_iff {manifests : List PluginManifest}
    (apart : checkNoCollisions manifests = .ok ()) {plugins : List (PluginRuntime Position)}
    (loaded : Loaded manifests plugins) (prost : Bytes → Option Proto.ClientMessage)
    (parse : String → Option ChannelId) (chatEnabled : Bool) :
    (∀ manifest ∈ manifests, ∀ command ∈ manifest.plugin.chatCommands, ∀ envelope body args,
      IsSend prost envelope body → Invokes body command args →
        (handleChat prost parse chatEnabled (pluginChatCommands manifests) envelope =
            .command command args ∧ ReachesOnly manifest plugins command args ↔
          chatEnabled = true ∧ ' ' ∉ command.toList)) ∧
    ∀ envelope body, IsSend prost envelope body →
      (¬ ∃ manifest ∈ manifests, ∃ command ∈ manifest.plugin.chatCommands, ∃ args,
        Invokes body command args) →
      ∀ command args, handleChat prost parse chatEnabled (pluginChatCommands manifests) envelope ≠
        .command command args := by
  have same : ∀ {envelope body body'}, IsSend prost envelope body → IsSend prost envelope body' →
      body' = body := by
    rintro envelope body body' ⟨-, channelId, one⟩ ⟨-, channelId', other⟩
    simp only [one, Option.some.injEq, Proto.ClientMessage.mk.injEq,
      Proto.ClientMessage.Kind.send.injEq] at other
    exact other.2.symm
  constructor
  · intro manifest among command declared envelope body args send invokes
    have known : command ∈ pluginChatCommands manifests :=
      List.mem_flatMap.mpr ⟨manifest, among, declared⟩
    rw [and_iff_left (reachesOnly_of_declared apart loaded among declared args),
      handleChat_eq_command]
    refine and_congr_right fun _ => ?_
    constructor
    · rintro ⟨body', -, found⟩
      exact (pluginChatCommand_eq_some.mp found).2.1
    · exact fun noSpace => ⟨body, send, pluginChatCommand_eq_some.mpr ⟨known, noSpace, invokes⟩⟩
  · intro envelope body send none command args taken
    obtain ⟨-, body', send', found⟩ := handleChat_eq_command.mp taken
    obtain rfl := same send send'
    obtain ⟨known, -, invokes⟩ := pluginChatCommand_eq_some.mp found
    obtain ⟨manifest, among, declared⟩ := List.mem_flatMap.mp known
    exact none ⟨manifest, among, command, declared, args, invokes⟩

end Owner

/-! ### A command of one word and a command of two -/

namespace Dice

def manifest (command : String) : PluginManifest :=
  ⟨{ name := "dice", hostApiVersion, chatCommands := [command] }⟩

def channel : String := "00000000-0000-0000-0000-000000000000"

def parse (text : String) : Option ChannelId := if text = channel then some ⟨0⟩ else none

/-- Field 3 of the message, with the channel as its field 1 and the body as its field 2. -/
def payload (body : String) : Bytes :=
  let text := channel.toUTF8.toList
  let bytes := body.toUTF8.toList
  let send := 0x0A :: UInt8.ofNat text.length :: text ++ 0x12 :: UInt8.ofNat bytes.length :: bytes
  0x1A :: UInt8.ofNat send.length :: send

def prost (body : String) (bytes : Bytes) : Option Proto.ClientMessage :=
  if bytes = payload body then some ⟨some (.send channel body)⟩ else none

def envelope (body : String) : Envelope := ⟨CHAT_MESSAGE_TYPE, payload body⟩

def plugins (command : String) : List (PluginRuntime Unit) :=
  [⟨"dice", [], [command], [], ⟨fun _ => [], [], fun _ => []⟩⟩]

theorem loaded (command : String) : Loaded [manifest command] (plugins command) :=
  .cons ⟨rfl, rfl, rfl, rfl⟩ .nil

theorem isSend (body : String) : IsSend (prost body) (envelope body) body :=
  ⟨rfl, channel, by simp [prost, envelope]⟩

theorem roll_reaches :
    handleChat (prost "/roll 2d6") parse true (pluginChatCommands [manifest "roll"])
        (envelope "/roll 2d6") = .command "roll" "2d6" ∧
      ReachesOnly (manifest "roll") (plugins "roll") "roll" "2d6" := by
  have apart : checkNoCollisions [manifest "roll"] = .ok () := by decide
  have routed := (chat_command_routed_iff apart (loaded "roll") (prost "/roll 2d6") parse true).1
  exact (routed (manifest "roll") (by simp) "roll" (by simp [manifest]) (envelope "/roll 2d6")
    "/roll 2d6" "2d6" (isSend _) (.inr (by decide))).mpr ⟨rfl, by decide⟩

/-- A command of two words passes the checks, and a body that invokes it is published. -/
theorem roll_dice_published :
    (manifest "roll dice").checkCompatible = .ok () ∧
    checkNoCollisions [manifest "roll dice"] = .ok () ∧
    "roll dice" ∈ (manifest "roll dice").plugin.chatCommands ∧
    IsSend (prost "/roll dice 2d6") (envelope "/roll dice 2d6") "/roll dice 2d6" ∧
    Invokes "/roll dice 2d6" "roll dice" "2d6" ∧
    handleChat (prost "/roll dice 2d6") parse true
        (pluginChatCommands [manifest "roll dice"]) (envelope "/roll dice 2d6") =
      .message (.send ⟨0⟩ "/roll dice 2d6") := by
  exact ⟨by decide, by decide, by simp [manifest], isSend _, .inr (by decide),
    by decide +kernel⟩

end Dice

end WorldZero.Server.ChatCommands
