import Mathlib.Data.List.Nodup
import WorldZero.Common

/-!
# The declared guild ranks

`guild.schema.yaml`: an ordered list of ranks, each with its permissions. The first
is the founder rank, the last is the one that a new member joins at. The YAML parser
is a parameter of the loader.
-/

namespace WorldZero.Guild

inductive GuildPermission where
  | invite
  | kick
  | promote
  | demote
  | editMotd
  | editTag
  | rename
  deriving DecidableEq

/-- Rust's `{:?}`. -/
def GuildPermission.debug : GuildPermission → String
  | .invite => "Invite"
  | .kick => "Kick"
  | .promote => "Promote"
  | .demote => "Demote"
  | .editMotd => "EditMotd"
  | .editTag => "EditTag"
  | .rename => "Rename"

structure GuildRank where
  key : String
  name : String
  permissions : List GuildPermission := []
  deriving DecidableEq

def GuildRank.has (rank : GuildRank) (permission : GuildPermission) : Bool :=
  rank.permissions.contains permission

/-- The document as the parser returns it. -/
structure GuildSchemaYaml where
  schemaVersion : Nat
  ranks : List GuildRank

/-- A schema that the loader accepts. -/
structure GuildSchema where
  schemaVersion : Nat
  ranks : List GuildRank
  ranks_ne_nil : ranks ≠ []
  unique : (ranks.map GuildRank.key).Nodup

/-- The first key that is met a second time; `seen` are the keys met so far. -/
def repeatedKey (seen : List String) : List GuildRank → Option String
  | [] => none
  | rank :: ranks => if rank.key ∈ seen then some rank.key else repeatedKey (rank.key :: seen) ranks

theorem unique_of_repeatedKey {seen : List String} {ranks : List GuildRank}
    (h : repeatedKey seen ranks = none) :
    (ranks.map GuildRank.key).Nodup ∧ ∀ rank ∈ ranks, rank.key ∉ seen := by
  induction ranks generalizing seen with
  | nil => simp
  | cons rank ranks ih =>
      unfold repeatedKey at h
      split at h
      · cases h
      next fresh =>
        obtain ⟨unique, apart⟩ := ih h
        refine ⟨?_, ?_⟩
        · rw [List.map_cons, List.nodup_cons, List.mem_map]
          refine ⟨?_, unique⟩
          rintro ⟨other, mem, same⟩
          exact apart other mem (same ▸ List.mem_cons_self)
        · intro other mem
          obtain rfl | mem := List.mem_cons.mp mem
          · exact fresh
          · exact fun seen => apart other mem (List.mem_cons_of_mem _ seen)

namespace GuildSchema

def fromYaml (parse : String → Option GuildSchemaYaml) (input : String) :
    Except Error GuildSchema :=
  match parse input with
  | none => .error (.wrap "guild" "failed to parse guild.schema.yaml")
  | some schema =>
      if declared : schema.ranks = [] then
        .error (.new "guild" "guild.schema.yaml must declare at least one rank")
      else
        match twice : repeatedKey [] schema.ranks with
        | some key =>
            .error (.new "guild"
              s!"guild.schema.yaml declares the rank key \"{key}\" more than once")
        | none =>
            .ok ⟨schema.schemaVersion, schema.ranks, declared, (unique_of_repeatedKey twice).1⟩

variable (schema : GuildSchema)

def founderRank : GuildRank := schema.ranks.head schema.ranks_ne_nil

def defaultMemberRank : GuildRank := schema.ranks.getLast schema.ranks_ne_nil

def resolve (key : String) : Except Error GuildRank :=
  match schema.ranks.find? fun r => r.key = key with
  | some rank => .ok rank
  | none => .error (.new "guild" s!"unknown guild rank: {key}")

def isFounderRank (key : String) : Bool := schema.founderRank.key = key

variable {schema} {key : String} {rank : GuildRank}

theorem founderRank_mem : schema.founderRank ∈ schema.ranks := List.head_mem _

theorem isFounderRank_iff : schema.isFounderRank key = true ↔ key = schema.founderRank.key := by
  simp [isFounderRank, eq_comm]

theorem resolve_ok : schema.resolve key = .ok rank ↔ rank ∈ schema.ranks ∧ rank.key = key := by
  unfold resolve
  constructor
  · intro found
    split at found
    next r declared =>
      cases found
      exact ⟨List.mem_of_find?_eq_some declared, by simpa using List.find?_some declared⟩
    · cases found
  · rintro ⟨mem, rfl⟩
    split
    next other declared =>
      have same : other.key = rank.key := by simpa using List.find?_some declared
      rw [List.inj_on_of_nodup_map schema.unique (List.mem_of_find?_eq_some declared) mem same]
    next absent => exact absurd (decide_eq_true rfl) (List.find?_eq_none.mp absent rank mem)

theorem resolve_founderRank : schema.resolve schema.founderRank.key = .ok schema.founderRank :=
  resolve_ok.mpr ⟨founderRank_mem, rfl⟩

/-- A schema whose new members are founders declares no other rank. -/
theorem eq_founderRank_of_default
    (single : schema.isFounderRank schema.defaultMemberRank.key = true)
    (mem : rank ∈ schema.ranks) :
    rank = schema.founderRank := by
  have same : schema.defaultMemberRank = schema.founderRank :=
    List.inj_on_of_nodup_map schema.unique (List.getLast_mem _) founderRank_mem
      (isFounderRank_iff.mp single)
  obtain ⟨first, rest, ranks⟩ := List.exists_cons_of_ne_nil schema.ranks_ne_nil
  have founder : schema.founderRank = first := by
    unfold founderRank
    simp only [ranks, List.head_cons]
  have once : first ∉ rest := by
    have unique := schema.unique
    rw [ranks] at unique
    exact (List.nodup_cons.mp unique.of_map).1
  cases rest with
  | nil =>
      rw [ranks, List.mem_singleton] at mem
      rw [mem, founder]
  | cons second rest =>
      have last : schema.defaultMemberRank ∈ second :: rest := by
        unfold defaultMemberRank
        simp only [ranks, List.getLast_cons_cons]
        exact List.getLast_mem _
      rw [same, founder] at last
      exact absurd last once

end GuildSchema

end WorldZero.Guild
