import Mathlib.Algebra.Group.Int.Defs
import Mathlib.Algebra.Group.Nat.Defs
import Mathlib.Tactic.TypeStar

/-!
# Identifiers, errors and 64-bit integers

The `common` crate: UUIDs tagged with the domain that they belong to, the error
type that every crate returns, and the operations of `i64` that the stores use.
An `i64` is an `Int`; the range is enforced where a value is stored.
-/

namespace WorldZero

/-- A UUID. -/
abbrev Uuid := BitVec 128

/-- Strongly typed identifier: the marker only keeps the domains apart. -/
structure Id (Marker : Type) where
  uuid : Uuid

inductive CharacterMarker
inductive RealmMarker
inductive AccountMarker
inductive EntityMarker
inductive GuildMarker
inductive ChannelMarker
inductive PartyMarker

abbrev CharacterId := Id CharacterMarker
abbrev RealmId := Id RealmMarker
abbrev AccountId := Id AccountMarker
abbrev EntityId := Id EntityMarker
abbrev GuildId := Id GuildMarker
abbrev ChannelId := Id ChannelMarker
abbrev PartyId := Id PartyMarker

namespace Id

variable {Marker : Type}

def fromUuid (uuid : Uuid) : Id Marker := ⟨uuid⟩

def asUuid (id : Id Marker) : Uuid := id.uuid

instance : DecidableEq (Id Marker) := fun a b =>
  decidable_of_iff (a.uuid = b.uuid) ⟨fun h => by cases a; cases b; cases h; rfl, fun h => h ▸ rfl⟩

instance : LawfulBEq (Id Marker) := inferInstance

/-- The hyphenated lower-case form, eight, four, four, four and twelve digits. -/
instance : ToString (Id Marker) where
  toString id :=
    let digits := (Nat.toDigits 16 id.uuid.toNat).leftpad 32 '0'
    let group (start size : Nat) : String := String.ofList ((digits.drop start).take size)
    "-".intercalate [group 0 8, group 8 4, group 12 4, group 16 4, group 20 12]

example : toString (⟨0x1f0a3c5e7b9d4f21a8c64e02d97b35f8⟩ : AccountId) =
    "1f0a3c5e-7b9d-4f21-a8c6-4e02d97b35f8" := by decide

end Id

/-! ### Errors -/

/-- The crate that failed and what it says. The chain of underlying causes is
kept by the code for logging only. -/
structure Error where
  sourceCrate : String
  message : String
  deriving DecidableEq, Repr

namespace Error

def new (sourceCrate message : String) : Error := ⟨sourceCrate, message⟩

/-- An error of an external library, reported under a message of our own. -/
def wrap (sourceCrate message : String) : Error := ⟨sourceCrate, message⟩

instance : ToString Error where
  toString e := s!"[{e.sourceCrate}] {e.message}"

end Error

/-- Rust's `{:?}` of a string. Characters beyond ASCII are taken as printable. -/
def debugStr (s : String) : String :=
  let escape (c : Char) : String :=
    if c = '"' then "\\\""
    else if c = '\\' then "\\\\"
    else if c = '\n' then "\\n"
    else if c = '\r' then "\\r"
    else if c = '\t' then "\\t"
    else if c.toNat = 0 then "\\0"
    else if c.toNat < 32 ∨ c.toNat = 127 then
      "\\u\x7b" ++ String.ofList (Nat.toDigits 16 c.toNat) ++ "\x7d"
    else c.toString
  "\"" ++ String.join (s.toList.map escape) ++ "\""

example : debugStr "iron \"ore\"\n" = "\"iron \\\"ore\\\"\\n\"" := by decide

/-- `char::is_whitespace`: the Unicode property `White_Space`. -/
def isWhitespace (c : Char) : Bool :=
  (9 ≤ c.toNat && c.toNat ≤ 13) || (0x2000 ≤ c.toNat && c.toNat ≤ 0x200A) ||
    [0x20, 0x85, 0xA0, 0x1680, 0x2028, 0x2029, 0x202F, 0x205F, 0x3000].contains c.toNat

/-- `s.trim().is_empty()`. -/
def isBlank (s : String) : Bool := s.toList.all isWhitespace

/-! ### 64-bit integers -/

namespace I64

def min : Int := -2 ^ 63

def max : Int := 2 ^ 63 - 1

def fits (n : Int) : Bool := min ≤ n && n ≤ max

/-- Subtraction as the release build computes it, modulo `2 ^ 64`. -/
def sub (a b : Int) : Int := (a - b).bmod (2 ^ 64)

def checkedAdd (a b : Int) : Option Int := if fits (a + b) then some (a + b) else none

def saturatingAdd (a b : Int) : Int := Max.max min (Min.min max (a + b))

theorem sub_eq {a b : Int} (low : min ≤ a - b) (high : a - b ≤ max) : sub a b = a - b := by
  simp only [min, max] at low high
  exact Int.bmod_eq_of_le (by omega) (by omega)

theorem checkedAdd_eq_some {a b n : Int} :
    checkedAdd a b = some n ↔ fits (a + b) = true ∧ a + b = n := by
  simp [checkedAdd]

end I64

end WorldZero
