import WorldZero.Character.Tables

/-!
# The declared attribute schema

`stats.schema.yaml`: which stats a character has, their defaults and bounds, and
the rules applied when a stat is read or written. The YAML parser is a
parameter of the loader.
-/

namespace WorldZero.Character

inductive StatType where
  | int
  deriving DecidableEq

structure StatDeclaration where
  key : String
  valueType : StatType
  default : Int
  min : Option Int
  max : Option Int
  deriving DecidableEq

structure AttributeSchema where
  schemaVersion : Nat
  stats : List StatDeclaration
  deriving DecidableEq

namespace AttributeSchema

def fromYaml (parse : String → Option AttributeSchema) (input : String) :
    Except Error AttributeSchema :=
  match parse input with
  | some schema => .ok schema
  | none => .error (.wrap "character" "failed to parse stats.schema.yaml")

def declaration (schema : AttributeSchema) (key : String) : Except Error StatDeclaration :=
  match schema.stats.find? fun s => s.key = key with
  | some decl => .ok decl
  | none => .error (.new "character" s!"unknown stat key: {key}")

def declares (schema : AttributeSchema) (key : String) : Bool :=
  (schema.declaration key).isOk

/-- A declared key and a value within its bounds. -/
def validateWrite (schema : AttributeSchema) (key : String) (value : Int) : Except Error Unit := do
  let decl ← schema.declaration key
  match decl.min with
  | some min =>
      if value < min then
        .error (.new "character" s!"stat {key} value {value} is below minimum {min}")
      else .ok ()
  | none => .ok ()
  match decl.max with
  | some max =>
      if max < value then
        .error (.new "character" s!"stat {key} value {value} is above maximum {max}")
      else .ok ()
  | none => .ok ()

/-- Saturate a value at the bounds that the schema declares. -/
def clamp (schema : AttributeSchema) (key : String) (value : Int) : Except Error Int := do
  let decl ← schema.declaration key
  let value := decl.min.elim value (Max.max value)
  .ok (decl.max.elim value (Min.min value))

/-- The stored value if there is one, otherwise the declared default. -/
def resolveRead (schema : AttributeSchema) (stored : Stats) (key : String) :
    Except Error Int := do
  let decl ← schema.declaration key
  match (stored.lookup key).bind Json.asI64 with
  | some value => .ok value
  | none => .ok decl.default

/-- The stats of a character that comes from another realm: what this schema declares, as
stored or else by default. A key that is declared twice is written twice. -/
def migrateStats (schema : AttributeSchema) (stored : Stats) : Stats :=
  schema.stats.foldl (fun migrated decl =>
    migrated.insert decl.key
      (.number (((stored.lookup decl.key).bind Json.asI64).getD decl.default))) ∅

variable {schema : AttributeSchema} {key : String}

theorem declares_iff : schema.declares key = true ↔ ∃ decl, schema.declaration key = .ok decl := by
  unfold declares
  cases schema.declaration key <;> simp [Except.isOk, Except.toBool]

/-- A declared stat can be read and clamped. -/
theorem clamp_ok (h : schema.declares key = true) (value : Int) :
    ∃ v, schema.clamp key value = .ok v := by
  obtain ⟨decl, hdecl⟩ := declares_iff.mp h
  exact ⟨_, by simp [clamp, hdecl]; rfl⟩

theorem resolveRead_stored (h : schema.declares key = true) {stored : Stats} {value : Int}
    (hstored : (stored.lookup key).bind Json.asI64 = some value) :
    schema.resolveRead stored key = .ok value := by
  obtain ⟨decl, hdecl⟩ := declares_iff.mp h
  simp only [resolveRead, hdecl, hstored]
  rfl

theorem resolveRead_ok (h : schema.declares key = true) (stored : Stats) :
    ∃ v, schema.resolveRead stored key = .ok v := by
  obtain ⟨decl, hdecl⟩ := declares_iff.mp h
  cases hstored : (stored.lookup key).bind Json.asI64 with
  | none => exact ⟨decl.default, by simp only [resolveRead, hdecl, hstored]; rfl⟩
  | some value => exact ⟨value, resolveRead_stored h hstored⟩

end AttributeSchema

end WorldZero.Character
