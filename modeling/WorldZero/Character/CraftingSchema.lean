import WorldZero.Character.AttributeSchema
import WorldZero.Validation
import Mathlib.Data.Finset.Basic

/-!
# The declared recipes

`crafting.schema.yaml`: recipes with inputs, an output, stat requirements and stat
grants. The loader checks a parsed schema against the item catalog and the
attribute schema. The YAML parser and the text form of a floating-point number are
parameters.
-/

namespace WorldZero.Character

open Validation

/-- A 64-bit float, as far as comparisons with 0 and 1 tell values apart. -/
inductive F64 where
  | number (q : Rat)
  | infinity (negative : Bool)
  | nan
  deriving DecidableEq

/-- `chance > 0.0 && chance <= 1.0`; every comparison with NaN is false. -/
def F64.isChance : F64 → Bool
  | .number q => 0 < q && q ≤ 1
  | .infinity _ | .nan => false

structure CraftingInput where
  itemType : String
  amount : Int64
  deriving DecidableEq

structure CraftingOutput where
  itemType : String
  amount : Int64
  deriving DecidableEq

structure StatRequirement where
  stat : String
  min : Int64
  deriving DecidableEq

structure StatGrant where
  stat : String
  amount : Int64
  below : Option Int64 := none
  chance : Option F64 := none
  deriving DecidableEq

structure Recipe where
  key : String
  category : String
  inputs : List CraftingInput
  output : CraftingOutput
  requires : List StatRequirement := []
  grants : List StatGrant := []
  deriving DecidableEq

structure CraftingSchema where
  schemaVersion : Nat
  recipes : List Recipe
  deriving DecidableEq

/-- Every item type of the catalog with its tags. -/
abbrev KnownItemTypes := Finmap fun _ : String => Finset String

def hasTag (knownItemTypes : KnownItemTypes) (itemType tag : String) : Bool :=
  (knownItemTypes.lookup itemType).any fun tags => tag ∈ tags

def tagCraftableOutput : String := "craftable_output"

namespace CraftingSchema

section
variable (attributeSchema : AttributeSchema) (knownItemTypes : KnownItemTypes)
  (display : F64 → String)

def checkInput (recipe : Recipe) (input : CraftingInput) : Except Error Unit := do
  ensure (0 < input.amount) (.new "character"
    (s!"recipe \"{recipe.key}\" declares a non-positive amount ({input.amount}) for input " ++
      s!"{debugStr input.itemType}"))
  ensure (knownItemTypes.lookup input.itemType).isSome (.new "character"
    (s!"crafting.schema.yaml: recipe \"{recipe.key}\" input item_type {debugStr input.itemType} " ++
      s!"is not declared in the item catalog — register it first with " ++
      s!"`make items ARGS=\"create {input.itemType} <display name>\"` (or from a plugin's " ++
      s!"on_load via register-item-type)"))

def checkOutput (recipe : Recipe) : Except Error Unit := do
  let output := recipe.output
  ensure (0 < output.amount) (.new "character"
    s!"recipe \"{recipe.key}\" declares a non-positive output amount ({output.amount})")
  ensure (knownItemTypes.lookup output.itemType).isSome (.new "character"
    (s!"crafting.schema.yaml: recipe \"{recipe.key}\" output item_type " ++
      s!"{debugStr output.itemType} is not declared in the item catalog — register it first with " ++
      s!"`make items ARGS=\"create {output.itemType} <display name>\"` (or from a plugin's " ++
      s!"on_load via register-item-type)"))
  ensure (hasTag knownItemTypes output.itemType tagCraftableOutput) (.new "character"
    (s!"crafting.schema.yaml: recipe \"{recipe.key}\" output item_type " ++
      s!"{debugStr output.itemType} exists in the item catalog but isn't tagged " ++
      s!"{debugStr tagCraftableOutput} — add that tag with " ++
      s!"`make items ARGS=\"create {output.itemType} <display name> {tagCraftableOutput}\"` " ++
      s!"(or via register-item-type) if this item really is meant to be a craftable output"))

def checkRequirement (recipe : Recipe) (req : StatRequirement) : Except Error Unit :=
  ensure (attributeSchema.declares req.stat) (.new "character"
    (s!"crafting.schema.yaml: recipe \"{recipe.key}\" declares a requires entry for " ++
      s!"unknown stat \"{req.stat}\""))

def checkGrant (recipe : Recipe) (grant : StatGrant) : Except Error Unit := do
  ensure (attributeSchema.declares grant.stat) (.new "character"
    (s!"crafting.schema.yaml: recipe \"{recipe.key}\" declares a grants entry for " ++
      s!"unknown stat \"{grant.stat}\""))
  match grant.chance with
  | none => .ok ()
  | some chance =>
      ensure chance.isChance (.new "character"
        (s!"crafting.schema.yaml: recipe \"{recipe.key}\" declares a grants entry for " ++
          s!"\"{grant.stat}\" with chance {display chance}, which must be greater than 0.0 and at " ++
          s!"most 1.0 — omit `chance` entirely for a grant that always applies"))

def checkRecipe (recipe : Recipe) : Except Error Unit := do
  ensure (!recipe.inputs.isEmpty) (.new "character"
    s!"recipe \"{recipe.key}\" declares no inputs — a recipe must consume at least one input")
  each (checkInput knownItemTypes recipe) recipe.inputs
  checkOutput knownItemTypes recipe
  each (checkRequirement attributeSchema recipe) recipe.requires
  each (checkGrant attributeSchema display recipe) recipe.grants

/-- The loop over the recipes; `seen` are the keys met so far. -/
def checkRecipes (seen : List String) : List Recipe → Except Error Unit
  | [] => .ok ()
  | recipe :: recipes => do
      ensure (recipe.key ∉ seen) (.new "character"
        s!"crafting.schema.yaml declares the recipe key \"{recipe.key}\" more than once")
      checkRecipe attributeSchema knownItemTypes display recipe
      checkRecipes (recipe.key :: seen) recipes

def fromYaml (parse : String → Option CraftingSchema) (input : String) :
    Except Error CraftingSchema :=
  match parse input with
  | none => .error (.wrap "character" "failed to parse crafting.schema.yaml")
  | some schema => do
      ensure (!schema.recipes.isEmpty)
        (.new "character" "crafting.schema.yaml must declare at least one recipe")
      checkRecipes attributeSchema knownItemTypes display [] schema.recipes
      .ok schema

end

def resolve (schema : CraftingSchema) (key : String) : Except Error Recipe :=
  match schema.recipes.find? fun r => r.key = key with
  | some recipe => .ok recipe
  | none => .error (.new "character" s!"unknown recipe: {key}")

theorem mem_of_resolve {schema : CraftingSchema} {key : String} {recipe : Recipe}
    (h : schema.resolve key = .ok recipe) : recipe ∈ schema.recipes := by
  unfold resolve at h
  split at h
  next recipe' found =>
    cases h
    exact List.mem_of_find?_eq_some found
  · cases h

/-- What every recipe of an accepted schema satisfies. No check compares the item
types of two inputs. -/
structure Accepted (attributeSchema : AttributeSchema) (recipe : Recipe) : Prop where
  inputs_ne_nil : recipe.inputs ≠ []
  inputs_pos : ∀ input ∈ recipe.inputs, 0 < input.amount
  output_pos : 0 < recipe.output.amount
  requires_declared : ∀ req ∈ recipe.requires, attributeSchema.declares req.stat = true
  grants_declared : ∀ grant ∈ recipe.grants, attributeSchema.declares grant.stat = true

variable {attributeSchema : AttributeSchema} {knownItemTypes : KnownItemTypes}
  {display : F64 → String} {parse : String → Option CraftingSchema} {input : String}
  {schema : CraftingSchema} {recipe : Recipe}

theorem accepted_of_checkRecipe
    (h : checkRecipe attributeSchema knownItemTypes display recipe = .ok ()) :
    Accepted attributeSchema recipe := by
  simp only [checkRecipe, then_ok, ensure_ok, each_ok] at h
  obtain ⟨nonempty, inputs, output, requires, grants⟩ := h
  refine ⟨by simpa using nonempty, fun input hinput => ?_, ?_, fun req hreq => ?_,
    fun grant hgrant => ?_⟩
  · have checked := inputs input hinput
    simp only [checkInput, then_ok, ensure_ok] at checked
    simpa using checked.1
  · simp only [checkOutput, then_ok, ensure_ok] at output
    simpa using output.1
  · simpa [checkRequirement] using requires req hreq
  · have checked := grants grant hgrant
    simp only [checkGrant, then_ok, ensure_ok] at checked
    exact checked.1

theorem accepted_of_checkRecipes {seen : List String} {recipes : List Recipe}
    (h : checkRecipes attributeSchema knownItemTypes display seen recipes = .ok ())
    (mem : recipe ∈ recipes) : Accepted attributeSchema recipe := by
  induction recipes generalizing seen with
  | nil => cases mem
  | cons first recipes ih =>
      simp only [checkRecipes, then_ok, ensure_ok] at h
      obtain ⟨-, checked, rest⟩ := h
      rcases List.mem_cons.mp mem with rfl | mem
      · exact accepted_of_checkRecipe checked
      · exact ih rest mem

/-- Every recipe of a schema that the loader returns passed the loader's checks. -/
theorem accepted_of_fromYaml
    (h : fromYaml attributeSchema knownItemTypes display parse input = .ok schema)
    (mem : recipe ∈ schema.recipes) : Accepted attributeSchema recipe := by
  unfold fromYaml at h
  cases hparse : parse input with
  | none => simp [hparse] at h
  | some parsed =>
      simp only [hparse, then_ok, ensure_ok, Except.ok.injEq] at h
      obtain ⟨-, checked, rfl⟩ := h
      exact accepted_of_checkRecipes checked mem

end CraftingSchema

end WorldZero.Character
