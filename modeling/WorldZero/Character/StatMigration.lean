import WorldZero.Character.AttributeSchema

/-!
# Stats that come from another realm

`migrate_stats` writes one entry for each declaration, so that of two declarations of a key
the last one decides what stands for a value that is missing. A read takes the first one.
-/

namespace WorldZero.Character.AttributeSchema

variable {schema : AttributeSchema} {stored : Stats} {key : String}

/-- The declaration of the key after which there is none. -/
def lastDeclaration (schema : AttributeSchema) (key : String) : Option StatDeclaration :=
  schema.stats.reverse.find? fun s => s.key = key

/-- What a migration writes for a declaration. -/
def migratedValue (stored : Stats) (decl : StatDeclaration) : Int :=
  ((stored.lookup decl.key).bind Json.asI64).getD decl.default

/-- The defaults are `i64` values, as the fields are that they are parsed into. -/
def I64Defaults (schema : AttributeSchema) : Prop :=
  ∀ decl ∈ schema.stats, I64.fits decl.default = true

/-- Every declared key reads as before the migration. -/
def ReadsThrough (schema : AttributeSchema) (stored : Stats) : Prop :=
  ∀ key, schema.declares key = true →
    schema.resolveRead (schema.migrateStats stored) key = schema.resolveRead stored key

/-- Of a key for which no number is stored, the first and the last declaration have the same
default. -/
def DefaultsAgree (schema : AttributeSchema) (stored : Stats) : Prop :=
  ∀ key first last, schema.declaration key = .ok first → schema.lastDeclaration key = some last →
    (stored.lookup key).bind Json.asI64 = none → first.default = last.default

theorem declaration_eq_ok {decl : StatDeclaration} :
    schema.declaration key = .ok decl ↔ schema.stats.find? (fun s => s.key = key) = some decl := by
  unfold declaration
  cases schema.stats.find? fun s => s.key = key <;> simp

theorem declares_iff_exists :
    schema.declares key = true ↔ ∃ decl ∈ schema.stats, decl.key = key := by
  rw [declares_iff]
  simp only [declaration_eq_ok]
  rw [← Option.isSome_iff_exists, List.find?_isSome]
  simp

theorem lastDeclaration_isSome :
    (schema.lastDeclaration key).isSome ↔ schema.declares key = true := by
  rw [declares_iff_exists, lastDeclaration, List.find?_isSome]
  simp

theorem lookup_migrateStats (schema : AttributeSchema) (stored : Stats) (key : String) :
    (schema.migrateStats stored).lookup key =
      (schema.lastDeclaration key).map fun decl => .number (migratedValue stored decl) := by
  obtain ⟨version, stats⟩ := schema
  simp only [migrateStats, lastDeclaration]
  induction stats using List.reverseRecOn with
  | nil => rfl
  | append_singleton stats decl ih =>
      rw [List.foldl_append, List.reverse_append]
      by_cases same : decl.key = key
      · subst same
        simp [migratedValue]
      · simp only [List.foldl_cons, List.foldl_nil, List.reverse_singleton, List.singleton_append]
        rw [Finmap.lookup_insert_of_ne _ (Ne.symm same), ih,
          List.find?_cons_of_neg (by simpa using same)]

theorem mem_of_lastDeclaration {decl : StatDeclaration}
    (last : schema.lastDeclaration key = some decl) : decl ∈ schema.stats ∧ decl.key = key := by
  refine ⟨List.mem_reverse.mp (List.mem_of_find?_eq_some last), ?_⟩
  simpa using List.find?_some last

/-- A migrated entry is a number that can be read. -/
theorem asI64_migrateStats (bounds : schema.I64Defaults) (stored : Stats)
    {decl : StatDeclaration} (last : schema.lastDeclaration key = some decl) :
    ((schema.migrateStats stored).lookup key).bind Json.asI64 =
      some (migratedValue stored decl) := by
  have fits : I64.fits (migratedValue stored decl) = true := by
    unfold migratedValue
    cases number : (stored.lookup decl.key).bind Json.asI64 with
    | none => exact bounds decl (mem_of_lastDeclaration last).1
    | some value =>
        obtain ⟨json, -, read⟩ := Option.bind_eq_some_iff.mp number
        cases json with
        | other => cases read
        | number n =>
            simp only [Json.asI64] at read
            split at read
            · cases read
              assumption
            · cases read
  rw [lookup_migrateStats, last]
  simp [Json.asI64, fits]

theorem keys_migrateStats : key ∈ schema.migrateStats stored ↔ schema.declares key = true := by
  rw [← lastDeclaration_isSome, ← Finmap.lookup_isSome, lookup_migrateStats, Option.isSome_map]

theorem migrateStats_idempotent (bounds : schema.I64Defaults) :
    schema.migrateStats (schema.migrateStats stored) = schema.migrateStats stored := by
  refine Finmap.ext_lookup fun key => ?_
  rw [lookup_migrateStats, lookup_migrateStats]
  cases last : schema.lastDeclaration key with
  | none => rfl
  | some decl =>
      have own := (mem_of_lastDeclaration last).2
      have number := asI64_migrateStats bounds stored last
      subst own
      rw [Option.map_some, Option.map_some]
      congr 2
      rw [migratedValue, number, Option.getD_some]

/-- A read goes through the migration exactly where the two declarations do not differ. -/
theorem readsThrough_iff (bounds : schema.I64Defaults) :
    schema.ReadsThrough stored ↔ schema.DefaultsAgree stored := by
  constructor
  · intro reads key first last declared final missing
    have declares := declares_iff.mpr ⟨first, declared⟩
    have migrated := resolveRead_stored declares (asI64_migrateStats bounds stored final)
    have before : schema.resolveRead stored key = .ok first.default := by
      simp only [resolveRead, declared, missing]
      rfl
    have same := migrated.symm.trans ((reads key declares).trans before)
    have own := (mem_of_lastDeclaration final).2
    rw [migratedValue, own, missing, Option.getD_none] at same
    exact (Except.ok.inj same).symm
  · intro agree key declares
    obtain ⟨last, final⟩ := Option.isSome_iff_exists.mp (lastDeclaration_isSome.mpr declares)
    obtain ⟨first, declared⟩ := declares_iff.mp declares
    have own := (mem_of_lastDeclaration final).2
    rw [resolveRead_stored declares (asI64_migrateStats bounds stored final), migratedValue, own]
    cases number : (stored.lookup key).bind Json.asI64 with
    | some value => rw [resolveRead_stored declares number, Option.getD_some]
    | none =>
        rw [Option.getD_none, ← agree key first last declared final number]
        simp only [resolveRead, declared, number]
        rfl

/-- Where no key is declared twice there is one declaration to take. -/
theorem defaultsAgree_of_nodup (distinct : (schema.stats.map (·.key)).Nodup) :
    schema.DefaultsAgree stored := by
  intro key first last declared final _
  have found := declaration_eq_ok.mp declared
  have first_own : first.key = key := by simpa using List.find?_some found
  obtain ⟨there, last_own⟩ := mem_of_lastDeclaration final
  have same : first = last := List.inj_on_of_nodup_map distinct (List.mem_of_find?_eq_some found)
    there (first_own.trans last_own.symm)
  rw [same]

/-- A migration under a schema that the loader takes is idempotent and keeps the declared keys,
and reads go through it exactly where the declarations of a key without a number agree. -/
theorem migration_transparent_iff {parse : String → Option AttributeSchema}
    (parses : ∀ input schema, parse input = some schema → schema.I64Defaults) {input : String}
    {schema : AttributeSchema} (loaded : fromYaml parse input = .ok schema) (stored : Stats) :
    ((∀ key, schema.declares key = true →
        schema.resolveRead (schema.migrateStats stored) key = schema.resolveRead stored key) ∧
      schema.migrateStats (schema.migrateStats stored) = schema.migrateStats stored ∧
      ∀ key, key ∈ schema.migrateStats stored ↔ schema.declares key = true) ↔
    schema.DefaultsAgree stored := by
  have bounds : schema.I64Defaults := by
    unfold fromYaml at loaded
    split at loaded
    next parsed =>
      cases loaded
      exact parses input schema parsed
    · cases loaded
  constructor
  · rintro ⟨reads, -, -⟩
    exact (readsThrough_iff bounds).mp reads
  · intro agree
    exact ⟨(readsThrough_iff bounds).mpr agree, migrateStats_idempotent bounds,
      fun _ => keys_migrateStats⟩

namespace Twice

def yaml : String :=
  "schema_version: 1\nstats:\n- {key: hp, type: int, default: 100}\n" ++
    "- {key: hp, type: int, default: 50}"

/-- Hit points that are declared twice. -/
def hp : AttributeSchema where
  schemaVersion := 1
  stats := [⟨"hp", .int, 100, none, none⟩, ⟨"hp", .int, 50, none, none⟩]

def parse (input : String) : Option AttributeSchema := if input = yaml then some hp else none

theorem parse_bounds (input : String) (schema : AttributeSchema)
    (parsed : parse input = some schema) : schema.I64Defaults := by
  unfold parse at parsed
  split at parsed
  · cases parsed
    unfold I64Defaults
    decide
  · cases parsed

def wounded : Stats := Finmap.singleton "hp" (.number 7)

/-- Where a number is stored it is what both read. -/
theorem migration_transparent_wounded :
    hp.resolveRead (hp.migrateStats wounded) "hp" = hp.resolveRead wounded "hp" := by
  have loaded : fromYaml parse yaml = .ok hp := rfl
  refine ((migration_transparent_iff parse_bounds loaded wounded).mpr ?_).1 "hp" (by decide)
  intro key first last declared final missing
  obtain ⟨there, rfl⟩ := mem_of_lastDeclaration final
  have named : ∀ decl ∈ hp.stats, decl.key = "hp" := by decide
  have number : (wounded.lookup "hp").bind Json.asI64 = some 7 := by decide
  rw [named last there, number] at missing
  cases missing

/-- Of a character with no hit points stored, 100 are read before and 50 after. -/
theorem migration_not_transparent : fromYaml parse yaml = .ok hp ∧
    hp.resolveRead ∅ "hp" = .ok 100 ∧ hp.resolveRead (hp.migrateStats ∅) "hp" = .ok 50 ∧
    ¬ ∀ key, hp.declares key = true →
      hp.resolveRead (hp.migrateStats ∅) key = hp.resolveRead ∅ key :=
  ⟨rfl, by decide, by decide, fun reads => absurd (reads "hp" (by decide)) (by decide)⟩

end Twice

end WorldZero.Character.AttributeSchema
