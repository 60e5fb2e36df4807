import Mathlib.Data.List.Nodup
import WorldZero.Common
import WorldZero.Ladder
import WorldZero.Validation

/-!
# The declared currencies

`currency.schema.yaml`: currencies, each with the ladder of its denominations from the
smallest up. A balance is one number in the currency's base unit; its breakdown into
denominations is computed when it is read. The YAML parser is a parameter of the loader.
-/

namespace WorldZero.Character

open Validation

structure CurrencyDenomination where
  key : String
  ratio : Int64
  deriving DecidableEq

structure Currency where
  key : String
  denominations : List CurrencyDenomination := []
  deriving DecidableEq

structure CurrencySchema where
  schemaVersion : Nat
  currencies : List Currency
  deriving DecidableEq

namespace CurrencySchema

/-! ### The loader -/

/-- The loop over a ladder; `seen` are the keys met so far. -/
def checkDenominations (currency : Currency) (seen : List String) (previousRatio : Option Int64) :
    List CurrencyDenomination → Except Error Unit
  | [] => .ok ()
  | denomination :: denominations => do
      ensure (0 < denomination.ratio) (.new "character"
        (s!"currency {debugStr currency.key}'s denomination \"{denomination.key}\" has a " ++
          s!"non-positive ratio ({denomination.ratio}); ratios must be positive"))
      ensure (denomination.key ∉ seen) (.new "character"
        (s!"currency {debugStr currency.key} declares the denomination key " ++
          s!"\"{denomination.key}\" more than once"))
      ensure (previousRatio.all (· < denomination.ratio)) (.new "character"
        (s!"currency {debugStr currency.key}'s denominations must be declared in strictly " ++
          s!"ascending ratio order; \"{denomination.key}\" (ratio {denomination.ratio}) does " ++
          s!"not come after a smaller ratio"))
      checkDenominations currency (denomination.key :: seen) (some denomination.ratio)
        denominations

/-- The loop over the currencies; `seen` are the keys met so far. -/
def checkCurrencies (seen : List String) : List Currency → Except Error Unit
  | [] => .ok ()
  | currency :: currencies => do
      ensure (currency.key ∉ seen) (.new "character"
        s!"currency.schema.yaml declares the currency key \"{currency.key}\" more than once")
      checkDenominations currency [] none currency.denominations
      checkCurrencies (currency.key :: seen) currencies

def fromYaml (parse : String → Option CurrencySchema) (input : String) :
    Except Error CurrencySchema :=
  match parse input with
  | none => .error (.wrap "character" "failed to parse currency.schema.yaml")
  | some schema => do
      ensure (!schema.currencies.isEmpty)
        (.new "character" "currency.schema.yaml must declare at least one currency")
      checkCurrencies [] schema.currencies
      .ok schema

/-! ### Balances -/

def resolve (schema : CurrencySchema) (key : String) : Except Error Currency :=
  match schema.currencies.find? fun c => c.key = key with
  | some currency => .ok currency
  | none => .error (.new "character" s!"unknown currency: {key}")

def isDeclared (schema : CurrencySchema) (key : String) : Bool :=
  schema.currencies.any fun c => c.key = key

/-- The loop of `breakdown` over the denominations from the largest down. -/
def cascade (remaining : Int64) : List CurrencyDenomination → List (String × Int64)
  | [] => []
  | denomination :: denominations =>
      (denomination.key, remaining / denomination.ratio) ::
        cascade (remaining % denomination.ratio) denominations

def breakdown (schema : CurrencySchema) (currencyKey : String) (rawBalance : Int64) :
    Except Error (List (String × Int64)) := do
  let currency ← schema.resolve currencyKey
  if currency.denominations.isEmpty then .ok [(currencyKey, rawBalance)]
  else .ok (cascade rawBalance currency.denominations.reverse)

/-! ### What the loader lets through -/

/-- What every currency of an accepted schema satisfies. No check looks at what the first
ratio is. -/
structure Accepted (currency : Currency) : Prop where
  ratios_pos : ∀ denomination ∈ currency.denominations, 0 < denomination.ratio
  keys_nodup : (currency.denominations.map CurrencyDenomination.key).Nodup
  ascending : (currency.denominations.map CurrencyDenomination.ratio).Pairwise (· < ·)

theorem of_checkDenominations {currency : Currency} {seen : List String}
    {previousRatio : Option Int64} {denominations : List CurrencyDenomination}
    (h : checkDenominations currency seen previousRatio denominations = .ok ()) :
    (∀ d ∈ denominations, 0 < d.ratio ∧ d.key ∉ seen ∧ ∀ r ∈ previousRatio, r < d.ratio) ∧
      (denominations.map CurrencyDenomination.key).Nodup ∧
      (denominations.map CurrencyDenomination.ratio).Pairwise (· < ·) := by
  induction denominations generalizing seen previousRatio with
  | nil => simp
  | cons denomination denominations ih =>
      simp only [checkDenominations, then_ok, ensure_ok, decide_eq_true_eq] at h
      obtain ⟨positive, fresh, above, rest⟩ := h
      obtain ⟨each, nodup, ascending⟩ := ih rest
      have after : ∀ r ∈ previousRatio, r < denomination.ratio := by
        rintro r rfl
        simpa using above
      refine ⟨List.forall_mem_cons.mpr ⟨⟨positive, fresh, after⟩, fun d hd => ?_⟩, ?_, ?_⟩
      · obtain ⟨hd', apart, larger⟩ := each d hd
        have next := larger denomination.ratio rfl
        exact ⟨hd', fun old => apart (List.mem_cons_of_mem _ old),
          fun r hr => Int64.lt_trans (after r hr) next⟩
      · rw [List.map_cons, List.nodup_cons, List.mem_map]
        refine ⟨?_, nodup⟩
        rintro ⟨d, hd, same⟩
        exact (each d hd).2.1 (same ▸ List.mem_cons_self)
      · rw [List.map_cons, List.pairwise_cons]
        exact ⟨List.forall_mem_map.mpr fun d hd => (each d hd).2.2 _ rfl, ascending⟩

theorem accepted_of_checkCurrencies {seen : List String} {currencies : List Currency}
    (h : checkCurrencies seen currencies = .ok ()) :
    ∀ currency ∈ currencies, Accepted currency := by
  induction currencies generalizing seen with
  | nil => simp
  | cons first currencies ih =>
      simp only [checkCurrencies, then_ok] at h
      obtain ⟨-, checked, rest⟩ := h
      obtain ⟨each, nodup, ascending⟩ := of_checkDenominations checked
      exact List.forall_mem_cons.mpr ⟨⟨fun d hd => (each d hd).1, nodup, ascending⟩, ih rest⟩

variable {parse : String → Option CurrencySchema} {input key : String} {schema : CurrencySchema}
  {currency : Currency}

theorem mem_of_resolve (h : schema.resolve key = .ok currency) : currency ∈ schema.currencies := by
  unfold resolve at h
  split at h
  next found =>
    cases h
    exact List.mem_of_find?_eq_some found
  · cases h

theorem accepted_of_fromYaml (loaded : fromYaml parse input = .ok schema)
    (declared : schema.resolve key = .ok currency) : Accepted currency := by
  unfold fromYaml at loaded
  cases parsed : parse input with
  | none => simp [parsed] at loaded
  | some document =>
      simp only [parsed, then_ok, Except.ok.injEq] at loaded
      obtain ⟨-, checked, rfl⟩ := loaded
      exact accepted_of_checkCurrencies checked currency (mem_of_resolve declared)

/-! ### Breakdowns -/

/-- What the parts of a breakdown come to, each at the ratio of its denomination. -/
def worth (parts : List (String × Int64)) (denominations : List CurrencyDenomination) : Int :=
  (List.zipWith (fun part denomination => part.2.toInt * denomination.ratio.toInt) parts
    denominations).sum

/-- The breakdown has a part for each denomination from the largest down, comes to the balance,
owes nothing, and never has as much in the smaller denominations as one of the next larger. -/
structure Faithful (currency : Currency) (balance : Int64) (parts : List (String × Int64)) :
    Prop where
  keys : parts.map Prod.fst = currency.denominations.reverse.map CurrencyDenomination.key
  lossless : worth parts currency.denominations.reverse = balance.toInt
  nonneg : ∀ part ∈ parts, 0 ≤ part.2
  canonical : ∀ larger denomination smaller,
    currency.denominations.reverse = larger ++ denomination :: smaller →
      worth (parts.drop (larger.length + 1)) smaller < denomination.ratio.toInt

/-- The ratios from the largest down. -/
def ratios (denominations : List CurrencyDenomination) : List Int :=
  denominations.map fun d => d.ratio.toInt

theorem map_fst_cascade (remaining : Int64) (denominations : List CurrencyDenomination) :
    (cascade remaining denominations).map Prod.fst =
      denominations.map CurrencyDenomination.key := by
  induction denominations generalizing remaining with
  | nil => rfl
  | cons d denominations ih => simp [cascade, ih]

theorem map_snd_cascade {remaining : Int64} {denominations : List CurrencyDenomination}
    (nonneg : 0 ≤ remaining) (positive : ∀ d ∈ denominations, 0 < d.ratio) :
    (cascade remaining denominations).map (fun part => part.2.toInt) =
      Ladder.counts remaining.toInt (ratios denominations) := by
  induction denominations generalizing remaining with
  | nil => rfl
  | cons d denominations ih =>
      obtain ⟨hd, rest⟩ := List.forall_mem_cons.mp positive
      have hr : 0 < d.ratio.toInt := Int64.lt_iff_toInt_lt.mp hd
      have hn : 0 ≤ remaining.toInt := Int64.le_iff_toInt_le.mp nonneg
      have quotient : (remaining / d.ratio).toInt = remaining.toInt / d.ratio.toInt := by
        rw [Int64.toInt_div_of_ne_right, Int.tdiv_eq_ediv_of_nonneg hn]
        rintro same
        rw [same] at hr
        exact absurd hr (by decide)
      have remainder : (remaining % d.ratio).toInt = remaining.toInt % d.ratio.toInt := by
        rw [Int64.toInt_mod, Int.tmod_eq_emod_of_nonneg hn]
      have below : 0 ≤ remaining % d.ratio := by
        rw [Int64.le_iff_toInt_le, remainder]
        exact Int.emod_nonneg _ hr.ne'
      rw [cascade, List.map_cons, ih below rest, remainder, quotient]
      rfl

theorem worth_eq_value (parts : List (String × Int64))
    (denominations : List CurrencyDenomination) :
    worth parts denominations =
      Ladder.value (parts.map fun part => part.2.toInt) (ratios denominations) := by
  rw [worth, Ladder.value, ratios, List.zipWith_map]

theorem breakdown_eq (declared : schema.resolve key = .ok currency)
    (ladder : currency.denominations ≠ []) (balance : Int64) :
    schema.breakdown key balance = .ok (cascade balance currency.denominations.reverse) := by
  rw [breakdown, declared]
  simp [bind, Except.bind, ladder]

/-- For one balance: the parts fail only by what the ladder leaves over. -/
theorem faithful_cascade_iff (accepted : Accepted currency) {balance : Int64}
    (nonneg : 0 ≤ balance) :
    Faithful currency balance (cascade balance currency.denominations.reverse) ↔
      Ladder.leftover balance.toInt (ratios currency.denominations.reverse) = 0 := by
  have positive : ∀ d ∈ currency.denominations.reverse, 0 < d.ratio :=
    fun d hd => accepted.ratios_pos d (List.mem_reverse.mp hd)
  have positive' : ∀ denominations : List CurrencyDenomination,
      (∀ d ∈ denominations, 0 < d.ratio) → ∀ r ∈ ratios denominations, 0 < r := by
    intro denominations h
    exact List.forall_mem_map.mpr fun d hd => Int64.lt_iff_toInt_lt.mp (h d hd)
  have counted := map_snd_cascade nonneg positive
  have amount : 0 ≤ balance.toInt := Int64.le_iff_toInt_le.mp nonneg
  have total := Ladder.value_counts balance.toInt (ratios currency.denominations.reverse)
  rw [← counted, ← worth_eq_value] at total
  constructor
  · intro faithful
    have whole := faithful.lossless
    linarith
  · intro paid
    refine ⟨map_fst_cascade _ _, by linarith, ?_, ?_⟩
    · intro part hpart
      rw [Int64.le_iff_toInt_le]
      refine Ladder.counts_nonneg amount (positive' _ positive) _ ?_
      rw [← counted]
      exact List.mem_map_of_mem hpart
    · intro larger denomination smaller split
      rw [split] at positive counted
      have later : ∀ d ∈ smaller, 0 < d.ratio := fun d hd => positive d (by simp [hd])
      have hr : 0 < denomination.ratio.toInt :=
        Int64.lt_iff_toInt_lt.mp (positive denomination (by simp))
      have parts : (ratios (larger ++ denomination :: smaller)) =
          (ratios larger ++ [denomination.ratio.toInt]) ++ ratios smaller := by
        simp [ratios]
      rw [worth_eq_value, List.map_drop, split, counted, parts, Ladder.counts_append,
        List.drop_left' (by simp [Ladder.length_counts, ratios])]
      exact Ladder.value_counts_lt hr (positive' _ later)

/-- A breakdown is faithful for every balance exactly when the ladder's first denomination is
the base unit; otherwise it is for the balances that the ladder happens to pay out. -/
theorem breakdown_faithful_iff (loaded : fromYaml parse input = .ok schema)
    (declared : schema.resolve key = .ok currency) (ladder : currency.denominations ≠ []) :
    ((∀ balance, 0 ≤ balance → ∃ parts, schema.breakdown key balance = .ok parts ∧
        Faithful currency balance parts) ↔ (currency.denominations.head ladder).ratio = 1) ∧
      ∀ balance, 0 ≤ balance →
        ((∃ parts, schema.breakdown key balance = .ok parts ∧ Faithful currency balance parts) ↔
          Ladder.leftover balance.toInt (ratios currency.denominations.reverse) = 0) := by
  have accepted := accepted_of_fromYaml loaded declared
  have each : ∀ balance, 0 ≤ balance →
      ((∃ parts, schema.breakdown key balance = .ok parts ∧ Faithful currency balance parts) ↔
        Ladder.leftover balance.toInt (ratios currency.denominations.reverse) = 0) := by
    intro balance nonneg
    simp only [breakdown_eq declared ladder, Except.ok.injEq, exists_eq_left']
    exact faithful_cascade_iff accepted nonneg
  refine ⟨?_, each⟩
  obtain ⟨first, others, split⟩ := List.exists_cons_of_ne_nil ladder
  have descending : ratios currency.denominations.reverse =
      ratios others.reverse ++ [first.ratio.toInt] := by
    simp [ratios, split]
  have head : (currency.denominations.head ladder) = first := by simp [split]
  rw [head]
  constructor
  · intro all
    by_contra large
    have nothing := (each 1 (by decide)).mp (all 1 (by decide))
    rw [Ladder.leftover_of_lt (by decide)] at nothing
    · exact absurd nothing (by decide)
    · have positive := accepted.ratios_pos first (by simp [split])
      have ascending := accepted.ascending
      rw [split, List.map_cons, List.pairwise_cons] at ascending
      have least : (1 : Int64).toInt < first.ratio.toInt := by
        rw [Int64.lt_iff_toInt_lt] at positive
        refine lt_of_le_of_ne positive fun same => large ?_
        exact (Int64.toInt_inj.mp same).symm
      refine List.forall_mem_map.mpr fun d hd => ?_
      rw [List.mem_reverse, split] at hd
      rcases List.mem_cons.mp hd with rfl | hd
      · exact least
      · exact least.trans (Int64.lt_iff_toInt_lt.mp (ascending.1 _ (List.mem_map_of_mem hd)))
  · intro unit balance nonneg
    rw [each balance nonneg, descending, unit]
    exact Ladder.leftover_eq_zero_of_one _ _

namespace WorkedExample

def coinsYaml : String :=
  "schema_version: 1\ncurrencies:\n  - key: gold\n    denominations:\n" ++
    "      - key: copper\n        ratio: 1\n      - key: silver\n        ratio: 100\n" ++
    "      - key: gold\n        ratio: 10000\n  - key: honor\n"

def gold : Currency := ⟨"gold", [⟨"copper", 1⟩, ⟨"silver", 100⟩, ⟨"gold", 10000⟩]⟩

def coins : CurrencySchema := ⟨1, [gold, ⟨"honor", []⟩]⟩

def tokensYaml : String :=
  "schema_version: 1\ncurrencies:\n  - key: token\n    denominations:\n" ++
    "      - key: stack\n        ratio: 5\n"

def token : Currency := ⟨"token", [⟨"stack", 5⟩]⟩

/-- Nothing is smaller than five base units. -/
def tokens : CurrencySchema := ⟨1, [token]⟩

/-- The parser on the two texts. -/
def parseYaml (input : String) : Option CurrencySchema :=
  if input = coinsYaml then some coins else if input = tokensYaml then some tokens else none

example : coins.breakdown "gold" 10847 = .ok [("gold", 1), ("silver", 8), ("copper", 47)] := by
  decide

theorem coins_faithful :
    ∃ parts, coins.breakdown "gold" 10847 = .ok parts ∧ Faithful gold 10847 parts := by
  have loaded : fromYaml parseYaml coinsYaml = .ok coins := by decide +kernel
  have declared : coins.resolve "gold" = .ok gold := by decide
  exact (breakdown_faithful_iff loaded declared (by decide)).1.mpr rfl 10847 (by decide)

/-- Two of seven base units are in no part of the breakdown. -/
theorem tokens_lost :
    fromYaml parseYaml tokensYaml = .ok tokens ∧ tokens.resolve "token" = .ok token ∧
    tokens.breakdown "token" 7 = .ok [("stack", 1)] ∧
    worth [("stack", 1)] token.denominations = 5 ∧
    ¬ ∃ parts, tokens.breakdown "token" 7 = .ok parts ∧ Faithful token 7 parts := by
  have parts : tokens.breakdown "token" 7 = .ok [("stack", 1)] := by decide
  have short : worth [("stack", 1)] token.denominations = 5 := by decide
  refine ⟨by decide, by decide, parts, short, ?_⟩
  rintro ⟨parts', same, faithful⟩
  obtain rfl : [("stack", 1)] = parts' := by simpa [parts] using same
  have whole : worth [("stack", 1)] token.denominations = (7 : Int64).toInt := faithful.lossless
  rw [short] at whole
  exact absurd whole (by decide)

end WorkedExample

end CurrencySchema

end WorldZero.Character
