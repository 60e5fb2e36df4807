import WorldZero.Character.Inventory

/-!
# Trade execution

`execute_trade` exchanges two offers in one transaction: lock and validate every
offered row, consume both offers, then grant them. The offers are arbitrary lists,
so a key may be repeated within an offer and may occur in both.

`Moved` is what one consume or grant loop does; `wp_executeTrade` chains the eight
loops of the exchange, and the serial result follows from it.
-/

namespace WorldZero.Character

open Sql

structure TradeOfferInput where
  items : List (String × Int)
  currency : List (String × Int)
  deriving DecidableEq

/-- Resulting holdings by key. The code reports them as a list in the arbitrary
order of its hash map. -/
abbrev Changes := Finmap fun _ : String => Int

structure TradeSideResult where
  itemChanges : Changes
  currencyChanges : Changes
  deriving DecidableEq

structure TradeResult where
  a : TradeSideResult
  b : TradeSideResult
  deriving DecidableEq

/-! ### The transaction -/

def requirePositive (error : String → Int → Error) : List (String × Int) → StoreM Unit
  | [] => pure ()
  | (key, n) :: entries =>
      if n ≤ 0 then .throw (error key n) else requirePositive error entries

def requirePositiveOffer (offer : TradeOfferInput) : StoreM Unit := do
  requirePositive (fun itemType quantity => .new "character"
    s!"trade offer quantity for {debugStr itemType} must be positive, got {quantity}") offer.items
  requirePositive (fun currencyKey amount => .new "character"
    s!"trade offer amount for {debugStr currencyKey} must be positive, got {amount}")
    offer.currency

/-- Lock the rows of one list of entries and check each entry by itself. -/
def lockEntries (row : String → RowKey) (failure : Error) (short : String → Int → Int → Error) :
    List (String × Int) → StoreM Unit
  | [] => pure ()
  | (key, n) :: entries => do
      let found ← Program.fetchOptionalForUpdate (row key) failure
      if amount (row key) found < n then .throw (short key n (amount (row key) found))
      else lockEntries row failure short entries

def lockOffer (c : CharacterId) (offer : TradeOfferInput) : StoreM Unit := do
  lockEntries (.item c) (.wrap "character" "failed to check trade item offer")
    (fun itemType quantity current => .new "character"
      s!"character {c} offered {quantity} of {debugStr itemType} but only holds {current}")
    offer.items
  lockEntries (.currency c) (.wrap "character" "failed to check trade currency offer")
    (fun currencyKey amount current => .new "character"
      (s!"character {c} offered {amount} of currency {debugStr currencyKey} " ++
        s!"but only holds {current}"))
    offer.currency

def consumeItems (c : CharacterId) : List (String × Int) → Changes → StoreM Changes
  | [], changes => pure changes
  | (itemType, quantity) :: items, changes => do
      let row ← Program.fetchOne (.item c itemType)
        (.wrap "character" "failed to re-read trade item offer")
      let remaining := I64.sub (amount (.item c itemType) (some row)) quantity
      let _ ← writeRemaining c itemType remaining
        (.wrap "character" "failed to consume traded item")
        (.wrap "character" "failed to consume traded item")
      consumeItems c items (changes.insert itemType remaining)

def grantItems (store : CharacterStore) (c : CharacterId) :
    List (String × Int) → Changes → StoreM Changes
  | [], changes => pure changes
  | (itemType, quantity) :: items, changes => do
      let row ← Program.fetchOptional (.item c itemType)
        (.wrap "character" "failed to check traded item receipt")
      requireStack store c row.isSome fun distinctCount max => .new "character"
        (s!"character {c} inventory is full: {distinctCount} distinct item types " ++
          s!"already owned, limit is {max} (WZ_INVENTORY_MAX_ITEM_TYPES) — trade would add " ++
          s!"{debugStr itemType}")
      let newQuantity ← upsertItem c itemType quantity
        (.wrap "character" "failed to grant traded item")
      grantItems store c items (changes.insert itemType newQuantity)

def consumeCurrency (c : CharacterId) : List (String × Int) → Changes → StoreM Changes
  | [], changes => pure changes
  | (currencyKey, n) :: currency, changes => do
      let row ← Program.fetchOne (.currency c currencyKey)
        (.wrap "character" "failed to re-read trade currency offer")
      let newBalance := I64.sub (amount (.currency c currencyKey) (some row)) n
      let _ ← Program.executeUpdate (RowKey.currency c currencyKey)
        (fun _ => Bounded.check newBalance)
        (.wrap "character" "failed to consume traded currency")
      consumeCurrency c currency (changes.insert currencyKey newBalance)

def grantCurrency (c : CharacterId) : List (String × Int) → Changes → StoreM Changes
  | [], changes => pure changes
  | (currencyKey, n) :: currency, changes => do
      let row ← Program.fetchUpsert (RowKey.currency c currencyKey) (some (.character c))
        (Bounded.check n) Bounded.add (.wrap "character" "failed to grant traded currency")
      grantCurrency c currency
        (changes.insert currencyKey (amount (.currency c currencyKey) (some row)))

/-- The statements of `execute_trade` between `BEGIN` and `COMMIT`, preceded by
the checks made before the transaction is opened. -/
def executeTrade (store : CharacterStore) (characterA : CharacterId) (offerA : TradeOfferInput)
    (characterB : CharacterId) (offerB : TradeOfferInput) : StoreM TradeResult := do
  requirePositiveOffer offerA
  requirePositiveOffer offerB
  lockOffer characterA offerA
  lockOffer characterB offerB
  let aChanges ← consumeItems characterA offerA.items ∅
  let bChanges ← consumeItems characterB offerB.items ∅
  let aCurrencyChanges ← consumeCurrency characterA offerA.currency ∅
  let bCurrencyChanges ← consumeCurrency characterB offerB.currency ∅
  let bChanges ← grantItems store characterB offerA.items bChanges
  let aChanges ← grantItems store characterA offerB.items aChanges
  let bCurrencyChanges ← grantCurrency characterB offerA.currency bCurrencyChanges
  let aCurrencyChanges ← grantCurrency characterA offerB.currency aCurrencyChanges
  pure {
    a := { itemChanges := aChanges, currencyChanges := aCurrencyChanges }
    b := { itemChanges := bChanges, currencyChanges := bCurrencyChanges } }

/-! ### What a loop over an offer does -/

/-- The total that a list of entries gives under one key. -/
def total (entries : List (String × Int)) (key : String) : Int :=
  (entries.map fun e => if e.1 = key then e.2 else 0).sum

/-- The total that a list of entries moves at one row. -/
def offered (row : String → RowKey) (entries : List (String × Int)) (k : RowKey) : Int :=
  (entries.map fun e => if row e.1 = k then e.2 else 0).sum

@[simp] theorem offered_nil (row : String → RowKey) (k : RowKey) : offered row [] k = 0 := rfl

@[simp] theorem offered_cons (row : String → RowKey) (e : String × Int)
    (entries : List (String × Int)) (k : RowKey) :
    offered row (e :: entries) k = (if row e.1 = k then e.2 else 0) + offered row entries k := by
  simp [offered]

theorem offered_row {row : String → RowKey} (inj : Function.Injective row)
    (entries : List (String × Int)) (key : String) :
    offered row entries (row key) = total entries key := by
  simp [offered, total, inj.eq_iff]

theorem offered_of_ne {row : String → RowKey} {k : RowKey} (h : ∀ key, row key ≠ k)
    (entries : List (String × Int)) : offered row entries k = 0 := by
  simp [offered, h]

/-- Every reported holding is what the call sees at the row. -/
def Reports (row : String → RowKey) (changes : Changes) (F : Footprint Row) : Prop :=
  ∀ key n, changes.lookup key = some n → ∃ i, F (row key) = some i ∧ amount (row key) i.now = n

theorem Reports.empty (row : String → RowKey) (F : Footprint Row) : Reports row ∅ F := by
  intro key n h
  cases Finmap.lookup_empty key ▸ h

/-- A loop over `entries` has moved each row by `sign` times what they offer for
it, and has reported the rows that it wrote. -/
structure Moved (row : String → RowKey) (sign : Int) (entries : List (String × Int))
    (changes : Changes) (F : Footprint Row) (changes' : Changes) (F' : Footprint Row) :
    Prop where
  change : ∀ k, F'.change amount k = F.change amount k + sign * offered row entries k
  known : ∀ k, F k ≠ none → F' k ≠ none
  frame : ∀ k, (∀ key, row key ≠ k) → F' k = F k
  reports : Reports row changes F → Reports row changes' F'

namespace Moved

variable {row row' : String → RowKey} {sign : Int} {entries : List (String × Int)}
  {changes changes' others : Changes} {F F' : Footprint Row}

theorem nil : Moved row sign [] changes F changes F :=
  ⟨by simp, fun _ => id, fun _ _ => rfl, id⟩

theorem cons {key : String} {n : Int} {i : Image (Row (row key))} {image : Option (Row (row key))}
    (inj : Function.Injective row) (hi : F.Admits (row key) i)
    (moved : amount (row key) image = amount (row key) i.now + sign * n)
    (rest : Moved row sign entries (changes.insert key (amount (row key) image))
      (F.set (row key) ⟨i.base, image⟩) changes' F') :
    Moved row sign ((key, n) :: entries) changes F changes' F' := by
  refine ⟨fun k => ?_, fun k hk => ?_, fun k hk => ?_, fun reports => ?_⟩
  · rw [rest.change, change_set hi, offered_cons, moved]
    by_cases same : k = row key
    · subst same
      simp only [if_true]
      grind
    · rw [if_neg same, if_neg (Ne.symm same)]
      grind
  · exact rest.known k (Footprint.set_keeps hk)
  · rw [rest.frame k hk, Footprint.set_of_ne (hk key).symm]
  · refine rest.reports fun key' m hm => ?_
    by_cases same : key' = key
    · subst same
      rw [Finmap.lookup_insert] at hm
      exact ⟨_, Footprint.set_self, Option.some.inj hm⟩
    · rw [Finmap.lookup_insert_of_ne changes same] at hm
      rw [Footprint.set_of_ne fun h => same (inj h)]
      exact reports key' m hm

/-- A loop leaves the reports about other rows as they are. -/
theorem keeps (h : Moved row sign entries changes F changes' F')
    (apart : ∀ key key', row key ≠ row' key') (reports : Reports row' others F) :
    Reports row' others F' := by
  intro key n hn
  rw [h.frame (row' key) fun key' => apart key' key]
  exact reports key n hn

end Moved

theorem item_injective (c : CharacterId) : Function.Injective (RowKey.item c) :=
  fun _ _ h => (RowKey.item.inj h).2

theorem currency_injective (c : CharacterId) : Function.Injective (RowKey.currency c) :=
  fun _ _ h => (RowKey.currency.inj h).2

variable {store : CharacterStore} {c : CharacterId} {entries : List (String × Int)}
  {changes : Changes} {F : Footprint Row}

theorem wp_requirePositive {error : String → Int → Error} {Q : Unit → Footprint Row → Prop}
    (post : (∀ e ∈ entries, 0 < e.2) → Q () F) :
    (requirePositive error entries).wp false Q F := by
  induction entries with
  | nil => exact post (by simp)
  | cons e entries ih =>
      rw [requirePositive]
      split
      · trivial
      next positive =>
        exact ih fun rest => post (List.forall_mem_cons.mpr ⟨Int.not_le.mp positive, rest⟩)

/-- An entry that passed its check is held: its row is locked and its amount is an
`i64`. -/
def Held (row : String → RowKey) (entries : List (String × Int)) (F : Footprint Row) : Prop :=
  ∀ e ∈ entries, 0 < e.2 ∧ e.2 ≤ I64.max ∧ F (row e.1) ≠ none

theorem Held.mono {row : String → RowKey} {F' : Footprint Row} (h : Held row entries F)
    (known : ∀ k, F k ≠ none → F' k ≠ none) : Held row entries F' :=
  fun e he => ⟨(h e he).1, (h e he).2.1, known _ (h e he).2.2⟩

theorem wp_lockEntries {row : String → RowKey} {failure : Error}
    {short : String → Int → Int → Error} {Q : Unit → Footprint Row → Prop}
    (positive : ∀ e ∈ entries, 0 < e.2)
    (post : ∀ F' : Footprint Row, (∀ k, F'.change amount k = F.change amount k) →
      (∀ k, F k ≠ none → F' k ≠ none) → Held row entries F' → Q () F') :
    (lockEntries row failure short entries).wp false Q F := by
  induction entries generalizing F with
  | nil => exact post F (fun _ => rfl) (fun _ => id) (by simp [Held])
  | cons e entries ih =>
      obtain ⟨key, n⟩ := e
      simp only [lockEntries, Program.bind_def, Program.wp_bind,
        Program.wp_fetchOptionalForUpdate]
      intro i hi
      split
      · trivial
      next enough =>
        have low : 0 < n := positive (key, n) List.mem_cons_self
        have high : n ≤ I64.max :=
          Int.le_trans (Int.not_lt.mp enough) (amount_le_max (row key) i.now)
        have exists' : i.now.isSome := by
          cases hnow : i.now with
          | none =>
              rw [hnow, amount_none] at enough
              omega
          | some v => rfl
        have hold : F.hold (row key) i = F.set (row key) i := by simp [Footprint.hold, exists']
        rw [hold]
        refine ih (fun e he => positive e (List.mem_cons_of_mem _ he)) fun F' same known held =>
          post F' (fun k => ?_) (fun k hk => known k (Footprint.set_keeps hk)) fun e he => ?_
        · rw [same, change_watch hi]
        · rcases List.mem_cons.mp he with rfl | he
          · exact ⟨low, high, known _ (by simp)⟩
          · exact held e he

theorem Held.tail {row : String → RowKey} {e : String × Int} (h : Held row (e :: entries) F) :
    Held row entries F := fun e he => h e (List.mem_cons_of_mem _ he)

theorem wp_consumeItems {Q : Changes → Footprint Row → Prop}
    (held : Held (.item c) entries F)
    (post : ∀ changes' F', Moved (.item c) (-1) entries changes F changes' F' → Q changes' F') :
    (consumeItems c entries changes).wp false Q F := by
  induction entries generalizing F changes with
  | nil => exact post _ _ .nil
  | cons e entries ih =>
      obtain ⟨itemType, n⟩ := e
      obtain ⟨low, high, known⟩ := held (itemType, n) List.mem_cons_self
      obtain ⟨i, hi⟩ := Option.ne_none_iff_exists'.mp known
      simp only [consumeItems, Program.bind_def, Program.wp_bind, Program.wp_fetchOne]
      intro j hj v hv
      obtain rfl := (Footprint.admits_of_some hi).mp hj
      refine wp_writeRemaining hi (fun gone => by simp [hv] at gone) fun image himage => ?_
      rw [← himage]
      rw [sub_amount _ low high, ← hv] at himage
      exact ih (held.tail.mono fun _ => Footprint.set_keeps) fun changes' F' rest =>
        post changes' F' (.cons (item_injective c) hj (by omega) rest)

theorem wp_consumeCurrency {Q : Changes → Footprint Row → Prop}
    (held : Held (.currency c) entries F)
    (post : ∀ changes' F', Moved (.currency c) (-1) entries changes F changes' F' →
      Q changes' F') :
    (consumeCurrency c entries changes).wp false Q F := by
  induction entries generalizing F changes with
  | nil => exact post _ _ .nil
  | cons e entries ih =>
      obtain ⟨currencyKey, n⟩ := e
      obtain ⟨low, high, known⟩ := held (currencyKey, n) List.mem_cons_self
      obtain ⟨i, hi⟩ := Option.ne_none_iff_exists'.mp known
      simp only [consumeCurrency, Program.bind_def, Program.wp_bind, Program.wp_fetchOne,
        Program.wp_executeUpdate]
      intro j hj v hv j' hj'
      obtain rfl := (Footprint.admits_of_some hi).mp hj
      obtain rfl := (Footprint.admits_of_some hi).mp hj'
      rw [hv]
      intro w hw
      have image : amount (.currency c currencyKey) (some w) = _ := Bounded.value_of_check hw
      rw [← image]
      rw [sub_amount _ low high, ← hv] at image
      exact ih (held.tail.mono fun _ => Footprint.set_keeps) fun changes' F' rest =>
        post changes' F' (.cons (currency_injective c) hj' (by omega) rest)

theorem wp_grantItems {Q : Changes → Footprint Row → Prop}
    (post : ∀ changes' F', Moved (.item c) 1 entries changes F changes' F' → Q changes' F') :
    (grantItems store c entries changes).wp false Q F := by
  induction entries generalizing F changes with
  | nil => exact post _ _ .nil
  | cons e entries ih =>
      obtain ⟨itemType, n⟩ := e
      simp only [grantItems, Program.bind_def, Program.wp_bind, Program.wp_fetchOptional]
      intro i _
      refine wp_requireStack (wp_upsertItem fun j hj row hrow => ?_)
      exact ih fun changes' F' rest =>
        post changes' F' (.cons (item_injective c) hj (by rw [hrow, Int.one_mul]) rest)

theorem wp_grantCurrency {Q : Changes → Footprint Row → Prop}
    (post : ∀ changes' F', Moved (.currency c) 1 entries changes F changes' F' →
      Q changes' F') :
    (grantCurrency c entries changes).wp false Q F := by
  induction entries generalizing F changes with
  | nil => exact post _ _ .nil
  | cons e entries ih =>
      obtain ⟨currencyKey, n⟩ := e
      simp only [grantCurrency, Program.bind_def, Program.wp_bind, Program.wp_fetchUpsert]
      intro i hi excluded hrow row hw
      have sum := amount_currency_upsert hrow hw
      exact ih fun changes' F' rest =>
        post changes' F' (.cons (currency_injective c) hi (by rw [sum, Int.one_mul]) rest)

/-! ### The exchange -/

/-- Every entry of an offer is held by its owner. -/
def HeldOffer (c : CharacterId) (offer : TradeOfferInput) (F : Footprint Row) : Prop :=
  Held (.item c) offer.items F ∧ Held (.currency c) offer.currency F

def PositiveOffer (offer : TradeOfferInput) : Prop :=
  (∀ e ∈ offer.items, 0 < e.2) ∧ ∀ e ∈ offer.currency, 0 < e.2

variable {offer offerA offerB : TradeOfferInput} {characterA characterB : CharacterId}

theorem wp_requirePositiveOffer {Q : Unit → Footprint Row → Prop}
    (post : PositiveOffer offer → Q () F) : (requirePositiveOffer offer).wp false Q F := by
  simp only [requirePositiveOffer, Program.bind_def, Program.wp_bind]
  exact wp_requirePositive fun items => wp_requirePositive fun currency => post ⟨items, currency⟩

theorem wp_lockOffer {Q : Unit → Footprint Row → Prop} (positive : PositiveOffer offer)
    (post : ∀ F' : Footprint Row, (∀ k, F'.change amount k = F.change amount k) →
      (∀ k, F k ≠ none → F' k ≠ none) → HeldOffer c offer F' → Q () F') :
    (lockOffer c offer).wp false Q F := by
  simp only [lockOffer, Program.bind_def, Program.wp_bind]
  refine wp_lockEntries positive.1 fun F₁ same₁ known₁ items => ?_
  refine wp_lockEntries positive.2 fun F₂ same₂ known₂ currency => ?_
  exact post F₂ (fun k => (same₂ k).trans (same₁ k)) (fun k hk => known₂ k (known₁ k hk))
    ⟨items.mono known₂, currency⟩

/-- What an exchange adds to a row: what is received there less what is given. -/
def exchanged (characterA : CharacterId) (offerA : TradeOfferInput) (characterB : CharacterId)
    (offerB : TradeOfferInput) (k : RowKey) : Int :=
  offered (.item characterB) offerA.items k + offered (.item characterA) offerB.items k +
    offered (.currency characterB) offerA.currency k +
    offered (.currency characterA) offerB.currency k -
    offered (.item characterA) offerA.items k - offered (.item characterB) offerB.items k -
    offered (.currency characterA) offerA.currency k -
    offered (.currency characterB) offerB.currency k

/-- The reported holdings of one side are those that the call sees. -/
def ReportsSide (c : CharacterId) (side : TradeSideResult) (F : Footprint Row) : Prop :=
  Reports (.item c) side.itemChanges F ∧ Reports (.currency c) side.currencyChanges F

/-- An exchange that returns has moved both offers, and between distinct
characters it reports the resulting holdings. -/
theorem wp_executeTrade :
    (executeTrade store characterA offerA characterB offerB).wp false
      (fun result F => (∀ k, F.change amount k = exchanged characterA offerA characterB offerB k) ∧
        (characterA ≠ characterB →
          ReportsSide characterA result.a F ∧ ReportsSide characterB result.b F)) .empty := by
  simp only [executeTrade, Program.bind_def, Program.wp_bind, Program.pure_def, Program.wp_pure]
  refine wp_requirePositiveOffer fun positiveA => wp_requirePositiveOffer fun positiveB => ?_
  refine wp_lockOffer positiveA fun F₁ same₁ known₁ heldA => ?_
  refine wp_lockOffer positiveB fun F₂ same₂ known₂ heldB => ?_
  refine wp_consumeItems (heldA.1.mono known₂) fun a₁ G₁ m₁ => ?_
  refine wp_consumeItems (heldB.1.mono m₁.known) fun b₁ G₂ m₂ => ?_
  have known : ∀ k, F₂ k ≠ none → G₂ k ≠ none := fun k hk => m₂.known k (m₁.known k hk)
  refine wp_consumeCurrency ((heldA.2.mono known₂).mono known) fun ca₁ G₃ m₃ => ?_
  refine wp_consumeCurrency ((heldB.2.mono known).mono m₃.known) fun cb₁ G₄ m₄ => ?_
  refine wp_grantItems fun b₂ G₅ m₅ => wp_grantItems fun a₂ G₆ m₆ => ?_
  refine wp_grantCurrency fun cb₂ G₇ m₇ => wp_grantCurrency fun ca₂ G₈ m₈ => ⟨fun k => ?_, ?_⟩
  · have start := (same₂ k).trans (same₁ k)
    rw [Footprint.change_empty] at start
    rw [m₈.change, m₇.change, m₆.change, m₅.change, m₄.change, m₃.change, m₂.change, m₁.change,
      start, exchanged]
    omega
  · intro distinct
    have items : ∀ key key', RowKey.item characterA key ≠ .item characterB key' :=
      fun _ _ h => distinct (RowKey.item.inj h).1
    have currencies : ∀ key key', RowKey.currency characterA key ≠ .currency characterB key' :=
      fun _ _ h => distinct (RowKey.currency.inj h).1
    have mixed : ∀ (c c' : CharacterId) (key key' : String),
        RowKey.item c key ≠ .currency c' key' := fun _ _ _ _ h => by cases h
    have swap : ∀ {row row' : String → RowKey}, (∀ key key', row key ≠ row' key') →
        ∀ key key', row' key ≠ row key' := fun h key key' => (h key' key).symm
    have itemsA := m₁.reports (Reports.empty _ _)
    have itemsB := m₂.reports (Reports.empty _ _)
    have currencyA := m₃.reports (Reports.empty _ _)
    have currencyB := m₄.reports (Reports.empty _ _)
    refine ⟨⟨?_, ?_⟩, ⟨?_, ?_⟩⟩
    · have consumed := m₄.keeps (swap (mixed _ _)) (m₃.keeps (swap (mixed _ _))
        (m₂.keeps (swap items) itemsA))
      have granted := m₆.reports (m₅.keeps (swap items) consumed)
      exact m₈.keeps (swap (mixed _ _)) (m₇.keeps (swap (mixed _ _)) granted)
    · have consumed := m₄.keeps (swap currencies) currencyA
      exact m₈.reports (m₇.keeps (swap currencies)
        (m₆.keeps (mixed _ _) (m₅.keeps (mixed _ _) consumed)))
    · have consumed := m₄.keeps (swap (mixed _ _)) (m₃.keeps (swap (mixed _ _)) itemsB)
      have granted := m₆.keeps items (m₅.reports consumed)
      exact m₈.keeps (swap (mixed _ _)) (m₇.keeps (swap (mixed _ _)) granted)
    · have granted := m₇.reports (m₆.keeps (mixed _ _) (m₅.keeps (mixed _ _) currencyB))
      exact m₈.keeps currencies granted

/-! ### The serial exchange -/

/-- One side of an exact exchange: its holdings are the earlier ones less what it
gave plus what it received, and everything reported to it is what it now holds. -/
structure ExactSide (db db' : Tables) (c : CharacterId) (given received : TradeOfferInput)
    (side : TradeSideResult) : Prop where
  items : ∀ t, quantity db' c t = quantity db c t - total given.items t + total received.items t
  currency : ∀ k, balance db' c k =
    balance db c k - total given.currency k + total received.currency k
  itemChanges : ∀ t n, side.itemChanges.lookup t = some n → quantity db' c t = n
  currencyChanges : ∀ k n, side.currencyChanges.lookup k = some n → balance db' c k = n

theorem Reports.lookup {row : String → RowKey} {changes : Changes} {db db' : Tables}
    (h : Reports row changes F) (holds : F.Holds db db') {key : String} {n : Int}
    (hn : changes.lookup key = some n) : amount (row key) (db'.lookup (row key)) = n := by
  obtain ⟨i, hi, value⟩ := h key n hn
  have image := (Footprint.admits_of_some hi).mp (holds (row key))
  rw [← value, ← image]

/-- Only the entries for a key of the same character and kind move a row. -/
theorem offered_item (entries : List (String × Int)) (c : CharacterId) (t : String) :
    offered (.item c) entries (.item c t) = total entries t :=
  offered_row (item_injective c) entries t

theorem offered_currency (entries : List (String × Int)) (c : CharacterId) (key : String) :
    offered (.currency c) entries (.currency c key) = total entries key :=
  offered_row (currency_injective c) entries key

theorem offered_item_of_ne {c d : CharacterId} (h : d ≠ c) (entries : List (String × Int))
    (t : String) : offered (.item d) entries (.item c t) = 0 :=
  offered_of_ne (fun _ same => h (RowKey.item.inj same).1) entries

theorem offered_currency_of_ne {c d : CharacterId} (h : d ≠ c) (entries : List (String × Int))
    (key : String) : offered (.currency d) entries (.currency c key) = 0 :=
  offered_of_ne (fun _ same => h (RowKey.currency.inj same).1) entries

theorem offered_currency_item (c d : CharacterId) (entries : List (String × Int)) (t : String) :
    offered (.currency d) entries (.item c t) = 0 :=
  offered_of_ne (fun _ same => by cases same) entries

theorem offered_item_currency (c d : CharacterId) (entries : List (String × Int))
    (key : String) : offered (.item d) entries (.currency c key) = 0 :=
  offered_of_ne (fun _ same => by cases same) entries

theorem exchanged_item {c d : CharacterId} (distinct : c ≠ d) (given received : TradeOfferInput)
    (t : String) :
    exchanged c given d received (.item c t) = total received.items t - total given.items t := by
  simp only [exchanged, offered_item, offered_item_of_ne distinct.symm, offered_currency_item]
  omega

theorem exchanged_currency {c d : CharacterId} (distinct : c ≠ d)
    (given received : TradeOfferInput) (key : String) :
    exchanged c given d received (.currency c key) =
      total received.currency key - total given.currency key := by
  simp only [exchanged, offered_currency, offered_currency_of_ne distinct.symm,
    offered_item_currency]
  omega

theorem exchanged_comm (a b : CharacterId) (offerA offerB : TradeOfferInput) (k : RowKey) :
    exchanged a offerA b offerB k = exchanged b offerB a offerA k := by
  unfold exchanged
  omega

/-- A footprint that accounts for an exchange makes one side of it exact. -/
theorem ExactSide.of_holds {db db' : Tables} {c d : CharacterId} {given received : TradeOfferInput}
    {side : TradeSideResult} (distinct : c ≠ d) (holds : F.Holds db db')
    (change : ∀ k, F.change amount k = exchanged c given d received k)
    (reports : ReportsSide c side F) : ExactSide db db' c given received side where
  items t := by
    rw [quantity, holds.measure_eq amount, change, exchanged_item distinct, quantity]
    omega
  currency key := by
    rw [balance, holds.measure_eq amount, change, exchanged_currency distinct, balance]
    omega
  itemChanges _ _ hn := reports.1.lookup holds hn
  currencyChanges _ _ hn := reports.2.lookup holds hn

/-- A trade between distinct characters that runs alone either exchanges exactly
the two offers, so that what the two hold together is conserved, or changes
nothing at all. -/
theorem executeTrade_exact (store : CharacterStore) {a b : CharacterId} (distinct : a ≠ b)
    (offerA offerB : TradeOfferInput) (db : Tables) :
    match (executeTrade store a offerA b offerB).transaction db with
    | (.ok result, db') =>
        ExactSide db db' a offerA offerB result.a ∧ ExactSide db db' b offerB offerA result.b ∧
          (∀ t, quantity db' a t + quantity db' b t = quantity db a t + quantity db b t) ∧
          ∀ key, balance db' a key + balance db' b key = balance db a key + balance db b key
    | (.error _, db') => db' = db := by
  rcases run : (executeTrade store a offerA b offerB).transaction db with ⟨e | result, db'⟩
  · exact Program.transaction_error run
  · obtain ⟨F, ⟨change, reports⟩, holds⟩ := Program.wp_run wp_executeTrade
      (Footprint.holds_empty db) (Program.transaction_ok.mp run)
    obtain ⟨reportsA, reportsB⟩ := reports distinct
    have sideA : ExactSide db db' a offerA offerB result.a :=
      .of_holds distinct holds change reportsA
    have sideB : ExactSide db db' b offerB offerA result.b :=
      .of_holds distinct.symm holds (fun k => (change k).trans (exchanged_comm a b _ _ k)) reportsB
    refine ⟨sideA, sideB, fun t => ?_, fun key => ?_⟩
    · rw [sideA.items, sideB.items]
      omega
    · rw [sideA.currency, sideB.currency]
      omega

/-- A sword for gold, where the gold is offered in two entries of one key. -/
theorem executeTrade_exact_sword_for_gold :
    let a : CharacterId := .fromUuid 1
    let b : CharacterId := .fromUuid 2
    let store : CharacterStore := ⟨⟨1, []⟩, {}⟩
    let sword : TradeOfferInput := ⟨[("sword", 1)], []⟩
    let gold : TradeOfferInput := ⟨[], [("gold", 60), ("gold", 40)]⟩
    let db : Tables := ((((∅ : Tables).insert (.character a) ∅).insert (.character b) ∅).insert
      (.item a "sword") ⟨1, by decide, by decide⟩).insert
      (.currency b "gold") ⟨150, by decide, by decide⟩
    ∃ result db', (executeTrade store a sword b gold).transaction db = (.ok result, db') ∧
      ExactSide db db' a sword gold result.a ∧ ExactSide db db' b gold sword result.b := by
  intro a b store sword gold db
  have returned : ((executeTrade store a sword b gold).transaction db).1.isOk = true := by
    decide
  have exact := executeTrade_exact store (show a ≠ b by decide) sword gold db
  rcases run : (executeTrade store a sword b gold).transaction db with ⟨e | result, db'⟩
  · simp [run, Except.isOk, Except.toBool] at returned
  · rw [run] at exact
    exact ⟨result, db', rfl, exact.1, exact.2.1⟩

end WorldZero.Character
