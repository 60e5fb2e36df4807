import WorldZero.Transfer.Gates

/-!
# Transfers to the realm a character is on

A transfer succeeds exactly when both realms are bound, the character is offline and
the gate of the pair lets it through. That the realms differ is none of the checks: the
pair of a realm with itself has a gate like any other, and its price is taken from a
character that stays where it is.
-/

namespace WorldZero.Transfer

open Sql Validation Character RealmDirectory Server.Login

variable {Position : Type} {executor : TransferExecutor} {db db' : Database Position}
  {request : TransferRequest} {id successId failureId : Uuid} {characterId : CharacterId}
  {itemType : String}

/-- A transfer that returns `Ok` ends on another realm, and one to the character's own realm
is rejected and costs nothing. -/
def MovesOn (executor : TransferExecutor) (db : Database Position) (request : TransferRequest)
    (successId failureId : Uuid) : Prop :=
  ∀ row, db.characters.find request.characterId = some row →
    match executor.transfer db request successId failureId with
    | (.ok (), db') => request.destinationRealmId ≠ row.realmId ∧
        ∃ row', db'.characters.find request.characterId = some row' ∧ row'.realmId ≠ row.realmId
    | (.error _, db') => request.destinationRealmId = row.realmId →
        ∀ c t, quantityOf db' c t = quantityOf db c t

/-- The character is offline on the bound realm that it asks for, and the gate from that realm
to itself lets it through. -/
def AdmittedToOwnRealm (executor : TransferExecutor) (db : Database Position)
    (request : TransferRequest) : Prop :=
  ∃ row gate, db.characters.find request.characterId = some row ∧
    row.realmId = request.destinationRealmId ∧ db.policyOf row.realmId = some .boundRealm ∧
    BoundLiveness.isLive (db.boundLiveness request.characterId) db.now = false ∧
    gateOf db row.realmId row.realmId = .ok gate ∧ gate.Passes executor db request

theorem admittedToOwnRealm_iff {row : CharacterRow Position}
    (found : db.characters.find request.characterId = some row) :
    AdmittedToOwnRealm executor db request ↔
      row.realmId = request.destinationRealmId ∧
        ∃ row gate, Transferable executor db request row gate := by
  constructor
  · rintro ⟨row', gate, found', own, bound, offline, configured, passes⟩
    obtain rfl := Option.some.inj (found.symm.trans found')
    exact ⟨own, row, gate, found, bound, own ▸ bound, offline, own ▸ configured, passes⟩
  · rintro ⟨own, row', gate, able⟩
    obtain rfl := Option.some.inj (found.symm.trans able.found)
    exact ⟨row, gate, found, own, able.sourceBound, able.offline, own.symm ▸ able.configured,
      able.passes⟩

/-- A transfer moves the character, or takes nothing, unless it is let through to the realm it
is on. -/
theorem movesOn_iff :
    MovesOn executor db request successId failureId ↔
      ¬ AdmittedToOwnRealm executor db request := by
  have atomic := transfer_atomic executor db request successId failureId
  constructor
  · rintro moves ⟨row, gate, found, own, rest⟩
    have admitted : AdmittedToOwnRealm executor db request := ⟨row, gate, found, own, rest⟩
    have returned := (transfer_ok_iff successId failureId).mpr
      ((admittedToOwnRealm_iff found).mp admitted).2
    have moved := moves row found
    split at moved
    · exact moved.1 own.symm
    next result =>
      rw [result] at returned
      cases returned
  · intro unadmitted row found
    split at atomic
    next e db' result =>
      obtain ⟨_, _, rfl⟩ := atomic
      rw [result]
      exact fun _ _ _ => rfl
    next db' result =>
      obtain ⟨gate, row', moved⟩ := atomic
      obtain rfl := Option.some.inj (found.symm.trans moved.found)
      have other : request.destinationRealmId ≠ row.realmId := fun own =>
        unadmitted ((admittedToOwnRealm_iff found).mpr
          ⟨own.symm, (transfer_ok_iff _ _).mp (congrArg Prod.fst result)⟩)
      rw [result]
      exact ⟨other, _, (moved.characters _).trans (if_pos rfl), other⟩

namespace TwoRealms

/-- The ticket is gone and the hero is where it was. -/
theorem ticket_for_nothing : ∃ db,
    TransferGateStore.set before ⟨1⟩ ⟨1⟩ (.ticketItem "ticket") = .ok db ∧
      quantityOf db ⟨7⟩ "ticket" = 1 ∧
      let outcome := denyAll.transfer db (requestTo ⟨1⟩) 0 1
      outcome.1 = .ok () ∧ quantityOf outcome.2 ⟨7⟩ "ticket" = 0 ∧
        (outcome.2.characters.find ⟨7⟩).map CharacterRow.realmId = some ⟨1⟩ ∧
        ¬ MovesOn denyAll db (requestTo ⟨1⟩) 0 1 := by
  refine ⟨_, rfl, by decide, by rfl, by decide, by decide, fun moves => ?_⟩
  exact (moves hero rfl).1 rfl

end TwoRealms

end WorldZero.Transfer
