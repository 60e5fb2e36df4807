import Mathlib.Logic.Function.Basic
import Mathlib.Order.Defs.LinearOrder
import Mathlib.Algebra.Order.Monoid.Unbundled.Basic

/-!
# Leases with an expiry

A table holds at most one lease, which names its holder and when it expires. The
database clock decides. Next to the row, a book remembers until when each holder
may rely on what it was last told: its grant. As long as every running grant is
backed by the row, no two grants run at a time; every operation keeps it so but
the deletion of the row by somebody else than its holder.
-/

namespace Lease

/-- The row of the lease table. -/
structure Row (H : Type*) where
  holder : H
  expiresAt : ℕ
  deriving DecidableEq

variable {H : Type*} [DecidableEq H]

/-- Insert the lease, or take it over when it has expired or is one's own. -/
def acquire (row : Option (Row H)) (h : H) (now ttl : ℕ) : Option (Row H) :=
  match row with
  | none => some ⟨h, now + ttl⟩
  | some lease =>
      if lease.expiresAt < now ∨ lease.holder = h then some ⟨h, now + ttl⟩ else none

/-- Move the expiry of a lease that is one's own, expired or not. -/
def renew (row : Option (Row H)) (h : H) (now ttl : ℕ) : Option (Row H) :=
  match row with
  | none => none
  | some lease => if lease.holder = h then some ⟨h, now + ttl⟩ else none

/-- Whether the row names a lease that has not expired, whoever holds it. -/
def isActive (row : Option (Row H)) (now : ℕ) : Bool :=
  row.any fun lease => decide (now < lease.expiresAt)

/-- What has not expired later has not expired now. -/
theorem unexpired_mono {α : Type*} {row : Option α} {expiresAt : α → ℕ} {now later : ℕ}
    (le : now ≤ later) (unexpired : row.any (fun r => decide (later < expiresAt r)) = true) :
    row.any (fun r => decide (now < expiresAt r)) = true := by
  obtain ⟨r, in_row, bound⟩ := (Option.any_eq_true _ _).mp unexpired
  have before : now < expiresAt r := lt_of_le_of_lt le (of_decide_eq_true bound)
  exact (Option.any_eq_true _ _).mpr ⟨r, in_row, decide_eq_true before⟩

omit [DecidableEq H] in
theorem isActive_mono {row : Option (Row H)} {now later : ℕ} (le : now ≤ later)
    (active : isActive row later = true) : isActive row now = true :=
  unexpired_mono le active

/-- The row, and until when each holder was granted the lease. -/
structure Book (H : Type*) where
  row : Option (Row H)
  grant : H → Option ℕ

namespace Book

variable (b : Book H) (h : H) (now ttl : ℕ)

/-- A grant runs up to and including the time that it names. -/
def running : Bool := (b.grant h).any fun limit => decide (now ≤ limit)

/-- The holder was given a lease until `now + ttl`. -/
def give : Book H where
  row := some ⟨h, now + ttl⟩
  grant := Function.update b.grant h (some (now + ttl))

/-- The row is deleted, whoever holds it, and the grant of `h` is over. -/
def delete : Book H where
  row := none
  grant := Function.update b.grant h none

/-- The row tells the grant of its holder, and every running grant is in the row. -/
structure Backed (b : Book H) (now : ℕ) : Prop where
  told : ∀ lease ∈ b.row, b.grant lease.holder = some lease.expiresAt
  held : ∀ h, b.running h now = true → ∃ lease ∈ b.row, lease.holder = h

variable {b h now ttl} {h' : H} {later : ℕ} {row : Row H}

omit [DecidableEq H] in
theorem running_iff : b.running h now = true ↔ ∃ limit, b.grant h = some limit ∧ now ≤ limit := by
  simp [running, Option.any_eq_true]

omit [DecidableEq H] in
theorem running_mono (le : now ≤ later) (run : b.running h later = true) :
    b.running h now = true := by
  obtain ⟨limit, granted, bound⟩ := running_iff.mp run
  exact running_iff.mpr ⟨limit, granted, le.trans bound⟩

@[simp] theorem running_give_self : (b.give h now ttl).running h now = true :=
  running_iff.mpr ⟨now + ttl, by simp [give], by omega⟩

theorem running_give_of_ne (ne : h' ≠ h) :
    (b.give h now ttl).running h' later = b.running h' later := by
  simp [running, give, ne]

@[simp] theorem running_delete_self : (b.delete h).running h now = false := by
  simp [running, delete]

theorem running_delete_of_ne (ne : h' ≠ h) :
    (b.delete h).running h' later = b.running h' later := by
  simp [running, delete, ne]

namespace Backed

omit [DecidableEq H] in
theorem empty (now : ℕ) : Backed (⟨none, fun _ => none⟩ : Book H) now :=
  ⟨by simp, by simp [running]⟩

omit [DecidableEq H] in
/-- No two grants run at a time. -/
theorem exclusive (backed : b.Backed now) (run : b.running h now = true)
    (run' : b.running h' now = true) : h = h' := by
  obtain ⟨lease, in_row, rfl⟩ := backed.held h run
  obtain ⟨lease', in_row', rfl⟩ := backed.held h' run'
  cases in_row.symm.trans in_row'
  rfl

omit [DecidableEq H] in
/-- A lease in the row that has not expired is a running grant. -/
theorem running_of_row (backed : b.Backed now) {lease : Row H} (in_row : lease ∈ b.row)
    (unexpired : now ≤ lease.expiresAt) : b.running lease.holder now = true :=
  running_iff.mpr ⟨lease.expiresAt, backed.told lease in_row, unexpired⟩

omit [DecidableEq H] in
theorem mono (backed : b.Backed now) (le : now ≤ later) : b.Backed later :=
  ⟨backed.told, fun h run => backed.held h (running_mono le run)⟩

/-- While somebody else's grant runs, the lease cannot be acquired. -/
theorem acquire_eq_none (backed : b.Backed now) (run : b.running h' now = true) (ne : h' ≠ h) :
    Lease.acquire b.row h now ttl = none := by
  obtain ⟨lease, in_row, rfl⟩ := backed.held h' run
  obtain ⟨limit, granted, bound⟩ := running_iff.mp run
  have expires : limit = lease.expiresAt := by
    have told := backed.told lease in_row
    rw [granted] at told
    exact Option.some.inj told
  rw [Option.mem_def.mp in_row]
  simp only [Lease.acquire]
  rw [if_neg]
  rintro (expired | own)
  · omega
  · exact ne own

/-- When the row becomes one's own, every other grant must be over. -/
theorem give (others : ∀ h' ≠ h, b.running h' now = false) :
    (b.give h now ttl).Backed now := by
  refine ⟨fun lease in_row => ?_, fun h' run => ⟨_, rfl, ?_⟩⟩
  · cases in_row
    simp [Book.give]
  · by_contra ne
    rw [running_give_of_ne (Ne.symm ne), others h' (Ne.symm ne)] at run
    cases run

theorem acquire (backed : b.Backed now) (acquired : Lease.acquire b.row h now ttl = some row) :
    (b.give h now ttl).Backed now := by
  refine give fun h' ne => ?_
  by_contra run
  rw [backed.acquire_eq_none (by simpa using run) ne] at acquired
  cases acquired

theorem renew (backed : b.Backed now) (renewed : Lease.renew b.row h now ttl = some row) :
    (b.give h now ttl).Backed now := by
  refine give fun h' ne => ?_
  by_contra run
  obtain ⟨lease, in_row, rfl⟩ := backed.held h' (by simpa using run)
  rw [Option.mem_def.mp in_row] at renewed
  simp [Lease.renew, ne] at renewed

/-- The row may be deleted by whom it belongs to, or while no grant runs. -/
theorem delete (backed : b.Backed now)
    (own : b.running h now = true ∨ ∀ h' ≠ h, b.running h' now = false) :
    (b.delete h).Backed now := by
  refine ⟨by simp [Book.delete], fun h' run => ?_⟩
  by_cases same : h' = h
  · simp [same] at run
  · rw [running_delete_of_ne same] at run
    rcases own with own | others
    · exact absurd (backed.exclusive run own) same
    · rw [others h' same] at run
      cases run

end Backed

end Book

end Lease
