import WorldZero.Sql.Program

/-!
# Calls that return

`Program.Returns` is total correctness of a call that runs alone: it returns, and
the result and the final tables satisfy a postcondition. `Program.wp` allows every
error and every row, and so cannot show that a call succeeds.
-/

namespace Sql.Program

variable {K : Type} {V : K → Type} {ε α β : Type} [DecidableEq K]

def Returns (p : Program V ε α) (t : Table V) (Q : α → Table V → Prop) : Prop :=
  ∃ a t', p.run t = (.ok a, t') ∧ Q a t'

variable {t : Table V} {k : K} {failure : ε}

theorem Returns.pure {a : α} {Q : α → Table V → Prop} (h : Q a t) :
    (Program.pure a : Program V ε α).Returns t Q := ⟨a, t, rfl, h⟩

theorem Returns.bind {p : Program V ε α} {f : α → Program V ε β} {Q : β → Table V → Prop}
    (h : p.Returns t fun a t' => (f a).Returns t' Q) : (p.bind f).Returns t Q := by
  obtain ⟨a, t', hp, b, t'', hf, post⟩ := h
  exact ⟨b, t'', by rw [run_bind, hp]; exact hf, post⟩

theorem Returns.mono {p : Program V ε α} {Q Q' : α → Table V → Prop} (h : p.Returns t Q)
    (imp : ∀ a t', Q a t' → Q' a t') : p.Returns t Q' := by
  obtain ⟨a, t', hp, post⟩ := h
  exact ⟨a, t', hp, imp a t' post⟩

/-- A statement that goes through, followed by the rest of the call. -/
theorem Returns.statement {s : Stmt V} {o : Outcome V s.Result}
    {next : s.Result → Program V ε α} {Q : α → Table V → Prop} (exec : s.exec t = some o)
    (rest : (next o.result).Returns (applyAll o.writes t) Q) :
    (Program.statement s failure next).Returns t Q := by
  obtain ⟨a, t', run, post⟩ := rest
  exact ⟨a, t', by rw [run_statement, exec]; exact run, post⟩

theorem selectForUpdate_exec (t : Table V) (k : K) :
    (Stmt.selectForUpdate k : Stmt V).exec t =
      some ⟨t.lookup k, [], if (t.lookup k).isSome then [k] else []⟩ := by
  cases hrow : t.lookup k <;> simp only [Stmt.exec, hrow] <;> rfl

theorem Returns.fetchOptionalForUpdate {Q : Option (V k) → Table V → Prop}
    (h : Q (t.lookup k) t) : (Program.fetchOptionalForUpdate k failure).Returns t Q :=
  .statement (selectForUpdate_exec t k) (.pure h)

theorem Returns.fetchCount {rows : K → Bool} {Q : Nat → Table V → Prop}
    (h : Q (t.keys.filter fun k => rows k).card t) :
    (Program.fetchCount rows failure).Returns t Q :=
  .statement rfl (.pure h)

theorem Returns.fetchOne {v : V k} {Q : V k → Table V → Prop} (hrow : t.lookup k = some v)
    (h : Q v t) : (Program.fetchOne k failure).Returns t Q := by
  refine .statement rfl ?_
  rw [hrow]
  exact .pure h

theorem Returns.fetchOneForUpdate {v : V k} {Q : V k → Table V → Prop}
    (hrow : t.lookup k = some v) (h : Q v t) :
    (Program.fetchOneForUpdate k failure).Returns t Q := by
  refine .statement (selectForUpdate_exec t k) ?_
  rw [hrow]
  exact .pure h

/-- An update of an existing row whose new value meets the constraints. -/
theorem Returns.executeUpdate {set : V k → Option (V k)} {v w : V k}
    {Q : Bool → Table V → Prop} (hrow : t.lookup k = some v) (hset : set v = some w)
    (h : Q true (t.insert k w)) : (Program.executeUpdate k set failure).Returns t Q := by
  have exec : (Stmt.update k set).exec t = some ⟨true, [⟨k, some w⟩], [k]⟩ := by
    simp only [Stmt.exec, hrow, hset]
    rfl
  exact .statement exec (.pure h)

theorem Returns.executeUpdate_none {set : V k → Option (V k)} {Q : Bool → Table V → Prop}
    (hrow : t.lookup k = none) (h : Q false t) :
    (Program.executeUpdate k set failure).Returns t Q := by
  have exec : (Stmt.update k set).exec t = some ⟨false, [], []⟩ := by
    simp only [Stmt.exec, hrow]
  exact .statement exec (.pure h)

theorem Returns.executeDelete {v : V k} {Q : Bool → Table V → Prop}
    (hrow : t.lookup k = some v) (h : Q true (t.erase k)) :
    (Program.executeDelete k failure).Returns t Q := by
  have exec : (Stmt.delete k : Stmt V).exec t = some ⟨true, [⟨k, none⟩], [k]⟩ := by
    simp only [Stmt.exec, hrow]
  exact .statement exec (.pure h)

theorem Returns.executeDelete_none {Q : Bool → Table V → Prop} (hrow : t.lookup k = none)
    (h : Q false t) : (Program.executeDelete k failure).Returns t Q := by
  have exec : (Stmt.delete k : Stmt V).exec t = some ⟨false, [], []⟩ := by
    simp only [Stmt.exec, hrow]
  exact .statement exec (.pure h)

/-- The insertion of a new row below an existing parent. -/
theorem Returns.insert {parent : K} {row : V k} {merge : V k → V k → Option (V k)}
    {Q : V k → Table V → Prop} (hrow : t.lookup k = none) (hparent : (t.lookup parent).isSome)
    (h : Q row (t.insert k row)) :
    (fetchUpsert k (some parent) (some row) merge failure).Returns t Q := by
  have exec : (Stmt.upsert k (some parent) (some row) merge).exec t =
      some ⟨row, [⟨k, some row⟩], [k]⟩ := by
    simp only [Stmt.exec, hrow, Option.bind_some, Option.all_some, hparent]
    rfl
  exact .statement exec (.pure h)

theorem Returns.ofExcept {r : Except ε α} {a : α} {Q : α → Table V → Prop} (hr : r = .ok a)
    (h : Q a t) : (Program.ofExcept r).Returns t Q := ⟨a, t, by rw [hr]; rfl, h⟩

end Sql.Program
