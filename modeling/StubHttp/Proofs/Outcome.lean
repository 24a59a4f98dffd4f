/-!
# Computations that may fail

How a computation that succeeded is taken apart: into its first step and the
rest (`bind_eq_ok_iff`), or into the computation whose result was only carried
over (`map_eq_ok_iff`) or whose failure was only relabelled
(`mapError_eq_ok_iff`, `mapError_bind`). Steps taken for all items of a list
are told together if they fail alike (`mapM_ite`).
-/

namespace StubHttp

variable {ε ε' α β : Type}

@[simp] theorem ok_bind (a : α) (f : α → Except ε β) : (Except.ok a >>= f) = f a := rfl

@[simp] theorem error_bind (e : ε) (f : α → Except ε β) : (Except.error e >>= f) = .error e := rfl

theorem bind_eq_ok_iff {x : Except ε α} {f : α → Except ε β} {b : β} :
    (x >>= f) = .ok b ↔ ∃ a, x = .ok a ∧ f a = .ok b := by
  cases x with
  | error e => simp
  | ok a => simp

theorem pure_eq_ok_iff {a b : α} : (pure a : Except ε α) = .ok b ↔ a = b :=
  ⟨Except.ok.inj, congrArg Except.ok⟩

theorem map_eq_ok_iff {f : α → β} {x : Except ε α} {b : β} :
    x.map f = .ok b ↔ ∃ a, x = .ok a ∧ f a = b := by
  cases x with
  | error e => simp [Except.map]
  | ok a => simp [Except.map]

theorem mapError_eq_ok_iff {f : ε → ε'} {x : Except ε α} {a : α} :
    x.mapError f = .ok a ↔ x = .ok a := by
  cases x with
  | error e => exact ⟨nofun, nofun⟩
  | ok b => exact ⟨fun h => congrArg _ (Except.ok.inj h), fun h => congrArg _ (Except.ok.inj h)⟩

/-- Relabelling a failure can wait until each step has been taken. -/
theorem mapError_bind {f : ε → ε'} {x : Except ε α} {g : α → Except ε β} :
    (x >>= g).mapError f = x.mapError f >>= fun a => (g a).mapError f := by
  cases x with
  | error e => rfl
  | ok a => rfl

/-- Steps that all fail alike succeed together or not at all. -/
theorem mapM_ite {P : β → Prop} [DecidablePred P] (f : β → α) (e : ε) : ∀ bs : List β,
    bs.mapM (fun b => if P b then Except.ok (f b) else .error e)
      = if ∀ b ∈ bs, P b then .ok (bs.map f) else .error e
  | [] => by rw [if_pos nofun]; rfl
  | b :: bs => by
      rw [List.mapM_cons, mapM_ite f e bs]
      by_cases hb : P b
      · by_cases hbs : ∀ b ∈ bs, P b
        · rw [if_pos hb, if_pos hbs, if_pos (List.forall_mem_cons.mpr ⟨hb, hbs⟩)]
          rfl
        · rw [if_pos hb, if_neg hbs, if_neg fun h => hbs (List.forall_mem_cons.mp h).2]
          rfl
      · rw [if_neg hb, if_neg fun h => hb (List.forall_mem_cons.mp h).1]
        rfl

end StubHttp
