import ProtoModules.Tool.Formatter

/-! Runs of actions. An action that answers did each of its steps in turn, every one from the session that
the one before it left. -/

namespace ProtoModules

namespace Action

variable {α β : Type} {s s' : Session}

theorem bind_run (x : Action α) (f : α → Action β) :
    (x >>= f).run s = match x.run s with
      | (.ok a, mid) => (f a).run mid
      | (.error e, mid) => (.error e, mid) := by
  simp only [ExceptT.run, bind, ExceptT.bind, ExceptT.mk, ExceptT.bindCont, StateT.bind]
  cases x s with
  | mk result mid => cases result <;> rfl

theorem bind_eq_ok_iff {x : Action α} {f : α → Action β} {b : β} :
    (x >>= f).run s = (.ok b, s') ↔
      ∃ a mid, x.run s = (.ok a, mid) ∧ (f a).run mid = (.ok b, s') := by
  rw [bind_run]
  cases x.run s with
  | mk result mid =>
    cases result with
    | error e =>
      constructor
      · intro same
        cases same
      · rintro ⟨a, between, same, -⟩
        cases same
    | ok a =>
      constructor
      · exact fun same => ⟨a, mid, rfl, same⟩
      · rintro ⟨a', between, same, later⟩
        cases same
        exact later

@[simp] theorem pure_run (a : α) : (pure a : Action α).run s = (.ok a, s) := rfl

@[simp] theorem disk_run : disk.run s = (.ok s.disk, s) := rfl

@[simp] theorem setDisk_run (d : Disk) : (setDisk d).run s = (.ok (), { s with disk := d }) := rfl

@[simp] theorem record_run (command : Command) :
    (record command).run s = (.ok (), { s with commands := s.commands ++ [command] }) := rfl

end Action

end ProtoModules
