import ProtoModules.Proofs.Tool.Action

/-! Actions that do not look at the session. How such an action ends and which commands it runs is the same
whatever session it starts from, and the disk stays as it is. Formatting is one of them, as the
files go to the formatter and come back without being on the disk. -/

namespace ProtoModules

namespace Action

variable {α β : Type}

/-- The action adds its own commands to those of the session and does nothing else with it. -/
def Detached (x : Action α) : Prop :=
  ∃ result commands, ∀ s, x.run s = (result, { s with commands := s.commands ++ commands })

theorem detached_pure (a : α) : Detached (pure a : Action α) :=
  ⟨.ok a, [], fun s => by rw [pure_run, List.append_nil]⟩

theorem detached_report (e : Error) : Detached (report e : Action α) :=
  ⟨.error (.error e), [], fun s => by rw [List.append_nil]; rfl⟩

theorem detached_record (command : Command) : Detached (record command) :=
  ⟨.ok (), [command], fun _ => record_run command⟩

theorem Detached.bind {x : Action α} {f : α → Action β} (first : Detached x)
    (later : ∀ a, Detached (f a)) : Detached (x >>= f) := by
  obtain ⟨result, commands, ran⟩ := first
  cases result with
  | error e => exact ⟨.error e, commands, fun s => by rw [bind_run, ran]⟩
  | ok a =>
    obtain ⟨result, more, ranLater⟩ := later a
    refine ⟨result, commands ++ more, fun s => ?_⟩
    rw [bind_run, ran]
    dsimp only
    rw [ranLater, List.append_assoc]

theorem detached_mapM {xs : List α} {f : α → Action β} (each : ∀ x ∈ xs, Detached (f x)) :
    Detached (xs.mapM f) := by
  induction xs with
  | nil => exact detached_pure []
  | cons x rest ih =>
    rw [List.mapM_cons]
    apply (each x List.mem_cons_self).bind
    intro first
    apply (ih fun y member => each y (List.mem_cons_of_mem _ member)).bind
    intro later
    exact detached_pure _

end Action

namespace Tool.Formatter
open ProtoModules.Action

theorem detached_formatText (tools : Toolchain) (f : Formatter) (name : String)
    (content : List Char) : Detached (f.formatText tools name content) := by
  rw [formatText]
  apply (detached_record _).bind
  intro _
  split
  · exact detached_report _
  · split
    · exact detached_pure _
    · exact detached_report _

theorem detached_formatFiles (tools : Toolchain) (f : Formatter) (files : List EmittedFile) :
    Detached (f.formatFiles tools files) := by
  apply detached_mapM
  intro file _
  apply (detached_formatText tools f _ _).bind
  exact fun text => detached_pure _

end Tool.Formatter

end ProtoModules
