import ProtoModules.Pipeline
import ProtoModules.Proofs.PackageTree.Determined
import ProtoModules.Proofs.Pipeline.Footprint

/-! Builds of the same units in another order. As long as the units of each package come in the same
order, the files are the same in the same order, and so is the collision if there is one. -/

namespace ProtoModules.Pipeline
open Source Tool PackageTree

variable {us vs : List GeneratedUnit} {version : Option String}

def withUnits (p : Pipeline) (us : List GeneratedUnit) (version : Option String) : Pipeline :=
  { p with generator := .given us version }

theorem package_sanitize (patterns : List (List Char)) (u : GeneratedUnit) :
    (u.sanitize patterns).package = u.package := rfl

theorem tree_eq_of_same (p : Pipeline) (same : SameByPackage us vs) : p.tree us = p.tree vs := by
  have sanitized := same.map (package_sanitize p.patterns)
  rw [tree, tree, ofUnits_eq_of_same [] sanitized]

theorem build_withUnits (tools : Toolchain) (p : Pipeline) (us : List GeneratedUnit)
    (version : Option String) :
    (p.withUnits us version).build tools = (match p.tree us with
      | .error collision => Action.report (.ofCollision collision)
      | .ok named =>
        match p.formatter with
        | some f => f.formatFiles tools (named.files (p.options version))
        | none => return named.files (p.options version)) := by
  rfl

/-- Two lists of units that differ only in how the units of different packages are mixed have the same
build, whether it answers files or fails. -/
theorem build_of_same (tools : Toolchain) (p : Pipeline) (same : SameByPackage us vs)
    (version : Option String) (s : Session) :
    ((p.withUnits us version).build tools).run s = ((p.withUnits vs version).build tools).run s := by
  rw [build_withUnits, build_withUnits, tree_eq_of_same p same]

def unmixed : List GeneratedUnit :=
  [⟨[['a']], ['x'], [], ""⟩, ⟨[['a']], ['y'], [], ""⟩, ⟨[['a'], ['b']], ['z'], [], ""⟩]

def mixed : List GeneratedUnit :=
  [⟨[['a']], ['x'], [], ""⟩, ⟨[['a'], ['b']], ['z'], [], ""⟩, ⟨[['a']], ['y'], [], ""⟩]

theorem build_of_mixed :
    unmixed ≠ mixed ∧ SameByPackage unmixed mixed ∧
    (((sample "out").withUnits unmixed none).build bareTools).run ⟨Disk.empty, []⟩ =
      (((sample "out").withUnits mixed none).build bareTools).run ⟨Disk.empty, []⟩ := by
  have same : SameByPackage unmixed mixed := by
    intro p
    by_cases outer : [['a']] = p
    · subst outer
      decide
    · by_cases inner : [['a'], ['b']] = p
      · subst inner
        decide
      · simp [unmixed, mixed, outer, inner]
  exact ⟨by decide, same, build_of_same bareTools _ same none _⟩

end ProtoModules.Pipeline
