import Mathlib.Data.Bool.Basic
import Mathlib.Data.Char
import Mathlib.Data.List.Lex
import Mathlib.Data.Prod.Lex
import ProtoModules.Proofs.Text.Lines
import ProtoModules.Tool.PackageFile

/-! The names of package files. A source file's name can be written again from what it says, so no two
names say the same, whatever marks service code. The other way round a package file is read back
from its name unless it is message code of a nested package that is called like the mark of service
code: its name is also the one of the service code of the package around it. -/

namespace ProtoModules.Tool
open Text Disk

theorem dropEnding?_eq_some_iff {ending s stem : List Char} :
    dropEnding? ending s = some stem ↔ s = stem ++ ending := by
  constructor
  · intro dropped
    rw [dropEnding?] at dropped
    split at dropped
    · rename_i ends
      obtain ⟨before, rfl⟩ := List.isSuffixOf_iff_suffix.1 ends
      have same : before = stem := by simpa using dropped
      rw [same]
    · cases dropped
  · rintro rfl
    simp [dropEnding?]

namespace PackageFile

def packageOf (stem : List Char) : List Line :=
  if stem = noPackage then [] else splitOn '.' stem

def dotted (package : List Line) : List Char :=
  if package = [] then noPackage else joinWith '.' package

def toName (service : Option (List Char)) (f : PackageFile) : Name :=
  dotted f.package ++ (if f.service then service.getD [] else []) ++ sourceEnding

theorem dotted_packageOf (stem : List Char) : dotted (packageOf stem) = stem := by
  by_cases none : stem = noPackage
  · simp [packageOf, dotted, none]
  · rw [packageOf, if_neg none, dotted, if_neg (splitOn_ne_nil '.' stem), joinWith_splitOn]

/-- The ending that takes effect, as an empty one marks nothing. -/
def mark? (service : Option (List Char)) : Option (List Char) :=
  service.filter fun ending => !ending.isEmpty

theorem ofName_append (service : Option (List Char)) (stem : List Char) :
    ofName service (stem ++ sourceEnding) =
      match mark? service >>= fun ending => dropEnding? ending stem with
      | some base => ⟨packageOf base, true⟩
      | none => ⟨packageOf stem, false⟩ := by
  have cut : dropEnding? sourceEnding (stem ++ sourceEnding) = some stem :=
    dropEnding?_eq_some_iff.2 rfl
  rw [ofName, cut]
  dsimp only [Option.getD_some]
  change PackageFile.mk (packageOf ((mark? service >>= fun ending => dropEnding? ending stem).getD stem))
    (mark? service >>= fun ending => dropEnding? ending stem).isSome = _
  cases mark? service >>= fun ending => dropEnding? ending stem <;> rfl

theorem toName_ofName (service : Option (List Char)) {name : Name} (source : sourceEnding <:+ name) :
    (ofName service name).toName service = name := by
  obtain ⟨stem, rfl⟩ := source
  rw [ofName_append]
  cases found : mark? service >>= fun ending => dropEnding? ending stem with
  | none => simp [toName, dotted_packageOf]
  | some base =>
    obtain ⟨ending, active, dropped⟩ := Option.bind_eq_some_iff.1 found
    have given : service = some ending := (Option.filter_eq_some_iff.1 active).1
    have whole : stem = base ++ ending := dropEnding?_eq_some_iff.1 dropped
    simp [toName, dotted_packageOf, given, whole]

theorem ofName_injOn {service : Option (List Char)} {first second : Name}
    (source : sourceEnding <:+ first) (other : sourceEnding <:+ second)
    (same : ofName service first = ofName service second) : first = second := by
  have names := congrArg (toName service) same
  rwa [toName_ofName service source, toName_ofName service other] at names

def key (f : PackageFile) : List Line ×ₗ Bool := toLex (f.package, f.service)

theorem key_injective : Function.Injective key := by
  intro f g same
  obtain ⟨package, service⟩ := f
  obtain ⟨other, flag⟩ := g
  have parts : (package, service) = (other, flag) := toLex.injective same
  simpa using parts

theorem le_iff (f g : PackageFile) : le f g = true ↔ f.key ≤ g.key := by
  rw [key, key, Prod.Lex.toLex_le_toLex]
  simp only [le, Bool.or_eq_true, decide_eq_true_eq, Bool.and_eq_true, beq_iff_eq,
    Bool.not_eq_true', Bool.le_iff_imp]
  cases f.service <;> simp

/-- The packages that names of files can stand for: segments are not empty and hold no dot, and the
only segment is not the one that stands for no package. -/
structure IsPackage (package : List Line) : Prop where
  whole : ∀ segment ∈ package, segment ≠ [] ∧ '.' ∉ segment
  other : package ≠ [noPackage]

def serviceMark : Line := "tonic".toList

theorem serviceEnding_eq : serviceEnding = '.' :: serviceMark := by decide

/-- Message code of a package that lies in another one and is called like the mark of service code. -/
def ReadsAsService (f : PackageFile) : Prop :=
  f.service = false ∧ ∃ above, above ≠ [] ∧ f.package = above ++ [serviceMark]

theorem packageOf_dotted {package : List Line} (good : IsPackage package) :
    packageOf (dotted package) = package := by
  by_cases top : package = []
  · simp [packageOf, dotted, top]
  · have pieces : splitOn '.' (joinWith '.' package) = package :=
      splitOn_joinWith top fun segment member => (good.whole segment member).2
    have differ : joinWith '.' package ≠ noPackage := by
      intro same
      rw [same] at pieces
      exact good.other (pieces.symm.trans (by decide))
    rw [dotted, if_neg top, packageOf, if_neg differ, pieces]

theorem toName_nested {above : List Line} (present : above ≠ []) :
    toName (some serviceEnding) ⟨above ++ [serviceMark], false⟩ =
      toName (some serviceEnding) ⟨above, true⟩ := by
  have joined : joinWith '.' (above ++ [serviceMark]) = joinWith '.' above ++ '.' :: serviceMark :=
    joinWith_append present (List.cons_ne_nil serviceMark [])
  simp [toName, dotted, joined, serviceEnding_eq, present]

theorem ofName_toName_service (package : List Line) :
    ofName (some serviceEnding) (toName (some serviceEnding) ⟨package, true⟩) =
      ⟨packageOf (dotted package), true⟩ := by
  have cut : dropEnding? serviceEnding (dotted package ++ serviceEnding) = some (dotted package) :=
    dropEnding?_eq_some_iff.2 rfl
  have read : (mark? (some serviceEnding) >>= fun ending =>
      dropEnding? ending (dotted package ++ serviceEnding)) = some (dotted package) := cut
  have name : toName (some serviceEnding) ⟨package, true⟩ =
      dotted package ++ serviceEnding ++ sourceEnding := rfl
  rw [name, ofName_append, read]

theorem exists_above {package : List Line} (good : IsPackage package) {base : List Char}
    (ends : dotted package = base ++ serviceEnding) :
    ∃ above, above ≠ [] ∧ package = above ++ [serviceMark] := by
  have last : splitOn '.' serviceMark = [serviceMark] := by decide
  have differ : base ++ serviceEnding ≠ noPackage := by
    intro same
    have lengths := congrArg List.length same
    simp [serviceEnding, noPackage] at lengths
  refine ⟨splitOn '.' base, splitOn_ne_nil '.' base, ?_⟩
  calc package = packageOf (dotted package) := (packageOf_dotted good).symm
    _ = splitOn '.' (base ++ serviceEnding) := by rw [ends, packageOf, if_neg differ]
    _ = splitOn '.' base ++ [serviceMark] := by
      rw [serviceEnding_eq, splitOn_append_cons, last]

/-- A package file is read back from its name exactly if it does not read as service code of another
package. -/
theorem ofName_toName_iff {f : PackageFile} (good : IsPackage f.package) :
    ofName (some serviceEnding) (f.toName (some serviceEnding)) = f ↔ ¬ f.ReadsAsService := by
  obtain ⟨package, service⟩ := f
  have back : packageOf (dotted package) = package := packageOf_dotted good
  cases service with
  | true =>
    rw [ofName_toName_service, back]
    simp [ReadsAsService]
  | false =>
    constructor
    · rintro read ⟨-, above, present, rfl⟩
      rw [toName_nested present, ofName_toName_service] at read
      have service := congrArg PackageFile.service read
      cases service
    · intro plain
      have unmarked : (mark? (some serviceEnding) >>= fun ending =>
          dropEnding? ending (dotted package)) = none := by
        rw [Option.eq_none_iff_forall_ne_some]
        intro base found
        obtain ⟨ending, active, dropped⟩ := Option.bind_eq_some_iff.1 found
        obtain ⟨same, -⟩ := Option.filter_eq_some_iff.1 active
        obtain rfl := Option.some.inj same
        exact plain ⟨rfl, exists_above good (dropEnding?_eq_some_iff.1 dropped)⟩
      have name : toName (some serviceEnding) ⟨package, false⟩ = dotted package ++ sourceEnding := by
        simp [toName]
      rw [name, ofName_append, unmarked, back]

theorem ofName_toName_of_marked :
    let f : PackageFile := ⟨["my".toList, serviceMark], true⟩
    f.toName (some serviceEnding) = "my.tonic.tonic.rs".toList ∧ IsPackage f.package ∧
      ¬ f.ReadsAsService ∧ ofName (some serviceEnding) (f.toName (some serviceEnding)) = f := by
  intro f
  have good : IsPackage f.package := ⟨by decide, by decide⟩
  have other : ¬ f.ReadsAsService := fun reads => Bool.noConfusion reads.1
  exact ⟨by decide, good, other, (ofName_toName_iff good).2 other⟩

theorem not_ofName_toName_of_nested :
    ¬ ∀ f : PackageFile, IsPackage f.package →
      ofName (some serviceEnding) (f.toName (some serviceEnding)) = f := by
  intro reads
  have good : IsPackage ["my".toList, serviceMark] := ⟨by decide, by decide⟩
  have wrong : ofName (some serviceEnding)
      (toName (some serviceEnding) ⟨["my".toList, serviceMark], false⟩) =
      ⟨["my".toList], true⟩ := by decide +kernel
  have same := wrong.symm.trans (reads ⟨["my".toList, serviceMark], false⟩ good)
  exact absurd same (by decide)

end PackageFile

end ProtoModules.Tool
