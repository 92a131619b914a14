/-! Reports: how emitted files differ from what is on the disk. -/

namespace ProtoModules

structure Report where
  added : List String := []
  changed : List String := []
  removed : List String := []
  deriving DecidableEq

namespace Report

def count (r : Report) : Nat := r.added.length + r.changed.length + r.removed.length

def isEmpty (r : Report) : Bool := r.count == 0

def lines (r : Report) : List String :=
  r.added.map ("new file: " ++ ·) ++ r.changed.map ("modified: " ++ ·)
    ++ r.removed.map ("deleted: " ++ ·)

end Report

end ProtoModules
