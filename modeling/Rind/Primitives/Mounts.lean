import Rind.Core.Error
import Rind.Data.Maps
import Rind.Prog.Retain
import Mathlib.Data.List.FinRange

/-!
# Mounts

The mounts of some units are mounted after those that they name, and unmounted before
them.  Whether a mount succeeds is not looked at, unless an extension is told of it.
-/

namespace Rind

/-- What the order of the mounts depends on. -/
structure MountMetadata where
  target : Ustr
  fstype : Option Ustr
  after : Option (List Ustr)
  rindBroadcast : Bool

/-- The extensions are told of a mount. -/
def MountMetadata.announced (mount : MountMetadata) : Bool :=
  mount.rindBroadcast ||
    mount.fstype.any fun fstype => fstype == "devtmpfs" || fstype == "sysfs" || fstype == "proc"

/-- The mounts of some units, each with the name of its unit. -/
abbrev UnitMounts : Type := List (Ustr × MountMetadata)

namespace UnitMounts

variable (mounts : UnitMounts)

/-- The place of a mount in the list. -/
abbrev Idx : Type := Fin mounts.length

def mount (idx : mounts.Idx) : MountMetadata := (mounts.get idx).2

/-- A mount that waits for others. -/
structure Pending where
  name : Ustr
  waitsFor : List Ustr
  idx : mounts.Idx

/-- The places that the system was called for, in order, the names that count as mounted (or
unmounted), the mounts that wait, and what was logged as unresolved. -/
structure Progress where
  calls : List mounts.Idx
  finished : List Ustr
  pending : List (Pending mounts)
  unresolved : Option (AList fun _ : String => String)

def Progress.start : Progress mounts := ⟨[], [], [], none⟩

variable {mounts}

/-- Call the system for a place. -/
def callFor (idx : mounts.Idx) : Prog (Progress mounts) CoreError Unit :=
  Prog.change fun progress => { progress with calls := progress.calls ++ [idx] }

def finish (name : Ustr) : Prog (Progress mounts) CoreError Unit :=
  Prog.change fun progress => { progress with finished := progress.finished.insert name }

def wait (pending : Pending mounts) : Prog (Progress mounts) CoreError Unit :=
  Prog.change fun progress => { progress with pending := progress.pending ++ [pending] }

/-- Log the mounts that are left. -/
def reportUnresolved (left : List (Pending mounts)) : Prog (Progress mounts) CoreError Unit :=
  if left.isEmpty then pure ()
  else Prog.change fun progress => { progress with
    unresolved := some (Maps.insertAll Pending.name
      (fun pending => ",".intercalate pending.waitsFor) left ∅) }

/-- Let a place wait, or else do it at once, under its target. -/
def enter (waiting : mounts.Idx → Option (Pending mounts))
    (effect : mounts.Idx → Prog (Progress mounts) CoreError Unit) (idx : mounts.Idx) :
    Prog (Progress mounts) CoreError Unit :=
  match waiting idx with
  | some pending => wait pending
  | none => do
      effect idx
      finish (mounts.mount idx).target

/-- Keep a mount that waits for something that is not finished, or else do it. -/
def keepUnless (effect : mounts.Idx → Prog (Progress mounts) CoreError Unit)
    (pending : Pending mounts) : Prog (Progress mounts) CoreError Bool := do
  let finished ← Prog.read Progress.finished
  if pending.waitsFor.all finished.contains then
    effect pending.idx
    finish pending.name
    pure false
  else pure true

/-- Do the mounts that wait, and log those that are left. -/
def settlePending (effect : mounts.Idx → Prog (Progress mounts) CoreError Unit) (limit : Nat) :
    Prog (Progress mounts) CoreError Unit := do
  let pending ← Prog.read Progress.pending
  let left ← Prog.settle (keepUnless effect) limit pending
  reportUnresolved left

section Mount

-- What the extensions answer to a mount, after the calls that were made.
variable (announce : List mounts.Idx → mounts.Idx → Except CoreError Unit)

def mountTarget (idx : mounts.Idx) : Prog (Progress mounts) CoreError Unit := do
  callFor idx
  if (mounts.mount idx).announced then
    let calls ← Prog.read Progress.calls
    match announce calls idx with
    | .ok () => pure ()
    | .error err => Prog.fail err
  else pure ()

/-- A mount that comes after others is entered under the name of its unit and its target. -/
def waitsToMount (idx : mounts.Idx) : Option (Pending mounts) :=
  (mounts.mount idx).after.map fun afters =>
    ⟨(mounts.get idx).1 ++ ":" ++ (mounts.mount idx).target, afters, idx⟩

def mountUnits (limit : Nat) : Prog (Progress mounts) CoreError Unit := do
  Prog.each (List.finRange mounts.length) (enter waitsToMount (mountTarget announce))
  settlePending (fun idx => Prog.attempt (mountTarget announce idx)) limit

end Mount

section Unmount

/-- The targets of the mounts that come after each target. -/
def dependents (mounts : UnitMounts) : AList fun _ : Ustr => List Ustr :=
  mounts.foldl (fun dependents entry =>
    (entry.2.after.getD []).foldl (fun dependents after =>
      dependents.insert after ((dependents.lookup after).getD [] ++ [entry.2.target])) dependents) ∅

def umountTarget (idx : mounts.Idx) : Prog (Progress mounts) CoreError Unit := callFor idx

/-- A mount that others come after is entered under its target. -/
def waitsToUnmount (idx : mounts.Idx) : Option (Pending mounts) :=
  (mounts.dependents.lookup (mounts.mount idx).target).map fun deps =>
    ⟨(mounts.mount idx).target, deps, idx⟩

def unmountUnits (limit : Nat) : Prog (Progress mounts) CoreError Unit := do
  Prog.each (List.finRange mounts.length) (enter waitsToUnmount umountTarget)
  settlePending umountTarget limit

end Unmount

end UnitMounts

end Rind
