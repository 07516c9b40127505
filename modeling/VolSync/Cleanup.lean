import VolSync.Kube.Client

set_option autoImplicit false

/-!
# The cleanup sweeper

`controllers/utils/cleanup.go`. `markForCleanup` puts the label
`volsync.backube/cleanup = <owner UID>` on an object. `cleanupObjects` deletes the marked
objects of the owner's namespace: one `DeleteAllOf` per bulk type, then, for each
iterative type, a `List` and one `Delete` per listed object.

The two phases treat errors differently, as the source does. In the bulk phase the first
error other than `NotFound` is returned at once. In the iterative phase every error of a
`List` or a `Delete` (`NotFound` included) is kept and the loop goes on; the kept errors
are aggregated. Propagation policies are not modelled: the garbage collector is another
controller.
-/

namespace VolSync

def cleanupLabelKey : String := "volsync.backube/cleanup"

/-- `MarkForCleanup`: the object gets the label `cleanupLabelKey = uid`. -/
def markForCleanup (uid : String) (obj : Object) : Object :=
  { obj with labels := obj.labels.set cleanupLabelKey uid }

/-- What `CleanupObjects` reads of its owner: `GetUID()` and `GetNamespace()`. -/
structure Owner where
  uid : String
  ns : String
  deriving DecidableEq, Repr

/-- The selector of the owner's marked objects, `MatchingLabels{cleanupLabelKey: uid}`. -/
def Owner.selector (owner : Owner) : StrMap := [(cleanupLabelKey, owner.uid)]

/-- The bulk phase: `DeleteAllOf` per type; the first error other than `NotFound` is
returned, and the types after it are not tried. -/
def deleteBulk (sel : StrMap) (ns : String) : List Kind → Cmd (Option Error)
  | [] => pure none
  | k :: ks => do
    let err ← deleteAllOf k sel ns
    match ignoreNotFound err with
    | some _ => pure err
    | none => deleteBulk sel ns ks

/-- `Delete` of each listed object; every error is kept. -/
def deleteItems : List Object → Cmd (List (Option Error))
  | [] => pure []
  | item :: items => do
    let err ← delete item.key
    let errs ← deleteItems items
    pure (err :: errs)

/-- The iterative phase: `List` per type, then `Delete` of each object listed; a failed
`List` is kept and the next type tried. -/
def deleteIterative (sel : StrMap) (ns : String) : List Kind → Cmd (List (Option Error))
  | [] => pure []
  | k :: ks => do
    match ← list k sel (some ns) with
    | .error err => do
      let errs ← deleteIterative sel ns ks
      pure (some err :: errs)
    | .ok items => do
      let errs₁ ← deleteItems items
      let errs₂ ← deleteIterative sel ns ks
      pure (errs₁ ++ errs₂)

def cleanupObjects (owner : Owner) (types iterativeTypes : List Kind) : Cmd (Option Error) := do
  match ← deleteBulk owner.selector owner.ns types with
  | some err => pure (some err)
  | none => do
    let errs ← deleteIterative owner.selector owner.ns iterativeTypes
    pure (newAggregate errs)

end VolSync
