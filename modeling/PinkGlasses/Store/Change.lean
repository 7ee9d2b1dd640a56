import PinkGlasses.Domain

/-!
# PinkGlasses.Store.Change

`change_event`: what a run changed, as the differ writes it and digests read it.
-/

namespace PinkGlasses

/-- `change_event.kind`. -/
inductive ChangeKind
  | newSubdomain | newPort | newFinding | findingGone | findingReturned
deriving Repr, DecidableEq

/-- The text it is stored as. -/
def ChangeKind.text : ChangeKind → String
  | newSubdomain => "new_subdomain"
  | newPort => "new_port"
  | newFinding => "new_finding"
  | findingGone => "finding_gone"
  | findingReturned => "finding_returned"

/-- `change_event.asset_kind`. -/
inductive AssetKind
  | domain | service | finding
deriving Repr, DecidableEq

/-- What `before` and `after` tell of an asset; each kind of event fills in its own entries. -/
structure ChangeDetail where
  name : Option String := none
  ip : Option String := none
  port : Option Int := none
  kind : Option String := none
  severity : Option String := none
  title : Option String := none
deriving Repr, DecidableEq

/-- A row of `change_event`. -/
structure ChangeEvent where
  runID : UUID
  scopeID : UUID
  kind : ChangeKind
  assetKind : AssetKind
  assetID : UUID
  before : Option ChangeDetail := none
  after : Option ChangeDetail := none
  createdAt : Time := 0
deriving Repr, DecidableEq

/-- The event as it is stored at a time. -/
def ChangeEvent.stamped (now : Time) (e : ChangeEvent) : ChangeEvent := { e with createdAt := now }

end PinkGlasses
