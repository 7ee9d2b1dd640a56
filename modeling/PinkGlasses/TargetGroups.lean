import PinkGlasses.Http
import PinkGlasses.Ingest
import PinkGlasses.Lib.Netip
import PinkGlasses.Lib.Seq
import PinkGlasses.Store.Target

/-!
# PinkGlasses.TargetGroups

`internal/httpapi/targetgroups.go`: a company's targets are edited a group at a time. A handler is a
program over the statements of `Store.Target` that can answer with an error (`writeErr`), and what
it takes from its surroundings (the signed-in user, the clock) comes with the request.

`patchTargetGroup` renames the group, then replaces its list if one is given, and last writes one
mode, one list of tags and one authorization over every entry.
-/

namespace PinkGlasses

open Lib Lib.Netip

/-- A handler: it reads and writes, and can stop with an error. -/
abbrev Handler (α : Type) := ExceptT ErrorReply (Prog TargetStmt) α

/-- `store.TargetGroup`: a group with its entries. -/
structure GroupView where
  group : TargetGroup
  targets : List ScopeTarget
  authorized : Bool
deriving Repr, DecidableEq

/-- `groupInput`. A list that is absent is not an empty one. -/
structure GroupInput where
  name : Option String := none
  values : Option (List String) := none
  tags : Option (List String) := none
  authorize : Option Bool := none
deriving Repr, DecidableEq

/-- A `PATCH` of a group: the identifiers in the path, which may not parse, and the body, which may
not decode. `now` is when the handler reads the clock, `addedAt` when `addTargetValues` does. -/
structure PatchRequest where
  scopeID : Option UUID
  groupID : Option UUID
  body : Option GroupInput
  actor : String := ""
  now : Time := 0
  addedAt : Time := 0
deriving Repr, DecidableEq

namespace Handler

/-- Issue a statement; its error is an internal one. -/
def ask {α : Type} (s : TargetStmt α) : Handler α := Prog.query ⟨500, dbError⟩ s

/-- `cleanValues`: trimmed and in lower case, without blanks and duplicates. -/
def cleanValues (raw : List String) : List String :=
  firstsBy id [] ((raw.map fun v => toLower (trimSpace v)).filter (· ≠ ""))

/-- `parseUint` accepts the text. -/
def isUint (cs : List Char) : Bool := !cs.isEmpty && cs.all fun c => '0' ≤ c && c ≤ '9'

def guessKind (v : String) : TargetKind :=
  let v := trimSpace v
  if (v.toList.take 2).map Char.toUpper = ['A', 'S'] ∧ isUint (v.toList.drop 2) = true then .asn
  else if (parseCIDR v).isSome then .cidr
  else if (parseIP v).isSome then .ip
  else .domain

def groupAuthorized (ts : List ScopeTarget) : Bool := !ts.isEmpty && ts.all (·.authorized)

/-- The entries of a group among the rows of its company. -/
def groupView (g : TargetGroup) (all : List ScopeTarget) : GroupView :=
  let targets := all.filter (·.groupID == some g.id)
  { group := g, targets, authorized := groupAuthorized targets }

def getTargetGroup (scopeID id : UUID) : Handler (Option GroupView) := do
  match ← ask (.targetGroup scopeID id) with
  | none => pure none
  | some g =>
    let all ← ask (.listTargets scopeID "")
    pure (some (groupView g all))

/-- The target `addTargetValues` builds of a value. -/
def newTarget (scopeID groupID : UUID) (tags : List String) (authorize : Bool) (actor : String)
    (now : Time) (v : String) : ScopeTarget :=
  { id := uuidNil, scopeID, kind := guessKind v, value := v, tags
    mode := if authorize then .active else .passiveOnly
    groupID := some groupID
    authorizedBy := if authorize then some actor else none
    authorizedAt := if authorize then some now else none }

/-- `addTargetValues`: without a group, each value is its own, named after itself. -/
def addTargetValues (scopeID : UUID) (groupID : Option UUID) (tags : List String) (authorize : Bool)
    (actor : String) (now : Time) : List String → Handler (List ScopeTarget)
  | [] => pure []
  | v :: values => do
    let gid ← match groupID with
      | some gid => pure gid
      | none => ask (.ensureTargetGroup scopeID v)
    let t := newTarget scopeID gid tags authorize actor now v
    let id ← ask (.addTarget t)
    let saved ← addTargetValues scopeID groupID tags authorize actor now values
    pure ({ t with id } :: saved)

/-! ### Editing a group -/

/-- The name a request gives the group, if it is another one. -/
def newName (cur : GroupView) (inp : GroupInput) : Option String :=
  (inp.name.map trimSpace).filter fun name => name ≠ "" ∧ name ≠ cur.group.name

/-- The tags the entries are to have: the given ones, or those of the first entry. -/
def newTags (cur : GroupView) (inp : GroupInput) : List String :=
  inp.tags.getD ((cur.targets.head?.map (·.tags)).getD [])

/-- Whether the entries are to be authorized. -/
def authorizes (cur : GroupView) (inp : GroupInput) : Bool := inp.authorize.getD cur.authorized

/-- Who authorized the entries and when: the recorded ones if nothing is said about it. -/
def authRecord (cur : GroupView) (inp : GroupInput) (req : PatchRequest) :
    Option String × Option Time :=
  if authorizes cur inp then
    if cur.authorized && inp.authorize.isNone then
      (cur.targets.head?.bind (·.authorizedBy), cur.targets.head?.bind (·.authorizedAt))
    else (some req.actor, some req.now)
  else (none, none)

/-- The rename of a patch. -/
def rename (scopeID id : UUID) (name : Option String) : Handler Unit := do
  match name with
  | none => pure ()
  | some name =>
    match ← ask (.renameTargetGroup scopeID id name) with
    | .groupExists => throw ⟨409, "a group with that name already exists in this company"⟩
    | .rows _ => pure ()

/-- The replacement of the list of a patch. -/
def replaceValues (scopeID id : UUID) (tags : List String) (authorize : Bool) (actor : String)
    (now : Time) : Option (List String) → Handler Unit
  | none => pure ()
  | some raw => do
    let values := cleanValues raw
    if values.isEmpty then
      throw ⟨400, "a group needs at least one entry; remove the group instead"⟩
    let _ ← ask (.deleteGroupTargetsNotIn id values)
    let _ ← addTargetValues scopeID (some id) tags authorize actor now values

/-- What a patch writes, once the group and the body are read. -/
def editGroup (req : PatchRequest) (scopeID id : UUID) (cur : GroupView) (inp : GroupInput) :
    Handler (Option GroupView) := do
  rename scopeID id (newName cur inp)
  replaceValues scopeID id (newTags cur inp) (authorizes cur inp) req.actor req.addedAt inp.values
  ask (.setGroupTargets id (if authorizes cur inp then .active else .passiveOnly)
    (newTags cur inp) (authRecord cur inp req).1 (authRecord cur inp req).2)
  getTargetGroup scopeID id

def patchTargetGroup (req : PatchRequest) : Handler (Option GroupView) :=
  match req.scopeID, req.groupID with
  | none, _ => throw ⟨400, "bad scope id"⟩
  | some _, none => throw ⟨400, "bad group id"⟩
  | some scopeID, some id => do
    match ← getTargetGroup scopeID id with
    | none => throw ⟨404, "group not found in this company"⟩
    | some cur =>
      match req.body with
      | none => throw ⟨400, "bad body"⟩
      | some inp => editGroup req scopeID id cur inp

end Handler

/-- The group as the handler reads it. -/
def viewOf (scopeID id : UUID) (db : DB) : Option GroupView :=
  (Store.findGroup scopeID id db).map fun g => Handler.groupView g (Store.listTargets scopeID "" db)

/-- The handlers over the database. -/
def targetSystem : System TargetStmt DB Unit PatchRequest
    (Except ErrorReply (Option GroupView)) where
  exec s _ db := s.exec db
  accepts _ _ := true
  prog req := (Handler.patchTargetGroup req).run

end PinkGlasses
