import PinkGlasses.TargetGroups

/-!
# PinkGlasses.Targets

`addTarget` and `patchTarget` of `internal/httpapi/scopes.go`: targets are imported a list at a time
and edited one by one, besides the editing of whole groups in `TargetGroups`.

* `patchTarget` reads the row, replaces what the body names, and **writes every column back**.
* `addTarget` imports its values as `addTargetValues` does, and marks them excluded afterwards if
  that was asked for; **what goes wrong there is not reported**.
-/

namespace PinkGlasses

open Lib Lib.Netip

/-- `domain.TargetMode(text)`, if it is one. -/
def TargetMode.ofText? : String → Option TargetMode
  | "active" => some active
  | "passive_only" => some passiveOnly
  | "exclude" => some exclude
  | _ => none

/-- The body of `patchTarget`. A list that is absent is not an empty one. -/
structure TargetInput where
  value : Option String := none
  mode : Option String := none
  tags : Option (List String) := none
  authorize : Option Bool := none
deriving Repr, DecidableEq

/-- A `PATCH` of a target: the identifiers in the path, which may not parse, and the body, which may
not decode. -/
structure PatchTargetRequest where
  scopeID : Option UUID
  targetID : Option UUID
  body : Option TargetInput
  actor : String := ""
  now : Time := 0
deriving Repr, DecidableEq

/-- The body of `addTarget`. -/
structure AddTargetInput where
  kind : String := ""
  value : String := ""
  values : List String := []
  tags : List String := []
  mode : String := ""
  authorize : Bool := false
  group : String := ""
deriving Repr, DecidableEq

/-- New targets of a company. -/
structure AddTargetRequest where
  scopeID : Option UUID
  body : Option AddTargetInput
  actor : String := ""
  now : Time := 0
deriving Repr, DecidableEq

namespace Handler

/-! ### Editing one target -/

/-- The kind and the value a target is to have: another value has the kind it looks like. -/
def newValue (cur : ScopeTarget) (inp : TargetInput) : Except ErrorReply (TargetKind × String) :=
  match inp.value with
  | none => .ok (cur.kind, cur.value)
  | some raw =>
    let v := trimSpace (toLower raw)
    if v = "" then .error ⟨400, "value cannot be empty"⟩
    else if v = cur.value then .ok (cur.kind, cur.value)
    else .ok (guessKind v, v)

/-- The mode it is to have. -/
def newMode (cur : ScopeTarget) (inp : TargetInput) : Except ErrorReply TargetMode :=
  match inp.mode with
  | none => .ok cur.mode
  | some text => match TargetMode.ofText? text with
    | some mode => .ok mode
    | none => .error ⟨400, "mode must be active, passive_only or exclude"⟩

/-- Who authorized it and when: a mode other than active clears the record, and **without a word
about it the record stays, whatever the value is now**. -/
def newAuth (cur : ScopeTarget) (inp : TargetInput) (mode : TargetMode) (actor : String)
    (now : Time) :
    Option String × Option Time :=
  if mode ≠ .active then (none, none)
  else match inp.authorize with
    | some true => (some actor, some now)
    | some false => (none, none)
    | none => (cur.authorizedBy, cur.authorizedAt)

/-- The columns `patchTarget` writes. -/
def newColumns (cur : ScopeTarget) (inp : TargetInput) (actor : String) (now : Time) :
    Except ErrorReply TargetColumns := do
  let (kind, value) ← newValue cur inp
  let mode ← newMode cur inp
  let (authorizedBy, authorizedAt) := newAuth cur inp mode actor now
  pure { kind, value, mode, tags := inp.tags.getD cur.tags, authorizedBy, authorizedAt }

/-- `patchTarget` on a target that was found. -/
def writeTarget (scopeID id : UUID) (cur : ScopeTarget) (inp : TargetInput) (actor : String)
    (now : Time) : Handler ScopeTarget :=
  match newColumns cur inp actor now with
  | .error e => throw e
  | .ok cols => do
    match ← ask (.updateTarget scopeID id cols) with
    | .targetExists => throw ⟨409, "that value is already a target of this company"⟩
    | .noRows => throw ⟨404, "target not found in this company"⟩
    | .target t => pure t

def patchTarget (req : PatchTargetRequest) : Handler ScopeTarget :=
  match req.scopeID, req.targetID, req.body with
  | none, _, _ => throw ⟨400, "bad scope id"⟩
  | some _, none, _ => throw ⟨400, "bad target id"⟩
  | some _, some _, none => throw ⟨400, "bad body"⟩
  | some scopeID, some id, some inp => do
    match ← ask (.getTarget scopeID id) with
    | none => throw ⟨404, "target not found in this company"⟩
    | some cur => writeTarget scopeID id cur inp req.actor req.now

/-! ### New targets -/

/-- The values a body names, as they are stored. -/
def addedValues (inp : AddTargetInput) : List String :=
  cleanValues (inp.values ++ if inp.value = "" then [] else [inp.value])

/-- Whether its values are authorized: only together with no mode or the active one. -/
def authorizesNew (inp : AddTargetInput) : Bool :=
  inp.authorize && (inp.mode == "" || inp.mode == "active")

/-- The group a body names, made if needed. -/
def namedGroup (scopeID : UUID) (group : String) : Handler (Option UUID) :=
  if trimSpace group = "" then pure none
  else do
    let id ← ask (.ensureTargetGroup scopeID (trimSpace group))
    pure (some id)

/-- The columns of a target that is excluded. -/
def excludedColumns (t : ScopeTarget) : TargetColumns :=
  { kind := t.kind, value := t.value, mode := .exclude, tags := t.tags, authorizedBy := none
    authorizedAt := none }

/-- The loop that excludes what was just added. A row that is gone by then is answered as an empty
one, nothing here. -/
def excludeSaved (scopeID : UUID) : List ScopeTarget → Handler (List (Option ScopeTarget))
  | [] => pure []
  | t :: ts => do
    let updated ← Prog.attempt (.updateTarget scopeID t.id (excludedColumns t))
    let out ← excludeSaved scopeID ts
    pure ((match updated with
      | some (.target t') => some t'
      | some .noRows => none
      | _ => some t) :: out)

/-- What `addTarget` writes, once the group is known. -/
def importValues (scopeID : UUID) (groupID : Option UUID) (inp : AddTargetInput) (actor : String)
    (now : Time) : Handler (List (Option ScopeTarget)) := do
  let saved ← addTargetValues scopeID groupID inp.tags (authorizesNew inp) actor now
      (addedValues inp)
  if inp.mode = "exclude" then excludeSaved scopeID saved else pure (saved.map some)

def addTarget (req : AddTargetRequest) : Handler (List (Option ScopeTarget)) :=
  match req.scopeID, req.body with
  | none, _ => throw ⟨400, "bad scope id"⟩
  | some _, none => throw ⟨400, "bad body"⟩
  | some scopeID, some inp =>
    if (addedValues inp).isEmpty then throw ⟨400, "value or values required"⟩
    else do
      let groupID ← namedGroup scopeID inp.group
      importValues scopeID groupID inp req.actor req.now

end Handler

/-- The requests that edit a company's targets. -/
inductive TargetRequest
  | addTarget (req : AddTargetRequest)
  | patchTarget (req : PatchTargetRequest)
  | patchTargetGroup (req : PatchRequest)
deriving Repr, DecidableEq

/-- The handler; it answers with its status. -/
def TargetRequest.handler : TargetRequest → Handler Nat
  | addTarget req => do
    let _ ← Handler.addTarget req
    pure 201
  | patchTarget req => do
    let _ ← Handler.patchTarget req
    pure 200
  | patchTargetGroup req => do
    let _ ← Handler.patchTargetGroup req
    pure 200

/-- The requests over the database. -/
def editSystem : System TargetStmt DB Unit TargetRequest (Except ErrorReply Nat) where
  exec s _ db := s.exec db
  accepts _ _ := true
  prog r := r.handler.run

end PinkGlasses
