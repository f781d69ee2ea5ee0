import EntityForge.Config.Options
import EntityForge.Target.Basic
import EntityForge.Text.Blank

/-!
The registry of targets: keys with their targets, and aliases that lead to keys. A key wins over an
alias of the same name. Registering without `replace` leaves a key that is there alone and refuses
aliases that mean something else; what was done before a refusal stays. The registry only keeps the
targets, so they may be of any type.
-/
namespace EntityForge

structure Registry (α : Type := Target) where
  targets : List (String × α) := []
  aliases : List (String × String) := []
  deriving DecidableEq, Repr

namespace Registry

section Operations
variable {α : Type}

def keyOf (name : String) : String := Text.lowercase (Text.trim name)

def put (pairs : List (String × α)) (key : String) (value : α) : List (String × α) :=
  match pairs with
  | [] => [(key, value)]
  | (k, v) :: rest => if k = key then (k, value) :: rest else (k, v) :: put rest key value

def conflict? (r : Registry α) (target label : String) : Option RegistryFault :=
  let key := keyOf label
  if (r.targets.lookup key).isSome then some (.aliasIsTarget label)
  else match r.aliases.lookup key with
    | some owner => if owner = target then none else some (.aliasTaken label owner)
    | none => none

def addAliases (r : Registry α) (target : String) (replace : Bool) :
    List String → Registry α × Option RegistryFault
  | [] => (r, none)
  | label :: rest =>
    let key := keyOf label
    if key = target then addAliases r target replace rest
    else
      match if replace then none else r.conflict? target label with
      | some fault => (r, some fault)
      | none => addAliases { r with aliases := put r.aliases key target } target replace rest

def register (r : Registry α) (name : String) (target : α) (aliases : List String)
    (replace : Bool) : Registry α × Option RegistryFault :=
  let key := keyOf name
  if (r.targets.lookup key).isSome && !replace then (r, none)
  else addAliases { r with targets := put r.targets key target } key replace aliases

def unregister (r : Registry α) (name : String) : Registry α :=
  let key := keyOf name
  { targets := r.targets.filter fun e => e.1 ≠ key
    aliases := r.aliases.filter fun e => e.2 ≠ key }

def keys (r : Registry α) : List String :=
  (r.targets.map Prod.fst).mergeSort fun a b => !(b < a)

def find? (r : Registry α) (name : String) : Option String :=
  let key := keyOf name
  if (r.targets.lookup key).isSome then some key else r.aliases.lookup key

def resolve (r : Registry α) (name : Value) : Except Failure String :=
  match r.find? name.display with
  | some key => .ok key
  | none => .error (.unsupportedTarget name r.keys)

def target (r : Registry α) (name : Value) : Except Failure α := do
  let key ← r.resolve name
  match r.targets.lookup key with
  | some t => .ok t
  | none => .error (.foreign s!"'{key}'")

def supports (r : Registry α) (name : Value) : Bool :=
  let key := keyOf name.display
  (r.targets.lookup key).isSome || (r.aliases.lookup key).isSome

def aliasesOf (r : Registry α) (name : String) : List String :=
  ((r.aliases.filter fun e => e.2 = keyOf name).map Prod.fst).mergeSort fun a b => !(b < a)

def standard : Registry :=
  Target.all.foldl (fun r t => (r.register t.key t t.nicknames false).1) {}

def nameOf : Value → Except Failure String
  | .text s => .ok s
  | _ => .error (.foreign "target name without text")

/-- Registration from raw values: `none` stands for something that is no generator. Aliases are
visited as far as they are texts. -/
def registerRaw (r : Registry α) (name : Value) (target : Option α) (aliases : Value)
    (replace : Bool) : Registry α × Option Failure :=
  match target with
  | none => (r, some (.registry .notGenerator))
  | some target =>
    match nameOf name with
    | .error failure => (r, some failure)
    | .ok name =>
      let items := if aliases.truthy then aliases.items? else some []
      let texts := (items.getD []).takeWhile fun v => (nameOf v).toBool
      let (registered, fault) := r.register name target (texts.map Value.display) replace
      let skipped := (r.targets.lookup (keyOf name)).isSome && !replace
      let complete := items.elim false fun all => all.length = texts.length
      match fault with
      | some fault => (registered, some (.registry fault))
      | none =>
        if skipped || complete then (registered, none)
        else (registered, some (.foreign "alias without text"))

end Operations

end Registry

structure TargetInfo where
  key : String
  target : Target
  aliases : List String
  deriving DecidableEq, Repr

def Registry.info (r : Registry) (name : Value) : Except Failure TargetInfo := do
  let key ← r.resolve name
  let target ← r.target (.text key)
  return ⟨key, target, r.aliasesOf key⟩

end EntityForge
