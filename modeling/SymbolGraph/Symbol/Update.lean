import SymbolGraph.Symbol.Table

/-! # Changing the table

Every operation gives back the table as it left it, also when it fails. -/
namespace SymbolGraph
open Text

inductive SymbolError where
  | ownershipViolation (name : String) (owner target : ModuleId)
  | unknownModule (id : ModuleId)
  deriving DecidableEq, Repr

def SymbolError.message : SymbolError → String
  | ownershipViolation name owner target =>
    "declaration '" ++ name ++ "' belongs to " ++ owner.text ++ ", refusing to add it to " ++ target.text
  | unknownModule id => "unknown module: " ++ id.text

abbrev Attempt (α : Type) := Except SymbolError α × SymbolTable

/-- Why `d` may not be listed by `target`: another module owns it. -/
def Declaration.refusal? (d : Declaration) (target : ModuleId) : Option SymbolError :=
  match d.owner with
  | some owner => if owner = target then none else some (.ownershipViolation d.name owner target)
  | none => none

namespace SymbolTable

def insertModule (t : SymbolTable) (m : Module) : ModuleId × SymbolTable :=
  let id : ModuleId := ⟨t.modules.size⟩
  (id, { t with
    modules := t.modules.push { m.attributeImports with declarations := .empty }
    byName := t.byName.alter m.name fun ids => ids.getD [] ++ [id] })

/-- Fills the slot emptied last, or a new one. -/
def allocate (t : SymbolTable) (d : Declaration) : DeclarationId × SymbolTable :=
  match t.free with
  | id :: rest => (id, { t with declarations := t.declarations.set id.index d, free := rest })
  | [] => (⟨t.declarations.size⟩, { t with declarations := t.declarations.push d })

def release (t : SymbolTable) (id : DeclarationId) : SymbolTable :=
  match t.declaration? id with
  | some _ => { t with declarations := t.declarations.clear id.index, free := id :: t.free }
  | none => t

/-- Stores a declaration under its name in a module, in the place of an earlier one of that name. -/
def insertDeclaration (t : SymbolTable) (id : ModuleId) (d : Declaration) : Attempt DeclarationId :=
  match t.module? id with
  | none => (.error (.unknownModule id), t)
  | some m =>
    match d.refusal? id with
    | some e => (.error e, t)
    | none =>
      let owned := { d with owner := some id, location := m.location }
      match m.declarations.get? d.name with
      | some old => (.ok old, { t with declarations := t.declarations.set old.index owned })
      | none =>
        let p := t.allocate owned
        let listed := { m with declarations := m.declarations.insert d.name p.1 }
        (.ok p.1, { p.2 with modules := p.2.modules.set id.index listed })

def insertDeclarations (t : SymbolTable) (id : ModuleId) : List Declaration → Attempt Unit
  | [] => (.ok (), t)
  | d :: ds =>
    match t.insertDeclaration id d with
    | (.ok _, t') => t'.insertDeclarations id ds
    | (.error e, t') => (.error e, t')

/-- Moves the slots of the names that are declared again from `old` to `kept`. -/
def keepSlots (kept old : OrderedMap String DeclarationId) :
    List Declaration → OrderedMap String DeclarationId × OrderedMap String DeclarationId
  | [] => (kept, old)
  | d :: ds =>
    match old.get? d.name with
    | some id => keepSlots (kept.insert d.name id) (old.erase d.name) ds
    | none => keepSlots kept old ds

/-- Puts a newer version of a module in its slot: names declared again keep their slots, and the slots of
the others are released before new ones are filled. -/
def replaceModule (t : SymbolTable) (id : ModuleId) (m : Module) (ds : List Declaration) : Attempt Unit :=
  let old := ((t.module? id).map Module.declarations).getD .empty
  let p := keepSlots .empty old ds
  let newer := { m.attributeImports with declarations := p.1 }
  (p.2.values.foldl release { t with modules := t.modules.set id.index newer }).insertDeclarations id ds

/-- Takes in an inspected module with its declarations, in the place of the same module seen earlier. It
fails before any change if one of the declarations belongs to another module. -/
def absorbModule (t : SymbolTable) (m : Module) (ds : List Declaration) : Attempt ModuleId :=
  let twin := t.moduleTwin? m
  let target := twin.getD ⟨t.modules.size⟩
  match ds.findSome? fun d => d.refusal? target with
  | some e => (.error e, t)
  | none =>
    let p :=
      match twin with
      | some id => t.replaceModule id m ds
      | none => (t.insertModule m).2.insertDeclarations target ds
    (p.1.map fun _ => target, p.2)

/-- Removes a module and the declarations that it lists, and gives the module back. -/
def eraseModule (t : SymbolTable) (id : ModuleId) : Option Module × SymbolTable :=
  match t.module? id with
  | none => (none, t)
  | some m =>
    let byName := t.byName.alter m.name fun ids => (ids.getD []).filter (· ≠ id)
    (some m, m.declarations.values.foldl release { t with modules := t.modules.clear id.index, byName })

/-- Stores a declaration in its owner, or among the detached ones in the place of an earlier one of its
name. -/
def absorbDeclaration (t : SymbolTable) (d : Declaration) : Attempt DeclarationId :=
  match d.owner with
  | some id => t.insertDeclaration id d
  | none =>
    match t.detached.find? fun id => (t.declaration? id).any fun known => t.sameDeclaration known d with
    | some id => (.ok id, { t with declarations := t.declarations.set id.index d })
    | none =>
      let p := t.allocate d
      (.ok p.1, { p.2 with detached := p.2.detached ++ [p.1] })

end SymbolTable
end SymbolGraph
