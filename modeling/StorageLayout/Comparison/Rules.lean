import StorageLayout.Comparison.Diagnostic
import StorageLayout.Comparison.Field
import StorageLayout.TypeDefinition.Display
import StorageLayout.TypeDefinition.Format

/-!
# Comparing two layouts

The old layout is walked position by position, and at each position every rule is applied on its
own. All rules but one compare what lies at the position in the two layouts. The rule about moved
variables compares the old variable with its counterpart: the new variable of the same name, and if
a name occurs more than once, the one with as many of its name before it. Variables after the end
of the old layout start in unused storage and are never reported.
-/
namespace StorageLayout

/-- A position of the old layout, with both layouts. -/
structure Position where
  index : Nat
  old : ContractSnapshot
  new : ContractSnapshot

namespace Position

def oldVariable? (p : Position) : Option StateVariable := p.old.variableAt? p.index

def newVariable? (p : Position) : Option StateVariable := p.new.variableAt? p.index

/-- How many variables before an index have a name. -/
def occurrencesBefore (listed : List StateVariable) (index : Nat) (name : String) : Nat :=
  ((listed.take index).filter (·.name = name)).length

def indicesOf (listed : List StateVariable) (name : String) : List Nat :=
  (listed.zipIdx.filter (·.1.name = name)).map Prod.snd

/-- The index of the old variable's counterpart in the new layout. -/
def counterpartIndex? (p : Position) : Option Nat := do
  let old ← p.oldVariable?
  let occurrence := occurrencesBefore p.old.stateVariables p.index old.name
  (indicesOf p.new.stateVariables old.name)[occurrence]?

def counterpart? (p : Position) : Option StateVariable :=
  p.counterpartIndex?.bind fun i => p.new.variableAt? i

end Position

namespace StateVariable

def onSlot (v : StateVariable) : String :=
  "'" ++ v.name ++ "' on slot '" ++ v.slot.text ++ "'"

def onSlotAndOffset (v : StateVariable) : String :=
  v.onSlot ++ " offset '" ++ toString v.offset.toNat ++ "'"

def withTypeOnSlot (v : StateVariable) : String :=
  "'" ++ v.name ++ "' with type '" ++ v.typeKey ++ "' on slot '" ++ v.slot.text ++ "'"

def withTypeHash (v : StateVariable) : String :=
  "'" ++ v.name ++ "' with type '" ++ v.typeKey ++ "' (" ++ v.typeHash ++ ")"

end StateVariable

/-- The label and the definition of a type, for display: expanded if that succeeds, otherwise as it
stands in the dictionary, otherwise the bare key. -/
def ContractSnapshot.renderType (c : ContractSnapshot) (key : String) : String × String :=
  match (TypeScope.mk c.name c.types).resolve key with
  | .ok type => (type.displayLabel, type.json.indented)
  | .error _ =>
    match c.type? key with
    | some definition => (definition.label, definition.json.indented)
    | none => (key, key)

namespace Rule

/-- The new layout ends before the position. -/
def checkMissingVariable (p : Position) : Option Diagnostic := do
  let old ← p.oldVariable?
  guard p.newVariable?.isNone
  return .ofRule missingVariable old.name old.onSlot "null"

/-- The variable of the same name lies in another slot or at another offset. -/
def checkSlotChanged (p : Position) : Option Diagnostic := do
  let old ← p.oldVariable?
  let new ← p.counterpart?
  guard (Field.differs old new .slot || Field.differs old new .offset)
  if Field.differs old new .offset then
    return .ofRule slotChanged old.name old.onSlotAndOffset new.onSlotAndOffset
  else return .ofRule slotChanged old.name old.onSlot new.onSlot

/-- The position holds a variable of another name and another type. -/
def checkOrderChanged (p : Position) : Option Diagnostic := do
  let old ← p.oldVariable?
  let new ← p.newVariable?
  guard (Field.differs old new .name && Field.differs old new .typeHash)
  return .ofRule orderChanged old.name old.withTypeOnSlot new.withTypeOnSlot

/-- The position holds the same variable in the same slot with another type. -/
def checkTypeChanged (p : Position) : Option Diagnostic := do
  let old ← p.oldVariable?
  let new ← p.newVariable?
  guard (!Field.differs old new .name && !Field.differs old new .slot &&
    Field.differs old new .typeHash)
  let (label, expected) := p.old.renderType old.typeKey
  let (_, got) := p.new.renderType new.typeKey
  return .ofRule typeChanged old.name old.withTypeHash new.withTypeHash
    (some ⟨label, expected, got⟩)

/-- The position holds the same type under another name. -/
def checkNameChanged (p : Position) : Option Diagnostic := do
  let old ← p.oldVariable?
  let new ← p.newVariable?
  guard (Field.differs old new .name && !Field.differs old new .typeHash)
  return .ofRule nameChanged old.name old.withTypeHash new.withTypeHash

def check : Rule → Position → Option Diagnostic
  | missingVariable => checkMissingVariable
  | slotChanged => checkSlotChanged
  | orderChanged => checkOrderChanged
  | typeChanged => checkTypeChanged
  | nameChanged => checkNameChanged

end Rule

namespace Position

/-- What all rules find at a position, in the order of the rules. -/
def diagnostics (p : Position) : List Diagnostic := Rule.all.filterMap (·.check p)

/-- The positions of an old layout. -/
def all (old new : ContractSnapshot) : List Position :=
  (List.range old.stateVariables.length).map (⟨·, old, new⟩)

end Position

/-- The findings about the upgrade of one contract. -/
def ContractSnapshot.compare (old new : ContractSnapshot) : Findings :=
  Findings.addAll {} ((Position.all old new).flatMap Position.diagnostics)

end StorageLayout
