import Mathlib.Data.Prod.Lex
import ConstellationNq.App.Notification
import ConstellationNq.Library.Sorting

/-!
# Maintenance declarations

`maintenance_annotation` selects, for one condition at one instant, the declaration that
covers it or the one it has outlasted. Instants form any linear order, and the RFC 3339
parser is a parameter.
-/

set_option autoImplicit false

namespace ConstellationNq.App.SavedCheck

open Library.Sorting Library.Text

structure MaintenanceDeclaration where
  maintenanceId : String
  declaredBy : Option String
  startAt : String
  endAt : String
  component : String
  kind : String
  subject : Option String
  reason : Option String
deriving DecidableEq

/-- A declaration can annotate, but never alter, an underlying condition. -/
inductive MaintenanceAnnotation where
  | covered
  | overrun
deriving DecidableEq

def bounded (field value : String) (maximum : Nat) : Except String Unit :=
  if value.isEmpty ∨ maximum < value.utf8ByteSize ∨ (value.toList.any isControl) = true then
    .error (field ++ " must be 1..=" ++ toString maximum ++ " non-control bytes")
  else .ok ()

def boundedOption (field : String) (value : Option String) (maximum : Nat) : Except String Unit :=
  match value with
  | some value => bounded field value maximum
  | none => .ok ()

/-! ## Wildcards -/

def wildcard : UInt8 := 42

/-- The cells of the next row from one position on: the cell of that position, the subject
still to come, and the cells of the previous row from the same position on. -/
def nextCells (token : UInt8) (cell : Bool) : List UInt8 → List Bool → List Bool
  | byte :: subject, before :: above :: previous =>
      cell :: nextCells token (if token = wildcard then above || cell else token == byte && before) subject
        (above :: previous)
  | _, _ => [cell]

def nextRow (subject : List UInt8) (previous : List Bool) (token : UInt8) : List Bool :=
  nextCells token (token == wildcard && previous.headD false) subject previous

/-- `wildcard_matches`, on the bytes of both texts. -/
def wildcardMatches (pattern subject : List UInt8) : Bool :=
  (pattern.foldl (nextRow subject) (true :: subject.map fun _ => false)).getLastD false

structure RowTable where
  cells : List Bool
  updates : Nat
deriving DecidableEq

/-- An index out of bounds panics. -/
def RowTable.write (table : RowTable) (index : Nat) (cell : Bool) : Option RowTable :=
  if index < table.cells.length then some ⟨table.cells.set index cell, table.updates + 1⟩ else none

/-- The inner loop from an index on, over the bytes still to come. -/
def fillRow (token : UInt8) (previous : List Bool) : List UInt8 → Nat → RowTable → Option RowTable
  | [], _, next => some next
  | byte :: subject, index, next => do
      let cell ←
        if token = wildcard then do
          let above ← previous[index + 1]?
          let left ← next.cells[index]?
          pure (above || left)
        else do
          let before ← previous[index]?
          pure (token == byte && before)
      let next ← next.write (index + 1) cell
      fillRow token previous subject (index + 1) next

/-- A round of the outer loop. -/
def fillNext (subject : List UInt8) (table : RowTable) (token : UInt8) : Option RowTable := do
  let first ← table.cells[0]?
  let next ← RowTable.write ⟨List.replicate (subject.length + 1) false, table.updates⟩ 0 (token == wildcard && first)
  fillRow token table.cells subject 0 next

/-- `wildcard_matches` index by index, with the number of cells that its rounds write. The
first row is set up before. -/
def wildcardLoop (pattern subject : List UInt8) : Option (Bool × Nat) := do
  let table ← pattern.foldlM (fillNext subject) ⟨(List.replicate (subject.length + 1) false).set 0 true, 0⟩
  let matched ← table.cells[subject.length]?
  return (matched, table.updates)

/-! ## Declarations -/

section Declarations

variable {Instant : Type} [LinearOrder Instant] (parseRfc3339 : String → Option Instant)

namespace MaintenanceDeclaration

variable (declaration : MaintenanceDeclaration)

def requiredTexts : List (String × String × Nat) :=
  [("maintenance_id", declaration.maintenanceId, 256), ("start_at", declaration.startAt, 64),
    ("end_at", declaration.endAt, 64), ("component", declaration.component, 256), ("kind", declaration.kind, 256)]

def optionalTexts : List (String × Option String × Nat) :=
  [("declared_by", declaration.declaredBy, 256), ("subject", declaration.subject, 256),
    ("reason", declaration.reason, 1024)]

def validate : Except String Unit := do
  declaration.requiredTexts.forM fun (field, value, maximum) => bounded field value maximum
  declaration.optionalTexts.forM fun (field, value, maximum) => boundedOption field value maximum
  if declaration.startAt.toList.getLast? ≠ some 'Z' ∨ declaration.endAt.toList.getLast? ≠ some 'Z' then
    .error "maintenance timestamps must be RFC3339 UTC"
  else
    match parseRfc3339 declaration.startAt, parseRfc3339 declaration.endAt with
    | none, _ => .error "invalid maintenance start_at"
    | some _, none => .error "invalid maintenance end_at"
    | some start, some stop =>
        if stop ≤ start then .error "maintenance end_at must be after start_at" else .ok ()

def covers (component kind subject : String) : Bool :=
  declaration.component == component && declaration.kind == kind &&
    declaration.subject.all fun pattern => wildcardMatches (utf8Bytes pattern) (utf8Bytes subject)

end MaintenanceDeclaration

/-- The declarations whose window is open, and those whose window is over with its end. -/
structure Candidates (Instant : Type) where
  active : List (MaintenanceDeclaration × Instant) := []
  expired : List (MaintenanceDeclaration × Instant × Instant) := []

variable (component kind subject : String) (now : Instant)

def consider (candidates : Candidates Instant) (declared : MaintenanceDeclaration × Instant) :
    Except String (Candidates Instant) := do
  declared.1.validate parseRfc3339
  if now < declared.2 then return candidates
  if declared.1.covers component kind subject = false then return candidates
  match parseRfc3339 declared.1.startAt, parseRfc3339 declared.1.endAt with
  | none, _ => .error "invalid retained maintenance start"
  | some _, none => .error "invalid retained maintenance end"
  | some start, some stop =>
      if start ≤ now ∧ now < stop then
        return { candidates with active := candidates.active ++ [declared] }
      else if stop ≤ now then
        return { candidates with expired := candidates.expired ++ [(declared.1, declared.2, stop)] }
      else return candidates

/-- Declared last first, then by the greater identifier. -/
def activeKey (candidate : MaintenanceDeclaration × Instant) : (Instant ×ₗ String)ᵒᵈ :=
  OrderDual.toDual (toLex (candidate.2, candidate.1.maintenanceId))

/-- Ended last first, then declared last, then by the greater identifier. -/
def expiredKey (candidate : MaintenanceDeclaration × Instant × Instant) : (Instant ×ₗ Instant ×ₗ String)ᵒᵈ :=
  OrderDual.toDual (toLex (candidate.2.2, toLex (candidate.2.1, candidate.1.maintenanceId)))

def Candidates.select (candidates : Candidates Instant) : Option (MaintenanceDeclaration × MaintenanceAnnotation) :=
  match sortBy activeKey candidates.active with
  | (declaration, _) :: _ => some (declaration, .covered)
  | [] => (sortBy expiredKey candidates.expired).head?.map fun candidate => (candidate.1, .overrun)

def maintenanceAnnotation (declarations : List (MaintenanceDeclaration × Instant)) :
    Except String (Option (MaintenanceDeclaration × MaintenanceAnnotation)) := do
  let candidates ← declarations.foldlM (consider parseRfc3339 component kind subject now) {}
  return candidates.select

end Declarations

end ConstellationNq.App.SavedCheck
