import Cellbook.Script.Evaluation.Call

/-!
# Chains

A chain goes from a base through properties, indices and method calls.  All indices and arguments
are evaluated before the base is looked at.  `walk` then takes the steps and tells, besides the
value it arrives at, what became of the value it started from, so that a change deep inside finds
its way back to the variable; with a new value in hand it assigns at the last step.
-/

namespace Cellbook.Script

open Run

/-- A step with its index or arguments evaluated. -/
inductive Taken where
  | property (name : String) (optional : Bool) (position : Position)
  /-- A method, its arguments, and where the first of them stands. -/
  | method (name : String) (arguments : List Value) (optional : Bool) (place position : Position)
  | index (index : Value) (optional : Bool) (position bracket : Position)

/-- Whether a step ends the chain at a base that is `()`. -/
def Taken.optional : Taken → Bool
  | property _ optional _ | method _ _ optional _ _ | index _ optional _ _ => optional

/-- A new value for what a chain arrives at, and the operator that combines it with the old one. -/
structure Assigned where
  operator : Option String
  value : Value
  position : Position

/-- The value that an assignment leaves in place of another. -/
def Assigned.over (assigned : Assigned) (old : Value) : Outcome Value :=
  match assigned.operator with
  | some operator => combineInPlace operator old assigned.value
  | none => .ok assigned.value

/-- Evaluates the indices and arguments of the steps of a chain. -/
def takeSteps (parts : Evaluators) (frame : Frame) (steps : List Step) : Run (List Taken) :=
  steps.mapM fun
    | .property name optional position => return .property name optional position
    | .method name arguments optional position => do
      let values ← arguments.mapM (parts.expression frame)
      return .method name values optional (arguments.head?.elim position Expr.position) position
    | .index index optional position bracket => do
      return .index (← parts.expression frame index) optional position bracket

/-- The integer of an index. -/
def asIndex : Value → Outcome Int
  | .int n => .ok n.toInt
  | value => .error (.mismatch "i64" value.plainTypeName)

/-- The lowest bit of a range of the bits of an integer and a mask of the bits in it.  No bound may
be outside, above the end included. -/
def bitRange (low high : Int64) (closed : Bool) : Outcome (Nat × Int64) := do
  let bound (n : Int64) : Outcome Nat :=
    if 0 ≤ n && n.toInt < 64 then .ok n.toInt.toNat else .error (.bitBounds 64 n.toInt)
  let first ← bound low
  let last ← bound high
  let width := (if closed then last + 1 else last) - first
  return (first, Int64.ofNat ((Nat.pow 2 width - 1) * Nat.pow 2 first))

/-- The bits of an integer from a lowest one on, of those in a mask; the sign goes with bit 63. -/
def bitsAt (n : Int64) (first : Nat) (mask : Int64) : Int64 :=
  Integer.shiftLeft (n &&& mask) (-(first : Int))

/-- The places of the characters in a range of a text: where it starts, and where it ends, the last
included if it is closed.  A bound below zero counts from the end; a start may not go beyond. -/
def textRange (length : Nat) (low high : Int64) : Outcome (Nat × Nat) :=
  let place (n : Int64) : Option Nat :=
    if 0 ≤ n then some n.toInt.toNat
    else if n.toInt.natAbs ≤ length then some (length - n.toInt.natAbs) else none
  match place low with
  | some first => .ok (first, (place high).getD 0)
  | none => .error (.textBounds length low.toInt)

/-- What an index finds in a value: a fault, or the value; `none` where the type is not indexed. -/
def lookUp (value index : Value) : Option (Outcome Value) :=
  match value, index with
  | .array items, index =>
    some do
      let n ← asIndex index
      match (Library.place? items.length n).bind (items[·]?) with
      | some item => .ok item
      | none => .error (.arrayBounds items.length n)
  | .blob octets, index =>
    some do
      let n ← asIndex index
      match (Library.place? octets.length n).bind (octets[·]?) with
      | some b => .ok (Library.ofOctet b)
      | none => .error (.arrayBounds octets.length n)
  | .map entries, .text key => some (.ok ((entries.lookup key).getD .unit))
  | .map _, index => some (.error (.mismatch "string" index.plainTypeName))
  | .text s, .range low high closed =>
    some do
      let chars := s.toList
      let (first, last) ← textRange chars.length low high
      let count := if first < last then last - first + (if closed then 1 else 0) else 0
      .ok (.text (String.ofList ((chars.drop first).take count)))
  | .text s, index =>
    some do
      let n ← asIndex index
      let chars := s.toList
      match (Library.place? chars.length n).bind (chars[·]?) with
      | some c => .ok (.char c)
      | none => .error (.textBounds chars.length n)
  | .int n, .range low high closed =>
    some ((bitRange low high closed).map fun (first, mask) => .int (bitsAt n first mask))
  | .int n, index =>
    some do
      let i ← asIndex index
      match Library.place? 64 i with
      | some bit => .ok (.bool ((n.toUInt64.toNat >>> bit) % 2 == 1))
      | none => .error (.bitBounds 64 i)
  | _, _ => none

/-- The value with another value under an index at which it has one. -/
def store (value index new : Value) : Outcome Value :=
  match value, index, new with
  | .array items, .int n, new =>
    .ok (.array (items.set ((Library.place? items.length n.toInt).getD items.length) new))
  | .map entries, .text key, new => .ok (.map (Value.insertEntry key new entries))
  | .blob octets, .int n, .int b =>
    .ok (.blob (octets.set ((Library.place? octets.length n.toInt).getD octets.length)
      (Library.octet b)))
  | .blob _, _, new => .error (.mismatch "INT" new.plainTypeName)
  | .text s, .range low high closed, new => do
    let chars := s.toList
    let (first, last) ← textRange chars.length low high
    let rest := chars.drop (if closed then last + 1 else last)
    .ok (.text (String.ofList (chars.take first) ++ new.printed ++ String.ofList rest))
  | .text s, .int n, .char c =>
    let chars := s.toList
    .ok (.text (String.ofList
      (chars.set ((Library.place? chars.length n.toInt).getD chars.length) c)))
  | .text _, _, new => .error (.mismatch "char" new.plainTypeName)
  | .int n, .range low high closed, .int b => do
    let (first, mask) ← bitRange low high closed
    .ok (.int ((n &&& (-1 ^^^ mask)) ||| (Integer.shiftLeft b first &&& mask)))
  | .int _, .range _ _ _, new => .error (.mismatch "integer" new.plainTypeName)
  | .int n, .int i, .bool b =>
    match Library.place? 64 i.toInt with
    | some bit =>
      let mask : Int64 := Int64.ofNat (Nat.pow 2 bit)
      .ok (.int (if b then n ||| mask else n &&& (-1 ^^^ mask)))
    | none => .error (.bitBounds 64 i.toInt)
  | .int _, _, new => .error (.mismatch "bool" new.plainTypeName)
  | value, _, _ => .ok value

/-- The fault of an index on a value that has none, or of an assignment there. -/
def notIndexed (value index : Value) (assigned : Option Assigned) : Cause :=
  .notIndexed (value.typeName ++ " [" ++ index.typeName ++ "]" ++
    assigned.elim "" fun assigned => " = " ++ assigned.value.typeName)

/-- The fault of a property that a value does not have. -/
def noGetter (name : String) (value : Value) : Cause :=
  .noProperty name ("Unknown property '" ++ name ++ "' - a getter is not registered for type '" ++
    value.typeName ++ "'")

/-- The fault of a property that cannot be set. -/
def noSetter (name : String) (value new : Value) : Cause :=
  .noProperty name ("No writable property '" ++ name ++
    "' - a setter is not registered for type '" ++ value.typeName ++ "' to handle '" ++
    new.typeName ++ "'")

/-- The interrupt of a fault at a place. -/
def Interrupt.ofCause (position : Position) (cause : Cause) : Interrupt :=
  .fault { cause := cause, position := some position }

/-- A walk that changed nothing and ended with an outcome. -/
def arrived (position : Position) (outcome : Outcome Value) : Ended :=
  (none, outcome.mapError (.ofCause position))

/-- A walk that ended with the value changed, or a fault. -/
def changed (position : Position) (outcome : Outcome Value) : Ended :=
  match outcome with
  | .ok value => (some value, .ok .unit)
  | .error cause => arrived position (.error cause)

/-- A constant that a walk starts from: its name, and the place that tells of it. -/
structure Fixed where
  name : String
  position : Position

/-- The walk that would change what belongs to a constant. -/
def Fixed.refuse (fixed : Fixed) : Ended :=
  arrived fixed.position (.error (.constantModified fixed.name))

/-- Assigns to an entry of a map.  One that is missing is there with `()` before its new value is
known, and stays where there is none; one of a constant may be added but not changed. -/
def assignEntry (fixed : Option Fixed) (assigned : Assigned) (key : String)
    (entries : List (String × Value)) : Ended :=
  let put (value : Value) : Value := .map (Value.insertEntry key value entries)
  match fixed, entries.lookup key with
  | some fixed, some _ => fixed.refuse
  | none, some old => changed assigned.position ((assigned.over old).map put)
  | _, none =>
    match assigned.over .unit with
    | .ok value => (some (put value), .ok .unit)
    | .error cause => (some (put .unit), (arrived assigned.position (.error cause)).2)

/-- The value after a walk from what stands under an index of it. -/
def carryBack (value index : Value) (ended : Ended) : Ended :=
  match ended with
  | (some inner, result) => ((store value index inner).toOption, result)
  | (none, result) => (none, result)

/-- Takes the steps of a chain from a value, which belongs to a constant if `fixed` tells one. -/
def walk (parts : Evaluators) (frame : Frame) (fixed : Option Fixed) (assigned : Option Assigned) :
    Value → List Taken → Run Ended
  | value, [] => return (none, .ok value)
  | value, step :: rest => do
    if step.optional then
      if let .unit := value then return (none, .ok .unit)
    match step with
    | .property name _ position =>
      match value, rest, assigned with
      | .map entries, [], some assigned => return assignEntry fixed assigned name entries
      | .map entries, rest, _ =>
        let ended ← walk parts frame fixed assigned ((entries.lookup name).getD .unit) rest
        if entries.any (·.1 == name) then return carryBack value (.text name) ended
        else return (none, ended.2)
      | value, rest, assigned =>
        match Library.property? name value, rest, assigned with
        | some _, [], some assigned =>
          return arrived position (.error (noSetter name value assigned.value))
        | none, [], some assigned =>
          let cause := if assigned.operator.isSome then noGetter name value
            else noSetter name value assigned.value
          return arrived position (.error cause)
        | some found, rest, _ =>
          return (none, (← walk parts frame fixed assigned found rest).2)
        | none, _, _ => return arrived position (.error (noGetter name value))
    | .index index _ position bracket =>
      match value, index, rest, assigned with
      | .map entries, .text key, [], some assigned =>
        return assignEntry fixed assigned key entries
      | value, index, rest, assigned =>
        match lookUp value index, rest, assigned with
        | none, [], assigned => return arrived bracket (.error (notIndexed value index assigned))
        | none, _, _ => return arrived bracket (.error (notIndexed value index none))
        | some (.error cause), _, _ => return arrived position (.error cause)
        | some (.ok old), [], some assigned =>
          match fixed, value with
          | some fixed, .array _ => return fixed.refuse
          | _, _ => return changed assigned.position do store value index (← assigned.over old)
        | some (.ok found), rest, _ =>
          let ended ← walk parts frame fixed assigned found rest
          if let .map entries := value then
            if let .text key := index then
              if !entries.any (·.1 == key) then return (none, ended.2)
          return carryBack value index ended
    | .method name arguments _ place position =>
      let (after, outcome) ←
        callMethod parts frame ⟨value, fixed.isSome⟩ name arguments place position
      match outcome with
      | .ok answer => return (after, (← walk parts frame none assigned answer rest).2)
      | .error i => return (after, .error i)

/-- The value and the constancy of a variable. -/
def current (binding : Binding) : Run (Value × Bool) := do
  match binding.value with
  | .shared cell =>
    let cell := ((← get).cells[cell]?).getD ⟨.unit, false, rfl⟩
    return (cell.value, binding.constant || cell.constant)
  | value => return (value, binding.constant)

/-- Evaluates a chain, or assigns to what it arrives at. -/
def evaluateChain (parts : Evaluators) (frame : Frame) (base : Expr) (steps : List Step)
    (assigned : Option Assigned) : Run Value := do
  let taken ← takeSteps parts frame steps
  match base with
  | .name name bound position =>
    tick frame position
    if frame.namesFunction name bound then
      settle (← walk parts frame none assigned (.function (.named name) []) taken).2
    else
      match ← find? name with
      | none => fail (.variableNotFound name) position
      | some binding =>
        let (value, constant) ← current binding
        let fixed := if constant then some ⟨name, position⟩ else none
        let (after, outcome) ← walk parts frame fixed assigned value taken
        if let some value := after then
          match ← find? name with
          | some binding => assign binding value
          | none => pure ()
        settle outcome
  | .this position =>
    match (← get).receiver with
    | none => fail .unboundThis position
    | some receiver =>
      let fixed := if receiver.constant then some ⟨"", position⟩ else none
      let (after, outcome) ← walk parts frame fixed assigned receiver.value taken
      if let some value := after then
        modify fun m => { m with receiver := some { receiver with value := value } }
      settle outcome
  | base =>
    let value ← parts.expression frame base
    let (_, outcome) ← walk parts frame none assigned value taken
    settle outcome

end Cellbook.Script
