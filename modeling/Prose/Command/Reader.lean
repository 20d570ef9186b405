import Prose.Command.Scope

/-!
# Reading command lines

The arguments are read from left to right. A value is only looked at when the next switch or operand
comes or when the scope ends, so a fault further on can win over a bad value. Two hyphens make
operands of all that follows.
-/

namespace Prose

/-- What has been read in one scope. A target that is pending has its value or awaits it. -/
structure Progress where
  scope : Scope
  title : Text
  values : List (Target × Text)
  debug : Bool
  pending : Option (Target × Option Text)
  operandTaken : Bool
  onlyOperands : Bool

namespace Progress

def start (scope : Scope) (title : Text) : Progress where
  scope := scope
  title := title
  values := []
  debug := false
  pending := none
  operandTaken := false
  onlyOperands := false

/-- Accepts the value that is pending. -/
def settle (p : Progress) : Except Refusal Progress :=
  match p.pending with
  | none => .ok p
  | some (_, none) => .error .badValue
  | some (target, some value) =>
    if (p.values.lookup target).isSome then .error .repeated
    else
      match p.scope.fault? target value with
      | some fault => .error fault
      | none => .ok { p with pending := none, values := (target, value) :: p.values }

/-- The target that awaits its value. -/
def awaiting? (p : Progress) : Option Target :=
  match p.pending with
  | some (target, none) => some target
  | _ => none

/-- Does the scope have an operand that is still to come and that may look like a switch? -/
def takesHyphens (p : Progress) : Bool :=
  p.scope.takesHyphens && !p.operandTaken

/-- A switch without a value. -/
def flag (p : Progress) (s : Switch) : Except Refusal Progress := do
  let p ← p.settle
  match s with
  | .help => .error .help
  | .version => .error (.version (p.title ++ " 0.3.0\n".toList))
  | _ => .ok { p with debug := true }

/-- A switch with its value attached to it. -/
def give (p : Progress) (s : Switch) (value : Text) : Except Refusal Progress := do
  let p ← p.settle
  settle { p with pending := some (.switch s, some value) }

/-- A switch whose value is the next argument. -/
def await (p : Progress) (s : Switch) : Except Refusal Progress := do
  let p ← p.settle
  return { p with pending := some (.switch s, none) }

/-- An argument that can only be an operand. -/
def operand (p : Progress) (t : Text) : Except Refusal Progress :=
  if p.scope.hasOperand && !p.operandTaken then do
    let p ← p.settle
    return { p with pending := some (.operand, some t), operandTaken := true }
  else if p.scope.children.isEmpty then .error .unknownArgument
  else if p.onlyOperands && ((p.scope.child? t).isSome || p.scope.isHelpWord t) then
    .error .unknownArgument
  else .error .unknownSubcommand

/-- An argument that is no switch. -/
def plain (p : Progress) (t : Text) : Except Refusal Progress :=
  match p.awaiting? with
  | some target => .ok { p with pending := some (target, some t) }
  | none => p.operand t

/-- A switch by its long name, with a value when there is an equals sign. -/
def longSwitch (p : Progress) (whole name : Text) (value : Option Text) :
    Except Refusal Progress :=
  match p.scope.long? name with
  | none => if p.takesHyphens then p.plain whole else .error .unknownArgument
  | some s =>
    match value with
    | some v => if s.takesValue then p.give s v else .error .unexpectedValue
    | none => if s.takesValue then p.await s else p.flag s

/-- Switches by their short names. The characters behind a switch that takes a value are its value,
perhaps after an equals sign. -/
def shortSwitches (p : Progress) : Text → Except Refusal Progress
  | [] => .ok p
  | c :: rest =>
    match p.scope.short? c with
    | none => .error .unknownArgument
    | some s =>
      if s.takesValue then
        match rest with
        | [] => p.await s
        | '=' :: value => p.give s value
        | value => p.give s value
      else do (← p.flag s).shortSwitches rest

/-- An argument before two hyphens that names no scope below. -/
def argument (p : Progress) (t : Text) : Except Refusal Progress :=
  match t with
  | ['-', '-'] => .ok { p with onlyOperands := true }
  | '-' :: '-' :: rest =>
    match rest.dropWhile (· ≠ '=') with
    | [] => p.longSwitch t rest none
    | _ :: value => p.longSwitch t (rest.takeWhile (· ≠ '=')) (some value)
  | '-' :: c :: rest =>
    if p.takesHyphens && (c :: rest).any (fun c => (p.scope.short? c).isNone) then p.plain t
    else p.shortSwitches (c :: rest)
  | _ => p.plain t

/-- The number that was given for a switch. -/
def number? (p : Progress) (s : Switch) : Option Nat :=
  (p.values.lookup (.switch s)).bind fun t => (Decimal.nat? ((1 <<< 64) - 1) t).toOption

/-- The task of the scope with what was given for it. -/
def task (p : Progress) : Task → Task
  | .tree _ => .tree (p.number? .depth)
  | .sortLexemes _ => .sortLexemes ((p.values.lookup (.switch .symbol)).bind (·.head?))
  | .filter _ => .filter (p.number? .minWords)
  | t => t

/-- The command of a scope that has all it needs. -/
def command (p : Progress) : Except Refusal (Option Command) :=
  let operand := p.values.lookup .operand
  match p.scope with
  | .root => .ok none
  | .task t => .ok (some (.task (p.task t) operand))
  | .preprocess => .ok (some (.preprocess operand))
  | .eval =>
    match operand with
    | some expression => .ok (some (.eval expression))
    | none => .error .missingOperand
  | .config =>
    if p.values.isEmpty && !p.debug then .error .helpInstead else .error .missingSubcommand
  | .view v => .ok (some (.config v))
  | .completion =>
    match operand.bind Shell.ofName? with
    | some shell => .ok (some (.completion shell))
    | none => .error .missingOperand

def configDir (p : Progress) : Option Text :=
  p.values.lookup (.switch .configDir)

/-- The command line that ends in this scope. -/
def finish (p : Progress) : Except Refusal CommandLine := do
  let p ← p.settle
  return ⟨p.configDir, ← p.command⟩

/-- Reads the arguments of a scope and of those below it. What is given below wins. -/
def read (p : Progress) : List Text → Except Refusal CommandLine
  | [] => p.finish
  | t :: rest =>
    if p.onlyOperands then do read (← p.operand t) rest
    else if p.awaiting?.isSome then do read (← p.argument t) rest
    else
      match p.scope.child? t with
      | some child => do
        let line ← read (start child (p.title ++ '-' :: t)) rest
        let p ← p.settle
        return { line with configDir := line.configDir <|> p.configDir }
      | none =>
        if p.scope.isHelpWord t then .error (p.scope.helpOn rest)
        else do read (← p.argument t) rest

end Progress

/-- The command line that the arguments spell. -/
def CommandLine.ofArguments (arguments : List Text) : Except Refusal CommandLine :=
  (Progress.start .root "textree".toList).read arguments

end Prose
