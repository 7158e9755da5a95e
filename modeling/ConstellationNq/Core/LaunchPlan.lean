import ConstellationNq.Library.Loop
import ConstellationNq.Library.Text
import Mathlib.Data.List.Forall2

/-!
# Interpreter chains and launch plans

A helper is identified by the files that its launch executes: the program, the interpreters
of its scripts and the files that its arguments name. The plan of the launch is made later,
by a recursion of its own over the retained copies, and shares with the first only the flat
list of artifacts. The file system does not change between the two; decoding UTF-8, hashing
and the qualification of the working directory are parameters.
-/

set_option autoImplicit false

namespace ConstellationNq.Core.Launch

open Library.Loop Library.Text

/-! ## Files -/

inductive IoErrorKind where
  | notFound
  | other
deriving DecidableEq

structure IoError where
  kind : IoErrorKind
  message : String
deriving DecidableEq

inductive IdentityError where
  | relativePath (path : String)
  | io (path : String) (source : IoError)
  | notExecutable (path : String)
  | invalidShebang (path message : String)
  | chainTooDeep
  | artifactTooLarge (path : String) (actualBytes : Nat)
  | tooManyArtifacts (actualArtifacts : Nat)
  | aggregateTooLarge (actualBytes : Nat)
  | drift (path field : String)
  | descriptorLaunch (message : String)
  | directory (message : String)
deriving DecidableEq

/-- What the descriptor of an opened path tells and holds. -/
structure Entry where
  isFile : Bool
  mode : Nat
  content : List UInt8
  device : Nat
  inode : Nat
  modifiedNs : String

/-- A file system that stands still. -/
structure FileSystem where
  canonicalize : String → Except IoError String
  entry : String → Except IoError Entry
  isFile : String → Except IoError Bool
  qualifyDirectory : String → Except IdentityError Unit
  fromUtf8 : List UInt8 → Option (List Char)
  sha256 : List UInt8 → String

variable (files : FileSystem)

inductive ArtifactRole where
  | interpreter
  | wrapperTarget
  | fixedArgument
deriving DecidableEq

structure ExecutionArtifact where
  role : ArtifactRole
  path : String
  sha256 : String
  size : Nat
  device : Nat
  inode : Nat
  fixedArgument : Option String
deriving DecidableEq

structure OpenedArtifact where
  resolvedPath : String
  sha256 : String
  size : Nat
  device : Nat
  inode : Nat
  mode : Nat
  modifiedNs : String
  header : List UInt8
deriving DecidableEq

structure ArtifactBudget where
  artifacts : Nat
  totalBytes : Nat
deriving DecidableEq

def maxChainDepth : Nat := 4
def maxLaunchArtifactBytes : Nat := 32 * 1024 * 1024
def maxLaunchTotalBytes : Nat := 64 * 1024 * 1024
def maxLaunchArtifacts : Nat := 32

def ArtifactBudget.fresh : ArtifactBudget := { artifacts := 0, totalBytes := 0 }

def ArtifactBudget.reserve (budget : ArtifactBudget) (path : String) (size : Nat) :
    Except IdentityError ArtifactBudget := do
  ensure (size ≤ maxLaunchArtifactBytes) (.artifactTooLarge path size)
  ensure (budget.artifacts + 1 ≤ maxLaunchArtifacts) (.tooManyArtifacts (budget.artifacts + 1))
  ensure (budget.totalBytes + size ≤ maxLaunchTotalBytes) (.aggregateTooLarge (budget.totalBytes + size))
  return { artifacts := budget.artifacts + 1, totalBytes := budget.totalBytes + size }

/-- The bytes from which a script is recognised. -/
def headerOf (content : List UInt8) : List UInt8 := content.take 4096

def openArtifactWithMode (path : String) (requireExecutable : Bool) (budget : ArtifactBudget) :
    Except IdentityError (OpenedArtifact × ArtifactBudget) := do
  let resolved ← (files.canonicalize path).mapError (.io path)
  let entry ← (files.entry resolved).mapError (.io resolved)
  ensure (entry.isFile = true ∧ (requireExecutable = true → entry.mode &&& 0o111 ≠ 0)) (.notExecutable resolved)
  let budget ← budget.reserve resolved entry.content.length
  return ({
    resolvedPath := resolved
    sha256 := files.sha256 entry.content
    size := entry.content.length
    device := entry.device
    inode := entry.inode
    mode := entry.mode
    modifiedNs := entry.modifiedNs
    header := headerOf entry.content }, budget)

def openArtifact (path : String) (budget : ArtifactBudget) : Except IdentityError (OpenedArtifact × ArtifactBudget) :=
  openArtifactWithMode files path true budget

def openRegularArtifact (path : String) (budget : ArtifactBudget) :
    Except IdentityError (OpenedArtifact × ArtifactBudget) :=
  openArtifactWithMode files path false budget

/-! ## Scripts -/

def isScript (header : List UInt8) : Bool := [0x23, 0x21].isPrefixOf header

def isAbsolute (path : String) : Bool := path.toList.head? == some '/'

/-- The words of a line; trimming it first changes none of them. -/
def splitWhitespace (line : List Char) : List (List Char) :=
  (line.splitOnP isWhitespace).filter fun word => !word.isEmpty

/-- The interpreter that a script's first line names, with its argument. -/
def parseShebang (header : List UInt8) (path : String) : Except IdentityError (Option (String × Option String)) :=
  if isScript header then
    match files.fromUtf8 ((header.takeWhile (· != 0x0a)).drop 2) with
    | none => .error (.invalidShebang path "header is not UTF-8")
    | some line =>
        match splitWhitespace line with
        | [] => .error (.invalidShebang path "missing interpreter")
        | interpreter :: remainder =>
            if isAbsolute (String.ofList interpreter) = false then
              .error (.invalidShebang path "interpreter path must be absolute")
            else if 1 < remainder.length then
              .error (.invalidShebang path "more than one shebang argument is ambiguous")
            else .ok (some (String.ofList interpreter, remainder.head?.map String.ofList))
  else .ok none

def envPath : String := "/usr/bin/env"

def joinPath (directory name : String) : String :=
  if directory = "" ∨ directory.toList.getLast? = some '/' then directory ++ name else directory ++ "/" ++ name

def resolveSanitizedPath (command : String) : Option String :=
  (["/usr/sbin", "/usr/bin", "/sbin", "/bin"].map fun directory => joinPath directory command).find? fun candidate =>
    match files.isFile candidate with
    | .ok isFile => isFile
    | .error _ => false

/-- The program that `env` is asked to run. -/
def wrapperTarget (path : String) (argument : Option String) : Except IdentityError String :=
  match argument with
  | none => .error (.invalidShebang path "/usr/bin/env shebang requires one fixed command")
  | some command =>
      if command.toList.head? = some '-' ∨ '/' ∈ command.toList then
        .error (.invalidShebang path "only a single bare command is accepted after /usr/bin/env")
      else match resolveSanitizedPath files command with
        | none => .error (.invalidShebang path
            ("wrapper target " ++ debugText command ++ " is absent from sanitized PATH"))
        | some target => .ok target

def executionArtifact (opened : OpenedArtifact) (role : ArtifactRole) (fixedArgument : Option String) :
    ExecutionArtifact where
  role := role
  path := opened.resolvedPath
  sha256 := opened.sha256
  size := opened.size
  device := opened.device
  inode := opened.inode
  fixedArgument := fixedArgument

/-! ## The identity -/

/-- `collect_interpreters`; `depth` is what is left of the greatest depth. The artifacts it
pushes are returned. -/
def collectInterpreters : (depth : Nat) → OpenedArtifact → ArtifactBudget →
    Except IdentityError (List ExecutionArtifact × ArtifactBudget)
  | 0, _, _ => .error .chainTooDeep
  | depth + 1, opened, budget =>
      match parseShebang files opened.header opened.resolvedPath with
      | .error error => .error error
      | .ok none => .ok ([], budget)
      | .ok (some (interpreter, argument)) => do
          let (interpreterOpened, budget) ← openArtifact files interpreter budget
          if interpreterOpened.resolvedPath = envPath then
            let target ← wrapperTarget files opened.resolvedPath argument
            let (targetOpened, budget) ← openArtifact files target budget
            let (rest, budget) ← (if isScript targetOpened.header then
              collectInterpreters depth targetOpened budget else .ok ([], budget))
            return (executionArtifact interpreterOpened .interpreter argument ::
              executionArtifact targetOpened .wrapperTarget none :: rest, budget)
          else
            let (rest, budget) ← (if isScript interpreterOpened.header then
              collectInterpreters depth interpreterOpened budget else .ok ([], budget))
            return (executionArtifact interpreterOpened .interpreter argument :: rest, budget)

/-- The path that an argument names, if any. -/
def candidatePath (workingDirectory : Option String) (argument : String) : Option String :=
  if isAbsolute argument then some argument
  else workingDirectory.map fun directory => joinPath directory argument

/-- Whether an argument names a file that exists. -/
def namesFile (workingDirectory : Option String) (argument : String) : Except IdentityError (Option String) :=
  match candidatePath workingDirectory argument with
  | none => .ok none
  | some candidate =>
      match files.isFile candidate with
      | .ok true => .ok (some candidate)
      | .ok false => .ok none
      | .error error => if error.kind = .notFound then .ok none else .error (.io candidate error)

def collectFixedArgumentFiles (workingDirectory : Option String) : List String → ArtifactBudget →
    Except IdentityError (List ExecutionArtifact × ArtifactBudget)
  | [], budget => .ok ([], budget)
  | argument :: arguments, budget =>
      match namesFile files workingDirectory argument with
      | .error error => .error error
      | .ok none => collectFixedArgumentFiles workingDirectory arguments budget
      | .ok (some candidate) => do
          let (opened, budget) ← openRegularArtifact files candidate budget
          let (rest, budget) ← collectFixedArgumentFiles workingDirectory arguments budget
          return (executionArtifact opened .fixedArgument (some argument) :: rest, budget)

structure ExecutionIdentity where
  configuredPath : String
  resolvedPath : String
  sha256 : String
  size : Nat
  device : Nat
  inode : Nat
  mode : Nat
  modifiedNs : String
  fixedArgv : List String
  workingDirectory : Option String
  executionChain : List ExecutionArtifact

def resolveParts (path : String) (fixedArgv : List String) (workingDirectory : Option String) :
    Except IdentityError ExecutionIdentity := do
  ensure (isAbsolute path = true) (.relativePath path)
  let (opened, budget) ← openArtifact files path .fresh
  let (interpreters, budget) ← collectInterpreters files maxChainDepth opened budget
  let (arguments, _) ← collectFixedArgumentFiles files workingDirectory fixedArgv budget
  workingDirectory.toList.forM files.qualifyDirectory
  return {
    configuredPath := path
    resolvedPath := opened.resolvedPath
    sha256 := opened.sha256
    size := opened.size
    device := opened.device
    inode := opened.inode
    mode := opened.mode
    modifiedNs := opened.modifiedNs
    fixedArgv := fixedArgv
    workingDirectory := workingDirectory
    executionChain := interpreters ++ arguments }

/-! ## Retained copies -/

structure RetainedArtifact where
  path : String
  procPath : String
  header : List UInt8
deriving DecidableEq

def compareField (holds : Prop) [Decidable holds] (path field : String) : Except IdentityError Unit :=
  ensure holds (.drift path field)

/-- A sealed copy has the bytes of the file; `procPath` is the path of its descriptor. -/
def retained (opened : OpenedArtifact) (procPath : String) : RetainedArtifact where
  path := opened.resolvedPath
  procPath := procPath
  header := opened.header

def retainRoot (identity : ExecutionIdentity) (procPath : String) (budget : ArtifactBudget) :
    Except IdentityError (RetainedArtifact × ArtifactBudget) := do
  let (opened, budget) ← openArtifact files identity.resolvedPath budget
  compareField (opened.resolvedPath = identity.resolvedPath) identity.resolvedPath "retained_resolved_path"
  compareField (opened.sha256 = identity.sha256) identity.resolvedPath "retained_sha256"
  compareField (opened.size = identity.size) identity.resolvedPath "retained_size"
  compareField (opened.device = identity.device) identity.resolvedPath "retained_device"
  compareField (opened.inode = identity.inode) identity.resolvedPath "retained_inode"
  compareField (opened.mode = identity.mode) identity.resolvedPath "retained_mode"
  compareField (opened.modifiedNs = identity.modifiedNs) identity.resolvedPath "retained_modified_ns"
  return (retained opened procPath, budget)

def retainChainArtifact (expected : ExecutionArtifact) (procPath : String) (budget : ArtifactBudget) :
    Except IdentityError (RetainedArtifact × ArtifactBudget) := do
  let (opened, budget) ← openArtifactWithMode files expected.path (expected.role != .fixedArgument) budget
  compareField (opened.resolvedPath = expected.path) expected.path "retained_chain_path"
  compareField (opened.sha256 = expected.sha256) expected.path "retained_chain_sha256"
  compareField (opened.size = expected.size) expected.path "retained_chain_size"
  compareField (opened.device = expected.device) expected.path "retained_chain_device"
  compareField (opened.inode = expected.inode) expected.path "retained_chain_inode"
  return (retained opened procPath, budget)

def retainChain (descriptor : Nat → String) : List ExecutionArtifact → Nat → ArtifactBudget →
    Except IdentityError (List RetainedArtifact)
  | [], _, _ => .ok []
  | expected :: chain, index, budget => do
      let (artifact, budget) ← retainChainArtifact files expected (descriptor index) budget
      let rest ← retainChain descriptor chain (index + 1) budget
      return artifact :: rest

def retainArtifacts (descriptor : Nat → String) (identity : ExecutionIdentity) :
    Except IdentityError (List RetainedArtifact) := do
  let (root, budget) ← retainRoot files identity (descriptor 0) .fresh
  let rest ← retainChain files descriptor identity.executionChain 1 budget
  return root :: rest

/-! ## The plan -/

section Plan

variable (artifacts : List RetainedArtifact)

/-- `plan_program`; the last argument is what the cursor has left of the chain. -/
def planProgram : (programIndex : Nat) → (callerArgv : List String) → (cursor : Nat) → List ExecutionArtifact →
    Except IdentityError ((String × List String) × List ExecutionArtifact)
  | programIndex, callerArgv, cursor, remaining =>
      match artifacts[programIndex]? with
      | none => .error (.descriptorLaunch "launch plan references an absent descriptor")
      | some program =>
          match parseShebang files program.header program.path with
          | .error error => .error error
          | .ok none => .ok ((program.procPath, callerArgv), remaining)
          | .ok (some (interpreter, argument)) =>
              match remaining with
              | [] => .error (.descriptorLaunch "script interpreter is absent from qualified identity")
              | expected :: rest =>
                  if expected.role ≠ .interpreter then
                    .error (.descriptorLaunch "qualified execution chain is not ordered by interpreter")
                  else match files.canonicalize interpreter with
                    | .error error => .error (.io interpreter error)
                    | .ok resolved =>
                        if resolved ≠ expected.path then .error (.drift program.path "launch_interpreter_path")
                        else if expected.path = envPath then
                          match argument with
                          | none =>
                              .error (.descriptorLaunch "/usr/bin/env launch is missing its fixed command")
                          | some command =>
                              if expected.fixedArgument ≠ some command then
                                .error (.drift program.path "launch_wrapper_command")
                              else match rest with
                                | [] => .error (.descriptorLaunch "env wrapper target is absent")
                                | target :: rest =>
                                    if target.role ≠ .wrapperTarget then
                                      .error (.descriptorLaunch "env wrapper target has the wrong qualified role")
                                    else planProgram (cursor + 2) (program.procPath :: callerArgv) (cursor + 2) rest
                        else planProgram (cursor + 1) (argument.toList ++ program.procPath :: callerArgv)
                          (cursor + 1) rest

/-- The argument as the helper gets it: the descriptor of the file it names, if one is retained. -/
def passedArgument (chain : List ExecutionArtifact) (argument : String) : String :=
  match chain.findIdx? fun artifact => artifact.role = .fixedArgument ∧ artifact.fixedArgument = some argument with
  | none => argument
  | some index => (artifacts[index + 1]?.map RetainedArtifact.procPath).getD argument

def buildLaunchPlan (identity : ExecutionIdentity) : Except IdentityError (String × List String) := do
  let argv := identity.fixedArgv.map (passedArgument artifacts identity.executionChain)
  let (plan, remaining) ← planProgram files artifacts 0 argv 0 identity.executionChain
  ensure (∀ artifact ∈ remaining, artifact.role = .fixedArgument)
    (.descriptorLaunch "retained interpreter chain contains an unused executable")
  return plan

/-! ## Launches -/

/-- What launching a retained program with arguments comes to: a script is replaced by its
interpreter, or by the program that `env` is asked for, which is given the script. -/
inductive Launches : Nat → List String → Nat → List String → Prop where
  | native {program : Nat} {argv : List String} {artifact : RetainedArtifact}
      (present : artifacts[program]? = some artifact) (native : isScript artifact.header = false) :
      Launches program argv program argv
  | interpreted {program final : Nat} {argv finalArgv : List String} {artifact next : RetainedArtifact}
      {interpreter : String} {argument : Option String} (present : artifacts[program]? = some artifact)
      (script : parseShebang files artifact.header artifact.path = .ok (some (interpreter, argument)))
      (follows : artifacts[program + 1]? = some next) (resolved : files.canonicalize interpreter = .ok next.path)
      (direct : next.path ≠ envPath)
      (launched : Launches (program + 1) (argument.toList ++ artifact.procPath :: argv) final finalArgv) :
      Launches program argv final finalArgv
  | wrapped {program final : Nat} {argv finalArgv : List String} {artifact wrapper next : RetainedArtifact}
      {interpreter command target : String} (present : artifacts[program]? = some artifact)
      (script : parseShebang files artifact.header artifact.path = .ok (some (interpreter, some command)))
      (wraps : artifacts[program + 1]? = some wrapper) (resolved : files.canonicalize interpreter = .ok wrapper.path)
      (isEnv : wrapper.path = envPath) (found : resolveSanitizedPath files command = some target)
      (follows : artifacts[program + 2]? = some next) (targetResolved : files.canonicalize target = .ok next.path)
      (launched : Launches (program + 2) (artifact.procPath :: argv) final finalArgv) :
      Launches program argv final finalArgv

/-- An argument is passed as the descriptor of the file it was qualified as, or as it is. -/
def Passed (chain : List ExecutionArtifact) (argument passed : String) : Prop :=
  (∃ index artifact copy, chain[index]? = some artifact ∧ artifact.role = .fixedArgument ∧
      artifact.fixedArgument = some argument ∧ artifacts[index + 1]? = some copy ∧ passed = copy.procPath) ∨
    (∀ artifact ∈ chain, ¬ (artifact.role = .fixedArgument ∧ artifact.fixedArgument = some argument)) ∧
      passed = argument

end Plan

/-! ## What the collector finds -/

variable {files}

def HeaderAt (files : FileSystem) (path : String) (header : List UInt8) : Prop :=
  ∃ entry, files.entry path = .ok entry ∧ header = headerOf entry.content

variable {path : String}

theorem HeaderAt.unique {left right : List UInt8} (leftAt : HeaderAt files path left)
    (rightAt : HeaderAt files path right) : left = right := by
  obtain ⟨leftEntry, leftFound, rfl⟩ := leftAt
  obtain ⟨rightEntry, rightFound, rfl⟩ := rightAt
  cases leftFound.symm.trans rightFound
  rfl

variable {opened : OpenedArtifact} {budget : ArtifactBudget}

variable {after : ArtifactBudget}

theorem openArtifactWithMode_spec {requireExecutable : Bool}
    (isOpened : openArtifactWithMode files path requireExecutable budget = .ok (opened, after)) :
    files.canonicalize path = .ok opened.resolvedPath ∧ HeaderAt files opened.resolvedPath opened.header := by
  obtain ⟨resolved, isResolved, isOpened⟩ := bind_eq_ok.mp isOpened
  obtain ⟨entry, isEntry, isOpened⟩ := bind_eq_ok.mp isOpened
  obtain ⟨-, isOpened⟩ := check_bind_eq_ok.mp isOpened
  obtain ⟨reserved, -, final⟩ := bind_eq_ok.mp isOpened
  cases final
  exact ⟨mapError_eq_ok.mp isResolved, entry, mapError_eq_ok.mp isEntry, rfl⟩

theorem wrapperTarget_spec {target : String} {argument : Option String}
    (isTarget : wrapperTarget files path argument = .ok target) :
    ∃ command, argument = some command ∧ resolveSanitizedPath files command = some target := by
  cases argument with
  | none => cases isTarget
  | some command =>
      rw [wrapperTarget] at isTarget
      split at isTarget
      · cases isTarget
      · split at isTarget
        · cases isTarget
        · rename_i found
          cases isTarget
          exact ⟨command, rfl, found⟩

variable {header : List UInt8}

theorem parseShebang_eq_none_iff :
    parseShebang files header path = .ok none ↔ isScript header = false := by
  unfold parseShebang
  constructor
  · intro parsed
    split at parsed
    · repeat' split at parsed
      all_goals cases parsed
    · rename_i native
      exact Bool.eq_false_iff.mpr native
  · intro native
    rw [native]
    rfl

/-- The interpreters of a file, each with the next. -/
inductive Chain (files : FileSystem) : String → List UInt8 → List ExecutionArtifact → Prop where
  | native {path : String} {header : List UInt8} (native : isScript header = false) : Chain files path header []
  | interpreted {path interpreter : String} {header : List UInt8} {argument : Option String} {opened : OpenedArtifact}
      {rest : List ExecutionArtifact}
      (script : parseShebang files header path = .ok (some (interpreter, argument)))
      (resolved : files.canonicalize interpreter = .ok opened.resolvedPath)
      (headed : HeaderAt files opened.resolvedPath opened.header) (direct : opened.resolvedPath ≠ envPath)
      (chain : Chain files opened.resolvedPath opened.header rest) :
      Chain files path header (executionArtifact opened .interpreter argument :: rest)
  | wrapped {path interpreter command target : String} {header : List UInt8} {wrapper opened : OpenedArtifact}
      {rest : List ExecutionArtifact}
      (script : parseShebang files header path = .ok (some (interpreter, some command)))
      (resolved : files.canonicalize interpreter = .ok wrapper.resolvedPath) (isEnv : wrapper.resolvedPath = envPath)
      (found : resolveSanitizedPath files command = some target)
      (targetResolved : files.canonicalize target = .ok opened.resolvedPath)
      (headed : HeaderAt files opened.resolvedPath opened.header)
      (chain : Chain files opened.resolvedPath opened.header rest) :
      Chain files path header (executionArtifact wrapper .interpreter (some command) ::
        executionArtifact opened .wrapperTarget none :: rest)

variable {chain : List ExecutionArtifact}

theorem followed_chain {depth : Nat} {opened : OpenedArtifact} {budget : ArtifactBudget}
    {chain : List ExecutionArtifact}
    (collects : collectInterpreters files depth opened budget = .ok (chain, after) →
      Chain files opened.resolvedPath opened.header chain)
    (followed : (if isScript opened.header then collectInterpreters files depth opened budget else .ok ([], budget)) =
      .ok (chain, after)) : Chain files opened.resolvedPath opened.header chain := by
  split at followed
  · exact collects followed
  · rename_i native
    cases followed
    exact .native (Bool.eq_false_iff.mpr native)

theorem collectInterpreters_chain {depth : Nat}
    (collected : collectInterpreters files depth opened budget = .ok (chain, after)) :
    Chain files opened.resolvedPath opened.header chain := by
  induction depth generalizing opened budget after chain with
  | zero => cases collected
  | succ depth ih =>
      unfold collectInterpreters at collected
      split at collected
      · cases collected
      · rename_i parsed
        cases collected
        exact .native (parseShebang_eq_none_iff.mp parsed)
      · rename_i interpreter argument parsed
        obtain ⟨⟨interpreterOpened, budgetThere⟩, isOpened, collected⟩ := bind_eq_ok.mp collected
        obtain ⟨resolved, headed⟩ := openArtifactWithMode_spec isOpened
        dsimp only at collected
        split at collected
        · rename_i isEnv
          obtain ⟨target, isTarget, collected⟩ := bind_eq_ok.mp collected
          obtain ⟨⟨targetOpened, budgetTarget⟩, targetIsOpened, collected⟩ := bind_eq_ok.mp collected
          obtain ⟨⟨rest, budgetRest⟩, followed, final⟩ := bind_eq_ok.mp collected
          obtain ⟨command, rfl, found⟩ := wrapperTarget_spec isTarget
          obtain ⟨targetResolved, targetHeaded⟩ := openArtifactWithMode_spec targetIsOpened
          cases final
          exact .wrapped parsed resolved isEnv found targetResolved targetHeaded (followed_chain ih followed)
        · rename_i direct
          obtain ⟨⟨rest, budgetRest⟩, followed, final⟩ := bind_eq_ok.mp collected
          cases final
          exact .interpreted parsed resolved headed direct (followed_chain ih followed)

theorem Chain.executable (isChain : Chain files path header chain) :
    ∀ artifact ∈ chain, artifact.role ≠ .fixedArgument := by
  induction isChain with
  | native _ => simp
  | interpreted _ _ _ _ _ ih =>
      intro artifact member
      rcases List.mem_cons.mp member with rfl | member
      · simp [executionArtifact]
      · exact ih artifact member
  | wrapped _ _ _ _ _ _ _ ih =>
      intro artifact member
      rcases List.mem_cons.mp member with rfl | member
      · simp [executionArtifact]
      · rcases List.mem_cons.mp member with rfl | member
        · simp [executionArtifact]
        · exact ih artifact member

theorem collectFixedArgumentFiles_role {workingDirectory : Option String} {arguments : List String}
    (collected : collectFixedArgumentFiles files workingDirectory arguments budget = .ok (chain, after)) :
    ∀ artifact ∈ chain, artifact.role = .fixedArgument := by
  induction arguments generalizing budget after chain with
  | nil =>
      cases collected
      simp
  | cons argument arguments ih =>
      unfold collectFixedArgumentFiles at collected
      split at collected
      · cases collected
      · exact ih collected
      · obtain ⟨⟨opened, budgetThere⟩, -, collected⟩ := bind_eq_ok.mp collected
        obtain ⟨⟨rest, budgetRest⟩, isRest, final⟩ := bind_eq_ok.mp collected
        cases final
        intro artifact member
        rcases List.mem_cons.mp member with rfl | member
        · rfl
        · exact ih isRest artifact member

/-! ## What is retained -/

def Copies (files : FileSystem) (artifact : ExecutionArtifact) (copy : RetainedArtifact) : Prop :=
  copy.path = artifact.path ∧ HeaderAt files copy.path copy.header

theorem retainChainArtifact_copies {expected : ExecutionArtifact} {procPath : String} {copy : RetainedArtifact}
    (isRetained : retainChainArtifact files expected procPath budget = .ok (copy, after)) :
    Copies files expected copy := by
  obtain ⟨⟨opened, reserved⟩, isOpened, isRetained⟩ := bind_eq_ok.mp isRetained
  obtain ⟨samePath, isRetained⟩ := check_bind_eq_ok.mp isRetained
  obtain ⟨-, isRetained⟩ := check_bind_eq_ok.mp isRetained
  obtain ⟨-, isRetained⟩ := check_bind_eq_ok.mp isRetained
  obtain ⟨-, isRetained⟩ := check_bind_eq_ok.mp isRetained
  obtain ⟨-, final⟩ := check_bind_eq_ok.mp isRetained
  cases final
  exact ⟨ensure_eq_ok.mp samePath, (openArtifactWithMode_spec isOpened).2⟩

variable {index : Nat}

theorem retainChain_copies {descriptor : Nat → String} {copies : List RetainedArtifact}
    (isRetained : retainChain files descriptor chain index budget = .ok copies) :
    List.Forall₂ (Copies files) chain copies := by
  induction chain generalizing index budget copies with
  | nil =>
      cases isRetained
      exact .nil
  | cons expected chain ih =>
      obtain ⟨⟨copy, reserved⟩, isCopy, isRetained⟩ := bind_eq_ok.mp isRetained
      obtain ⟨rest, isRest, final⟩ := bind_eq_ok.mp isRetained
      cases final
      exact .cons (retainChainArtifact_copies isCopy) (ih isRest)

theorem retainArtifacts_spec {descriptor : Nat → String} {identity : ExecutionIdentity}
    {artifacts : List RetainedArtifact} (isRetained : retainArtifacts files descriptor identity = .ok artifacts) :
    ∃ root copies, artifacts = root :: copies ∧ root.path = identity.resolvedPath ∧
      HeaderAt files root.path root.header ∧ List.Forall₂ (Copies files) identity.executionChain copies := by
  obtain ⟨⟨root, reserved⟩, isRoot, isRetained⟩ := bind_eq_ok.mp isRetained
  obtain ⟨copies, isCopies, final⟩ := bind_eq_ok.mp isRetained
  cases final
  obtain ⟨⟨opened, budget⟩, isOpened, isRoot⟩ := bind_eq_ok.mp isRoot
  obtain ⟨samePath, isRoot⟩ := check_bind_eq_ok.mp isRoot
  obtain ⟨-, isRoot⟩ := check_bind_eq_ok.mp isRoot
  obtain ⟨-, isRoot⟩ := check_bind_eq_ok.mp isRoot
  obtain ⟨-, isRoot⟩ := check_bind_eq_ok.mp isRoot
  obtain ⟨-, isRoot⟩ := check_bind_eq_ok.mp isRoot
  obtain ⟨-, isRoot⟩ := check_bind_eq_ok.mp isRoot
  obtain ⟨-, isRoot⟩ := check_bind_eq_ok.mp isRoot
  cases isRoot
  exact ⟨_, copies, rfl, ensure_eq_ok.mp samePath, (openArtifactWithMode_spec isOpened).2, retainChain_copies isCopies⟩

/-! ## Steps of the planner -/

section Steps

variable {artifacts : List RetainedArtifact} {programIndex cursor : Nat} {argv : List String}
  {program : RetainedArtifact} {interpreter : String} {argument : Option String} {expected : ExecutionArtifact}
  {remaining : List ExecutionArtifact}

theorem planProgram_native (present : artifacts[programIndex]? = some program)
    (native : isScript program.header = false) :
    planProgram files artifacts programIndex argv cursor remaining = .ok ((program.procPath, argv), remaining) := by
  rw [planProgram, present]
  simp only [parseShebang_eq_none_iff.mpr native]

theorem planProgram_interpreted (present : artifacts[programIndex]? = some program)
    (script : parseShebang files program.header program.path = .ok (some (interpreter, argument)))
    (role : expected.role = .interpreter) (resolved : files.canonicalize interpreter = .ok expected.path)
    (direct : expected.path ≠ envPath) :
    planProgram files artifacts programIndex argv cursor (expected :: remaining) =
      planProgram files artifacts (cursor + 1) (argument.toList ++ program.procPath :: argv) (cursor + 1)
        remaining := by
  conv => lhs; rw [planProgram, present]
  simp only [script, role, resolved, ne_eq, not_true_eq_false, if_false, direct]

theorem planProgram_wrapped {command : String} {target : ExecutionArtifact}
    (present : artifacts[programIndex]? = some program)
    (script : parseShebang files program.header program.path = .ok (some (interpreter, some command)))
    (role : expected.role = .interpreter) (resolved : files.canonicalize interpreter = .ok expected.path)
    (isEnv : expected.path = envPath) (sameCommand : expected.fixedArgument = some command)
    (targetRole : target.role = .wrapperTarget) :
    planProgram files artifacts programIndex argv cursor (expected :: target :: remaining) =
      planProgram files artifacts (cursor + 2) (program.procPath :: argv) (cursor + 2) remaining := by
  conv => lhs; rw [planProgram, present]
  rw [isEnv] at resolved
  simp only [script, role, resolved, ne_eq, not_true_eq_false, if_false, isEnv, if_true, sameCommand, targetRole]

end Steps

/-! ## The plan follows the chain -/

variable {artifacts : List RetainedArtifact}

/-- From an index on, the copies are those of a list of artifacts. -/
def CopiesFrom (files : FileSystem) (artifacts : List RetainedArtifact) (index : Nat) (links : List ExecutionArtifact) :
    Prop :=
  ∀ offset artifact, links[offset]? = some artifact →
    ∃ copy, artifacts[index + offset]? = some copy ∧ Copies files artifact copy

theorem CopiesFrom.uncons {link : ExecutionArtifact} {links : List ExecutionArtifact}
    (copies : CopiesFrom files artifacts index (link :: links)) :
    (∃ copy, artifacts[index]? = some copy ∧ Copies files link copy) ∧ CopiesFrom files artifacts (index + 1) links := by
  refine ⟨copies 0 link rfl, fun offset artifact found => ?_⟩
  obtain ⟨copy, present, isCopy⟩ := copies (offset + 1) artifact found
  refine ⟨copy, ?_, isCopy⟩
  rw [Nat.add_assoc, Nat.add_comm 1 offset]
  exact present

theorem copiesFrom_of_forall₂ {root : RetainedArtifact} {copies : List RetainedArtifact}
    (isCopies : List.Forall₂ (Copies files) chain copies) :
    CopiesFrom files (root :: copies) 1 chain := by
  intro offset artifact found
  rw [Nat.add_comm]
  induction isCopies generalizing offset with
  | nil => cases found
  | @cons first copy chain copies isCopy _ ih =>
      cases offset with
      | zero =>
          cases found
          exact ⟨copy, rfl, isCopy⟩
      | succ offset => exact ih offset found

/-- The planner at a program whose chain is ahead of it. The cursor stands at the program,
since the copy of an artifact is one further than the artifact. -/
theorem planProgram_chain {links : List ExecutionArtifact} (chain : Chain files path header links)
    {program : RetainedArtifact} (present : artifacts[index]? = some program) (isPath : program.path = path)
    (isHeader : program.header = header) (copies : CopiesFrom files artifacts (index + 1) links) (argv : List String)
    (arguments : List ExecutionArtifact) :
    ∃ last finalArgv, artifacts[index + links.length]? = some last ∧ isScript last.header = false ∧
      planProgram files artifacts index argv index (links ++ arguments) =
        .ok ((last.procPath, finalArgv), arguments) ∧
      Launches files artifacts index argv (index + links.length) finalArgv := by
  induction chain generalizing index program argv with
  | native native =>
      subst isHeader
      exact ⟨program, argv, present, native, planProgram_native present native, .native present native⟩
  | @interpreted path interpreter header argument opened links script resolved headed direct chain ih =>
      subst isPath isHeader
      obtain ⟨⟨next, follows, samePath, nextHeaded⟩, copies⟩ := copies.uncons
      have nextPath : next.path = opened.resolvedPath := samePath
      have sameHeader : next.header = opened.header := nextHeaded.unique (nextPath ▸ headed)
      obtain ⟨last, finalArgv, lastPresent, native, planned, launched⟩ :=
        ih follows nextPath sameHeader copies (argument.toList ++ program.procPath :: argv)
      have total : index + 1 + links.length = index + (links.length + 1) := by omega
      rw [total] at lastPresent launched
      refine ⟨last, finalArgv, lastPresent, native, ?_, ?_⟩
      · exact (planProgram_interpreted present script rfl resolved direct).trans planned
      · exact .interpreted present script follows (nextPath ▸ resolved) (nextPath ▸ direct) launched
  | @wrapped path interpreter command target header wrapper opened links script resolved isEnv found targetResolved
      headed chain ih =>
      subst isPath isHeader
      obtain ⟨⟨wrapperCopy, wraps, samePath, -⟩, copies⟩ := copies.uncons
      obtain ⟨⟨next, follows, sameTarget, nextHeaded⟩, copies⟩ := copies.uncons
      have wrapperPath : wrapperCopy.path = wrapper.resolvedPath := samePath
      have nextPath : next.path = opened.resolvedPath := sameTarget
      have sameHeader : next.header = opened.header := nextHeaded.unique (nextPath ▸ headed)
      obtain ⟨last, finalArgv, lastPresent, native, planned, launched⟩ :=
        ih follows nextPath sameHeader copies (program.procPath :: argv)
      have total : index + 1 + 1 + links.length = index + (links.length + 1 + 1) := by omega
      rw [total] at lastPresent launched
      refine ⟨last, finalArgv, lastPresent, native, ?_, ?_⟩
      · exact (planProgram_wrapped present script rfl resolved isEnv rfl rfl).trans planned
      · exact .wrapped present script wraps (wrapperPath ▸ resolved) (wrapperPath.trans isEnv) found follows
          (nextPath ▸ targetResolved) launched

/-! ## The whole plan -/

theorem passedArgument_passed (copies : CopiesFrom files artifacts 1 chain) (argument : String) :
    Passed artifacts chain argument (passedArgument artifacts chain argument) := by
  unfold passedArgument
  split
  · rename_i absent
    refine .inr ⟨fun artifact member qualified => ?_, rfl⟩
    have refuted := List.findIdx?_eq_none_iff.mp absent artifact member
    exact of_decide_eq_false refuted qualified
  · rename_i index found
    obtain ⟨within, holds, -⟩ := List.findIdx?_eq_some_iff_getElem.mp found
    obtain ⟨role, named⟩ := of_decide_eq_true holds
    obtain ⟨copy, present, -⟩ := copies index chain[index] (List.getElem?_eq_getElem within)
    rw [Nat.add_comm] at present
    refine .inl ⟨index, chain[index], copy, List.getElem?_eq_getElem within, role, named, present, ?_⟩
    rw [present]
    rfl

theorem buildLaunchPlan_exact {path : String} {fixedArgv : List String} {workingDirectory : Option String}
    {identity : ExecutionIdentity} {descriptor : Nat → String}
    (resolved : resolveParts files path fixedArgv workingDirectory = .ok identity)
    (isRetained : retainArtifacts files descriptor identity = .ok artifacts) :
    ∃ callerArgv final last argv,
      List.Forall₂ (Passed artifacts identity.executionChain) fixedArgv callerArgv ∧
      buildLaunchPlan files artifacts identity = .ok (last.procPath, argv) ∧
      Launches files artifacts 0 callerArgv final argv ∧ artifacts[final]? = some last ∧
      isScript last.header = false ∧
      (∀ artifact ∈ identity.executionChain.take final, artifact.role ≠ .fixedArgument) ∧
      ∀ artifact ∈ identity.executionChain.drop final, artifact.role = .fixedArgument := by
  obtain ⟨-, resolved⟩ := check_bind_eq_ok.mp resolved
  obtain ⟨⟨opened, budget⟩, isOpened, resolved⟩ := bind_eq_ok.mp resolved
  obtain ⟨⟨interpreters, budgetThere⟩, collected, resolved⟩ := bind_eq_ok.mp resolved
  obtain ⟨⟨arguments, budgetLast⟩, fixed, resolved⟩ := bind_eq_ok.mp resolved
  obtain ⟨-, final⟩ := check_bind_eq_ok.mp resolved
  cases final
  obtain ⟨root, copies, rfl, rootPath, rootHeaded, isCopies⟩ := retainArtifacts_spec isRetained
  have chain := collectInterpreters_chain collected
  have copiesFrom : CopiesFrom files (root :: copies) 1 (interpreters ++ arguments) := copiesFrom_of_forall₂ isCopies
  have rootPresent : (root :: copies)[0]? = some root := rfl
  have rootHeader : root.header = opened.header :=
    rootHeaded.unique (rootPath ▸ (openArtifactWithMode_spec isOpened).2)
  have ahead : CopiesFrom files (root :: copies) (0 + 1) interpreters := by
    intro offset artifact found
    have within := (List.getElem?_eq_some_iff.mp found).1
    exact copiesFrom offset artifact ((List.getElem?_append_left within).trans found)
  obtain ⟨last, argv, lastPresent, native, planned, launched⟩ :=
    planProgram_chain chain rootPresent rootPath rootHeader ahead
      (fixedArgv.map (passedArgument (root :: copies) (interpreters ++ arguments))) arguments
  rw [Nat.zero_add] at lastPresent launched
  refine ⟨_, interpreters.length, last, argv, ?_, ?_, launched, lastPresent, native, ?_, ?_⟩
  · rw [List.forall₂_map_right_iff, List.forall₂_same]
    exact fun argument _ => passedArgument_passed copiesFrom argument
  · refine bind_eq_ok.mpr ⟨_, planned, ?_⟩
    exact check_bind_eq_ok.mpr ⟨ensure_eq_ok.mpr (collectFixedArgumentFiles_role fixed), rfl⟩
  · rw [List.take_left]
    exact chain.executable
  · rw [List.drop_left]
    exact collectFixedArgumentFiles_role fixed

/-- A script of `python3` under `env`, and a file of rules. -/
def exampleFiles : FileSystem where
  canonicalize := fun path => .ok path
  entry := fun path => .ok {
    isFile := true
    mode := 0o755
    content := if path = "/opt/helper" then "#!/usr/bin/env python3\n".toList.map fun character =>
      UInt8.ofNat character.toNat else [0x7f]
    device := 1
    inode := 1
    modifiedNs := "0" }
  isFile := fun path => .ok (path == "/usr/bin/python3" || path == "/opt/rules.json")
  qualifyDirectory := fun _ => .ok ()
  fromUtf8 := fun bytes => some (bytes.map fun byte => Char.ofNat byte.toNat)
  sha256 := fun _ => ""

def exampleDescriptor (index : Nat) : String := "/proc/self/fd/" ++ toString index

def exampleArtifact (role : ArtifactRole) (path : String) (fixedArgument : Option String) : ExecutionArtifact where
  role := role
  path := path
  sha256 := ""
  size := 1
  device := 1
  inode := 1
  fixedArgument := fixedArgument

def exampleIdentity : ExecutionIdentity where
  configuredPath := "/opt/helper"
  resolvedPath := "/opt/helper"
  sha256 := ""
  size := 23
  device := 1
  inode := 1
  mode := 0o755
  modifiedNs := "0"
  fixedArgv := ["/opt/rules.json", "--all"]
  workingDirectory := none
  executionChain := [exampleArtifact .interpreter "/usr/bin/env" (some "python3"),
    exampleArtifact .wrapperTarget "/usr/bin/python3" none,
    exampleArtifact .fixedArgument "/opt/rules.json" (some "/opt/rules.json")]

theorem buildLaunchPlan_exact_script :
    ∃ artifacts, resolveParts exampleFiles "/opt/helper" ["/opt/rules.json", "--all"] none = .ok exampleIdentity ∧
      retainArtifacts exampleFiles exampleDescriptor exampleIdentity = .ok artifacts ∧
      ∃ (last : RetainedArtifact) (argv : List String),
        buildLaunchPlan exampleFiles artifacts exampleIdentity = .ok (last.procPath, argv) ∧
          last ∈ artifacts ∧ isScript last.header = false := by
  have resolved : resolveParts exampleFiles "/opt/helper" ["/opt/rules.json", "--all"] none = .ok exampleIdentity := rfl
  obtain ⟨artifacts, isRetained⟩ :
      ∃ artifacts, retainArtifacts exampleFiles exampleDescriptor exampleIdentity = .ok artifacts := ⟨_, rfl⟩
  obtain ⟨_, _, last, argv, -, planned, -, present, native, -⟩ := buildLaunchPlan_exact resolved isRetained
  exact ⟨artifacts, resolved, isRetained, last, argv, planned, List.mem_of_getElem? present, native⟩

end ConstellationNq.Core.Launch
