import DocGraph.FileSystem
import DocGraph.Language
import DocGraph.Text.Blank
import DocGraph.Text.Lines

/-!
# Changed files

Which files of a git repository have changed: since a reference, in a commit, among those
staged, or at all. The answers come from running git, so every question is a `GitRun`, which
holds what was run besides the answer.
-/

set_option autoImplicit false

namespace DocGraph

/-- What a run of git comes back with. -/
structure GitReply where
  /-- Zero unless the run failed. -/
  code : Int
  output : String
  complaint : String
  deriving DecidableEq, Repr

/-- Git, as far as it can be asked: it may not be installed. -/
structure Git where
  isInstalled : Bool
  reply : List String → GitReply

/-- Why git gives no answer. -/
inductive GitError where
  | notInstalled
  | failed (command complaint : String)
  deriving DecidableEq, Repr

/-- The words for an error of git. -/
def GitError.message : GitError → String
  | .notInstalled => "git not found in PATH"
  | .failed command complaint => "git " ++ command ++ " failed: " ++ Text.trimmed complaint

/-- An answer with the arguments of the runs of git that led to it, in order. -/
structure GitRun (α : Type) where
  commands : List (List String)
  answer : Except GitError α

namespace GitRun

variable {α β : Type}

/-- An answer without a run. -/
def done (a : α) : GitRun α := ⟨[], .ok a⟩

/-- No answer. -/
def fail (e : GitError) : GitRun α := ⟨[], .error e⟩

/-- Go on with an answer. -/
def andThen (run : GitRun α) (next : α → GitRun β) : GitRun β :=
  match run.answer with
  | .ok a => ⟨run.commands ++ (next a).commands, (next a).answer⟩
  | .error e => ⟨run.commands, .error e⟩

end GitRun

namespace Git

/-- Run git. -/
def run (git : Git) (args : List String) : GitRun GitReply :=
  if git.isInstalled then ⟨[args], .ok (git.reply args)⟩ else .fail .notInstalled

/-- What a run of git that does not fail writes. -/
def output (git : Git) (args : List String) : GitRun String :=
  (git.run args).andThen fun r =>
    if r.code = 0 then .done r.output else .fail (.failed (args.headD "") r.complaint)

/-- Whether a run of git does not fail. -/
def succeeds (git : Git) (args : List String) : GitRun Bool :=
  (git.run args).andThen fun r => .done (r.code = 0)

/-- The trimmed lines of an output that are not blank. -/
def listedNames (output : String) : List String :=
  ((Text.lines output.toList).map Text.trim).filterMap fun line =>
    if line.isEmpty then none else some (String.ofList line)

/-- The mark between the old and the new name of a file. -/
def renameMark : List Char := " -> ".toList

/-- A name without the double quotes at its ends. -/
def withoutQuotes (name : List Char) : List Char :=
  ((name.dropWhile (· = '"')).reverse.dropWhile (· = '"')).reverse

/-- The name in a line of a status: behind two signs and a blank, the new one of two. -/
def statusName (line : List Char) : Option String :=
  if line.length < 4 then none
  else
    let name := Text.trim (line.drop 3)
    let current := ((Text.breakOn renameMark name).map Prod.snd).getD name
    let bare := withoutQuotes current
    if bare.isEmpty then none else some (String.ofList bare)

/-- The names in a status. -/
def statusNames (output : String) : List String :=
  (Text.lines output.toList).filterMap statusName

end Git

/-- A repository at a path whose links are resolved. -/
structure Repository where
  path : Path
  git : Git

namespace Repository

/-- The paths of files that are named relative to the repository. -/
def locate (r : Repository) (names : List String) : List String :=
  names.map fun name => (r.path.join (Path.ofString name)).toString

/-- The files that a run of git lists. -/
def listed (r : Repository) (args : List String) : GitRun (List String) :=
  (r.git.output args).andThen fun output => .done (r.locate (Git.listedNames output))

/-- Whether there is a repository. -/
def exists? (r : Repository) : GitRun Bool :=
  let run := r.git.succeeds ["rev-parse", "--git-dir"]
  ⟨run.commands, .ok (run.answer.toOption.getD false)⟩

/-- The files changed since a reference: on the way from where it parted, else against it. -/
def changedSince (r : Repository) (reference : String) : GitRun (List String) :=
  (r.git.run ["diff", "--name-only", reference ++ "...HEAD"]).andThen fun reply =>
    if reply.code = 0 then .done (r.locate (Git.listedNames reply.output))
    else r.listed ["diff", "--name-only", reference]

/-- The files changed in a commit. -/
def changedInCommit (r : Repository) (commit : String) : GitRun (List String) :=
  r.listed ["show", "--name-only", "--format=", commit]

/-- The files with staged changes. -/
def stagedChanges (r : Repository) : GitRun (List String) :=
  r.listed ["diff", "--name-only", "--cached"]

/-- The files with changes that are not committed, and those that are not tracked. -/
def uncommittedChanges (r : Repository) : GitRun (List String) :=
  (r.git.output ["status", "--porcelain"]).andThen fun output =>
    .done (r.locate (Git.statusNames output))

/-- The name of the current branch. -/
def currentBranch (r : Repository) : GitRun String :=
  (r.git.output ["rev-parse", "--abbrev-ref", "HEAD"]).andThen fun output =>
    .done (Text.trimmed output)

/-- The first of several branches that exists. -/
def firstBranch (r : Repository) : List String → GitRun (Option String)
  | [] => .done none
  | name :: rest =>
    (r.git.succeeds ["rev-parse", "--verify", "--quiet", name]).andThen fun found =>
      if found then .done (some name) else r.firstBranch rest

/-- The default branch: main, unless there is only master. -/
def defaultBranch (r : Repository) : GitRun String :=
  (r.firstBranch ["main", "master"]).andThen fun name => .done (name.getD "main")

end Repository

namespace FileSystem

/-- The files among several paths. -/
def onlyFiles (fs : FileSystem) (paths : List String) : Except SystemFault (List String) :=
  paths.filterM fun p => fs.isFile (Path.ofString p)

end FileSystem

/-- The paths whose language is known. -/
def Registry.onlySupported (r : Registry) (paths : List String) : List String :=
  paths.filter r.supports

end DocGraph
