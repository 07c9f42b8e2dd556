import DocGraph.CommandLine.Layout

/-!
# The program

Reads the tree that the arguments are about, lets the command line answer, and writes the
answer. Everything else is done without looking at the outside world.
-/

set_option autoImplicit false

namespace DocGraph.Program

/-- The time of a modification in nanoseconds. -/
def nanoseconds (t : IO.FS.SystemTime) : Int :=
  t.sec * 1000000000 + t.nsec.toNat

/-- Read what is at a path, given as text. What cannot be read is left out. -/
partial def load (path : String) : IO (Option Entry) := do
  try
    let place ← IO.FS.realPath path
    let status ← place.metadata
    match status.type with
    | .file =>
      let content ← IO.FS.readBinFile place
      return some (.file content.toList (nanoseconds status.modified))
    | .dir =>
      let mut entries := #[]
      for found in ← place.readDir do
        let below := found.path
        let kind ← below.symlinkMetadata
        if kind.type == .symlink then
          let target ← try pure (← IO.FS.realPath below).toString catch _ => pure ""
          entries := entries.push (found.fileName, Entry.link target)
        else if let some e ← load below.toString then
          entries := entries.push (found.fileName, e)
      return some (.directory entries.toList)
    | _ => return none
  catch _ => return none

/-- The root that arguments name, if they are a request for one. -/
def rootOf (arguments : List String) : Option String :=
  match CommandLine.readRequest (fun _ => .ok false) arguments with
  | .ok (.scan root _ _ _ _ _ _) => some root
  | .ok (.build root _ _ _) => some root
  | _ => none

/-- The file system as far as the arguments ask for it, seen from a directory. -/
def filesFor (directory : Path) (arguments : List String) : IO FileSystem := do
  let start := FileSystem.empty.put directory.parts (.directory [])
  match rootOf arguments with
  | none => return start
  | some root =>
    let path := directory.join (Path.ofString root)
    match ← load path.toString with
    | none => return start
    | some entry =>
      let real := (← IO.FS.realPath path.toString).toString
      let given := Path.ofString (normalText path.toString)
      let files := start.put (Path.ofString real).parts entry
      return if given.toString = real then files else files.put given.parts (.link real)

/-- The variables that settings are taken from. -/
def environment : IO Environment := do
  let mut env := #[]
  for name in settingVariables do
    if let some value ← IO.getEnv name then env := env.push (name, value)
  return env.toList

/-- Milliseconds in seconds, with two digits after the point. -/
def secondsText (milliseconds : Nat) : String :=
  toString (milliseconds / 1000) ++ "." ++
    Number.padded 2 (toString (milliseconds % 1000 / 10))

end DocGraph.Program

open DocGraph in
/-- Answer the arguments. -/
def main (arguments : List String) : IO UInt32 := do
  let start ← IO.monoMsNow
  let directory := Path.ofString (← IO.currentDir).toString
  let files ← Program.filesFor directory arguments
  let context : CommandContext :=
    { site := { files }
      directory
      env := ← Program.environment
      seed := ← IO.monoNanosNow
      elapsed := Program.secondsText ((← IO.monoMsNow) - start) }
  match CommandLine.run context arguments with
  | .ok reply =>
    IO.print reply.written
    IO.eprint reply.complaint
    return reply.code.toUInt32
  | .error failure =>
    IO.eprintln ("Error: " ++ failure.message)
    return 1
