import DocGraph.Path
import DocGraph.Scan.ErrorLog

/-!
# File systems

A snapshot of a file system: files with their bytes and modification times, directories, and
symbolic links, which may lead anywhere, also nowhere or in a circle. A snapshot holds nothing
else. Pipes, sockets and devices, which a real directory may have as well, cannot be written down,
so nothing is said about a scan that comes to one of them.

There are two ways to follow a path. `locate` does what opening a path does: it goes from
directory to directory, follows links as they come and gives up after forty. Names and paths that
are too long, and those with a null character, are refused. `locateText` does the same with a path
as it is written. `realPath` only puts in the place of a link what it points to: it never fails, and
leaves what it cannot resolve as it is.
-/

set_option autoImplicit false

namespace DocGraph

/-- What a directory may hold under a name. -/
inductive Entry where
  /-- A file: its bytes, and the nanoseconds from the epoch to its last modification. -/
  | file (content : List UInt8) (modified : Int)
  | directory (entries : List (String × Entry))
  /-- A symbolic link to a path. -/
  | link (target : String)

/-- Change the entry under a name, which is added if it is missing. -/
def changeEntry (name : String) (f : Option Entry → Entry) :
    List (String × Entry) → List (String × Entry)
  | [] => [(name, f none)]
  | (k, e) :: more =>
    if k = name then (k, f (some e)) :: more else (k, e) :: changeEntry name f more

/-- What a place holds once an entry is put where another may be. A directory that is made
where there is one leaves that as it is. -/
def Entry.over (new : Entry) : Option Entry → Entry
  | some (.directory entries) =>
    match new with
    | .directory [] => .directory entries
    | new => new
  | _ => new

/-- Put an entry at a path below another, if there is one. Directories on the way are made, and
what stands in the way of one stays as it is. -/
def Entry.put (new : Entry) : List String → Option Entry → Entry
  | [], old => new.over old
  | name :: rest, none => .directory [(name, Entry.put new rest none)]
  | name :: rest, some (.directory entries) =>
    .directory (changeEntry name (Entry.put new rest) entries)
  | _ :: _, some other => other

mutual

/-- The number of links from an entry down. -/
def Entry.links : Entry → Nat
  | .file _ _ => 0
  | .link _ => 1
  | .directory entries => linksOfAll entries

/-- The number of links from several entries down. -/
def linksOfAll : List (String × Entry) → Nat
  | [] => 0
  | (_, e) :: rest => e.links + linksOfAll rest

end

/-- A file system, given by what the top directory holds. -/
structure FileSystem where
  top : List (String × Entry)

/-- How many links are followed on the way to one entry. -/
def linkLimit : Nat := 40

/-- How many bytes a name has at most. -/
def nameLimit : Nat := 255

/-- How many bytes a path has at most. -/
def pathLimit : Nat := 4095

/-- Whether there is a null character in a path. -/
def Path.hasNull (p : Path) : Bool :=
  p.parts.any fun part => part.toList.contains '\x00'

/-- Whether the target of a link starts at the top directory. -/
def isRooted (target : String) : Bool :=
  target.toList.head? = some '/'

namespace FileSystem

/-- The file system without entries. -/
def empty : FileSystem := ⟨[]⟩

/-- Put an entry at a place. -/
def put (fs : FileSystem) (place : List String) (entry : Entry) : FileSystem :=
  match place with
  | [] => fs
  | name :: rest => ⟨changeEntry name (entry.put rest) fs.top⟩

/-- Go on from an entry along the parts of a path. `above` holds the directories over the entry,
nearest first, and `links` says how many links may still be followed. -/
def locateFrom (fs : FileSystem) (followLast : Bool) (links : Nat) (above : List Entry)
    (current : Entry) : List String → Except SystemFault Entry
  | [] => .ok current
  | name :: rest =>
    match current with
    | .directory entries =>
      if name = "" || name = "." then locateFrom fs followLast links above current rest
      else if name = ".." then
        match above with
        | [] => locateFrom fs followLast links [] current rest
        | up :: more => locateFrom fs followLast links more up rest
      else
        match entries.lookup name with
        | none => .error (if nameLimit < name.utf8ByteSize then .nameTooLong else .notFound)
        | some (.link target) =>
          if rest.isEmpty && !followLast then .ok (.link target)
          else
            match links with
            | 0 => .error .tooManyLinks
            | links + 1 =>
              let parts := segments target.toList ++ rest
              if isRooted target then locateFrom fs followLast links [] (.directory fs.top) parts
              else locateFrom fs followLast links above current parts
        | some e => locateFrom fs followLast links (current :: above) e rest
    | _ => .error .notADirectory
termination_by parts => (links, parts.length)

/-- The entry that a path leads to. Relative paths start at the top directory. -/
def locate (fs : FileSystem) (p : Path) : Except SystemFault Entry :=
  if p.hasNull then .error .nullCharacter
  else if pathLimit < p.toString.utf8ByteSize then .error .nameTooLong
  else fs.locateFrom true linkLimit [] (.directory fs.top) p.parts

/-- The entry that a path text leads to, just as it is written: an empty one leads nowhere, and a slash
at the end asks for a directory. -/
def locateText (fs : FileSystem) (text : String) : Except SystemFault Entry :=
  if text.toList.contains '\x00' then .error .nullCharacter
  else if text.isEmpty then .error .notFound
  else if pathLimit < text.utf8ByteSize then .error .nameTooLong
  else fs.locateFrom true linkLimit [] (.directory fs.top) (segments text.toList)

/-- The entry at a place, which is given back even if it is a link. -/
def entryAt (fs : FileSystem) (place : List String) : Except SystemFault Entry :=
  fs.locateFrom false linkLimit [] (.directory fs.top) place

/-- What a fault says about there being something: nothing is there if it is not found, also
because of what is on the way to it. Other faults leave it open. -/
def absent (fault : SystemFault) : Except SystemFault Bool :=
  if fault ∈ [.notFound, .notADirectory, .tooManyLinks, .nullCharacter] then .ok false
  else .error fault

/-- Whether a path leads anywhere. -/
def exists? (fs : FileSystem) (p : Path) : Except SystemFault Bool :=
  match fs.locate p with
  | .ok _ => .ok true
  | .error fault => absent fault

/-- Whether a path leads to a file. -/
def isFile (fs : FileSystem) (p : Path) : Except SystemFault Bool :=
  match fs.locate p with
  | .ok (.file _ _) => .ok true
  | .ok _ => .ok false
  | .error fault => absent fault

/-- The bytes of the file that a path leads to. -/
def read (fs : FileSystem) (p : Path) : Except SystemFault (List UInt8) :=
  match fs.locate p with
  | .ok (.file content _) => .ok content
  | .ok _ => .error .isADirectory
  | .error fault => .error fault

/-- Links whose resolution has begun, each with its result once there is one. -/
abbrev Resolutions := List (List String × Option (List String))

/-- Parts that were not resolved, put behind a place; they start anew if they start with a
slash. -/
def putBehind (place rest : List String) : List String :=
  match rest with
  | "" :: x :: more => x :: more
  | rest => place ++ rest

/-- Resolve the links along the parts of a path from a place that is resolved. Gives the place
reached, whether everything could be resolved, and the links met. A link that is met again
before it is resolved ends the work. `depth` bounds how many links may be open at a time. -/
def resolveFrom (fs : FileSystem) (depth : Nat) (met : Resolutions) (place : List String) :
    List String → List String × Bool × Resolutions
  | [] => (place, true, met)
  | name :: rest =>
    if name = "" || name = "." then resolveFrom fs depth met place rest
    else if name = ".." then resolveFrom fs depth met place.dropLast rest
    else
      let here := place ++ [name]
      match fs.entryAt here with
      | .ok (.link target) =>
        match met.lookup here with
        | some (some resolved) => resolveFrom fs depth met resolved rest
        | some none => (putBehind here rest, false, met)
        | none =>
          match depth with
          | 0 => (putBehind here rest, false, met)
          | depth + 1 =>
            let start := if isRooted target then [] else place
            match resolveFrom fs depth ((here, none) :: met) start (segments target.toList) with
            | (reached, true, met) =>
              resolveFrom fs (depth + 1) ((here, some reached) :: met) reached rest
            | (reached, false, met) => (putBehind reached rest, false, met)
      | _ => resolveFrom fs depth met here rest
termination_by parts => (depth, parts.length)

/-- The number of links. -/
def linkCount (fs : FileSystem) : Nat :=
  linksOfAll fs.top

/-- A path with its links resolved as far as possible. -/
def realPath (fs : FileSystem) (p : Path) : Path :=
  let (reached, _, _) := fs.resolveFrom (fs.linkCount + 1) [] [] p.parts
  ⟨1, (reached.foldl (normalStep true) []).reverse⟩

/-- A path with its links resolved, unless they lead in a circle or it has a null character. -/
def resolve (fs : FileSystem) (p : Path) : Except SystemFault Path :=
  let real := fs.realPath p
  if p.hasNull then .error .nullCharacter
  else
    match fs.locate real with
    | .error .tooManyLinks => .error .tooManyLinks
    | _ => .ok real

end FileSystem

end DocGraph
