import DocGraph.Glob
import DocGraph.Text.Lines

/-!
# Ignore rules

Rules that leave paths out of a scan. A path is ignored if any rule names it. A rule is an
exact path, a bare name, which any part of the path may be, an ending behind a star, a directory
with a slash behind it, a glob, or any other text with a slash, which may occur anywhere in the
path.
-/

set_option autoImplicit false

namespace DocGraph

/-- Ignore rules, in the order in which they are tried. -/
abbrev IgnoreRules := List String

namespace IgnoreRules

/-- Write backslashes as slashes. -/
def forwardSlashes (s : List Char) : List Char :=
  s.map fun c => if c = '\\' then '/' else c

/-- Whether a rule has a character that globs give a meaning to. -/
def hasWildcard (rule : List Char) : Bool :=
  rule.any fun c => c = '*' || c = '?' || c = '['

/-- Whether a rule is a star, a dot and more, and the path ends like the rule after its star. -/
def matchesEnding (rule path : List Char) : Bool :=
  ['*', '.'].isPrefixOf rule && rule.tail.isSuffixOf path

/-- Whether a path is, or lies below, the directory that a rule with a slash at its end names.
A directory without other slashes is named at any depth. -/
def matchesDirectory (rule path : List Char) : Bool :=
  let name := (rule.reverse.dropWhile (· = '/')).reverse
  rule.isPrefixOf path || path = name ||
    (!name.contains '/' && (Text.splitOn '/' path).contains name)

/-- Whether one rule names a path. Both are given with forward slashes. -/
def ruleMatches (rule path : List Char) : Except GlobError Bool :=
  if rule.isEmpty then .ok false
  else if path = rule then .ok true
  else if !rule.contains '/' && !hasWildcard rule then
    .ok ((Text.splitOn '/' path).contains rule)
  else if matchesEnding rule path then .ok true
  else if rule.getLast? = some '/' then .ok (matchesDirectory rule path)
  else if hasWildcard rule then Glob.matches? (String.ofList rule) (String.ofList path)
  else .ok (Text.occursIn rule path)

/-- Whether some rule names a path. Rules are tried in order, so an error counts only if no
rule before it names the path. -/
def anyMatches (path : List Char) : IgnoreRules → Except GlobError Bool
  | [] => .ok false
  | rule :: rest =>
    match ruleMatches (forwardSlashes rule.toList) path with
    | .ok true => .ok true
    | .ok false => anyMatches path rest
    | .error e => .error e

/-- Whether a path, relative to the root of the scan, is ignored. The root itself never is. -/
def ignores (rules : IgnoreRules) (path : String) : Except GlobError Bool :=
  let path := forwardSlashes path.toList
  if path = [] || path = ['.'] then .ok false else rules.anyMatches path

/-- The rules of an ignore file: its lines without blanks around them, but for empty lines,
comments and lines that start with an exclamation mark. -/
def ofFile (content : String) : IgnoreRules :=
  (Text.lines content.toList).filterMap fun line =>
    match Text.trim line with
    | [] => none
    | '#' :: _ => none
    | '!' :: _ => none
    | rule => some (String.ofList rule)

/-- The rules that apply unless a scan is told otherwise. -/
def standard : IgnoreRules :=
  [".git", ".svn", ".hg", ".bzr",
    "node_modules", "vendor", "target", "dist", "build", "out", "bin",
    ".idea", ".vscode", ".vs", "*.swp", "*.swo", "*~",
    ".DS_Store", "Thumbs.db",
    "*.exe", "*.dll", "*.so", "*.dylib", "*.o", "*.a", "*.class", "*.pyc", "__pycache__",
    ".graphfs/store.db", ".graphfs/cache"]

end IgnoreRules

end DocGraph
