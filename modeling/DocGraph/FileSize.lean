import DocGraph.Number.Extended

/-!
# File sizes

Sizes in the largest unit that leaves at least one before the point, from bytes to gigabytes.
Each step to a larger unit is a division in double precision, so a size of which even the first
step leaves more than a double can hold has no text.
-/

set_option autoImplicit false

namespace DocGraph

/-- A size in the first of several units that leaves less than 1024, or in gigabytes. -/
def sizeIn (size : Rat) : List String → String
  | [] => Number.onePlace size ++ " GB"
  | unit :: rest =>
    if size < 1024 then Number.onePlace size ++ " " ++ unit
    else sizeIn (Number.nearest (size / 1024)) rest

/-- A size in bytes as text; nothing if no double comes near. -/
def sizeText? (bytes : Int) : Option String :=
  if bytes < 1024 then
    (Number.Extended.ofRat bytes).value?.map fun size => toString size.num ++ " B"
  else
    (Number.Extended.ofRat (bytes / 1024)).value?.map fun size => sizeIn size ["KB", "MB"]

end DocGraph
