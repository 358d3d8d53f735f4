/-! Paths as texts: joining, the parent, and the home directory. A path keeps its spelling, and only
its end and its first name are looked at. -/

namespace HybridTx

/-- A file path, as it was written. -/
abbrev Path := String

namespace Path

/-- Cuts the last name and the slash before it. -/
def cutLast (path : List Char) : List Char :=
  ((path.reverse.dropWhile (· ≠ '/')).drop 1).reverse

/-- The last name; empty when the path ends in a slash. -/
def lastName (path : List Char) : List Char := (path.reverse.takeWhile (· ≠ '/')).reverse

theorem length_cutLast_lt {path : List Char} (h : path ≠ []) :
    (cutLast path).length < path.length := by
  have hr : path.reverse ≠ [] := by simpa using h
  have hlen : path.reverse.length = path.length := List.length_reverse
  simp only [cutLast, List.length_reverse, List.length_drop]
  have hle := (List.dropWhile_sublist (l := path.reverse) (· ≠ '/')).length_le
  have hpos : 0 < path.reverse.length := List.length_pos_iff.2 hr
  omega

/-- Drops slashes and lone dots from the end. -/
def trimEnd (path : List Char) : List Char :=
  if _h : path = [] then []
  else if lastName path = [] ∨ lastName path = ['.'] then trimEnd (cutLast path)
  else path
termination_by path.length
decreasing_by exact length_cutLast_lt (by assumption)

/-- Drops slashes and lone dots from the start. -/
def trimStart : List Char → List Char
  | '/' :: rest => trimStart rest
  | '.' :: '/' :: rest => trimStart rest
  | ['.'] => []
  | path => path

/-- Splits off what is no name: the root, or the dot that a path starts with. -/
def splitAnchor : List Char → List Char × List Char
  | '/' :: rest => (['/'], rest)
  | ['.'] => (['.'], [])
  | '.' :: '/' :: rest => (['.'], '/' :: rest)
  | path => ([], path)

/-- The path without its last name. The root and the empty path have no parent. -/
def parent? (path : Path) : Option Path :=
  let (anchor, body) := splitAnchor path.toList
  match trimEnd body, anchor with
  | [], ['.'] => some ""
  | [], _ => none
  | names, anchor => some (String.ofList (anchor ++ trimEnd (cutLast names)))

/-- A path below a directory. One slash stands between them. -/
def join (dir : Path) (name : String) : Path :=
  if dir.toList = [] ∨ dir.toList.getLast? = some '/' then dir ++ name else dir ++ "/" ++ name

/-- The path with the home directory in place of a leading `~`. Only a whole first name counts, so
`~user` is left alone. -/
def expandHome (home : Option Path) (path : Path) : Path :=
  match home, path.toList with
  | some home, ['~'] => join home ""
  | some home, '~' :: '/' :: rest => join home (String.ofList (trimEnd (trimStart rest)))
  | _, _ => path

end Path

end HybridTx
