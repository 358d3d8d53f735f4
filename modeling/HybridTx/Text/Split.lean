/-! Cutting texts at a separator. -/

namespace HybridTx.Text

/-- Goes on cutting, with `read` the reversed start of the first part. -/
def splitFrom (separator : Char) (read : List Char) : List Char → List (List Char)
  | [] => [read.reverse]
  | c :: rest =>
    if c = separator then read.reverse :: splitFrom separator [] rest
    else splitFrom separator (c :: read) rest

/-- The parts of a text between separators; there is one more part than separators. -/
def splitAt (separator : Char) (text : List Char) : List (List Char) := splitFrom separator [] text

/-- What stands before the first separator, and what stands behind it if there is one. -/
def cutAt (separator : Char) (text : List Char) : List Char × Option (List Char) :=
  let before := text.takeWhile (· ≠ separator)
  match text.drop before.length with
  | _ :: behind => (before, some behind)
  | [] => (before, none)

end HybridTx.Text
