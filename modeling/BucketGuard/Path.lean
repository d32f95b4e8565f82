namespace BucketGuard

/-! Places in a document or a configuration: a root and the steps down from it. -/

inductive Step where
  | field (name : String)
  | item (index : Nat)
  deriving DecidableEq, Repr

structure Path where
  root : String
  steps : List Step
  deriving DecidableEq, Repr

def Step.text : Step → String
  | .field name => "." ++ name
  | .item index => s!"[{index}]"

namespace Path

def ofRoot (root : String) : Path := { root, steps := [] }

def field (path : Path) (name : String) : Path :=
  { path with steps := path.steps ++ [.field name] }

def item (path : Path) (index : Nat) : Path :=
  { path with steps := path.steps ++ [.item index] }

def text (path : Path) : String :=
  path.root ++ String.join (path.steps.map Step.text)

/-- The lower-case letters and underscores at the start of a path's text, or all of a text that
starts with none: the field that the path begins with. -/
def rootLabel (text : String) : String :=
  match text.toList.takeWhile fun character => character.isLower || character = '_' with
  | [] => text
  | letters => String.ofList letters

end Path

end BucketGuard
