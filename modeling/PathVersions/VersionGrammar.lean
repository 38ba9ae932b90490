import PathVersions.Path.Versions
import PathVersions.Pattern.Meaning
import PathVersions.Pattern.Reach
import PathVersions.Pattern.Read
import PathVersions.Pattern.Size

/-!
# Version grammars

A version grammar says which segments of a path are versions. It is given by a pattern for a
whole segment. The pattern is put between the marks of the start and of the end of a text
before it is read, so that it is the text as a whole that has to be a good pattern.
-/

namespace PathVersions

/-- Which segments are versions. -/
structure VersionGrammar where
  /-- The pattern as it was given. -/
  pattern : String
  /-- What the pattern asks of a segment. -/
  expression : Pattern.Expr
deriving DecidableEq, Repr

/-- A pattern that is refused, and why. -/
structure BadPattern where
  pattern : String
  fault : Pattern.Fault
deriving DecidableEq, Repr

namespace VersionGrammar

/-- The pattern of a version unless another one is given: a small `v`, a number without a
leading zero, and small letters and digits. -/
def defaultPattern : String := "v[1-9][0-9]*[a-z0-9]*"

/-- A pattern between the marks of the start and of the end of a text. -/
def anchored (pattern : List Char) : List Char :=
  "^(?:".toList ++ pattern ++ ")$".toList

/-- The expression of a tree, if it is small enough. -/
def expressionOf (tree : Pattern.Tree) : Except Pattern.Fault Pattern.Expr := do
  let (expression, _) ← tree.expression Pattern.Modes.start
  if expression.fits then return expression else .error .tooLarge

/-- The expression of a pattern as it stands. -/
def compile (pattern : List Char) : Except Pattern.Fault Pattern.Expr := do
  let tree ← Pattern.Tree.read pattern
  expressionOf tree

/-- The grammar of a pattern. -/
def ofPattern (pattern : String) : Except BadPattern VersionGrammar :=
  match compile (anchored pattern.toList) with
  | .ok expression => .ok ⟨pattern, expression⟩
  | .error fault => .error ⟨pattern, fault⟩

/-- The grammar of the default pattern. -/
def default : VersionGrammar where
  pattern := defaultPattern
  expression :=
    .seq (.look .textStart)
      (.seq
        (.seq (.chars (.single 'v'))
          (.seq (.chars (.range '1' '9'))
            (.seq (.repetition (.chars (.range '0' '9')) 0 none true)
              (.repetition (.chars (.union (.range 'a' 'z') (.union (.range '0' '9') .none))) 0
                none true))))
        (.look .textEnd))

/-- Whether a segment is a version. The empty segment never is. -/
def isVersion (grammar : VersionGrammar) (segment : List Char) : Bool :=
  !segment.isEmpty && grammar.expression.foundIn segment

/-- A path without the versions at its end. -/
def stripVersions (grammar : VersionGrammar) (path : String) : String :=
  String.ofList (Path.stripVersions grammar.isVersion path.toList)

/-- Whether a path ends in a version. -/
def endsInVersion (grammar : VersionGrammar) (path : String) : Bool :=
  Path.endsInVersion grammar.isVersion path.toList

/-- A path up to its first version. -/
def cutAtVersion (grammar : VersionGrammar) (path : String) : String :=
  String.ofList (Path.cutAtVersion grammar.isVersion path.toList)

end VersionGrammar

end PathVersions
