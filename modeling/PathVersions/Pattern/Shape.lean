import PathVersions.Pattern.Expr
import PathVersions.Unicode.Spans

/-!
# Shapes of expressions

How much room an expression takes is said of a simpler form of it, its shape. In a shape
neighbouring characters stand together as a text, sequences and choices are flat, a choice
between characters or between classes is a class, and what all branches of a choice begin with
stands before it. `Expr.shape` gives the shape of an expression; it is put together by functions
that keep to this form.
-/

namespace PathVersions
namespace Pattern

open Unicode (CodeRange)

/-- A simplified expression. -/
inductive Shape
  | empty
  | text (characters : List Char)
  /-- One character in some ranges, which are in order and apart. -/
  | set (spans : List CodeRange)
  | look (place : Look)
  | repetition (inner : Shape) (least : Nat) (most : Option Nat) (greedy : Bool)
  | capture (inner : Shape)
  | sequence (parts : List Shape)
  | choice (branches : List Shape)

namespace Shape

/-- How many characters a match takes at least, unless some class has no character. -/
def leastLength? : Shape -> Option Nat
  | .empty => some 0
  | .text characters => some characters.length
  | .set spans => if spans.isEmpty then none else some 1
  | .look _ => some 0
  | .repetition inner least _ _ => inner.leastLength?.map (least * ·)
  | .capture inner => inner.leastLength?
  | .sequence parts => total parts
  | .choice [] => none
  | .choice (branch :: rest) => do return least (← branch.leastLength?) (← lengths rest)
where
  /-- The sum of the lengths of some shapes. -/
  total : List Shape -> Option Nat
    | [] => some 0
    | part :: rest => do return (← part.leastLength?) + (← total rest)
  /-- The lengths of some shapes. -/
  lengths : List Shape -> Option (List Nat)
    | [] => some []
    | branch :: rest => do return (← branch.leastLength?) :: (← lengths rest)
  /-- The least of some numbers. -/
  least (first : Nat) (others : List Nat) : Nat := others.foldl min first

/-- Whether a match always takes text. This is not so if some class has no character. -/
def takesText (shape : Shape) : Bool := shape.leastLength?.any fun length => 0 < length

/-- Whether no match takes text. -/
def takesNothing : Shape -> Bool
  | .empty => true
  | .text _ => false
  | .set _ => false
  | .look _ => true
  | .repetition inner _ _ _ => inner.takesNothing
  | .capture inner => inner.takesNothing
  | .sequence parts => allTakeNothing parts
  | .choice branches => allTakeNothing branches
where
  /-- Whether no match of some shapes takes text. -/
  allTakeNothing : List Shape -> Bool
    | [] => true
    | shape :: rest => shape.takesNothing && allTakeNothing rest

/-- Whether every match begins at a place. -/
def beginsAt (place : Look) : Shape -> Bool
  | .empty => false
  | .text _ => false
  | .set _ => false
  | .look other => other == place
  | .repetition inner least _ _ => 1 ≤ least && inner.beginsAt place
  | .capture inner => inner.beginsAt place
  | .sequence parts => inTurn parts
  | .choice branches => all branches
where
  /-- Whether a sequence begins at the place. -/
  inTurn : List Shape -> Bool
    | [] => false
    | part :: rest => part.beginsAt place || (part.takesNothing && inTurn rest)
  /-- Whether all branches begin at the place. -/
  all : List Shape -> Bool
    | [] => true
    | branch :: rest => branch.beginsAt place && all rest

/-- Whether every match ends at a place. -/
def endsAt (place : Look) : Shape -> Bool
  | .empty => false
  | .text _ => false
  | .set _ => false
  | .look other => other == place
  | .repetition inner least _ _ => 1 ≤ least && inner.endsAt place
  | .capture inner => inner.endsAt place
  | .sequence parts => inTurn parts
  | .choice branches => all branches
where
  /-- Whether a sequence ends at the place. -/
  inTurn : List Shape -> Bool
    | [] => false
    | part :: rest => inTurn rest || (rest.all takesNothing && part.endsAt place)
  /-- Whether all branches end at the place. -/
  all : List Shape -> Bool
    | [] => true
    | branch :: rest => branch.endsAt place && all rest

/-- Whether two shapes are the same. Captures never are, since each keeps its own part of the
text. -/
def isSame : Shape -> Shape -> Bool
  | .empty, .empty => true
  | .text left, .text right => left == right
  | .set left, .set right => left == right
  | .look left, .look right => left == right
  | .repetition left least most greedy, .repetition right least' most' greedy' =>
      left.isSame right && least == least' && most == most' && greedy == greedy'
  | .sequence left, .sequence right => areSame left right
  | .choice left, .choice right => areSame left right
  | _, _ => false
where
  /-- Whether two lists hold the same shapes. -/
  areSame : List Shape -> List Shape -> Bool
    | [], [] => true
    | left :: lefts, right :: rights => left.isSame right && areSame lefts rights
    | _, _ => false

/-! ## Putting shapes together -/

/-- The shape of a class. -/
def ofSpans (spans : List CodeRange) : Shape :=
  match spans with
  | [⟨first, last⟩] => if first == last then .text [Char.ofNat first] else .set spans
  | _ => .set spans

/-- The parts that a shape adds to a sequence. -/
def parts : Shape -> List Shape
  | .empty => []
  | .sequence parts => parts
  | shape => [shape]

/-- A part before other parts, where neighbouring texts are joined. -/
def joinPart (part : Shape) (rest : List Shape) : List Shape :=
  match part, rest with
  | .text left, .text right :: others => .text (left ++ right) :: others
  | part, rest => part :: rest

/-- The shape of parts in a sequence. -/
def ofParts : List Shape -> Shape
  | [] => .empty
  | [part] => part
  | parts => .sequence parts

/-- A shape and another one after it. -/
def append (first second : Shape) : Shape := ofParts (first.parts.foldr joinPart second.parts)

/-- The branches that a shape adds to a choice. -/
def branches : Shape -> List Shape
  | .choice branches => branches
  | shape => [shape]

/-- The span of a single character. -/
def character? : Shape -> Option CodeRange
  | .text [c] => some ⟨c.toNat, c.toNat⟩
  | _ => none

/-- The spans of a class. -/
def spans? : Shape -> Option (List CodeRange)
  | .set spans => some spans
  | _ => none

/-- The parts of a sequence. -/
def parts? : Shape -> Option (List Shape)
  | .sequence parts => some parts
  | _ => none

/-- A choice between some branches. It is a class if all of them are characters or all of them
are classes. -/
def ofBranches (shapes : List Shape) : Shape :=
  match shapes.flatMap branches with
  | [] => .set []
  | [branch] => branch
  | branches =>
      match (branches.mapM character?).or ((branches.mapM spans?).map List.flatten) with
      | some spans => ofSpans (CodeRange.tidy spans)
      | none => .choice branches

/-- How many shapes two lists have in common at their starts. -/
def sharedLength : List Shape -> List Shape -> Nat
  | left :: lefts, right :: rights =>
      if left.isSame right then sharedLength lefts rights + 1 else 0
  | _, _ => 0

/-- A choice after what its branches, which are sequences, have in common at their starts. -/
def lifted (first : List Shape) (others : List (List Shape)) : Shape :=
  let count := (others.map (sharedLength first)).foldl min first.length
  let rests := (first :: others).map fun parts => ofParts (parts.drop count)
  (first.take count).foldr append (ofBranches rests)

/-- A choice between some branches in its simplest form. -/
def ofChoices (shapes : List Shape) : Shape :=
  match ofBranches shapes with
  | .choice branches =>
      match branches.mapM parts? with
      | some (first :: others) => lifted first others
      | _ => .choice branches
  | shape => shape

/-- A repetition in its simplest form. To repeat what takes no text changes nothing. -/
def repeated (inner : Shape) (least : Nat) (most : Option Nat) (greedy : Bool) : Shape :=
  let (least, most) :=
    if inner.takesNothing then (min least 1, some (min (most.getD 1) 1)) else (least, most)
  if most == some 0 then .empty
  else if least == 1 && most == some 1 then inner
  else .repetition inner least most greedy

end Shape

namespace Expr

mutual

/-- The shape of an expression. -/
def shape : Expr -> Shape
  | .empty => .empty
  | .chars characters => .ofSpans characters.spans
  | .look place => .look place
  | .seq first second => first.shape.append second.shape
  | .alt left right => .ofChoices (left.shape :: right.branchShapes)
  | .repetition inner least most greedy => inner.shape.repeated least most greedy
  | .capture inner => .capture inner.shape

/-- The shapes of the branches of alternatives. -/
def branchShapes : Expr -> List Shape
  | .alt left right => left.shape :: right.branchShapes
  | _ => []

end

end Expr

end Pattern
end PathVersions
