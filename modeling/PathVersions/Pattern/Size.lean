import PathVersions.Pattern.Shape
import PathVersions.Utf8.Sequence

/-!
# The size of an expression

A pattern is refused if a machine that searches for it would take too much room. The room is
that of two machines which read a text byte by byte, one from its start and one from its end.
-/

namespace PathVersions
namespace Pattern

/-- The room of two machines in bytes: one that reads forwards and one that reads backwards. -/
structure Size where
  forward : Nat
  backward : Nat
deriving DecidableEq, Repr

namespace Size

/-- The same room in both machines. -/
def both (amount : Nat) : Size := ⟨amount, amount⟩

/-- The room of two parts together. -/
def add (left right : Size) : Size :=
  ⟨left.forward + right.forward, left.backward + right.backward⟩

/-- The room of a number of copies. -/
def copies (count : Nat) (size : Size) : Size :=
  ⟨count * size.forward, count * size.backward⟩

/-- The greatest room that is accepted. -/
def limit : Nat := 10 * 1024 * 1024

/-- Whether both machines are small enough. -/
def accepted (size : Size) : Bool :=
  size.forward ≤ limit && size.backward ≤ limit

/-- The room of one state. -/
def state : Nat := 32

/-- The room of a state that goes on in one of some ways. -/
def fork (ways : Nat) : Nat := state + 4 * ways

/-- The room of a state that goes on by one of some ranges of bytes. -/
def ranges (count : Nat) : Nat := state + 8 * count

end Size

/-! ## Classes -/

/-- What can follow a first byte range in some sequences, for each first byte range; equal
ranges stand together. -/
def groupByFirst : List Utf8.Sequence -> List (Unicode.CodeRange × List Utf8.Sequence)
  | [] => []
  | [] :: rest => groupByFirst rest
  | (first :: tail) :: rest =>
      match groupByFirst rest with
      | [] => [(first, [tail])]
      | (next, tails) :: others =>
          if first == next then (next, tail :: tails) :: others
          else (first, [tail]) :: (next, tails) :: others

/-- A node of a trie, given by the sequences that lead on from it, and the nodes below it. -/
def trieNodes : Nat -> List Utf8.Sequence -> List (List Utf8.Sequence)
  | 0, _ => []
  | levels + 1, node =>
      if node.all List.isEmpty then []
      else node :: (groupByFirst node).flatMap fun (_, tails) => trieNodes levels tails

/-- The room of a trie whose equal nodes are shared. Each node has a transition for each of the
byte ranges that it can start with. -/
def trieSize (sequences : List Utf8.Sequence) : Nat :=
  let nodes := (trieNodes 4 sequences).eraseDups
  (nodes.map fun node => Size.ranges (groupByFirst node).length).foldr (· + ·) 0

/-- The starts of a sequence that are not empty. -/
def startsOf (sequence : Utf8.Sequence) : List Utf8.Sequence :=
  (List.range sequence.length).map fun count => sequence.take (count + 1)

/-- The room of a class with the given spans. A class of ASCII characters is one state with all
its ranges. -/
def classSize (spans : List Unicode.CodeRange) : Size :=
  let sequences := spans.flatMap Utf8.sequences
  if sequences.all fun sequence => sequence.length == 1 then
    .both (Size.state + Size.ranges sequences.length)
  else
    ⟨Size.state + trieSize sequences,
     Size.state + Size.fork sequences.length +
       Size.state * (sequences.flatMap startsOf).eraseDups.length⟩

/-! ## Choices between texts -/

/-- The bytes of a text in the order in which a machine reads them. -/
abbrev Word : Type := List UInt8

/-- Words in runs, which are divided by the words without bytes. -/
def runs : List Word -> List (List Word)
  | [] => [[]]
  | [] :: rest => [] :: runs rest
  | word :: rest =>
      match runs rest with
      | [] => [[word]]
      | run :: others => (word :: run) :: others

/-- The first bytes of words. -/
def firstBytes (words : List Word) : List UInt8 := (words.filterMap List.head?).eraseDups

/-- What words leave after a first byte. -/
def after (byte : UInt8) (words : List Word) : List Word :=
  words.filterMap fun word =>
    match word with
    | [] => none
    | first :: rest => if first == byte then some rest else none

/-- The room of a node from which some words lead on, and of the nodes below it. A word that ends
at the node comes before those that are tried after it, so it divides them; if it ends there
again before any other word goes on, nothing is added. -/
def wordsSize : Nat -> List Word -> Nat
  | 0, _ => 0
  | length + 1, words =>
      if words.all List.isEmpty then 0
      else
        let all := runs (words.dropWhile List.isEmpty)
        let ends := all.length - 1 + (if words.head?.any List.isEmpty then 1 else 0)
        let leading := all.filter fun run => !run.isEmpty
        Size.fork (leading.length + ends) + (leading.map (runSize length)).foldr (· + ·) 0
where
  /-- The room of the state for one run, and of the nodes that it leads to. -/
  runSize (length : Nat) (run : List Word) : Nat :=
    let bytes := firstBytes run
    (if bytes.length == 1 then Size.state else Size.ranges bytes.length) +
      (bytes.map fun byte => wordsSize length (after byte run)).foldr (· + ·) 0

/-- The room of a choice between words. -/
def choiceSize (words : List Word) : Nat :=
  Size.state + wordsSize ((words.map List.length).foldl max 0 + 1) words

/-! ## Shapes -/

namespace Shape

/-- The room of a repetition, given that of one copy. -/
def repetitionSize (takesText : Bool) (least : Nat) (most : Option Nat) (copy : Size) : Size :=
  match most with
  | none =>
      let again :=
        if least == 0 && !takesText then 2 * Size.fork 2 + Size.state else Size.fork 2
      (copy.copies (max least 1)).add (.both again)
  | some most =>
      if least == 0 && most == 1 then copy.add (.both (Size.fork 2 + Size.state))
      else
        let first := if least == 0 then .both Size.state else copy.copies least
        if least == most then first
        else
          let further := (copy.add (.both (Size.fork 2))).copies (most - least)
          (first.add further).add (.both Size.state)

/-- The bytes of a text. -/
def word? : Shape -> Option Word
  | .text characters => some (characters.flatMap String.utf8EncodeChar)
  | _ => none

/-- The room of a shape. -/
def size : Shape -> Size
  | .empty => .both Size.state
  | .text characters => .both (Size.state * (characters.map Char.utf8Size).foldr (· + ·) 0)
  | .set spans => classSize spans
  | .look _ => .both Size.state
  | .repetition inner least most _ => repetitionSize inner.takesText least most inner.size
  | .capture inner => inner.size.add ⟨2 * Size.state, 0⟩
  | .sequence parts => sizes parts
  | .choice branches =>
      match branches.mapM word? with
      | some words => ⟨choiceSize words, choiceSize (words.map List.reverse)⟩
      | none => (sizes branches).add (.both (Size.fork branches.length + Size.state))
where
  /-- The room of some shapes together. -/
  sizes : List Shape -> Size
    | [] => .both 0
    | shape :: rest => shape.size.add (sizes rest)

/-- The room of what passes over the text before a match, unless every match has to be at the end
of the text at which the machine starts. -/
def searchSize (anchored : Bool) : Nat :=
  if anchored then Size.state else Size.fork 2 + Size.state + Size.ranges 1

/-- The room of the machines that search for a shape. The one that reads forwards also captures
the whole match. -/
def machineSize (shape : Shape) : Size :=
  shape.size.add
    ⟨3 * Size.state + searchSize (shape.beginsAt .textStart),
     Size.state + searchSize (shape.endsAt .textEnd)⟩

end Shape

namespace Expr

/-- Whether an expression is small enough. -/
def fits (expression : Expr) : Bool :=
  expression.shape.machineSize.accepted

end Expr

end Pattern
end PathVersions
