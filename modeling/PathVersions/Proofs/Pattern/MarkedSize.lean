import PathVersions.Pattern.Size
import PathVersions.Proofs.Pattern.Sealed

/-!
# The size of an expression between marks

Marks of the start and of the end of a text around an expression add little to the room that its
machines take: they need a state each, and in return nothing has to be passed over before a match.
-/

namespace PathVersions
namespace Pattern

namespace Size

/-- Sizes are counted for a forward and a backward machine, and add up in each. -/
@[simp] theorem add_forward (left right : Size) :
    (left.add right).forward = left.forward + right.forward := rfl

@[simp] theorem add_backward (left right : Size) :
    (left.add right).backward = left.backward + right.backward := rfl

@[simp] theorem both_forward (amount : Nat) : (both amount).forward = amount := rfl

@[simp] theorem both_backward (amount : Nat) : (both amount).backward = amount := rfl

theorem add_assoc (first second third : Size) :
    (first.add second).add third = first.add (second.add third) := by
  simp only [add, Nat.add_assoc]

@[simp] theorem both_zero_add (size : Size) : (both 0).add size = size := by
  simp [add, both]

@[simp] theorem add_both_zero (size : Size) : size.add (both 0) = size := rfl

/-- How much room marks can add or save. -/
def markRoom : Nat := 64

/-- A size that stays on its side of the limit when marks are added. -/
def ClearOfLimit (size : Size) : Prop :=
  (size.forward + markRoom ≤ limit ∧ size.backward + markRoom ≤ limit) ∨
    limit + markRoom < size.forward ∨ limit + markRoom < size.backward

end Size

namespace Shape

/-- The room of the parts that a shape adds to a sequence. -/
def extent (shape : Shape) : Size := size.sizes shape.parts

/-- Joining literals changes no size, since each character counts for itself. -/
theorem sizes_joinPart (part : Shape) (rest : List Shape) :
    size.sizes (joinPart part rest) = part.size.add (size.sizes rest) := by
  unfold joinPart
  split
  · simp only [size.sizes, size]
    rw [← Size.add_assoc]
    congr 1
    simp only [← List.sum_eq_foldr, List.map_append, List.sum_append, Size.add, Size.both,
      Nat.mul_add]
  · rfl

theorem sizes_foldr_joinPart (parts rest : List Shape) :
    size.sizes (parts.foldr joinPart rest) = (size.sizes parts).add (size.sizes rest) := by
  induction parts with
  | nil => simp [size.sizes]
  | cons part parts inductionHypothesis =>
      rw [List.foldr_cons, sizes_joinPart, inductionHypothesis, size.sizes, Size.add_assoc]

/-- A shape takes the room of its parts, and if it has none, that of one state. -/
theorem size_eq_extent (shape : Shape) :
    shape.size = shape.extent ∨ shape.size = shape.extent.add (.both Size.state) := by
  cases shape with
  | empty => exact .inr rfl
  | sequence parts => exact .inl rfl
  | _ => exact .inl rfl

/-- A condition at the end is never joined to what stands before it. -/
theorem exists_foldr_joinPart_look (place : Look) (parts : List Shape) :
    ∃ front, parts.foldr joinPart [.look place] = front ++ [.look place] := by
  induction parts with
  | nil => exact ⟨[], rfl⟩
  | cons part parts inductionHypothesis =>
      obtain ⟨front, same⟩ := inductionHypothesis
      rw [List.foldr_cons, same]
      unfold joinPart
      split
      · rename_i left right others shape
        cases front with
        | nil => simp at shape
        | cons first front =>
            simp only [List.cons_append, List.cons.injEq] at shape
            exact ⟨.text (left ++ right) :: front, by simp [shape.2]⟩
      · exact ⟨_ :: front, rfl⟩

/-- A condition is put behind the parts of a shape. -/
theorem parts_append_look (shape : Shape) (place : Look) :
    (shape.append (.look place)).parts = shape.parts.foldr joinPart [.look place] := by
  obtain ⟨front, same⟩ := exists_foldr_joinPart_look place shape.parts
  change (ofParts (shape.parts.foldr joinPart [.look place])).parts = _
  rw [same]
  cases front with
  | nil => rfl
  | cons first front => cases front <;> rfl

end Shape

namespace Expr

/-- Between marks, the parts of a shape stand in a sequence that begins and ends with a mark. -/
theorem exists_shape_sealed (inner : Expr) :
    ∃ front,
      inner.sealed.shape = .sequence (.look .textStart :: (front ++ [.look .textEnd])) ∧
        Shape.size.sizes (front ++ [.look .textEnd]) =
          inner.shape.extent.add (.both Size.state) := by
  obtain ⟨front, same⟩ := Shape.exists_foldr_joinPart_look .textEnd inner.shape.parts
  refine ⟨front, ?_, ?_⟩
  · have parts := (Shape.parts_append_look inner.shape .textEnd).trans same
    change Shape.ofParts (Shape.joinPart (.look .textStart)
      (inner.shape.append (.look .textEnd)).parts) = _
    rw [parts]
    cases front <;> rfl
  · rw [← same, Shape.sizes_foldr_joinPart]
    rfl

/-- A shape that starts with the mark of the start begins there. -/
theorem beginsAt_of_mark (parts : List Shape) :
    (Shape.sequence (.look .textStart :: parts)).beginsAt .textStart = true := by
  simp [Shape.beginsAt, Shape.beginsAt.inTurn]

/-- A shape that ends with the mark of the end ends there. -/
theorem endsAt_of_mark (parts : List Shape) :
    (Shape.sequence (parts ++ [.look .textEnd])).endsAt .textEnd = true := by
  induction parts with
  | nil => rfl
  | cons part parts inductionHypothesis =>
      rw [Shape.endsAt] at inductionHypothesis ⊢
      rw [List.cons_append, Shape.endsAt.inTurn, inductionHypothesis, Bool.true_or]

/-- Marks change the room of the machines that search for an expression by little. -/
theorem machineSize_sealed (inner : Expr) :
    (inner.sealed.shape.machineSize.forward ≤ inner.shape.machineSize.forward + Size.markRoom ∧
      inner.shape.machineSize.forward ≤ inner.sealed.shape.machineSize.forward + Size.markRoom) ∧
    (inner.sealed.shape.machineSize.backward ≤ inner.shape.machineSize.backward + Size.markRoom ∧
      inner.shape.machineSize.backward ≤ inner.sealed.shape.machineSize.backward + Size.markRoom) := by
  obtain ⟨front, shape, sizes⟩ := inner.exists_shape_sealed
  have search (anchored : Bool) :
      Shape.searchSize anchored = 32 ∨ Shape.searchSize anchored = 112 := by
    cases anchored with
    | false => exact .inr rfl
    | true => exact .inl rfl
  have starts := search (inner.shape.beginsAt .textStart)
  have ends := search (inner.shape.endsAt .textEnd)
  have room : inner.sealed.shape.machineSize =
      ((Size.both Size.state).add (inner.shape.extent.add (.both Size.state))).add ⟨128, 64⟩ := by
    rw [shape, Shape.machineSize, beginsAt_of_mark, ← List.cons_append, endsAt_of_mark, Shape.size,
      List.cons_append, Shape.size.sizes, sizes]
    rfl
  rw [room, Shape.machineSize]
  obtain same | same := inner.shape.size_eq_extent
  · rw [same]
    simp only [Size.add_forward, Size.add_backward, Size.both_forward, Size.both_backward,
      Size.state, Size.markRoom]
    omega
  · rw [same]
    simp only [Size.add_forward, Size.add_backward, Size.both_forward, Size.both_backward,
      Size.state, Size.markRoom]
    omega

/-- Marks do not take a size over the limit, nor back under it, if it is clear of the limit. -/
theorem fits_sealed_iff
    {expression : Expr}
    (clear : expression.shape.machineSize.ClearOfLimit) :
    expression.sealed.fits = true ↔ expression.fits = true := by
  have room := machineSize_sealed expression
  simp only [fits, Size.accepted, Bool.and_eq_true, decide_eq_true_eq]
  unfold Size.ClearOfLimit at clear
  omega

end Expr
end Pattern
end PathVersions
