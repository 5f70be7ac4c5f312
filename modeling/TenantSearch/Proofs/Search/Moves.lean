/-
Chains of steps on a relation. Whatever pages and positions a chain asks for one after another, it
leaves the document, its order and the vector part alone, so a relation that can be paged still can,
and the vector part may as well be attached when the chain has ended.
-/
import TenantSearch.Proofs.Search.Pages

namespace TenantSearch

open Index MemoryIndex

namespace Relation

/-- A step that turns to another page. -/
inductive Move where
  | first (size : UInt32)
  | last (size : UInt32)
  | after (c : Cursor)
  | before (c : Cursor)

def move (r : Relation) : Move → Relation
  | .first size => r.first size
  | .last size => r.last size
  | .after c => r.after c
  | .before c => r.before c

/-- A chain of steps. -/
def follow (r : Relation) (moves : List Move) : Relation := moves.foldl move r

variable {r : Relation} {k : KeyOrder}

/-- A step sets the page or the position. -/
theorem move_eq (r : Relation) (a : Move) : ∃ page position,
    r.move a = { r with page := page, position := position } := by
  cases a with
  | first size => exact ⟨.first size, r.position, rfl⟩
  | last size => exact ⟨.last size, r.position, rfl⟩
  | after c => exact ⟨r.page, some (.forward, c), rfl⟩
  | before c => exact ⟨r.page, some (.backward, c), rfl⟩

/-- A chain sets nothing but the page and the position. -/
theorem follow_eq (moves : List Move) : ∀ r : Relation, ∃ page position,
    r.follow moves = { r with page := page, position := position } := by
  induction moves with
  | nil => exact fun r => ⟨r.page, r.position, rfl⟩
  | cons a moves ih =>
    intro r
    obtain ⟨page, position, hmove⟩ := r.move_eq a
    obtain ⟨page', position', hfollow⟩ := ih (r.move a)
    refine ⟨page', position', ?_⟩
    show (r.move a).follow moves = _
    rw [hfollow, hmove]

theorem follow_vector (r : Relation) (moves : List Move) : (r.follow moves).vector = r.vector := by
  obtain ⟨page, position, h⟩ := follow_eq moves r
  rw [h]

/-- A chain takes the same course whatever vector part there is. -/
theorem follow_setVector (v : Option VectorQuery) (moves : List Move) : ∀ r : Relation,
    ({ r with vector := v } : Relation).follow moves = { r.follow moves with vector := v } := by
  induction moves with
  | nil => exact fun _ => rfl
  | cons a moves ih =>
    intro r
    cases a with
    | first size => exact ih (r.first size)
    | last size => exact ih (r.last size)
    | after c => exact ih (r.after c)
    | before c => exact ih (r.before c)

theorem Browses.follow (h : r.Browses k) (moves : List Move) : (r.follow moves).Browses k := by
  obtain ⟨page, position, hfollow⟩ := follow_eq moves r
  rw [hfollow]
  exact ⟨h.plain, h.follows, h.loader⟩

end Relation

end TenantSearch
