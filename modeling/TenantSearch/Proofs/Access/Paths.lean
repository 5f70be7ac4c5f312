/-
Which paths of groups reach a query. Paths are sorted, so that a path comes after all those it begins
with, and one pass keeps a path unless a kept one begins it. What is kept stands in increasing order,
none of it begins another, and it still begins every path there was (`Reduces`): nothing that lies in or
below a group is lost. For a role the paths of private groups are kept apart from those of the other
groups, which are left out where a private group lies above them (`Split`).
-/
import TenantSearch.Proofs.Access.Policy

namespace TenantSearch

open Index FullText

/-! ## Sorted lists without repeats -/

section Sorted

variable {α : Type} [DecidableEq α]

theorem Access.mem_dropRepeats {a : α} : ∀ {as : List α}, a ∈ dropRepeats as ↔ a ∈ as
  | [] => Iff.rfl
  | [_] => Iff.rfl
  | x :: y :: rest => by
    rw [dropRepeats]
    split
    · rename_i hxy
      rw [mem_dropRepeats, List.mem_cons (b := x), hxy]
      exact (or_iff_right_of_imp fun h => h ▸ List.mem_cons_self).symm
    · rw [List.mem_cons, mem_dropRepeats, List.mem_cons (b := x)]

theorem dropRepeats_sublist : ∀ as : List α, (dropRepeats as).Sublist as
  | [] => .slnil
  | [a] => List.Sublist.refl _
  | a :: b :: rest => by
    rw [dropRepeats]
    split
    · exact (dropRepeats_sublist (b :: rest)).cons a
    · exact (dropRepeats_sublist (b :: rest)).cons_cons a

/-- In order, equal items stand beside each other, so none is left twice. -/
theorem nodup_dropRepeats {r : α → α → Prop} (hanti : ∀ a b, r a b → r b a → a = b) :
    ∀ {as : List α}, as.Pairwise r → (dropRepeats as).Nodup
  | [], _ => List.nodup_nil
  | [a], _ => List.nodup_singleton a
  | a :: b :: rest, h => by
    obtain ⟨ha, h⟩ := List.pairwise_cons.1 h
    rw [dropRepeats]
    split
    · exact nodup_dropRepeats hanti h
    · rename_i hne
      refine List.nodup_cons.2 ⟨fun hmem => ?_, nodup_dropRepeats hanti h⟩
      rcases List.mem_cons.1 (Access.mem_dropRepeats.1 hmem) with hab | hrest
      · exact hne hab
      · exact hne (hanti a b (ha b List.mem_cons_self) ((List.pairwise_cons.1 h).1 a hrest))

end Sorted

namespace Access

variable {kept seen paths : List Path} {path p : Path} {source : Json}

/-! ## The order of paths -/

/-- Paths are ordered as lists of ids. -/
theorem pathAtMost_iff : ∀ {p q : Path}, pathAtMost p q = true ↔ p ≤ q
  | [], q => by simp [pathAtMost]
  | a :: as, [] => by simp [pathAtMost]
  | a :: as, b :: bs => by
    rw [List.cons_le_cons_iff, ← pathAtMost_iff, pathAtMost, Bool.or_eq_true, Bool.and_eq_true,
      decide_eq_true_iff, beq_iff_eq, UInt64.lt_iff_toNat_lt]

theorem pathAtMost_trans (p q r : Path) (h : pathAtMost p q = true) (h' : pathAtMost q r = true) :
    pathAtMost p r = true :=
  pathAtMost_iff.2 (List.le_trans (pathAtMost_iff.1 h) (pathAtMost_iff.1 h'))

theorem pathAtMost_total (p q : Path) : (pathAtMost p q || pathAtMost q p) = true := by
  rw [Bool.or_eq_true, pathAtMost_iff, pathAtMost_iff]
  exact List.le_total p q

theorem pathAtMost_antisymm (p q : Path) (h : pathAtMost p q = true) (h' : pathAtMost q p = true) : p = q :=
  List.le_antisymm (pathAtMost_iff.1 h) (pathAtMost_iff.1 h')

/-- A path does not begin those that are less. -/
theorem not_prefix_of_lt {p q : Path} (h : p < q) : ¬ q <+: p :=
  fun hp => List.not_lt.2 hp.le h

/-- Sorted and without repeats, paths stand in increasing order. -/
theorem pairwise_lt_sorted (paths : List Path) :
    (dropRepeats (paths.mergeSort pathAtMost)).Pairwise (· < ·) := by
  have hsorted := List.pairwise_mergeSort pathAtMost_trans pathAtMost_total paths
  have hne := List.nodup_iff_pairwise_ne.1 (nodup_dropRepeats pathAtMost_antisymm hsorted)
  refine ((hsorted.sublist (dropRepeats_sublist _)).and hne).imp fun h => ?_
  exact Std.lt_of_le_of_ne (pathAtMost_iff.1 h.1) h.2

/-! ## Reducing paths -/

/-- Paths in increasing order, none of which begins another. -/
structure Antichain (paths : List Path) : Prop where
  increasing : paths.Pairwise (· < ·)
  apart : ∀ p ∈ paths, ∀ q ∈ paths, p <+: q → p = q

/-- Some of a list of paths, which begin all of them and not each other. -/
structure Reduces (kept paths : List Path) : Prop extends Antichain kept where
  subset : ∀ p ∈ kept, p ∈ paths
  covers : ∀ p ∈ paths, ∃ above ∈ kept, above <+: p

theorem covered_iff : kept.any (fun above => above.isPrefixOf path) = true ↔
    ∃ above ∈ kept, above <+: path := by
  simp only [List.any_eq_true, List.isPrefixOf_iff_prefix]

/-- A path that is greater than all kept ones begins none of them. -/
theorem Antichain.append (h : Antichain kept) (hlast : ∀ p ∈ kept, p < path)
    (hopen : ¬ ∃ above ∈ kept, above <+: path) : Antichain (kept ++ [path]) := by
  constructor
  · rw [List.pairwise_append]
    refine ⟨h.increasing, List.pairwise_singleton _ _, fun p hp q hq => ?_⟩
    rw [List.mem_singleton.1 hq]
    exact hlast p hp
  · intro p hp q hq hpq
    rw [List.mem_append, List.mem_singleton] at hp hq
    -- the new path is open to those before it, and too great to begin one of them
    rcases hp with hp | rfl <;> rcases hq with hq | rfl
    · exact h.apart p hp q hq hpq
    · exact absurd ⟨p, hp, hpq⟩ hopen
    · exact absurd hpq (not_prefix_of_lt (hlast q hq))
    · rfl

/-- One step of the pass: a path that is greater than all before it. -/
theorem Reduces.step (h : Reduces kept seen) (hlast : ∀ p ∈ seen, p < path) :
    Reduces (keepUncovered kept path) (seen ++ [path]) := by
  have hcovers : ∀ more : List Path, (∃ above ∈ kept ++ more, above <+: path) →
      ∀ p ∈ seen ++ [path], ∃ above ∈ kept ++ more, above <+: p := by
    intro more hpath p hp
    rcases List.mem_append.1 hp with hp | hp
    · obtain ⟨above, habove, hpre⟩ := h.covers p hp
      exact ⟨above, List.mem_append_left _ habove, hpre⟩
    · rwa [List.mem_singleton.1 hp]
  unfold keepUncovered
  split
  · rename_i hcovered
    have hall := hcovers []
    rw [List.append_nil] at hall
    exact ⟨h.toAntichain, fun p hp => List.mem_append_left _ (h.subset p hp), hall (covered_iff.1 hcovered)⟩
  · rename_i hopen
    refine ⟨h.toAntichain.append (fun p hp => hlast p (h.subset p hp)) (covered_iff.not.1 hopen), ?_, ?_⟩
    · intro p hp
      rw [List.mem_append] at hp ⊢
      exact hp.imp_left (h.subset p)
    · exact hcovers [path] ⟨path, List.mem_append_right _ List.mem_cons_self, List.prefix_rfl⟩

/-- The whole pass, over paths in increasing order. -/
theorem Reduces.run : ∀ {paths seen kept : List Path}, Reduces kept seen →
    (seen ++ paths).Pairwise (· < ·) → Reduces (paths.foldl keepUncovered kept) (seen ++ paths)
  | [], seen, kept, h, _ => by rwa [List.append_nil]
  | path :: paths, seen, kept, h, hsorted => by
    -- what the pass has seen stands in front of what is to come
    have hlast : ∀ p ∈ seen, p < path :=
      fun p hp => (List.pairwise_append.1 hsorted).2.2 p hp path List.mem_cons_self
    rw [List.append_cons] at hsorted ⊢
    exact (h.step hlast).run hsorted

theorem minimalPaths_reduces (paths : List Path) : Reduces (minimalPaths paths) paths := by
  have hnil : Reduces [] [] := ⟨⟨.nil, by simp⟩, by simp, by simp⟩
  have hrun := hnil.run (pairwise_lt_sorted paths)
  have hmem : ∀ p, p ∈ dropRepeats (paths.mergeSort pathAtMost) ↔ p ∈ paths := by
    intro p
    rw [mem_dropRepeats, List.mem_mergeSort]
  -- the sorted list has the same members, and of the paths only the members count
  exact ⟨hrun.toAntichain, fun p hp => (hmem p).1 (hrun.subset p hp),
    fun p hp => hrun.covers p ((hmem p).2 hp)⟩

/-- What is kept are the paths that no other path begins. -/
theorem Reduces.mem_iff (h : Reduces kept paths) :
    p ∈ kept ↔ p ∈ paths ∧ ∀ q ∈ paths, q <+: p → q = p := by
  constructor
  · intro hp
    refine ⟨h.subset p hp, fun q hq hqp => ?_⟩
    obtain ⟨above, habove, hpre⟩ := h.covers q hq
    obtain rfl := h.apart above habove p hp (hpre.trans hqp)
    exact hqp.eq_of_length (le_antisymm hqp.length_le hpre.length_le)
  · rintro ⟨hp, hleast⟩
    obtain ⟨above, habove, hpre⟩ := h.covers p hp
    rwa [← hleast above (h.subset above habove) hpre]

/-- What begins with one of the paths begins with one that is kept. -/
theorem Reduces.below_iff (h : Reduces kept paths) :
    (∃ above ∈ kept, above <+: p) ↔ ∃ above ∈ paths, above <+: p := by
  constructor
  · rintro ⟨above, habove, hp⟩
    exact ⟨above, h.subset above habove, hp⟩
  · rintro ⟨q, hq, hp⟩
    obtain ⟨above, habove, hpre⟩ := h.covers q hq
    exact ⟨above, habove, hpre.trans hp⟩

/-- What lies under a path lies under the paths above it. -/
theorem Under.above {p q : Path} (h : Under source q) (hp : p <+: q) : Under source p := by
  obtain ⟨s, hs, hpre⟩ := h
  exact ⟨s, hs, (traversalPath_prefix_iff.2 hp).trans hpre⟩

/-- The paths that are kept hold the same sources as all of them. -/
theorem Reduces.under_iff (h : Reduces kept paths) : UnderAny source kept ↔ UnderAny source paths := by
  constructor
  · rintro ⟨above, habove, hu⟩
    exact ⟨above, h.subset above habove, hu⟩
  · rintro ⟨q, hq, hu⟩
    obtain ⟨above, habove, hpre⟩ := h.covers q hq
    exact ⟨above, habove, hu.above hpre⟩

/-! ## Private groups and the others -/

/-- A membership that counts for a role: one with at least that role, and with a path. -/
structure Counts (groups : List GroupMembership) (minimum : AccessLevel) (g : GroupMembership) : Prop where
  mem : g ∈ groups
  role : g.accessLevel.atLeast minimum = true
  path : g.traversalIds ≠ []

/-- The paths of private groups and those of the other groups, for the memberships that count. -/
structure Split (groups : List GroupMembership) (minimum : AccessLevel)
    (lists : List Path × List Path) : Prop where
  closed : Antichain lists.1
  free : Antichain lists.2
  /-- No path of the second list begins with one of the first. -/
  outside : ∀ above ∈ lists.1, ∀ p ∈ lists.2, ¬ above <+: p
  ofClosed : ∀ p ∈ lists.1, ∃ g, Counts groups minimum g ∧ g.visibility = .priv ∧ g.traversalIds = p
  ofFree : ∀ p ∈ lists.2, ∃ g, Counts groups minimum g ∧ g.visibility ≠ .priv ∧ g.traversalIds = p
  coversClosed : ∀ g, Counts groups minimum g → g.visibility = .priv →
    ∃ above ∈ lists.1, above <+: g.traversalIds
  coversFree : ∀ g, Counts groups minimum g → g.visibility ≠ .priv →
    (∃ above ∈ lists.2, above <+: g.traversalIds) ∨ ∃ above ∈ lists.1, above <+: g.traversalIds

variable {groups : List GroupMembership} {minimum : AccessLevel}

/-- The paths of the memberships that count and have a property. -/
def countedPaths (groups : List GroupMembership) (minimum : AccessLevel)
    (property : GroupMembership → Bool) : List Path :=
  ((groups.filter fun g => g.accessLevel.atLeast minimum && !g.traversalIds.isEmpty).filter
    property).map (·.traversalIds)

theorem mem_countedPaths {property : GroupMembership → Bool} : p ∈ countedPaths groups minimum property ↔
    ∃ g, Counts groups minimum g ∧ property g = true ∧ g.traversalIds = p := by
  unfold countedPaths
  simp only [List.mem_map, List.mem_filter, Bool.and_eq_true, Bool.not_eq_true',
    List.isEmpty_eq_false_iff]
  constructor
  · rintro ⟨g, ⟨⟨hg, hrole, hpath⟩, hp⟩, rfl⟩
    exact ⟨g, ⟨hg, hrole, hpath⟩, hp, rfl⟩
  · rintro ⟨g, ⟨hg, hrole, hpath⟩, hp, rfl⟩
    exact ⟨g, ⟨⟨hg, hrole, hpath⟩, hp⟩, rfl⟩

theorem closed_reduces (groups : List GroupMembership) (minimum : AccessLevel) :
    Reduces (splitPaths groups minimum).1 (countedPaths groups minimum fun g => g.visibility = .priv) :=
  minimalPaths_reduces _

/-- The paths of groups that are not private and lie outside of the private ones. -/
def outerPaths (groups : List GroupMembership) (minimum : AccessLevel) : List Path :=
  (countedPaths groups minimum fun g => g.visibility ≠ .priv).filter fun path =>
    !(splitPaths groups minimum).1.any fun above => above.isPrefixOf path

theorem free_reduces (groups : List GroupMembership) (minimum : AccessLevel) :
    Reduces (splitPaths groups minimum).2 (outerPaths groups minimum) :=
  minimalPaths_reduces _

theorem mem_outerPaths : p ∈ outerPaths groups minimum ↔
    (∃ g, Counts groups minimum g ∧ g.visibility ≠ .priv ∧ g.traversalIds = p) ∧
      ¬ ∃ above ∈ (splitPaths groups minimum).1, above <+: p := by
  unfold outerPaths
  rw [List.mem_filter, mem_countedPaths, Bool.not_eq_true', ← Bool.not_eq_true, covered_iff]
  simp only [decide_eq_true_eq]

/-- Paths inside of the private groups are left out before the others are reduced. A path that is left
out has a private path above it, and one that is reduced away a free path. -/
theorem splitPaths_split (groups : List GroupMembership) (minimum : AccessLevel) :
    Split groups minimum (splitPaths groups minimum) := by
  have hclosed := closed_reduces groups minimum
  have hfree := free_reduces groups minimum
  constructor
  · exact hclosed.toAntichain
  · exact hfree.toAntichain
  · intro above habove p hp hpre
    exact (mem_outerPaths.1 (hfree.subset p hp)).2 ⟨above, habove, hpre⟩
  · intro p hp
    obtain ⟨g, hg, hpriv, hpath⟩ := mem_countedPaths.1 (hclosed.subset p hp)
    exact ⟨g, hg, of_decide_eq_true hpriv, hpath⟩
  · intro p hp
    exact (mem_outerPaths.1 (hfree.subset p hp)).1
  · intro g hg hpriv
    exact hclosed.covers _ (mem_countedPaths.2 ⟨g, hg, decide_eq_true hpriv, rfl⟩)
  · intro g hg hother
    by_cases habove : ∃ above ∈ (splitPaths groups minimum).1, above <+: g.traversalIds
    · exact .inr habove
    · exact .inl (hfree.covers _ (mem_outerPaths.2 ⟨⟨g, hg, hother, rfl⟩, habove⟩))

/-- Reducing paths loses nothing and keeps nothing needless. Of any list of paths those are kept, in
increasing order, that no other path of the list begins; each path begins with one that is kept, so what
lies below one of the paths lies below one that is kept. The paths of memberships that count for a role
are split into two such lists, of private groups and of other groups outside of them. Every path of a
membership begins with one of its own list or, if its group is not private, with one of the private list. -/
theorem paths_reduced :
    (∀ paths : List Path, Reduces (minimalPaths paths) paths ∧
      (∀ p, p ∈ minimalPaths paths ↔ p ∈ paths ∧ ∀ q ∈ paths, q <+: p → q = p) ∧
      (∀ p : Path, (∃ above ∈ minimalPaths paths, above <+: p) ↔ ∃ above ∈ paths, above <+: p) ∧
      ∀ source, UnderAny source (minimalPaths paths) ↔ UnderAny source paths) ∧
    ∀ groups minimum, Split groups minimum (splitPaths groups minimum) := by
  refine ⟨fun paths => ?_, splitPaths_split⟩
  have h := minimalPaths_reduces paths
  exact ⟨h, fun p => h.mem_iff, fun p => h.below_iff, fun source => h.under_iff⟩

end Access

end TenantSearch
