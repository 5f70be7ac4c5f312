/-
Valid settings. What is accepted is named field by field; normal settings that are accepted stay as they
are when normalized again, their backend has a name that requests know, and their sizes of pages leave a
page of at least one result.
-/
import Mathlib.Data.List.DropRight
import TenantSearch.Proofs.Results
import TenantSearch.Compile.Build
import TenantSearch.Config.Settings

namespace TenantSearch

namespace Settings

/-- What the check of settings asks for. -/
structure Valid (s : Settings) : Prop where
  url : isBlankText s.cluster.url = false
  index : isBlankText s.cluster.index = false
  backend : s.cluster.backend = "elasticsearch" ∨ s.cluster.backend = "opensearch"
  clusterTimeout : s.cluster.timeoutMs ≠ 0
  dimensions : s.embedding.dimensions ≠ 0
  embeddingKey : isBlankText s.embedding.apiKey = false
  neighbours : s.search.hybrid.k ≠ 0
  candidates : s.search.hybrid.k ≤ s.search.hybrid.numCandidates
  boost : s.search.hybrid.boost.isFiniteNonneg = true
  pageSize : s.paging.defaultPageSize ≠ 0
  maxPageSize : s.paging.defaultPageSize ≤ s.paging.maxPageSize
  tieBreaker : isBlankText s.paging.tieBreakerField = false

variable {s : Settings}

theorem validate_eq_ok : s.validate = .ok () ↔ s.Valid := by
  unfold validate
  simp only [ite_error_eq_ok, not_and_or, not_not, Bool.not_eq_true, Bool.not_eq_false',
    UInt32.not_lt, and_true]
  constructor
  · rintro ⟨url, index, backend, clusterTimeout, dimensions, embeddingKey, neighbours, candidates, boost,
      pageSize, maxPageSize, tieBreaker⟩
    exact ⟨url, index, backend, clusterTimeout, dimensions, embeddingKey, neighbours, candidates, boost,
      pageSize, maxPageSize, tieBreaker⟩
  · rintro ⟨url, index, backend, clusterTimeout, dimensions, embeddingKey, neighbours, candidates, boost,
      pageSize, maxPageSize, tieBreaker⟩
    exact ⟨url, index, backend, clusterTimeout, dimensions, embeddingKey, neighbours, candidates, boost,
      pageSize, maxPageSize, tieBreaker⟩

/-! ## Normal settings -/

theorem trimSlashes_trimSlashes (url : String) : trimSlashes (trimSlashes url) = trimSlashes url := by
  unfold trimSlashes
  rw [String.toList_ofList, List.reverse_reverse, List.dropWhile_idempotent]

/-- Valid settings have the name of their backend as it is written. -/
theorem Valid.backend_normal (h : s.Valid) :
    Text.lowerAscii (Text.trim s.cluster.backend) = s.cluster.backend := by
  rcases h.backend with hb | hb <;> rw [hb] <;> decide

theorem Valid.exists_backend (h : s.Valid) : ∃ b, VectorBackend.ofName s.cluster.backend = .ok b := by
  rcases h.backend with hb | hb <;> rw [hb]
  · exact ⟨.elasticsearch, by decide⟩
  · exact ⟨.opensearch, by decide⟩

theorem normalize_normalize (h : s.normalize.Valid) : s.normalize.normalize = s.normalize := by
  have hkey : (s.normalize.cluster.apiKey.filter fun key => !isBlankText key) =
      s.normalize.cluster.apiKey := by
    unfold normalize
    dsimp only
    cases hk : s.cluster.apiKey with
    | none => rfl
    | some key => cases hblank : isBlankText key <;> simp [Option.filter, hblank]
  have hurl : trimSlashes s.normalize.cluster.url = s.normalize.cluster.url :=
    trimSlashes_trimSlashes s.cluster.url
  show ({ s.normalize with cluster := { s.normalize.cluster with
    apiKey := s.normalize.cluster.apiKey.filter fun key => !isBlankText key
    url := trimSlashes s.normalize.cluster.url
    backend := Text.lowerAscii (Text.trim s.normalize.cluster.backend) } } : Settings) = s.normalize
  rw [hkey, hurl, h.backend_normal]

end Settings

/-! ## Sizes of pages -/

theorem one_le_iff_ne_zero {n : UInt32} : 1 ≤ n ↔ n ≠ 0 := by
  rw [UInt32.le_iff_toNat_le, ne_eq, ← UInt32.toNat_inj]
  exact Nat.one_le_iff_ne_zero

namespace CompileSettings

variable {s : CompileSettings}

theorem pageSize_le (h : s.maxPageSize ≠ 0) (requested : Option UInt32) :
    s.pageSize requested ≤ s.maxPageSize := by
  unfold pageSize
  dsimp only
  rw [if_neg h]
  split
  · exact one_le_iff_ne_zero.2 h
  · split
    · exact UInt32.le_refl _
    · exact UInt32.not_lt.1 ‹_›

/-- A default size within the bounds is the size of a page. -/
theorem pageSize_none (h : s.defaultPageSize ≠ 0) (hle : s.defaultPageSize ≤ s.maxPageSize) :
    s.pageSize none = s.defaultPageSize := by
  have hmax : s.maxPageSize ≠ 0 := fun hzero => h (UInt32.le_zero_iff.1 (hzero ▸ hle))
  unfold pageSize
  dsimp only
  rw [Option.getD_none, if_neg h, if_neg hmax, if_neg (UInt32.not_lt.2 hle)]

end CompileSettings

end TenantSearch
