/-
Results that may be faults: what must have held when a sequence of steps succeeds.
-/
import Mathlib.Tactic

namespace TenantSearch

variable {ε ε' α β : Type}

theorem ok_bind (x : α) (f : α → Except ε β) : (Except.ok x >>= f) = f x := rfl

theorem bind_eq_error {x : Except ε α} {f : α → Except ε β} {e : ε} (h : x = .error e) :
    (x >>= f) = .error e := by
  rw [h]
  rfl

theorem bind_eq_ok {x : Except ε α} {f : α → Except ε β} {b : β} :
    (x >>= f) = .ok b ↔ ∃ a, x = .ok a ∧ f a = .ok b := by
  cases x with
  | error e =>
    constructor
    · intro h
      cases h
    · rintro ⟨a, h, -⟩
      cases h
  | ok a =>
    constructor
    · intro h
      exact ⟨a, rfl, h⟩
    · rintro ⟨a', h, hf⟩
      cases h
      exact hf

/-- A value that is looked up under a condition only is some value where the rest comes through. -/
theorem exists_of_ite_bind {c : Prop} [Decidable c] {x : Except ε α} {a : α} {f : α → Except ε β} {b : β}
    (h : (if c then x >>= f else Except.ok a >>= f) = .ok b) : ∃ a', f a' = .ok b := by
  split at h
  · obtain ⟨a', -, h⟩ := bind_eq_ok.1 h
    exact ⟨a', h⟩
  · exact ⟨a, h⟩

/-- The rest comes through where it does for every value, and the value is found if it is looked up. -/
theorem exists_ok_of_ite_bind {c : Prop} [Decidable c] {x : Except ε α} {a : α} {f : α → Except ε β}
    (hx : c → ∃ a', x = .ok a') (hf : ∀ a', ∃ b, f a' = .ok b) :
    ∃ b, (if c then x >>= f else Except.ok a >>= f) = .ok b := by
  split
  · rename_i hc
    obtain ⟨a', rfl⟩ := hx hc
    exact hf a'
  · exact hf a

/-- A check comes through when nothing is wrong and the checks after it come through. -/
theorem ite_error_eq_ok {c : Prop} [Decidable c] {e : ε} {x : Except ε α} {a : α} :
    (if c then .error e else x) = .ok a ↔ ¬ c ∧ x = .ok a := by
  split <;> simp [*]

theorem mapError_eq_ok {x : Except ε α} {f : ε → ε'} {a : α} : x.mapError f = .ok a ↔ x = .ok a := by
  cases x <;> simp [Except.mapError]

theorem map_eq_ok {x : Except ε α} {f : α → β} {b : β} : x.map f = .ok b ↔ ∃ a, x = .ok a ∧ f a = b := by
  cases x <;> simp [Except.map]

theorem exists_of_mem_mapM {f : α → Except ε β} {b : β} :
    ∀ {as : List α} {bs : List β}, as.mapM f = .ok bs → b ∈ bs → ∃ a ∈ as, f a = .ok b
  | [], bs, h, hb => by
    rw [List.mapM_nil] at h
    cases h; cases hb
  | a :: as, bs, h, hb => by
    rw [List.mapM_cons] at h
    obtain ⟨b', hf, h⟩ := bind_eq_ok.1 h
    obtain ⟨bs', hbs, h⟩ := bind_eq_ok.1 h
    cases h
    rcases List.mem_cons.1 hb with rfl | hb
    · exact ⟨a, List.mem_cons_self, hf⟩
    · obtain ⟨a', ha, hf⟩ := exists_of_mem_mapM hbs hb
      exact ⟨a', List.mem_cons_of_mem _ ha, hf⟩

theorem exists_of_mapM_eq_ok {f : α → Except ε β} {a : α} :
    ∀ {as : List α} {bs : List β}, as.mapM f = .ok bs → a ∈ as → ∃ b ∈ bs, f a = .ok b
  | [], _, _, ha => by cases ha
  | a' :: as, bs, h, ha => by
    rw [List.mapM_cons] at h
    obtain ⟨b, hf, h⟩ := bind_eq_ok.1 h
    obtain ⟨bs', hbs, h⟩ := bind_eq_ok.1 h
    cases h
    rcases List.mem_cons.1 ha with rfl | ha
    · exact ⟨b, List.mem_cons_self, hf⟩
    · obtain ⟨b', hb, hf⟩ := exists_of_mapM_eq_ok hbs ha
      exact ⟨b', List.mem_cons_of_mem _ hb, hf⟩

/-- A step for each of some values comes through for all of them, or fails as it does for one. -/
theorem mapM_cases {f : α → Except ε β} : ∀ as : List α,
    ((∀ a ∈ as, ∃ b, f a = .ok b) ∧ ∃ bs, as.mapM f = .ok bs) ∨
      ∃ a ∈ as, ∃ e, f a = .error e ∧ as.mapM f = .error e
  | [] => .inl ⟨List.forall_mem_nil _, [], rfl⟩
  | a :: as => by
    rw [List.mapM_cons]
    cases hf : f a with
    | error e => exact .inr ⟨a, List.mem_cons_self, e, hf, rfl⟩
    | ok b =>
      rcases mapM_cases as with ⟨hall, bs, hbs⟩ | ⟨a', ha', e, he, hfail⟩
      · refine .inl ⟨List.forall_mem_cons.2 ⟨⟨b, hf⟩, hall⟩, b :: bs, ?_⟩
        rw [ok_bind, hbs, ok_bind]
        rfl
      · refine .inr ⟨a', List.mem_cons_of_mem _ ha', e, he, ?_⟩
        rw [ok_bind, hfail]
        rfl

end TenantSearch
