import ExprLang.Typing

set_option autoImplicit false

/-!
Where variables are found. A variable is kept under the name it is found under, whatever the letter
case of the name that was looked for.
-/

namespace ExprLang

namespace Store

/-- The first entry that is accepted is the first one under its name. -/
theorem get?_of_find? {s : Store} {p : String → Bool} {key : String} {v : Variable}
    (h : s.find? (fun entry => p entry.1) = some (key, v)) : s.get? key = some v := by
  induction s with
  | nil => cases h
  | cons entry s ih =>
    simp only [List.find?_cons] at h
    by_cases accepted : p entry.1 = true
    · simp only [accepted, Option.some.injEq] at h
      subst h
      simp [get?, named?]
    · simp only [accepted] at h
      have other : entry.1 ≠ key := by
        rintro rfl
        exact accepted (by simpa using List.find?_some h)
      simpa [get?, named?, other] using ih h

end Store

theorem Frame.get?_of_named? {f : Frame} {m : Memory} {name key : String} {v : Variable}
    (h : f.named? m name = some (key, v)) : (m.store f.store).get? key = some v := by
  simp only [named?, Option.or_eq_some_iff] at h
  rcases h with exact | ⟨-, other⟩
  · exact Store.get?_of_find? (p := fun other => other = name) (by simpa [Store.named?] using exact)
  · split at other
    · exact Store.get?_of_find? (p := fun key => namesEqual true key name) other
    · cases other

namespace Context

variable {c : Context} {m : Memory} {name : String} {slot : Slot}

/-- A variable is found in a frame of the chain. -/
theorem named?_of_slot? (h : c.slot? m name = some slot) :
    ∃ f ∈ c.frames, f.store = slot.store ∧ f.named? m name = some (slot.key, slot.content) := by
  obtain ⟨before, f, after, frames, found, -⟩ := List.findSome?_eq_some_iff.1 h
  obtain ⟨⟨key, v⟩, named, rfl⟩ := Option.map_eq_some_iff.1 found
  exact ⟨f, frames ▸ by simp, rfl, named⟩

theorem get?_of_slot? (h : c.slot? m name = some slot) :
    (m.store slot.store).get? slot.key = some slot.content := by
  obtain ⟨f, -, store, named⟩ := named?_of_slot? h
  rw [← store]
  exact Frame.get?_of_named? named

/-- A name that is no parameter stands for the variable that is found under it. -/
theorem slot?_of_name? (h : c.name? m name = some (.kept slot)) : c.slot? m name = some slot := by
  simp only [name?] at h
  split at h
  · obtain ⟨p, -, same⟩ := Option.map_eq_some_iff.1 h
    cases same
  · obtain ⟨found, eq, same⟩ := Option.map_eq_some_iff.1 h
    cases same
    exact eq

end Context

end ExprLang
