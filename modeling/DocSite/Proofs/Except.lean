/-!
# Computations that may fail

What is known of the parts of a computation that has come to a result.
-/

namespace DocSite.Except

variable {ε δ α β : Type}

@[simp] theorem ok_bind (value : α) (next : α → Except ε β) :
    (Except.ok value >>= next) = next value :=
  rfl

@[simp] theorem error_bind (error : ε) (next : α → Except ε β) :
    (Except.error error >>= next) = .error error :=
  rfl

@[simp] theorem pure_eq_ok (value : α) : (pure value : Except ε α) = .ok value :=
  rfl

/-- What never holds of an error holds of a computation by way of the result of its first part. -/
theorem holds_bind_iff (holds : Except ε β → Prop) (fails : ∀ error, ¬holds (.error error))
    {first : Except ε α} {next : α → Except ε β} :
    holds (first >>= next) ↔ ∃ value, first = .ok value ∧ holds (next value) := by
  cases first with
  | ok value =>
      constructor
      · exact fun known => ⟨value, rfl, known⟩
      · rintro ⟨_, same, known⟩
        exact Except.ok.inj same ▸ known
  | error error => exact iff_of_false (fails error) nofun

/-- Each part of a computation that has a result has a result itself. -/
theorem bind_eq_ok_iff {first : Except ε α} {next : α → Except ε β} {result : β} :
    (first >>= next) = .ok result ↔ ∃ value, first = .ok value ∧ next value = .ok result :=
  holds_bind_iff (· = .ok result) fun _ => nofun

theorem mapError_eq_ok_iff {first : Except ε α} {rename : ε → δ} {result : α} :
    first.mapError rename = .ok result ↔ first = .ok result := by
  cases first with
  | ok value =>
      exact ⟨fun same => congrArg Except.ok (Except.ok.inj same),
        fun same => congrArg Except.ok (Except.ok.inj same)⟩
  | error error => exact ⟨nofun, nofun⟩

theorem exists_mapError_eq_error {first : Except ε α} {rename : ε → δ}
    (fails : ∀ result, first ≠ .ok result) :
    ∃ error, first.mapError rename = .error (rename error) := by
  cases first with
  | ok value => exact (fails value rfl).elim
  | error error => exact ⟨error, rfl⟩

/-- Two computations that go on in the same way come to the same if and only if they fail in the
same way, or only as what they go on with does. -/
theorem bind_const_eq_iff {first other : Except ε α} {result : Except ε β} :
    (first >>= fun _ => result) = (other >>= fun _ => result) ↔
      (∀ error, first = .error error ↔ other = .error error) ∨
      (∀ error, first = .error error → result = .error error) ∧
      (∀ error, other = .error error → result = .error error) := by
  cases first with
  | error error =>
      cases other with
      | error another =>
          constructor
          · intro same
            cases same
            exact .inl fun _ => Iff.rfl
          · rintro (alike | ⟨left, right⟩)
            · cases (alike error).mp rfl
              rfl
            · cases (left error rfl).symm.trans (right another rfl)
              rfl
      | ok value =>
          constructor
          · intro same
            refine .inr ⟨fun own isError => ?_, nofun⟩
            cases isError
            exact same.symm
          · rintro (alike | ⟨left, -⟩)
            · nomatch (alike error).mp rfl
            · exact (left error rfl).symm
  | ok value =>
      cases other with
      | error another =>
          constructor
          · intro same
            refine .inr ⟨nofun, fun own isError => ?_⟩
            cases isError
            exact same
          · rintro (alike | ⟨-, right⟩)
            · nomatch (alike another).mpr rfl
            · exact right another rfl
      | ok another => exact ⟨fun _ => .inl fun _ => ⟨nofun, nofun⟩, fun _ => rfl⟩

/-- What each step of a fold keeps is kept by the whole fold. -/
theorem of_foldlM_eq_ok {step : β → α → Except ε β} {kept : β → Prop}
    (step_kept : ∀ {before item after}, kept before → step before item = .ok after → kept after)
    (items : List α) {before after : β} (start : kept before)
    (folded : items.foldlM step before = .ok after) : kept after := by
  induction items generalizing before with
  | nil =>
      cases folded
      exact start
  | cons item items induction =>
      rw [List.foldlM_cons] at folded
      obtain ⟨between, first, rest⟩ := bind_eq_ok_iff.mp folded
      exact induction (step_kept start first) rest

end DocSite.Except
