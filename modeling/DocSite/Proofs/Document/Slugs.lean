import DocSite.Document.Outline
import DocSite.Proofs.Text.LetterCase

/-!
# Slugs

A slug has one hyphen for each run of blank characters of the lower-cased text. It is its own slug,
and it does not tell which blank characters a run is made of, or how many.
-/

namespace DocSite

open Text

/-! ## Runs of blank characters -/

/-- A text is another one with one hyphen in the place of each longest run of blank characters. -/
inductive Hyphenated : Text → Text → Prop
  /-- There are no blank characters. -/
  | word {word : Text} (solid : ∀ c ∈ word, ¬isBlank c) : Hyphenated word word
  /-- The first run of blank characters, and what is behind it. -/
  | run {word run rest hyphenated : Text} (solid : ∀ c ∈ word, ¬isBlank c)
      (isRun : IsBlankRun run) (longest : ∀ c ∈ rest.head?, ¬isBlank c)
      (behind : Hyphenated rest hyphenated) :
      Hyphenated (word ++ run ++ rest) (word ++ '-' :: hyphenated)

theorem isBlank_of_mem_hyphenate {inBlank : Bool} {text : Text} {c : Char}
    (member : c ∈ hyphenate inBlank text) : Text.isBlank c = false := by
  induction text generalizing inBlank with
  | nil => nomatch member
  | cons first rest induction =>
      rw [hyphenate] at member
      split at member
      · split at member
        · exact induction member
        · rcases List.mem_cons.mp member with rfl | member
          · rfl
          · exact induction member
      · next visible =>
          rcases List.mem_cons.mp member with rfl | member
          · exact Bool.eq_false_iff.mpr visible
          · exact induction member

theorem hyphenate_word_append {word : Text} (solid : ∀ c ∈ word, ¬isBlank c) (rest : Text) :
    hyphenate false (word ++ rest) = word ++ hyphenate false rest := by
  induction word with
  | nil => rfl
  | cons c word induction =>
      rw [List.forall_mem_cons] at solid
      rw [List.cons_append, hyphenate, if_neg solid.1, induction solid.2, List.cons_append]

theorem hyphenate_word {word : Text} (solid : ∀ c ∈ word, ¬isBlank c) :
    hyphenate false word = word := by
  have whole := hyphenate_word_append solid []
  rwa [List.append_nil, hyphenate, List.append_nil] at whole

theorem hyphenate_in_run {run : Text} (blank : ∀ c ∈ run, isBlank c) (rest : Text) :
    hyphenate true (run ++ rest) = hyphenate true rest := by
  induction run with
  | nil => rfl
  | cons c run induction =>
      rw [List.forall_mem_cons] at blank
      rw [List.cons_append, hyphenate, if_pos blank.1, if_pos rfl, induction blank.2]

theorem hyphenate_run_append {run : Text} (isRun : IsBlankRun run) (inBlank : Bool)
    (rest : Text) :
    hyphenate inBlank (run ++ rest) = (if inBlank then [] else ['-']) ++ hyphenate true rest := by
  obtain ⟨any, blank⟩ := isRun
  obtain ⟨c, more, rfl⟩ := List.exists_cons_of_ne_nil any
  rw [List.forall_mem_cons] at blank
  rw [List.cons_append, hyphenate, if_pos blank.1, hyphenate_in_run blank.2]
  cases inBlank <;> rfl

/-- Where no run goes on, it does not matter whether there was one before. -/
theorem hyphenate_behind_run {rest : Text} (longest : ∀ c ∈ rest.head?, ¬isBlank c) :
    hyphenate true rest = hyphenate false rest := by
  cases rest with
  | nil => rfl
  | cons c rest =>
      have solid := longest c rfl
      rw [hyphenate, hyphenate, if_neg solid, if_neg solid]

theorem hyphenate_of_hyphenated {text result : Text} (hyphenated : Hyphenated text result) :
    hyphenate false text = result := by
  induction hyphenated with
  | word solid => exact hyphenate_word solid
  | run solid isRun longest behind induction =>
      rw [List.append_assoc, hyphenate_word_append solid, hyphenate_run_append isRun,
        hyphenate_behind_run longest, induction]
      rfl

theorem Hyphenated.cons_solid {c : Char} {rest hyphenated : Text} (solid : ¬isBlank c)
    (behind : Hyphenated rest hyphenated) : Hyphenated (c :: rest) (c :: hyphenated) := by
  cases behind with
  | word others => exact .word (List.forall_mem_cons.mpr ⟨solid, others⟩)
  | run others isRun longest behind =>
      exact .run (List.forall_mem_cons.mpr ⟨solid, others⟩) isRun longest behind

theorem Hyphenated.cons_run {c : Char} {rest hyphenated : Text} (blank : isBlank c)
    (longest : ∀ d ∈ rest.head?, ¬isBlank d) (behind : Hyphenated rest hyphenated) :
    Hyphenated (c :: rest) ('-' :: hyphenated) :=
  .run (List.forall_mem_nil _) ⟨List.cons_ne_nil c [], List.forall_mem_singleton.mpr blank⟩ longest
    behind

/-- A run that begins earlier is still one run. -/
theorem Hyphenated.cons_blank {c d : Char} {rest hyphenated : Text} (blank : isBlank c)
    (more : isBlank d) (behind : Hyphenated (d :: rest) hyphenated) :
    Hyphenated (c :: d :: rest) hyphenated := by
  generalize whole : d :: rest = text at behind
  cases behind with
  | word solid =>
      rw [← whole, List.forall_mem_cons] at solid
      exact (solid.1 more).elim
  | @run word run _ _ solid isRun longest behind =>
      cases word with
      | nil =>
          have longer : IsBlankRun (c :: run) :=
            ⟨List.cons_ne_nil c run, List.forall_mem_cons.mpr ⟨blank, isRun.blank⟩⟩
          exact .run solid longer longest behind
      | cons first word =>
          cases whole
          exact (solid d List.mem_cons_self more).elim

theorem hyphenated_hyphenate (text : Text) : Hyphenated text (hyphenate false text) := by
  induction text with
  | nil => exact .word (List.forall_mem_nil _)
  | cons c rest induction =>
      by_cases blank : isBlank c
      · rw [hyphenate, if_pos blank, if_neg Bool.false_ne_true]
        cases rest with
        | nil => exact .cons_run blank nofun induction
        | cons d rest =>
            by_cases more : isBlank d
            · rw [hyphenate, if_pos more, if_neg Bool.false_ne_true] at induction
              rw [hyphenate, if_pos more, if_pos rfl]
              exact induction.cons_blank blank more
            · have longest : ∀ e ∈ (d :: rest).head?, ¬isBlank e := by
                rintro e ⟨⟩
                exact more
              rw [hyphenate_behind_run longest]
              exact .cons_run blank longest induction
      · rw [hyphenate, if_neg blank]
        exact induction.cons_solid blank

theorem hyphenated_iff {text result : Text} :
    Hyphenated text result ↔ result = hyphenate false text := by
  constructor
  · exact fun hyphenated => (hyphenate_of_hyphenated hyphenated).symm
  · rintro rfl
    exact hyphenated_hyphenate text

/-- Which blank characters a run is made of, and how many, makes no difference. -/
theorem hyphenate_replace_run {run other : Text} (isRun : IsBlankRun run)
    (otherIsRun : IsBlankRun other) (inBlank : Bool) (left right : Text) :
    hyphenate inBlank (left ++ other ++ right) = hyphenate inBlank (left ++ run ++ right) := by
  induction left generalizing inBlank with
  | nil =>
      rw [List.nil_append, List.nil_append, hyphenate_run_append isRun,
        hyphenate_run_append otherIsRun]
  | cons c left induction =>
      simp only [List.cons_append, hyphenate, induction]

theorem mem_of_mem_hyphenate {inBlank : Bool} {text : Text} {c : Char}
    (member : c ∈ hyphenate inBlank text) : c = '-' ∨ c ∈ text := by
  induction text generalizing inBlank with
  | nil => nomatch member
  | cons first rest induction =>
      rw [hyphenate] at member
      split at member
      · split at member
        · exact (induction member).imp_right (List.mem_cons_of_mem first)
        · rcases List.mem_cons.mp member with same | member
          · exact .inl same
          · exact (induction member).imp_right (List.mem_cons_of_mem first)
      · rcases List.mem_cons.mp member with same | member
        · exact .inr (List.mem_cons.mpr (.inl same))
        · exact (induction member).imp_right (List.mem_cons_of_mem first)

/-! ## Slugs -/

theorem isSmall_of_mem_slugify {text : Text} {c : Char} (member : c ∈ slugify text) :
    IsSmall c := by
  rcases mem_of_mem_hyphenate member with rfl | member
  · decide +kernel
  · exact isSmall_of_mem_lower member

theorem slugify_slugify (text : Text) : slugify (slugify text) = slugify text := by
  have solid : ∀ c ∈ slugify text, ¬isBlank c := fun c member =>
    Bool.eq_false_iff.mp (isBlank_of_mem_hyphenate member)
  rw [slugify, lower_of_isSmall fun c => isSmall_of_mem_slugify, hyphenate_word solid]

theorem slugify_replace_run {run other : Text} (isRun : IsBlankRun run)
    (otherIsRun : IsBlankRun other) (left right : Text) :
    slugify (left ++ other ++ right) = slugify (left ++ run ++ right) := by
  rw [slugify, slugify, lower_append_run isRun, lower_append_run otherIsRun,
    hyphenate_replace_run isRun otherIsRun]

/-- The slug of a text is its lower-case form with one hyphen for each longest run of blank
characters, and so it has none of them. It is its own slug. Any run of blank characters in the text
may be replaced with any other: the slug is still the same. -/
theorem slugs_are_stable (text : Text) :
    (∀ result, Hyphenated (lower text) result ↔ result = slugify text) ∧
    (∀ c ∈ slugify text, ¬isBlank c) ∧
    slugify (slugify text) = slugify text ∧
    ∀ left run right other, text = left ++ run ++ right → IsBlankRun run → IsBlankRun other →
      slugify (left ++ other ++ right) = slugify text := by
  refine ⟨fun result => hyphenated_iff, fun c member => ?_, slugify_slugify text, ?_⟩
  · exact Bool.eq_false_iff.mp (isBlank_of_mem_hyphenate member)
  · rintro left run right other rfl isRun otherIsRun
    exact slugify_replace_run isRun otherIsRun left right

/-- A heading that goes over two lines, the first of which ends with a capital sigma. -/
theorem slugs_are_stable_final_sigma :
    let text : Text := "ΟΔΟΣ\n\u2003Σ Guide"
    slugify text = "οδος-σ-guide" ∧ Hyphenated (lower text) (slugify text) ∧
      slugify (slugify text) = slugify text ∧ slugify "ΟΔΟΣ Σ Guide" = slugify text := by
  intro text
  have isRun : IsBlankRun ['\n', '\u2003'] :=
    ⟨by decide, List.forall_mem_cons.mpr ⟨by decide, List.forall_mem_singleton.mpr (by decide)⟩⟩
  have otherIsRun : IsBlankRun [' '] := ⟨by decide, List.forall_mem_singleton.mpr (by decide)⟩
  have parts : text = "ΟΔΟΣ".toList ++ ['\n', '\u2003'] ++ "Σ Guide".toList := by decide +kernel
  have joined : "ΟΔΟΣ Σ Guide".toList = "ΟΔΟΣ".toList ++ [' '] ++ "Σ Guide".toList := by
    decide +kernel
  obtain ⟨hyphenated, -, again, replaced⟩ := slugs_are_stable text
  have kept := replaced _ _ _ _ parts isRun otherIsRun
  rw [← joined] at kept
  exact ⟨by decide +kernel, (hyphenated _).mpr rfl, again, kept⟩

-- A modifier letter is looked past, so the sigma behind it is at the end of a word.
example : slugify "A𞀰Σ" = "a𞀰ς".toList := by decide +kernel

end DocSite
