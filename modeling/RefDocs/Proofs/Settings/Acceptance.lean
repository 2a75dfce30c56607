import Mathlib.Tactic.MkIffOfInductiveProp
import RefDocs.Settings.Basic

/-!
# Accepted settings

Settings are accepted exactly if the extension is bare and a root type is named.
-/

namespace RefDocs

/-- A file extension that is not empty and holds neither a point nor a slash. -/
@[mk_iff]
structure IsBareExtension (extension : String) : Prop where
  ne_empty : extension ≠ ""
  point_free : '.' ∉ extension.toList
  slash_free : '/' ∉ extension.toList

/-- A text in front of a bare extension makes the name of an entry, and neither of the two names
that every directory has. -/
theorem IsBareExtension.names_entry {extension : String} (bare : IsBareExtension extension)
    (front : String) : front ++ extension ≠ "" ∧ front ++ extension ≠ "." ∧
      front ++ extension ≠ ".." := by
  have chars_ne : extension.toList ≠ [] :=
    fun chars_eq => bare.ne_empty (String.toList_eq_nil_iff.mp chars_eq)
  have last_ne : (front ++ extension).toList.getLast? ≠ some '.' := by
    rw [String.toList_append, List.getLast?_append, List.getLast?_eq_some_getLast chars_ne,
      Option.some_or, ne_eq, Option.some_inj]
    exact fun last_eq => bare.point_free (last_eq ▸ List.getLast_mem chars_ne)
  refine ⟨?_, ?_, ?_⟩
  · rw [ne_eq, String.append_eq_empty_iff]
    exact fun both_empty => bare.ne_empty both_empty.2
  · intro is_point
    exact last_ne (by rw [is_point]; rfl)
  · intro is_up
    exact last_ne (by rw [is_up]; rfl)

theorem any_point_or_slash_iff {extension : String} :
    (extension.toList.any fun char => char == '.' || char == '/') = true ↔
      '.' ∈ extension.toList ∨ '/' ∈ extension.toList := by
  simp only [List.any_eq_true, Bool.or_eq_true, beq_iff_eq]
  constructor
  · rintro ⟨char, char_mem, rfl | rfl⟩
    · exact Or.inl char_mem
    · exact Or.inr char_mem
  · rintro (point_mem | slash_mem)
    · exact ⟨'.', point_mem, Or.inl rfl⟩
    · exact ⟨'/', slash_mem, Or.inr rfl⟩

/-- The default extension is bare. -/
theorem isBareExtension_getD_iff {extension? : Option String} :
    IsBareExtension (extension?.getD "md") ↔
      ∀ extension ∈ extension?, IsBareExtension extension := by
  cases extension? with
  | none => exact ⟨fun _ => nofun, fun _ => ⟨by decide, by decide, by decide⟩⟩
  | some extension =>
      rw [Option.getD_some]
      exact ⟨fun bare _ same => Option.some_inj.mp same ▸ bare, fun bare => bare extension rfl⟩

namespace Settings

theorem fault?_eq_none_iff (settings : Settings) :
    settings.fault? = none ↔ IsBareExtension settings.extension ∧ settings.rootType ≠ "" := by
  rw [fault?, isBareExtension_iff]
  by_cases extension_empty : settings.extension = ""
  · simp [extension_empty]
  · rw [if_neg (by simpa using extension_empty)]
    by_cases marked : '.' ∈ settings.extension.toList ∨ '/' ∈ settings.extension.toList
    · rw [if_pos (any_point_or_slash_iff.mpr marked)]
      rcases marked with point_mem | slash_mem
      · simp [point_mem]
      · simp [slash_mem]
    · rw [if_neg (by rwa [any_point_or_slash_iff])]
      rw [not_or] at marked
      by_cases root_empty : settings.rootType = ""
      · simp [root_empty]
      · simp [root_empty, extension_empty, marked]

end Settings
end RefDocs
